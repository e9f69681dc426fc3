import Fm10k.Intfc

/-!
# The MAC/VLAN Request Queue

Changes to the switch's MAC and VLAN tables do not go to the switch manager directly: each is
a `struct fm10k_macvlan_request`, `kzalloc`ed and appended to `interface->macvlan_requests`,
and a worker outside this file drains the queue in order. `fm10k_clear_macvlan_queue`
cancels pending requests when a logical port goes down.

The two enqueue functions share one body, `queueRequest`, and differ in the payload they
build. The cancel loop's `switch` falls through from the MAC cases into the VLAN case, so
its decision on one request is `clearsRequest`, and the whole loop is a filter
(`clearMacvlanLoop_eq`).

## Main results

* `queueRequest_of_ok`, `queueRequest_of_fail`: an enqueue appends one request at a fresh
  address, or fails with `-ENOMEM` and changes nothing but the allocator's attempt count.
* `clearMacvlanLoop_eq`: the cancel loop keeps exactly the requests `clearsRequest` rejects,
  in order, and frees the others once each, in order.
* `clearsRequest_iff`: a request is cancelled exactly when `vlans` is set and it is a VLAN
  request or a MAC request of the glort; with `vlans` clear nothing is cancelled
  (`clearMacvlanQueue_of_not_vlans`), so the MAC requests of the glort stay queued, while
  with `vlans` set the loop does what its kernel-doc says (`clearMacvlanQueue_vlans`).
-/

namespace Fm10k

open List

/-! ### Enqueue -/

/-- The common body of `fm10k_queue_vlan_request` and `fm10k_queue_mac_request`: `kzalloc`
a request and append it to the tail of the queue; `-ENOMEM` when the allocation fails. -/
def queueRequest (s : Intfc) (body : MacvlanRequestBody) (set : Bool) : Intfc × Int :=
  match s.alloc with
  | (none, s) => (s, -ENOMEM)
  | (some p, s) => ({ s with macvlanRequests := s.macvlanRequests ++ [⟨p, body, set⟩] }, 0)

/-- `fm10k_queue_vlan_request`: `vid` is a `u32` (a run length may stand above bit 16),
`vsi` a `u8`. -/
def queueVlanRequest (s : Intfc) (vid vsi : Nat) (set : Bool) : Intfc × Int :=
  queueRequest s (.vlan (vid % 2 ^ 32) (vsi % 2 ^ 8)) set

/-- The payload `fm10k_queue_mac_request` builds: a multicast or unicast request by the
address; `glort` and `vid` are `u16`. -/
def macRequestBody (glort : Nat) (addr : MacAddr) (vid : Nat) : MacvlanRequestBody :=
  if isMulticastEtherAddr addr then .mcMac addr (glort % 2 ^ 16) (vid % 2 ^ 16)
  else .ucMac addr (glort % 2 ^ 16) (vid % 2 ^ 16)

/-- `fm10k_queue_mac_request`. -/
def queueMacRequest (s : Intfc) (glort : Nat) (addr : MacAddr) (vid : Nat) (set : Bool) :
    Intfc × Int :=
  queueRequest s (macRequestBody glort addr vid) set

/-- The GLORT a MAC request is for; a VLAN request names none. -/
def MacvlanRequestBody.glort? : MacvlanRequestBody → Option Nat
  | .mcMac _ g _ | .ucMac _ g _ => some g
  | .vlan _ _ => none

@[simp] theorem macRequestBody_glort? (glort : Nat) (addr : MacAddr) (vid : Nat) :
    (macRequestBody glort addr vid).glort? = some (glort % 2 ^ 16) := by
  unfold macRequestBody; split <;> rfl

/-- With the allocation granted, an enqueue appends the request at address `next`. -/
theorem queueRequest_of_ok {s : Intfc} (h : s.mem.ok s.mem.next = true)
    (body : MacvlanRequestBody) (set : Bool) :
    queueRequest s body set =
      ({ s with mem := s.mem.alloc.2,
                macvlanRequests := s.macvlanRequests ++ [⟨s.mem.next, body, set⟩] }, 0) := by
  simp [queueRequest, Intfc.alloc, Mem.alloc, h]

/-- With the allocation refused, an enqueue only uses up the attempt. -/
theorem queueRequest_of_fail {s : Intfc} (h : s.mem.ok s.mem.next = false)
    (body : MacvlanRequestBody) (set : Bool) :
    queueRequest s body set = ({ s with mem := s.mem.alloc.2 }, -ENOMEM) := by
  simp [queueRequest, Intfc.alloc, Mem.alloc, h]

/-- The glort and VLAN of a MAC payload are those asked for, as `u16`, and its address is
the one given. -/
theorem macRequestBody_cases (glort : Nat) (addr : MacAddr) (vid : Nat) :
    macRequestBody glort addr vid = .mcMac addr (glort % 2 ^ 16) (vid % 2 ^ 16) ∨
      macRequestBody glort addr vid = .ucMac addr (glort % 2 ^ 16) (vid % 2 ^ 16) := by
  unfold macRequestBody; split <;> simp

/-! ### What a stretch of calls emits -/

/-- What the switch manager sees of a request: its payload and its set/clear flag. -/
def MacvlanRequest.view (r : MacvlanRequest) : MacvlanRequestBody × Bool :=
  (r.body, r.set)

/-- From `s` to `s'` the driver appended requests that read `L` to the queue and calls `M` to
the mailbox log, and changed nothing else but the allocator, whose outcomes stay fixed. -/
structure Emits (s s' : Intfc) (L : List (MacvlanRequestBody × Bool)) (M : List MbxCall) :
    Prop where
  requests : ∃ Δ, s'.macvlanRequests = s.macvlanRequests ++ Δ ∧ Δ.map MacvlanRequest.view = L
  mbx : s'.mbx = s.mbx ++ M
  ok : s'.mem.ok = s.mem.ok
  frame : s' = { s with mem := s'.mem, macvlanRequests := s'.macvlanRequests, mbx := s'.mbx }

/-- Every allocation attempt from here on succeeds. -/
def AllocOk (s : Intfc) : Prop :=
  ∀ n, s.mem.ok n = true

namespace Emits

variable {s₁ s₂ s₃ : Intfc} {L₁ L₂ : List (MacvlanRequestBody × Bool)} {M₁ M₂ : List MbxCall}

/-- A stretch of no calls emits nothing. -/
theorem refl (s : Intfc) : Emits s s [] [] :=
  ⟨⟨[], by simp, rfl⟩, by simp, rfl, rfl⟩

/-- Two stretches in sequence emit what each emits, in order. -/
theorem trans (h₁ : Emits s₁ s₂ L₁ M₁) (h₂ : Emits s₂ s₃ L₂ M₂) :
    Emits s₁ s₃ (L₁ ++ L₂) (M₁ ++ M₂) := by
  obtain ⟨Δ₁, hr₁, hv₁⟩ := h₁.requests
  obtain ⟨Δ₂, hr₂, hv₂⟩ := h₂.requests
  refine ⟨⟨Δ₁ ++ Δ₂, by rw [hr₂, hr₁, append_assoc], by rw [map_append, hv₁, hv₂]⟩,
    by rw [h₂.mbx, h₁.mbx, append_assoc], h₂.ok.trans h₁.ok, ?_⟩
  rw [h₂.frame]
  conv_lhs => rw [h₁.frame]

/-- A stretch keeps an allocator whose every attempt succeeds. -/
theorem allocOk (h : Emits s₁ s₂ L₁ M₁) (hok : AllocOk s₁) : AllocOk s₂ :=
  fun n => h.ok ▸ hok n

/-- A field the queue, the allocator and the mailbox log do not hold keeps its value. -/
theorem congr {α : Sort _} (h : Emits s₁ s₂ L₁ M₁) (f : Intfc → α)
    (hf : ∀ m rs mb, f { s₁ with mem := m, macvlanRequests := rs, mbx := mb } = f s₁) :
    f s₂ = f s₁ := by
  rw [h.frame]; exact hf _ _ _

/-- A change of the fields the queue, the allocator and the mailbox log do not hold, made on
both ends, keeps what a stretch emits. -/
theorem map (h : Emits s₁ s₂ L₁ M₁) (g : Intfc → Intfc) (hmem : ∀ x, (g x).mem = x.mem)
    (hreq : ∀ x, (g x).macvlanRequests = x.macvlanRequests) (hmbx : ∀ x, (g x).mbx = x.mbx)
    (hg : ∀ x m rs mb, g { x with mem := m, macvlanRequests := rs, mbx := mb } =
      { g x with mem := m, macvlanRequests := rs, mbx := mb }) :
    Emits (g s₁) (g s₂) L₁ M₁ := by
  refine ⟨by rw [hreq, hreq]; exact h.requests, by rw [hmbx, hmbx]; exact h.mbx,
    by rw [hmem, hmem]; exact h.ok, ?_⟩
  rw [hmem, hreq, hmbx]
  conv_lhs => rw [h.frame]
  exact hg _ _ _ _

/-- A stretch keeps the active VLANs. -/
theorem activeVlans (h : Emits s₁ s₂ L₁ M₁) : s₂.activeVlans = s₁.activeVlans :=
  h.congr Intfc.activeVlans fun _ _ _ => rfl

/-- A stretch keeps the default VLAN. -/
theorem defaultVid (h : Emits s₁ s₂ L₁ M₁) : s₂.defaultVid = s₁.defaultVid :=
  h.congr Intfc.defaultVid fun _ _ _ => rfl

/-- A stretch keeps the PF's GLORT. -/
theorem glort (h : Emits s₁ s₂ L₁ M₁) : s₂.glort = s₁.glort :=
  h.congr Intfc.glort fun _ _ _ => rfl

/-- A stretch keeps the interface's MAC address. -/
theorem macAddr (h : Emits s₁ s₂ L₁ M₁) : s₂.macAddr = s₁.macAddr :=
  h.congr Intfc.macAddr fun _ _ _ => rfl

/-- A stretch keeps the secondary devices' addresses. -/
theorem sdevAddr (h : Emits s₁ s₂ L₁ M₁) : s₂.sdevAddr = s₁.sdevAddr :=
  h.congr Intfc.sdevAddr fun _ _ _ => rfl

/-- What a stretch queued is determined by its two ends. -/
theorem requests_eq (h : Emits s₁ s₂ L₁ M₁) (h' : Emits s₁ s₂ L₂ M₂) : L₁ = L₂ := by
  obtain ⟨Δ, e, hv⟩ := h.requests
  obtain ⟨Δ', e', hv'⟩ := h'.requests
  rw [e] at e'
  rw [← hv, ← hv', append_cancel_left e']

end Emits

/-- A mailbox call emits itself and queues nothing. -/
theorem callMbx_emits (s : Intfc) (c : MbxCall) : Emits s (s.callMbx c) [] [c] :=
  ⟨⟨[], by simp, rfl⟩, rfl, rfl, rfl⟩

/-- **An enqueue** emits its request and returns `0` when the allocation is granted, and
emits nothing and returns `-ENOMEM` otherwise. -/
theorem queueRequest_spec (s : Intfc) (body : MacvlanRequestBody) (set : Bool) :
    Emits s (queueRequest s body set).1 (if s.mem.ok s.mem.next then [(body, set)] else []) [] ∧
      (queueRequest s body set).2 = if s.mem.ok s.mem.next then 0 else -ENOMEM := by
  cases h : s.mem.ok s.mem.next
  · rw [queueRequest_of_fail h]
    exact ⟨⟨⟨[], by simp, rfl⟩, by simp, by simp, rfl⟩, rfl⟩
  · rw [queueRequest_of_ok h]
    exact ⟨⟨⟨[_], rfl, rfl⟩, by simp, by simp, rfl⟩, rfl⟩

/-- Every enqueue uses up one allocation attempt. -/
@[simp] theorem queueRequest_next (s : Intfc) (body : MacvlanRequestBody) (set : Bool) :
    (queueRequest s body set).1.mem.next = s.mem.next + 1 := by
  cases h : s.mem.ok s.mem.next
  · rw [queueRequest_of_fail h]; simp
  · rw [queueRequest_of_ok h]; simp

/-- With every allocation granted, an enqueue emits its request and returns `0`. -/
theorem queueRequest_emits {s : Intfc} (h : AllocOk s) (body : MacvlanRequestBody)
    (set : Bool) :
    Emits s (queueRequest s body set).1 [(body, set)] [] ∧ (queueRequest s body set).2 = 0 := by
  simpa [h s.mem.next] using queueRequest_spec s body set

/-- From `s` to `s'` the driver queued only requests satisfying `P` and called the mailbox
only as `Q` allows, whatever the allocations gave. -/
def EmitsOnly (P : MacvlanRequestBody × Bool → Prop) (Q : MbxCall → Prop) (s s' : Intfc) :
    Prop :=
  ∃ L M, Emits s s' L M ∧ (∀ b ∈ L, P b) ∧ ∀ c ∈ M, Q c

namespace EmitsOnly

variable {P P' : MacvlanRequestBody × Bool → Prop} {Q Q' : MbxCall → Prop} {s₁ s₂ s₃ : Intfc}

/-- A stretch of no calls emits only what is allowed. -/
theorem refl (s : Intfc) : EmitsOnly P Q s s :=
  ⟨[], [], Emits.refl s, fun _ h => absurd h (not_mem_nil _), fun _ h => absurd h (not_mem_nil _)⟩

/-- Two stretches that each emit only what is allowed do so together. -/
theorem trans (h₁ : EmitsOnly P Q s₁ s₂) (h₂ : EmitsOnly P Q s₂ s₃) : EmitsOnly P Q s₁ s₃ :=
  let ⟨L₁, M₁, e₁, hL₁, hM₁⟩ := h₁
  let ⟨L₂, M₂, e₂, hL₂, hM₂⟩ := h₂
  ⟨L₁ ++ L₂, M₁ ++ M₂, e₁.trans e₂, fun b hb => (mem_append.1 hb).elim (hL₁ b) (hL₂ b),
    fun c hc => (mem_append.1 hc).elim (hM₁ c) (hM₂ c)⟩

/-- What is allowed may be widened. -/
theorem mono (h : EmitsOnly P Q s₁ s₂) (hP : ∀ b, P b → P' b) (hQ : ∀ c, Q c → Q' c) :
    EmitsOnly P' Q' s₁ s₂ :=
  let ⟨L, M, e, hL, hM⟩ := h
  ⟨L, M, e, fun b hb => hP b (hL b hb), fun c hc => hQ c (hM c hc)⟩

/-- A field the queue, the allocator and the mailbox log do not hold keeps its value. -/
theorem congr {α : Sort _} (h : EmitsOnly P Q s₁ s₂) (f : Intfc → α)
    (hf : ∀ m rs mb, f { s₁ with mem := m, macvlanRequests := rs, mbx := mb } = f s₁) :
    f s₂ = f s₁ :=
  let ⟨_, _, e, _⟩ := h
  e.congr f hf

/-- A stretch that calls no mailbox operation emits a list of requests, all satisfying `P`. -/
theorem noCalls (h : EmitsOnly P (fun _ => False) s₁ s₂) :
    ∃ L, Emits s₁ s₂ L [] ∧ ∀ b ∈ L, P b :=
  let ⟨L, _, e, hL, hM⟩ := h
  ⟨L, eq_nil_iff_forall_not_mem.2 (fun c hc => hM c hc) ▸ e, hL⟩

end EmitsOnly

/-- An enqueue of an allowed request emits only what is allowed, whether or not its allocation is
granted. -/
theorem queueRequest_only {P : MacvlanRequestBody × Bool → Prop} {Q : MbxCall → Prop}
    (s : Intfc) (body : MacvlanRequestBody) (set : Bool) (h : P (body, set)) :
    EmitsOnly P Q s (queueRequest s body set).1 :=
  ⟨_, [], (queueRequest_spec s body set).1, fun b hb => by
    split at hb
    · rw [mem_singleton.1 hb]; exact h
    · exact absurd hb (not_mem_nil _), fun _ h => absurd h (not_mem_nil _)⟩

/-- An allowed mailbox call emits only what is allowed. -/
theorem callMbx_only {P : MacvlanRequestBody × Bool → Prop} {Q : MbxCall → Prop}
    (s : Intfc) (c : MbxCall) (h : Q c) : EmitsOnly P Q s (s.callMbx c) :=
  ⟨[], [c], callMbx_emits s c, fun _ h => absurd h (not_mem_nil _), fun _ hc => by
    rw [mem_singleton.1 hc]; exact h⟩

/-! ### Cancel -/

/-- Whether the loop of `fm10k_clear_macvlan_queue` unlinks and frees a request. A MAC
request for another glort breaks out of the `switch`; one for `glort` falls through into the
VLAN case, which frees the request only when `vlans` is set. -/
def clearsRequest (glort : Nat) (vlans : Bool) (r : MacvlanRequest) : Bool :=
  match r.body with
  | .mcMac _ g _ | .ucMac _ g _ => if g ≠ glort then false else vlans
  | .vlan _ _ => vlans

/-- The `list_for_each_entry_safe` loop of `fm10k_clear_macvlan_queue`. -/
def clearMacvlanLoop (glort : Nat) (vlans : Bool) :
    Mem → List MacvlanRequest → Mem × List MacvlanRequest
  | m, [] => (m, [])
  | m, r :: rs =>
    if clearsRequest glort vlans r then clearMacvlanLoop glort vlans (m.release (.kfree r.ptr)) rs
    else
      let (m, rs) := clearMacvlanLoop glort vlans m rs
      (m, r :: rs)

/-- `fm10k_clear_macvlan_queue`; `glort` is a `u16`. -/
def clearMacvlanQueue (s : Intfc) (glort : Nat) (vlans : Bool) : Intfc :=
  let (m, rs) := clearMacvlanLoop (glort % 2 ^ 16) vlans s.mem s.macvlanRequests
  { s with mem := m, macvlanRequests := rs }

/-- The releases of the cancel loop: one `kfree` per cancelled request, in queue order. -/
def cancelled (glort : Nat) (vlans : Bool) (rs : List MacvlanRequest) : List Release :=
  (rs.filter (clearsRequest glort vlans)).map fun r => .kfree r.ptr

/-- **The cancel loop is a filter**: it keeps the requests it does not clear, in order, and
frees the others once each, in order. -/
theorem clearMacvlanLoop_eq (glort : Nat) (vlans : Bool) :
    ∀ (m : Mem) (rs : List MacvlanRequest),
      clearMacvlanLoop glort vlans m rs =
        (m.releaseAll (cancelled glort vlans rs), rs.filter fun r => !clearsRequest glort vlans r)
  | m, [] => by simp [clearMacvlanLoop, cancelled, Mem.releaseAll_nil]
  | m, r :: rs => by
    by_cases h : clearsRequest glort vlans r
    · rw [clearMacvlanLoop, if_pos h, clearMacvlanLoop_eq]
      simp [cancelled, h, Mem.release_eq_releaseAll, Mem.releaseAll_append]
    · simp [clearMacvlanLoop, cancelled, h, clearMacvlanLoop_eq _ _ m rs]

/-- What the fall-through amounts to: a request is cancelled exactly when `vlans` is set and
the request is a VLAN request or a MAC request of the glort. -/
theorem clearsRequest_iff (glort : Nat) (vlans : Bool) (r : MacvlanRequest) :
    clearsRequest glort vlans r = true ↔
      vlans = true ∧ ((∃ vid vsi, r.body = .vlan vid vsi) ∨
        ∃ a vid, r.body = .mcMac a glort vid ∨ r.body = .ucMac a glort vid) := by
  rcases r with ⟨p, ⟨a, g, v⟩ | ⟨a, g, v⟩ | ⟨v, w⟩, set⟩
  · by_cases hg : g = glort <;> simp [clearsRequest, hg]
  · by_cases hg : g = glort <;> simp [clearsRequest, hg]
  · simp [clearsRequest]

/-- With `vlans` clear the cancel loop frees nothing and keeps every request, the MAC
requests of the glort included. -/
theorem clearMacvlanQueue_of_not_vlans (s : Intfc) (glort : Nat) :
    clearMacvlanQueue s glort false = s := by
  have h : ∀ g, clearsRequest g false = fun _ => false := fun g => funext fun r => by
    cases hr : clearsRequest g false r
    · rfl
    · exact absurd ((clearsRequest_iff _ _ r).1 hr).1 (by decide)
  simp [clearMacvlanQueue, clearMacvlanLoop_eq, cancelled, h, Mem.releaseAll_nil]

/-- The cancel decision the kernel-doc of `fm10k_clear_macvlan_queue` describes: every MAC
request of the glort, and the VLAN requests when `vlans` is set. -/
def cancelsDocumented (glort : Nat) (vlans : Bool) (r : MacvlanRequest) : Bool :=
  match r.body with
  | .mcMac _ g _ | .ucMac _ g _ => g == glort
  | .vlan _ _ => vlans

/-- With `vlans` set, the loop cancels exactly what the kernel-doc describes. -/
theorem clearsRequest_true (glort : Nat) : clearsRequest glort true = cancelsDocumented glort true :=
  funext fun ⟨_, body, _⟩ => by
    cases body <;> simp [clearsRequest, cancelsDocumented, Bool.beq_eq_decide_eq, eq_comm]

/-- With `vlans` set, as `fm10k_reset_rx_state` calls it, the cancel loop does what its
kernel-doc says: it keeps, in order, the requests that are neither MAC requests of the glort
nor VLAN requests, and frees the others once each, in order. -/
theorem clearMacvlanQueue_vlans (s : Intfc) (glort : Nat) :
    clearMacvlanQueue s glort true =
      { s with
        mem := s.mem.releaseAll ((s.macvlanRequests.filter
          (cancelsDocumented (glort % 2 ^ 16) true)).map fun r => .kfree r.ptr),
        macvlanRequests := s.macvlanRequests.filter
          fun r => !cancelsDocumented (glort % 2 ^ 16) true r } := by
  simp only [clearMacvlanQueue, clearMacvlanLoop_eq, cancelled, clearsRequest_true]

/-- A queue holding one unicast request for glort `5`: cancelling glort `5` with `vlans`
clear leaves it queued. -/
theorem clearMacvlanQueue_keeps_glort_request :
    (clearMacvlanQueue { Intfc.zeroed .pf ⟨0, fun _ => true, [], []⟩ with
      macvlanRequests := [⟨0, .ucMac ⟨2, 0, 0, 0, 0, 1⟩ 5 1, true⟩] } 5 false).macvlanRequests =
      [⟨0, .ucMac ⟨2, 0, 0, 0, 0, 1⟩ 5 1, true⟩] :=
  rfl

end Fm10k
