import Fm10k.RxMode

/-!
# Restoring and Resetting the Receive Filters

When the logical port comes up, `fm10k_restore_rx_state` replays the whole filter state into
the switch: it enables the logical port, opens or clears the VLAN table and sets every member
VLAN with the base address on it, sets the multicast mode, lets the kernel pass every
secondary address again, and gives every station of the forwarding table its mode and
address back. `fm10k_reset_rx_state` takes the logical port down again.

Both are described by what they `Emits`. The VLAN table a restore leaves does not depend on
the table before it: its first request covers every VLAN id (`restoreTable`).

## Main results

* `restoreRxState_spec`: the requests and mailbox calls of a restore, in order.
* `vlanTable_restoreVlanRequests`: the VLAN table after a restore.
-/

namespace Fm10k

open List

/-! ### Restoring the filters -/

/-- The VLAN table part of `fm10k_restore_rx_state`: open the table in promiscuous or IES mode
and clear it otherwise, then set every member VLAN and the base address on it. -/
def restoreVlanTable (s : Intfc) (glort : Nat) (xcastMode : XcastMode) : Intfc :=
  let s := if xcastMode = .promisc ∨ s.ies = true then (queueVlanRequest s FM10K_VLAN_ALL 0 true).1
    else (queueVlanRequest s FM10K_VLAN_ALL 0 false).1
  (forEachVlan (fun s vid =>
    let s := (queueVlanRequest s vid 0 true).1
    ((queueMacRequest s glort s.macAddr vid true).1, 0)) s).1

/-- One pass of the macvlan loop of `fm10k_restore_rx_state`, at slot `i` of `t`: a station
gets its multicast mode (the mailbox is not checked) and the address its device has now
(`sdev->dev_addr`) on the default VLAN back, at GLORT `dglort + 1 + i`. -/
def restoreStation (t : L2Accel) (s : Intfc) (i : Nat) : Intfc :=
  match t.slot i with
  | none => s
  | some sdev =>
    let glort := t.glortOf i
    (queueMacRequest (s.callMbx (.updateXcastMode glort .multi)) glort (s.sdevAddr sdev)
      s.defaultVid true).1

/-- The macvlan loop of `fm10k_restore_rx_state` over the table `t`. -/
def restoreStations (t : L2Accel) (s : Intfc) : Intfc :=
  (range t.size).foldl (restoreStation t) s

/-- `fm10k_restore_rx_state`, with the passes of the kernel's `__dev_uc_sync` and
`__dev_mc_sync`. -/
def restoreRxState (s : Intfc) (uc mc : AddrSyncPass) : Intfc :=
  let l2Accel := s.l2Accel
  let glort := s.glort
  let xcastMode := xcastModeOf s.flags
  let s := if hostMbxReady s then s.callMbx (.updateLportState glort s.glortCount true) else s
  let s := restoreVlanTable s glort xcastMode
  let s := if hostMbxReady s then s.callMbx (.updateXcastMode glort xcastMode) else s
  let s := (hwAddrSyncDev ucSync ucUnsync s uc).1
  let s := (hwAddrSyncDev mcSync mcUnsync s mc).1
  let s := match l2Accel with
    | none => s
    | some p => restoreStations (s.table p) s
  restoreUdpPortInfo { s with xcastMode := xcastMode }

/-- `fm10k_reset_rx_state`, once the request worker is idle (the loop on
`__FM10K_MACVLAN_SCHED`): cancel the queued requests of the PF's GLORT and every VLAN request,
drop the logical port if the mailbox is ready, and forget the mode. `__dev_uc_unsync` and
`__dev_mc_unsync` are called without a callback and only reset the kernel's lists. -/
def resetRxState (s : Intfc) : Intfc :=
  let s := clearMacvlanQueue s s.glort true
  let s := if hostMbxReady s then s.callMbx (.updateLportState s.glort s.glortCount false) else s
  { s with xcastMode := .none }

/-- A reset writes the allocator, the request queue, the mailbox log and the mode only. -/
theorem resetRxState_frame (s : Intfc) : ∃ m rs mb,
    resetRxState s = { s with mem := m, macvlanRequests := rs, mbx := mb, xcastMode := .none } := by
  unfold resetRxState clearMacvlanQueue
  rw [clearMacvlanLoop_eq]
  dsimp only
  split <;> exact ⟨_, _, _, rfl⟩

/-! ### What a restore queues -/

/-- What the VLAN table part of a restore queues. -/
def restoreVlanRequests (s : Intfc) (glort : Nat) (xcastMode : XcastMode) :
    List (MacvlanRequestBody × Bool) :=
  (.vlan (FM10K_VLAN_ALL % 2 ^ 32) (0 % 2 ^ 8), decide (xcastMode = .promisc ∨ s.ies = true)) ::
    (membersAbove s 0).flatMap fun v =>
      [(.vlan (v % 2 ^ 32) (0 % 2 ^ 8), true), (macRequestBody glort s.macAddr v, true)]

/-- What one pass of the macvlan loop of a restore queues, with the devices' addresses
`sdevAddr`. -/
def stationRequest (t : L2Accel) (sdevAddr : Nat → MacAddr) (defaultVid i : Nat) :
    List (MacvlanRequestBody × Bool) :=
  match t.slot i with
  | none => []
  | some sdev => [(macRequestBody (t.glortOf i) (sdevAddr sdev) defaultVid, true)]

/-- The mailbox call of one pass of the macvlan loop of a restore. -/
def stationCall (t : L2Accel) (i : Nat) : List MbxCall :=
  match t.slot i with
  | none => []
  | some _ => [.updateXcastMode (t.glortOf i) .multi]

/-- What the macvlan loop of a restore queues, over the table `l2_accel` points at. -/
def restoreStationRequests (s : Intfc) : List (MacvlanRequestBody × Bool) :=
  match s.l2Accel with
  | none => []
  | some p => (range (s.table p).size).flatMap (stationRequest (s.table p) s.sdevAddr s.defaultVid)

/-- The mailbox calls of a restore: the logical port and its mode if the mailbox is ready, then
the mode of each station. -/
def restoreCalls (s : Intfc) : List MbxCall :=
  (if hostMbxReady s then [.updateLportState s.glort s.glortCount true,
    .updateXcastMode s.glort (xcastModeOf s.flags)] else []) ++
  match s.l2Accel with
  | none => []
  | some p => (range (s.table p).size).flatMap (stationCall (s.table p))

/-- **The VLAN part of a restore**, with every allocation granted: the default-VLAN request,
then a VLAN request and a MAC request for each member VLAN from 1 (active, or the default), in
increasing order, and no mailbox call. -/
theorem restoreVlanTable_emits {s : Intfc} (hok : AllocOk s) (hd : s.defaultVid < VLAN_N_VID)
    (glort : Nat) (xcastMode : XcastMode) :
    Emits s (restoreVlanTable s glort xcastMode) (restoreVlanRequests s glort xcastMode) [] := by
  unfold restoreVlanTable
  dsimp only
  obtain ⟨s₁, hs₁, h₁⟩ : ∃ s₁, s₁ = (if xcastMode = .promisc ∨ s.ies = true then
      (queueVlanRequest s FM10K_VLAN_ALL 0 true).1 else (queueVlanRequest s FM10K_VLAN_ALL 0 false).1) ∧
      Emits s s₁ [(.vlan (FM10K_VLAN_ALL % 2 ^ 32) (0 % 2 ^ 8),
        decide (xcastMode = .promisc ∨ s.ies = true))] [] := by
    refine ⟨_, rfl, ?_⟩
    split
    · next h => simpa [h] using (queueRequest_emits hok (.vlan (FM10K_VLAN_ALL % 2 ^ 32) (0 % 2 ^ 8)) true).1
    · next h => simpa [h] using (queueRequest_emits hok (.vlan (FM10K_VLAN_ALL % 2 ^ 32) (0 % 2 ^ 8)) false).1
  rw [← hs₁]
  have hbody : ∀ (t : Intfc) (v : Nat), t.macAddr = s.macAddr → AllocOk t →
      Emits t ((queueMacRequest (queueVlanRequest t v 0 true).1 glort
        (queueVlanRequest t v 0 true).1.macAddr v true).1)
        [(.vlan (v % 2 ^ 32) (0 % 2 ^ 8), true), (macRequestBody glort s.macAddr v, true)] [] ∧
      AllocOk (queueMacRequest (queueVlanRequest t v 0 true).1 glort
        (queueVlanRequest t v 0 true).1.macAddr v true).1 ∧
      (queueMacRequest (queueVlanRequest t v 0 true).1 glort
        (queueVlanRequest t v 0 true).1.macAddr v true).1.macAddr = s.macAddr := by
    intro t v ha hok
    have e₁ : Emits t (queueVlanRequest t v 0 true).1 [(.vlan (v % 2 ^ 32) (0 % 2 ^ 8), true)] [] :=
      (queueRequest_emits hok _ true).1
    have e₂ : Emits (queueVlanRequest t v 0 true).1 (queueMacRequest (queueVlanRequest t v 0 true).1
        glort (queueVlanRequest t v 0 true).1.macAddr v true).1
        [(macRequestBody glort (queueVlanRequest t v 0 true).1.macAddr v, true)] [] :=
      (queueRequest_emits (e₁.allocOk hok) _ true).1
    have hm : (queueVlanRequest t v 0 true).1.macAddr = s.macAddr := e₁.macAddr.trans ha
    have hL : [(MacvlanRequestBody.vlan (v % 2 ^ 32) (0 % 2 ^ 8), true)] ++
        [(macRequestBody glort (queueVlanRequest t v 0 true).1.macAddr v, true)] =
        [(.vlan (v % 2 ^ 32) (0 % 2 ^ 8), true), (macRequestBody glort s.macAddr v, true)] := by
      rw [hm]; rfl
    exact ⟨hL ▸ e₁.trans e₂, e₂.allocOk (e₁.allocOk hok), e₂.macAddr.trans hm⟩
  have hs₁ : s₁.defaultVid < VLAN_N_VID := h₁.defaultVid ▸ hd
  rw [@forEachVlan_eq (fun t vid => ((queueMacRequest (queueVlanRequest t vid 0 true).1 glort
      (queueVlanRequest t vid 0 true).1.macAddr vid true).1, 0))
    (fun t v => let e₁ := (queueRequest_spec t _ true).1; let e₂ := (queueRequest_spec _ _ true).1
      ⟨e₂.activeVlans.trans e₁.activeVlans, e₂.defaultVid.trans e₁.defaultVid⟩) s₁ hs₁]
  have h := @runVlans_emits (fun t vid => ((queueMacRequest (queueVlanRequest t vid 0 true).1 glort
      (queueVlanRequest t vid 0 true).1.macAddr vid true).1, 0))
    (fun t => t.macAddr = s.macAddr ∧ AllocOk t)
    (fun v => [(.vlan (v % 2 ^ 32) (0 % 2 ^ 8), true), (macRequestBody glort s.macAddr v, true)])
    (fun _ => []) (fun t v hp => let h := hbody t v hp.1 hp.2; ⟨h.1, rfl, h.2.2, h.2.1⟩)
    (membersAbove s₁ 0) s₁ ⟨h₁.macAddr, h₁.allocOk hok⟩
  rw [flatMap_eq_nil_iff.2 fun _ _ => rfl] at h
  have hL : restoreVlanRequests s glort xcastMode = [(.vlan (FM10K_VLAN_ALL % 2 ^ 32) (0 % 2 ^ 8),
      decide (xcastMode = .promisc ∨ s.ies = true))] ++ (membersAbove s₁ 0).flatMap fun v =>
        [(.vlan (v % 2 ^ 32) (0 % 2 ^ 8), true), (macRequestBody glort s.macAddr v, true)] := by
    rw [h₁.membersAbove]; rfl
  rw [hL]
  exact h₁.trans h.1

/-- With every allocation granted, one pass of the macvlan loop emits its station's mode call and
MAC request, or nothing for an empty slot. -/
theorem restoreStation_emits (t : L2Accel) {s : Intfc} (hok : AllocOk s) (i : Nat) :
    Emits s (restoreStation t s i) (stationRequest t s.sdevAddr s.defaultVid i)
      (stationCall t i) := by
  unfold restoreStation stationRequest stationCall
  cases t.slot i with
  | none => exact Emits.refl s
  | some sdev =>
    have h₁ := callMbx_emits s (.updateXcastMode (t.glortOf i) .multi)
    exact h₁.trans (queueRequest_emits (h₁.allocOk hok) _ true).1

/-- With every allocation granted, the macvlan loop emits the passes' calls and requests, in slot
order. -/
theorem restoreStations_emits (t : L2Accel) :
    ∀ (is : List Nat) (s : Intfc), AllocOk s →
      Emits s (is.foldl (restoreStation t) s)
        (is.flatMap (stationRequest t s.sdevAddr s.defaultVid)) (is.flatMap (stationCall t))
  | [], s, _ => Emits.refl s
  | i :: is, s, hok => by
    have h := restoreStation_emits t hok i
    have ih := restoreStations_emits t is _ (h.allocOk hok)
    rw [h.defaultVid, h.sdevAddr] at ih
    rw [foldl_cons, flatMap_cons, flatMap_cons]
    exact h.trans ih

/-- The station part of a restore queues MAC requests only. -/
theorem restoreStationRequests_noVlan (s : Intfc) :
    ∀ b ∈ restoreStationRequests s, b.1.isVlan = false := by
  unfold restoreStationRequests
  cases s.l2Accel with
  | none => simp
  | some p =>
    simp only [mem_flatMap]
    rintro b ⟨i, -, hb⟩
    unfold stationRequest at hb
    split at hb
    · exact absurd hb (not_mem_nil _)
    · rw [mem_singleton.1 hb, macRequestBody_isVlan]

/-! ### What a restore programs, whatever the allocations give -/

/-- Whatever the allocations give, the VLAN part of a restore queues only VLAN requests and MAC
requests of its GLORT, and calls no mailbox operation. -/
theorem restoreVlanTable_only {P : MacvlanRequestBody × Bool → Prop} {Q : MbxCall → Prop}
    (hv : ∀ b : MacvlanRequestBody × Bool, b.1.isVlan = true → P b)
    {glort : Nat} (hm : ∀ a v f, P (macRequestBody glort a v, f)) (s : Intfc)
    (xcastMode : XcastMode) : EmitsOnly P Q s (restoreVlanTable s glort xcastMode) := by
  unfold restoreVlanTable
  dsimp only
  have h₁ : EmitsOnly P Q s (if xcastMode = .promisc ∨ s.ies = true then
      (queueVlanRequest s FM10K_VLAN_ALL 0 true).1 else
      (queueVlanRequest s FM10K_VLAN_ALL 0 false).1) := by
    split <;> exact queueRequest_only _ (.vlan _ _) _ (hv _ rfl)
  exact h₁.trans (@forEachVlan_only (fun t vid => ((queueMacRequest (queueVlanRequest t vid 0 true).1
    glort (queueVlanRequest t vid 0 true).1.macAddr vid true).1, 0)) _ _
    (fun t v => (queueRequest_only t (.vlan _ _) true (hv _ rfl)).trans
      (queueRequest_only _ _ true (hm _ _ _)))
    _)

/-- Whatever the allocations give, the macvlan loop queues only its stations' MAC requests and sets
only their modes. -/
theorem restoreStations_only {P : MacvlanRequestBody × Bool → Prop} {Q : MbxCall → Prop}
    (t : L2Accel) (hP : ∀ i < t.size, t.slot i ≠ none → ∀ a v, P (macRequestBody (t.glortOf i) a v, true))
    (hQ : ∀ i < t.size, t.slot i ≠ none → Q (.updateXcastMode (t.glortOf i) .multi)) :
    ∀ (is : List Nat), (∀ i ∈ is, i < t.size) → ∀ s, EmitsOnly P Q s (is.foldl (restoreStation t) s)
  | [], _, s => EmitsOnly.refl s
  | i :: is, hi, s => by
    have hi₀ := hi i (mem_cons_self _ _)
    refine EmitsOnly.trans ?_ (restoreStations_only t hP hQ is (fun j hj => hi j (mem_cons_of_mem _ hj)) _)
    unfold restoreStation
    split
    · exact EmitsOnly.refl s
    · next sdev h =>
      have hs : t.slot i ≠ none := by rw [h]; exact Option.some_ne_none _
      exact (callMbx_only s _ (hQ i hi₀ hs)).trans (queueRequest_only _ _ true (hP i hi₀ hs _ _))

/-- The GLORTs a restore may program: the PF's, as read or as the `u16` a request carries,
and those of the stations of the table `l2_accel` points at. -/
def RestoreGlort (s : Intfc) (g : Nat) : Prop :=
  g = s.glort % 2 ^ 16 ∨ g = s.glort ∨
    ∃ p i, s.l2Accel = some p ∧ i < (s.table p).size ∧ (s.table p).slot i ≠ none ∧
      g = (s.table p).glortOf i

/-- **What a restore programs**: whatever the allocations give, every request and every
multicast-mode call of a restore is for the PF's GLORT or for a station's. -/
theorem restoreRxState_only (s : Intfc) (uc mc : AddrSyncPass) :
    ∃ s', EmitsOnly (fun b => ∀ g, b.1.glort? = some g → RestoreGlort s g)
        (fun c => ∀ g m, c = .updateXcastMode g m → RestoreGlort s g) s s' ∧
      restoreRxState s uc mc = restoreUdpPortInfo { s' with xcastMode := xcastModeOf s.flags } := by
  unfold restoreRxState
  dsimp only
  refine ⟨_, ?_, rfl⟩
  have hpf : ∀ a v (f : Bool) g, (macRequestBody s.glort a v, f).1.glort? = some g →
      RestoreGlort s g :=
    fun a v f g h => .inl (by simpa using h.symm)
  -- the logical port
  have h₁ : EmitsOnly (fun b => ∀ g, b.1.glort? = some g → RestoreGlort s g)
      (fun c => ∀ g m, c = .updateXcastMode g m → RestoreGlort s g) s
      (if hostMbxReady s then s.callMbx (.updateLportState s.glort s.glortCount true) else s) := by
    split
    · exact callMbx_only s _ fun g m h => by cases h
    · exact EmitsOnly.refl s
  -- the VLAN table
  have h₂ := h₁.trans (restoreVlanTable_only (Q := fun c => ∀ g m, c = .updateXcastMode g m →
    RestoreGlort s g) (fun b hb g hg => by
      obtain ⟨body, f⟩ := b
      cases body <;> simp_all [MacvlanRequestBody.isVlan, MacvlanRequestBody.glort?])
    (fun a v f => hpf a v f) _ (xcastModeOf s.flags))
  generalize restoreVlanTable _ s.glort (xcastModeOf s.flags) = s₂ at h₂ ⊢
  -- the mode
  have h₃ := h₂.trans (show EmitsOnly _ _ s₂ (if hostMbxReady s₂ then
      s₂.callMbx (.updateXcastMode s.glort (xcastModeOf s.flags)) else s₂) by
    split
    · exact callMbx_only s₂ _ fun g m h => by cases h; exact .inr (.inl rfl)
    · exact EmitsOnly.refl s₂)
  generalize (if hostMbxReady s₂ then _ else s₂) = s₃ at h₃ ⊢
  -- the address lists
  have hg₃ : s₃.glort = s.glort := h₃.congr Intfc.glort fun _ _ _ => rfl
  have h₄ := h₃.trans ((syncPasses_macs s₃ uc mc).mono (fun b ⟨a, _, v, f, hb⟩ g hg => by
    rw [hb, hg₃] at hg; exact hpf a v f g hg) fun _ h => h.elim)
  generalize (hwAddrSyncDev mcSync mcUnsync (hwAddrSyncDev ucSync ucUnsync s₃ uc).1 mc).1 = s₄
    at h₄ ⊢
  -- the stations
  refine h₄.trans ?_
  cases hp : s.l2Accel with
  | none => exact EmitsOnly.refl s₄
  | some p =>
    dsimp only
    have ht : s₄.table p = s.table p := h₄.congr (Intfc.table · p) fun _ _ _ => rfl
    rw [ht]
    exact restoreStations_only (s.table p)
      (fun i hi hs a v g hg => .inr (.inr ⟨p, i, hp, hi, hs,
        by simpa [L2Accel.glortOf, Nat.mod_mod] using hg.symm⟩))
      (fun i hi hs g m h => by cases h; exact .inr (.inr ⟨p, i, hp, hi, hs, rfl⟩))
      (range (s.table p).size) (fun i hi => mem_range.1 hi) s₄

/-- What the VLAN part of a restore would queue is not changed by a stretch of calls. -/
theorem Emits.restoreVlanRequests {s s' : Intfc} {L : List (MacvlanRequestBody × Bool)}
    {M : List MbxCall} (h : Emits s s' L M) (glort : Nat) (xcastMode : XcastMode) :
    restoreVlanRequests s' glort xcastMode = restoreVlanRequests s glort xcastMode := by
  unfold Fm10k.restoreVlanRequests
  rw [h.membersAbove, h.macAddr, h.congr Intfc.ies fun _ _ _ => rfl]

/-- **A restore** queues the VLAN table and the base address on every member VLAN
(`restoreVlanRequests`), then MAC requests for the PF's GLORT and the addresses of the kernel's
passes, then each station's address; it calls the mailbox as `restoreCalls` says, records the
mode and reprograms the tunnel ports. -/
theorem restoreRxState_spec {s : Intfc} (hok : AllocOk s) (hd : s.defaultVid < VLAN_N_VID)
    (uc mc : AddrSyncPass) :
    ∃ s' Ls, Emits s s' (restoreVlanRequests s s.glort (xcastModeOf s.flags) ++ Ls ++
        restoreStationRequests s) (restoreCalls s) ∧
      MacRequestsFor s.glort (AddrSyncPass.addrs uc mc) Ls ∧
      restoreRxState s uc mc = restoreUdpPortInfo { s' with xcastMode := xcastModeOf s.flags } := by
  unfold restoreRxState
  dsimp only
  -- the logical port
  obtain ⟨s₁, hs₁, h₁⟩ : ∃ s₁, s₁ = (if hostMbxReady s then
      s.callMbx (.updateLportState s.glort s.glortCount true) else s) ∧
      Emits s s₁ [] (if hostMbxReady s then [.updateLportState s.glort s.glortCount true] else []) :=
    ⟨_, rfl, by split; exacts [callMbx_emits _ _, Emits.refl s]⟩
  rw [← hs₁]
  -- the VLAN table
  have h₂ := restoreVlanTable_emits (h₁.allocOk hok) (h₁.defaultVid ▸ hd) s.glort
    (xcastModeOf s.flags)
  generalize restoreVlanTable s₁ s.glort (xcastModeOf s.flags) = s₂ at h₂ ⊢
  rw [h₁.restoreVlanRequests] at h₂
  -- the mode
  have hr : hostMbxReady s₂ = hostMbxReady s := (h₁.trans h₂).congr hostMbxReady fun _ _ _ => rfl
  obtain ⟨s₃, hs₃, h₃⟩ : ∃ s₃, s₃ = (if hostMbxReady s₂ then
      s₂.callMbx (.updateXcastMode s.glort (xcastModeOf s.flags)) else s₂) ∧
      Emits s₂ s₃ [] (if hostMbxReady s then [.updateXcastMode s.glort (xcastModeOf s.flags)]
        else []) :=
    ⟨_, rfl, by rw [hr]; split; exacts [callMbx_emits _ _, Emits.refl s₂]⟩
  rw [← hs₃]
  have h₁₃ := h₁.trans (h₂.trans h₃)
  -- the address lists
  obtain ⟨Ls, h₄, hLs⟩ := (syncPasses_macs s₃ uc mc).noCalls
  rw [h₁₃.glort] at hLs
  generalize (hwAddrSyncDev mcSync mcUnsync (hwAddrSyncDev ucSync ucUnsync s₃ uc).1 mc).1 = s₄
    at h₄ ⊢
  have h₁₄ := h₁₃.trans h₄
  -- the stations
  have h₅ : Emits s₄ (match s.l2Accel with
      | none => s₄
      | some p => restoreStations (s₄.table p) s₄) (restoreStationRequests s)
      (match s.l2Accel with
        | none => []
        | some p => (range (s.table p).size).flatMap (stationCall (s.table p))) := by
    unfold restoreStationRequests
    cases s.l2Accel with
    | none => exact Emits.refl s₄
    | some p =>
      dsimp only
      rw [show s₄.table p = s.table p from h₁₄.congr (Intfc.table · p) fun _ _ _ => rfl]
      have := restoreStations_emits (s.table p) (range (s.table p).size) s₄ (h₁₄.allocOk hok)
      rwa [h₁₄.defaultVid, h₁₄.sdevAddr] at this
  refine ⟨_, Ls, ?_, hLs, rfl⟩
  have h := h₁₄.trans h₅
  unfold restoreCalls
  by_cases hm : hostMbxReady s = true <;> simpa [hm] using h
/-! ### The VLAN table after a restore -/

/-- Requests setting each id of `ids` in the VLAN table, each followed by a MAC request, open
exactly those ids. -/
theorem vlanTable_setVlans (t : Nat → Bool) (glort : Nat) (addr : MacAddr) :
    ∀ ids : List Nat, (∀ v ∈ ids, v < 2 ^ 16) →
      vlanTable t (ids.flatMap fun v =>
        [(.vlan (v % 2 ^ 32) (0 % 2 ^ 8), true), (macRequestBody glort addr v, true)]) =
        fun w => decide (w ∈ ids) || t w
  | [], _ => by funext w; simp
  | v :: vs, h => by
    have hv : v < 2 ^ 16 := h v (mem_cons_self _ _)
    rw [flatMap_cons, vlanTable_append, vlanTable_cons, vlanTable_cons, vlanTable_nil,
      vlanApply_macRequestBody, Nat.mod_eq_of_lt (by omega), vlanApply_single _ hv,
      vlanTable_setVlans _ glort addr vs fun w hw => h w (mem_cons_of_mem _ hw)]
    funext w
    by_cases hw : w = v <;> simp [hw]

/-- The VLAN table a restore leaves: every id below `VLAN_N_VID` open in promiscuous or IES
mode, the member VLANs otherwise; the ids above are left as they were. -/
def restoreTable (s : Intfc) (xcastMode : XcastMode) (t : Nat → Bool) (v : Nat) : Bool :=
  if v < VLAN_N_VID then decide (xcastMode = .promisc ∨ s.ies = true) || vlanMember s v else t v

/-- **The VLAN table after a restore** depends on the interface and the mode only. -/
theorem vlanTable_restoreVlanRequests (s : Intfc) (glort : Nat) (xcastMode : XcastMode)
    (t : Nat → Bool) :
    vlanTable t (restoreVlanRequests s glort xcastMode) = restoreTable s xcastMode t := by
  rw [restoreVlanRequests, vlanTable_cons, vlanApply_all, vlanTable_setVlans _ _ _ _
    membersAbove_lt]
  funext v
  simp only [restoreTable, mem_membersAbove_zero, Bool.decide_eq_true]
  split
  · exact Bool.or_comm _ _
  · next h => simp [show vlanMember s v = false from
      Bool.eq_false_iff.2 fun hm => h (vlanMember_bounds hm).2]
end Fm10k
