import Fm10k.Vlan
import Fm10k.L2Accel
import Fm10k.Tunnel

/-!
# Receive Filters

The entry points that keep the switch's filters in step with the interface: the VLAN
membership (`fm10k_update_vid`), the base address (`fm10k_set_mac`), and the multicast mode
and the address lists (`fm10k_set_rx_mode`). None of them talks to the switch directly: they
queue requests (`Fm10k.MacvlanQueue`) and call the mailbox operations, and each is described
by what it `Emits`.

The secondary address lists belong to the kernel: `__dev_uc_sync`, `__dev_mc_sync` and their
`unsync` variants call the driver back on each address. Those calls are given here by the
addresses the kernel passes (`AddrSyncPass`), so every statement holds for whatever lists the
stack keeps.

## Main results

* `addrSync_spec`: an address sync queues one MAC request per member VLAN, in order.
* `vlan_iteration_members`: the loop over the members visits exactly the member VLANs, in
  increasing order; an address sync stops at the first refused allocation, having queued the
  requests of the members before it (`runVlans_queueMac`); `uc_sync_rejects_zero_address`:
  an address the check refuses gets no request.
* `updateVid_of_reject`, `updateVid_of_skip`, `updateVid_of_queue`, `queueVidRequests_spec`:
  what a VLAN change does, by the checks it passes.
* `update_vid_rings`: a VLAN change records the VLAN in the bitmap and leaves each receive
  ring's `FM10K_VLAN_CLEAR` flag on exactly when the ring's VLAN is active, keeping its other
  bits (`testBit_ringVid`, `ringVid_vlan`).
* `setMac_of_up`: a new base address is synced on every member VLAN before the old one is
  unsynced.
* `changeXcastMode_spec`, `setRxMode_of_up`: the VLAN requests of a mode change act on the
  table as `modeTable` says; the rest of `fm10k_set_rx_mode` queues MAC requests only.
-/

namespace Fm10k

open List

/-! ### Address synchronisation -/

/-- The body shared by `__fm10k_uc_sync` and `__fm10k_mc_sync`, which differ in the address
check `valid`: queue a MAC request for the address on every member VLAN, returning at the
first failure. -/
def addrSync (valid : MacAddr → Bool) (s : Intfc) (addr : MacAddr) (sync : Bool) :
    Intfc × Int :=
  let glort := s.glort
  if !valid addr then (s, -EADDRNOTAVAIL)
  else forEachVlan (fun s vid => queueMacRequest s glort addr vid sync) s

/-- `__fm10k_uc_sync`. -/
def ucSyncAddr (s : Intfc) (addr : MacAddr) (sync : Bool) : Intfc × Int :=
  addrSync isValidEtherAddr s addr sync

/-- `fm10k_uc_sync`. -/
def ucSync (s : Intfc) (addr : MacAddr) : Intfc × Int :=
  ucSyncAddr s addr true

/-- `fm10k_uc_unsync`. -/
def ucUnsync (s : Intfc) (addr : MacAddr) : Intfc × Int :=
  ucSyncAddr s addr false

/-- `__fm10k_mc_sync`. -/
def mcSyncAddr (s : Intfc) (addr : MacAddr) (sync : Bool) : Intfc × Int :=
  addrSync isMulticastEtherAddr s addr sync

/-- `fm10k_mc_sync`. -/
def mcSync (s : Intfc) (addr : MacAddr) : Intfc × Int :=
  mcSyncAddr s addr true

/-- `fm10k_mc_unsync`. -/
def mcUnsync (s : Intfc) (addr : MacAddr) : Intfc × Int :=
  mcSyncAddr s addr false

/-- Modelled from the spec: the calls one pass of the kernel's `__dev_uc_sync` or
`__dev_mc_sync` makes. It passes each address removed from the device's list since the last
pass to `unsync` (a failure defers it to a later pass), then each address added to `sync`,
and stops at the first `sync` that fails. -/
structure AddrSyncPass where
  removed : List MacAddr
  added : List MacAddr

/-- The addresses a unicast and a multicast pass visit. -/
def AddrSyncPass.addrs (uc mc : AddrSyncPass) : List MacAddr :=
  uc.removed ++ uc.added ++ (mc.removed ++ mc.added)

/-- The `sync` calls of a pass, stopping at the first failure. -/
def syncAdded (sync : Intfc → MacAddr → Intfc × Int) : Intfc → List MacAddr → Intfc × Int
  | s, [] => (s, 0)
  | s, a :: as =>
    let r := sync s a
    if r.2 = 0 then syncAdded sync r.1 as else r

/-- Modelled from the spec: `__hw_addr_sync_dev`, one pass of `__dev_uc_sync` or
`__dev_mc_sync`. -/
def hwAddrSyncDev (sync unsync : Intfc → MacAddr → Intfc × Int) (s : Intfc)
    (pass : AddrSyncPass) : Intfc × Int :=
  syncAdded sync (pass.removed.foldl (fun s a => (unsync s a).1) s) pass.added

/-- Modelled from the spec: `__hw_addr_unsync_dev`, the calls of `__dev_uc_unsync` or
`__dev_mc_unsync`: `unsync` on each address synced so far. -/
def hwAddrUnsyncDev (unsync : Intfc → MacAddr → Intfc × Int) (s : Intfc)
    (synced : List MacAddr) : Intfc :=
  synced.foldl (fun s a => (unsync s a).1) s

/-- The body shared by `fm10k_uc_vlan_unsync` and `fm10k_mc_vlan_unsync`: queue a MAC request
for the address on the VLAN `interface->vid` records, setting it when the record carries the
`VLAN_N_VID` flag; `1` reports a partial sync. -/
def vlanUnsync (s : Intfc) (addr : MacAddr) : Intfc × Int :=
  let glort := s.glort
  let vid := s.vid
  let set := vid / VLAN_N_VID != 0
  let vid := vid &&& (VLAN_N_VID - 1)
  let r := queueMacRequest s glort addr vid set
  if r.2 ≠ 0 then r else (r.1, 1)

/-- `fm10k_uc_vlan_unsync`. -/
def ucVlanUnsync (s : Intfc) (addr : MacAddr) : Intfc × Int :=
  vlanUnsync s addr

/-- `fm10k_mc_vlan_unsync`. -/
def mcVlanUnsync (s : Intfc) (addr : MacAddr) : Intfc × Int :=
  vlanUnsync s addr

/-- A request is a MAC request for `glort` and one of the addresses `as`. -/
def MacFor (glort : Nat) (as : List MacAddr) (b : MacvlanRequestBody × Bool) : Prop :=
  ∃ a ∈ as, ∃ v f, b = (macRequestBody glort a v, f)

/-- Every request of `L` is a MAC request for `glort` and one of the addresses `as`. -/
def MacRequestsFor (glort : Nat) (as : List MacAddr) (L : List (MacvlanRequestBody × Bool)) :
    Prop :=
  ∀ b ∈ L, MacFor glort as b

/-- A MAC request for one of some addresses is one for any list that contains them. -/
theorem MacFor.mono {glort : Nat} {as as' : List MacAddr} {b : MacvlanRequestBody × Bool}
    (h : MacFor glort as b) (hs : as ⊆ as') : MacFor glort as' b :=
  let ⟨a, ha, rest⟩ := h
  ⟨a, hs ha, rest⟩

/-- Two stretches of MAC requests for the addresses are one. -/
theorem MacRequestsFor.append {glort : Nat} {as : List MacAddr}
    {L₁ L₂ : List (MacvlanRequestBody × Bool)} (h₁ : MacRequestsFor glort as L₁)
    (h₂ : MacRequestsFor glort as L₂) : MacRequestsFor glort as (L₁ ++ L₂) :=
  fun b hb => (mem_append.1 hb).elim (h₁ b) (h₂ b)

@[simp] theorem macRequestBody_isVlan (glort : Nat) (addr : MacAddr) (vid : Nat) :
    (macRequestBody glort addr vid).isVlan = false := by
  rcases macRequestBody_cases glort addr vid with h | h <;> rw [h] <;> rfl

/-- MAC requests are not VLAN requests. -/
theorem MacRequestsFor.noVlan {glort : Nat} {as : List MacAddr}
    {L : List (MacvlanRequestBody × Bool)} (h : MacRequestsFor glort as L) :
    ∀ b ∈ L, b.1.isVlan = false := fun b hb => by
  obtain ⟨a, -, v, f, rfl⟩ := h b hb
  exact macRequestBody_isVlan _ _ _

/-- **One address sync**, with every allocation granted: a valid address gets a MAC request on every
member VLAN, in increasing order, and `0`; an invalid one gets nothing and `-EADDRNOTAVAIL`. -/
theorem addrSync_spec {s : Intfc} (hok : AllocOk s) (hd : s.defaultVid < VLAN_N_VID)
    (valid : MacAddr → Bool) (addr : MacAddr) (sync : Bool) :
    Emits s (addrSync valid s addr sync).1 (if valid addr then
        (membersAbove s 0).flatMap fun v => [(macRequestBody s.glort addr v, sync)] else []) [] ∧
      (addrSync valid s addr sync).2 = if valid addr then 0 else -EADDRNOTAVAIL := by
  unfold addrSync
  cases valid addr
  · exact ⟨Emits.refl s, rfl⟩
  · simp only [Bool.not_true, Bool.false_eq_true, if_false, if_true]
    rw [@forEachVlan_eq (fun t vid => queueMacRequest t s.glort addr vid sync)
      (fun t v => let h := (queueRequest_spec t _ sync).1; ⟨h.activeVlans, h.defaultVid⟩) s hd]
    have h := @runVlans_emits (fun t vid => queueMacRequest t s.glort addr vid sync) AllocOk
      (fun v => [(macRequestBody s.glort addr v, sync)]) (fun _ => [])
      (fun t v hok => let h := queueRequest_emits hok (macRequestBody s.glort addr v) sync
        ⟨h.1, h.2, h.1.allocOk hok⟩) (membersAbove s 0) s hok
    rwa [flatMap_eq_nil_iff.2 fun _ _ => rfl] at h

/-- Whatever the allocations give, an address sync queues only MAC requests for the PF's
GLORT and the address. -/
theorem addrSync_macs (valid : MacAddr → Bool) (s : Intfc) (addr : MacAddr) (sync : Bool) :
    EmitsOnly (MacFor s.glort [addr]) (fun _ => False) s (addrSync valid s addr sync).1 := by
  unfold addrSync
  dsimp only
  split
  · exact EmitsOnly.refl s
  · exact @forEachVlan_only (fun t vid => queueMacRequest t s.glort addr vid sync) _ _
      (fun t v => queueRequest_only t _ sync ⟨addr, mem_singleton_self _, v, sync, rfl⟩) s

/-- Requests for the addresses of `as`, then for those of `as'`, are requests for the
addresses of `as ++ as'`. -/
theorem EmitsOnly.macs_append {glort : Nat} {as as' : List MacAddr} {s₁ s₂ s₃ : Intfc}
    (h₁ : EmitsOnly (MacFor glort as) (fun _ => False) s₁ s₂)
    (h₂ : EmitsOnly (MacFor glort as') (fun _ => False) s₂ s₃) :
    EmitsOnly (MacFor glort (as ++ as')) (fun _ => False) s₁ s₃ :=
  (h₁.mono (fun _ hb => hb.mono (subset_append_left _ _)) fun _ => id).trans
    (h₂.mono (fun _ hb => hb.mono (subset_append_right _ _)) fun _ => id)

section Passes

variable {f : Intfc → MacAddr → Intfc}
  (hf : ∀ s a, EmitsOnly (MacFor s.glort [a]) (fun _ => False) s (f s a))
include hf

/-- The callbacks of a stretch of addresses queue only MAC requests for those addresses. -/
theorem foldl_macs : ∀ (as : List MacAddr) (s : Intfc),
    EmitsOnly (MacFor s.glort as) (fun _ => False) s (as.foldl f s)
  | [], s => EmitsOnly.refl s
  | a :: as, s => by
    have h₂ := foldl_macs as (f s a)
    rw [(hf s a).congr Intfc.glort fun _ _ _ => rfl] at h₂
    exact (hf s a).macs_append h₂

end Passes

/-- Whatever the allocations give, a pass of syncs queues only MAC requests for the interface's
GLORT and the pass's addresses. -/
theorem syncAdded_macs {sync : Intfc → MacAddr → Intfc × Int}
    (hs : ∀ s a, EmitsOnly (MacFor s.glort [a]) (fun _ => False) s (sync s a).1) :
    ∀ (as : List MacAddr) (s : Intfc),
      EmitsOnly (MacFor s.glort as) (fun _ => False) s (syncAdded sync s as).1
  | [], s => EmitsOnly.refl s
  | a :: as, s => by
    rw [syncAdded]
    split
    · have h₂ := syncAdded_macs hs as (sync s a).1
      rw [(hs s a).congr Intfc.glort fun _ _ _ => rfl] at h₂
      exact (hs s a).macs_append h₂
    · exact (hs s a).mono (fun _ hb => hb.mono (by simp)) fun _ => id

/-- **A sync pass** queues only MAC requests for the PF's GLORT and the addresses it visits,
whatever the allocations give. -/
theorem hwAddrSyncDev_macs (valid : MacAddr → Bool) (s : Intfc) (pass : AddrSyncPass) :
    EmitsOnly (MacFor s.glort (pass.removed ++ pass.added)) (fun _ => False) s
      (hwAddrSyncDev (fun s a => addrSync valid s a true)
        (fun s a => addrSync valid s a false) s pass).1 := by
  have h₁ := foldl_macs (f := fun s a => (addrSync valid s a false).1)
    (fun s a => addrSync_macs valid s a false) pass.removed s
  have h₂ := syncAdded_macs (fun s a => addrSync_macs valid s a true) pass.added
    (pass.removed.foldl (fun s a => (addrSync valid s a false).1) s)
  rw [h₁.congr Intfc.glort fun _ _ _ => rfl] at h₂
  exact h₁.macs_append h₂

/-- An unsync pass of `fm10k_update_vid` queues only MAC requests for the PF's GLORT and the
addresses it visits. -/
theorem hwAddrUnsyncDev_macs (s : Intfc) (synced : List MacAddr) :
    EmitsOnly (MacFor s.glort synced) (fun _ => False) s (hwAddrUnsyncDev vlanUnsync s synced) :=
  foldl_macs (f := fun s a => (vlanUnsync s a).1) (fun s a => by
    unfold vlanUnsync
    dsimp only
    split <;> exact queueRequest_only _ _ _ ⟨a, mem_singleton_self _, _, _, rfl⟩) synced s

/-! ### Field updates around what a call emits -/

/-- A stretch emits the same from states that differ only in `vid`. -/
theorem Emits.setVid {s₁ s₂ : Intfc} {L : List (MacvlanRequestBody × Bool)} {M : List MbxCall}
    (h : Emits s₁ s₂ L M) (vid : Nat) : Emits { s₁ with vid := vid } { s₂ with vid := vid } L M :=
  h.map (fun x => { x with vid := vid }) (fun _ => rfl) (fun _ => rfl) (fun _ => rfl)
    fun _ _ _ _ => rfl

/-- A stretch emits the same from states that differ only in the mode. -/
theorem Emits.setXcastMode {s₁ s₂ : Intfc} {L : List (MacvlanRequestBody × Bool)}
    {M : List MbxCall} (h : Emits s₁ s₂ L M) (mode : XcastMode) :
    Emits { s₁ with xcastMode := mode } { s₂ with xcastMode := mode } L M :=
  h.map (fun x => { x with xcastMode := mode }) (fun _ => rfl) (fun _ => rfl) (fun _ => rfl)
    fun _ _ _ _ => rfl

/-- A stretch emits the same from states that differ only in the addresses. -/
theorem Emits.setAddr {s₁ s₂ : Intfc} {L : List (MacvlanRequestBody × Bool)} {M : List MbxCall}
    (h : Emits s₁ s₂ L M) (devAddr macAddr : MacAddr) :
    Emits { s₁ with devAddr := devAddr, macAddr := macAddr }
      { s₂ with devAddr := devAddr, macAddr := macAddr } L M :=
  h.map (fun x => { x with devAddr := devAddr, macAddr := macAddr }) (fun _ => rfl) (fun _ => rfl)
    (fun _ => rfl) fun _ _ _ _ => rfl

/-! ### VLAN membership -/

/-- Modelled from the spec: `FM10K_VLAN_CLEAR`, the flag of a receive ring's `vid` that drops
its default VLAN, above every VLAN id. -/
def FM10K_VLAN_CLEAR : Nat := 2 ^ 15

/-- A receive ring's `vid` (a `u16`) after `fm10k_update_vid`: the clear flag is up exactly
when the ring's VLAN is active. -/
def ringVid (activeVlans : Nat → Bool) (vid : Nat) : Nat :=
  if activeVlans (vid &&& (VLAN_N_VID - 1)) then vid ||| FM10K_VLAN_CLEAR
  else vid &&& (2 ^ 16 - 1 - FM10K_VLAN_CLEAR)

/-- The part of `fm10k_update_vid` that runs once the checks pass: record the VLAN in
`active_vlans` (`set_bit`, then `clear_bit` when clearing), then the clear flag of every
receive ring. -/
def updateActiveVlans (s : Intfc) (vid : Nat) (set : Bool) : Intfc :=
  let activeVlans := Function.update s.activeVlans vid set
  { s with
    activeVlans := activeVlans
    rxRing := fun i => if i < s.numRxQueues then
      { s.rxRing i with vid := ringVid activeVlans (s.rxRing i).vid } else s.rxRing i }

/-- The VLAN request of `fm10k_update_vid`, skipped on a PF in promiscuous or IES mode. -/
def queueVidVlanRequest (s : Intfc) (vid : Nat) (set : Bool) : Intfc × Int :=
  if !(s.flags.promisc || s.ies) || s.macType == .vf then queueVlanRequest s vid 0 set
  else (s, 0)

/-- What `queueVidVlanRequest` queues when its allocation is granted. -/
def vidVlanRequests (s : Intfc) (vid : Nat) (set : Bool) : List (MacvlanRequestBody × Bool) :=
  if !(s.flags.promisc || s.ies) || s.macType == .vf then [(.vlan vid 0, set)] else []

/-- The mailbox part of `fm10k_update_vid`: the VLAN request, the base address's MAC request,
the record of the VLAN in `interface->vid`, and the addresses the kernel revisits (`uc`,
`mc`). -/
def queueVidRequests (s : Intfc) (vid : Nat) (set : Bool) (uc mc : List MacAddr) :
    Intfc × Int :=
  let r := queueVidVlanRequest s vid set
  if r.2 ≠ 0 then r
  else
    let r := queueMacRequest r.1 r.1.glort r.1.macAddr vid set
    if r.2 ≠ 0 then r
    else
      let s := { r.1 with vid := (vid + if set then VLAN_N_VID else 0) % 2 ^ 16 }
      (hwAddrUnsyncDev mcVlanUnsync (hwAddrUnsyncDev ucVlanUnsync s uc) mc, 0)

/-- `fm10k_update_vid`, with the addresses the kernel's `__dev_uc_unsync` and
`__dev_mc_unsync` visit (`uc`, `mc`). `vid` is a `u16`: the stack passes a `UInt16`. -/
def updateVid (s : Intfc) (vid : Nat) (set : Bool) (uc mc : List MacAddr) : Intfc × Int :=
  if vid = 0 then (s, 0)
  else if VLAN_N_VID ≤ vid then (s, -EINVAL)
  else if set && s.vlanOverride then (s, -EACCES)
  else
    let s := updateActiveVlans s vid set
    if s.vlanOverride then (s, 0)
    else if !set && vid = s.defaultVid then (s, 0)
    else if s.down then (s, 0)
    else queueVidRequests s vid set uc mc

/-- A rejected VLAN changes nothing. -/
theorem updateVid_of_reject (s : Intfc) {vid : Nat} (set : Bool) (uc mc : List MacAddr)
    (h : vid = 0 ∨ VLAN_N_VID ≤ vid ∨ (set = true ∧ s.vlanOverride = true)) :
    (updateVid s vid set uc mc).1 = s := by
  unfold updateVid
  rcases h with h | h | ⟨rfl, h⟩
  · rw [if_pos h]
  · rw [if_neg (show vid ≠ 0 by unfold VLAN_N_VID at h; omega), if_pos h]
  · simp only [h, Bool.and_self, if_true]
    split_ifs <;> rfl

/-- An accepted VLAN that needs no request (VLAN override, the default VLAN cleared, or the
interface down) only updates the bitmap and the rings. -/
theorem updateVid_of_skip (s : Intfc) {vid : Nat} (set : Bool) (uc mc : List MacAddr)
    (h₀ : vid ≠ 0) (hN : vid < VLAN_N_VID) (ho : ¬(set = true ∧ s.vlanOverride = true))
    (hskip : s.vlanOverride = true ∨ (set = false ∧ vid = s.defaultVid) ∨ s.down = true) :
    updateVid s vid set uc mc = (updateActiveVlans s vid set, 0) := by
  unfold updateVid
  rw [if_neg h₀, if_neg (by omega), if_neg (by simpa using ho)]
  dsimp only [updateActiveVlans]
  rcases hskip with h | ⟨rfl, rfl⟩ | h
  · simp [h]
  · simp
  · simp [h]

/-- An accepted VLAN the switch must hear of goes to the mailbox part. -/
theorem updateVid_of_queue (s : Intfc) {vid : Nat} (set : Bool) (uc mc : List MacAddr)
    (h₀ : vid ≠ 0) (hN : vid < VLAN_N_VID) (ho : s.vlanOverride = false)
    (hdef : ¬(set = false ∧ vid = s.defaultVid)) (hdown : s.down = false) :
    updateVid s vid set uc mc = queueVidRequests (updateActiveVlans s vid set) vid set uc mc := by
  unfold updateVid
  rw [if_neg h₀, if_neg (by omega), if_neg (by simp [ho])]
  dsimp only
  rw [if_neg (by simpa [updateActiveVlans] using ho),
    if_neg (by simpa [updateActiveVlans] using hdef),
    if_neg (by simpa [updateActiveVlans] using hdown)]

/-- With every allocation granted, the VLAN request of `fm10k_update_vid` is queued or skipped as
`vidVlanRequests` says, and `0` is returned. -/
theorem queueVidVlanRequest_spec {s : Intfc} (hok : AllocOk s) {vid : Nat} (hv : vid < 2 ^ 32)
    (set : Bool) :
    Emits s (queueVidVlanRequest s vid set).1 (vidVlanRequests s vid set) [] ∧
      (queueVidVlanRequest s vid set).2 = 0 := by
  unfold queueVidVlanRequest vidVlanRequests
  split
  · have h := queueRequest_emits hok (.vlan (vid % 2 ^ 32) (0 % 2 ^ 8)) set
    have e : (MacvlanRequestBody.vlan (vid % 2 ^ 32) (0 % 2 ^ 8), set) = (.vlan vid 0, set) := by
      rw [Nat.mod_eq_of_lt hv, Nat.zero_mod]
    rw [← e]
    exact h
  · exact ⟨Emits.refl s, rfl⟩

/-- **The mailbox part of a VLAN change** queues the VLAN request (if any) and the base
address's MAC request for the VLAN, records the VLAN in `interface->vid`, then queues MAC
requests for the addresses the kernel revisits. -/
theorem queueVidRequests_spec {s : Intfc} (hok : AllocOk s) {vid : Nat} (hv : vid < VLAN_N_VID)
    (set : Bool) (uc mc : List MacAddr) :
    ∃ L, Emits s { (queueVidRequests s vid set uc mc).1 with vid := s.vid }
        (vidVlanRequests s vid set ++ (macRequestBody s.glort s.macAddr vid, set) :: L) [] ∧
      MacRequestsFor s.glort (uc ++ mc) L ∧
      (queueVidRequests s vid set uc mc).1.vid = (vid + if set then VLAN_N_VID else 0) % 2 ^ 16 ∧
      (queueVidRequests s vid set uc mc).2 = 0 := by
  obtain ⟨h₁, hr₁⟩ := @queueVidVlanRequest_spec s hok vid (by unfold VLAN_N_VID at hv; omega) set
  unfold queueVidRequests
  generalize queueVidVlanRequest s vid set = r at h₁ hr₁ ⊢
  have h₂ := queueRequest_emits (h₁.allocOk hok) (macRequestBody r.1.glort r.1.macAddr vid) set
  rw [h₁.glort, h₁.macAddr] at h₂
  simp only [hr₁, ne_eq, not_true_eq_false, if_false]
  have h₂' : Emits r.1 (queueMacRequest r.1 r.1.glort r.1.macAddr vid set).1
      [(macRequestBody s.glort s.macAddr vid, set)] [] := by
    rw [h₁.glort, h₁.macAddr]; exact h₂.1
  have hr₂ : (queueMacRequest r.1 r.1.glort r.1.macAddr vid set).2 = 0 := by
    rw [h₁.glort, h₁.macAddr]; exact h₂.2
  simp only [hr₂, if_false, not_true_eq_false]
  generalize hs₃ : { (queueMacRequest r.1 r.1.glort r.1.macAddr vid set).1 with
    vid := (vid + if set then VLAN_N_VID else 0) % 2 ^ 16 } = s₃
  have he₃ : Emits { s with vid := s.vid } { s₃ with vid := s.vid }
      (vidVlanRequests s vid set ++ [(macRequestBody s.glort s.macAddr vid, set)]) [] :=
    hs₃ ▸ (h₁.trans h₂').setVid s.vid
  have hg₃ : s₃.glort = s.glort := by rw [← hs₃]; exact (h₁.trans h₂').glort
  have hu := hwAddrUnsyncDev_macs s₃ uc
  have hm := hwAddrUnsyncDev_macs (hwAddrUnsyncDev vlanUnsync s₃ uc) mc
  rw [hu.congr Intfc.glort fun _ _ _ => rfl] at hm
  obtain ⟨L, hL, hmL⟩ := (hu.macs_append hm).noCalls
  rw [hg₃] at hmL
  refine ⟨L, ?_, hmL, ?_, trivial⟩
  · have := he₃.trans (hL.setVid s.vid)
    simpa using this
  · exact (hL.congr Intfc.vid fun _ _ _ => rfl).trans (by rw [← hs₃])
/-- The part of an interface `fm10k_update_vid` maintains: the bitmap and the receive rings. -/
def ringsView (s : Intfc) : (Nat → Bool) × (Nat → Ring RxBuffer) × Nat :=
  (s.activeVlans, s.rxRing, s.numRxQueues)

/-- The mailbox part of a VLAN change leaves the bitmap and the rings alone, whatever the
allocations give. -/
theorem queueVidRequests_ringsView (s : Intfc) (vid : Nat) (set : Bool) (uc mc : List MacAddr) :
    ringsView (queueVidRequests s vid set uc mc).1 = ringsView s := by
  have h₁ : ringsView (queueVidVlanRequest s vid set).1 = ringsView s := by
    unfold queueVidVlanRequest
    split
    · exact (queueRequest_spec _ _ _).1.congr ringsView fun _ _ _ => rfl
    · rfl
  unfold queueVidRequests
  dsimp only
  split
  · exact h₁
  · split
    · exact ((queueRequest_spec _ _ _).1.congr ringsView fun _ _ _ => rfl).trans h₁
    · refine ((hwAddrUnsyncDev_macs _ mc).congr ringsView fun _ _ _ => rfl).trans
        (((hwAddrUnsyncDev_macs _ uc).congr ringsView fun _ _ _ => rfl).trans ?_)
      exact ((queueRequest_spec _ _ _).1.congr ringsView fun _ _ _ => rfl).trans h₁

/-- The bits of a receive ring's `vid` after `fm10k_update_vid`: bit 15, `FM10K_VLAN_CLEAR`,
says whether the ring's VLAN is active; the other bits of the `u16` are kept. -/
theorem testBit_ringVid (a : Nat → Bool) (vid : Nat) {j : Nat} (hj : j < 16) :
    (ringVid a vid).testBit j = if j = 15 then a (vid &&& (VLAN_N_VID - 1)) else vid.testBit j := by
  unfold ringVid FM10K_VLAN_CLEAR
  rw [show 2 ^ 16 - 1 - 2 ^ 15 = 2 ^ 15 - 1 by norm_num]
  split
  · next ha =>
    rw [Nat.testBit_or, Nat.testBit_two_pow]
    split
    · subst j; simp [ha]
    · simp [Ne.symm ‹j ≠ 15›]
  · next ha =>
    rw [Nat.testBit_and, Nat.testBit_two_pow_sub_one]
    split
    · subst j; simp [ha]
    · simp [show j < 15 by omega]

/-- The flag the loop sets does not change the VLAN it reads: the low twelve bits are kept. -/
theorem ringVid_vlan (a : Nat → Bool) (vid : Nat) :
    ringVid a vid &&& (VLAN_N_VID - 1) = vid &&& (VLAN_N_VID - 1) := by
  apply Nat.eq_of_testBit_eq
  intro j
  rw [Nat.testBit_and, Nat.testBit_and, show VLAN_N_VID - 1 = 2 ^ 12 - 1 from rfl,
    Nat.testBit_two_pow_sub_one]
  by_cases hj : j < 12
  · rw [testBit_ringVid a vid (by omega), if_neg (by omega)]
  · simp [hj]

/-- **A VLAN change and the receive rings.** A call of `fm10k_update_vid` that passes its
checks sets bit `vid` of `active_vlans` to `set` and keeps the others, and leaves every receive
ring's `vid` with its `FM10K_VLAN_CLEAR` bit (bit 15) set exactly when `active_vlans` holds the
ring's VLAN, its low twelve bits, and with its other bits unchanged; a call that fails the
checks changes neither the bitmap nor any ring. -/
theorem update_vid_rings (s : Intfc) (vid : Nat) (set : Bool) (uc mc : List MacAddr) :
    (0 < vid ∧ vid < VLAN_N_VID ∧ ¬(set = true ∧ s.vlanOverride = true) →
      (updateVid s vid set uc mc).1.activeVlans vid = set ∧
      (∀ w, w ≠ vid → (updateVid s vid set uc mc).1.activeVlans w = s.activeVlans w) ∧
      (updateVid s vid set uc mc).1.numRxQueues = s.numRxQueues ∧
      ∀ i < s.numRxQueues,
        ((updateVid s vid set uc mc).1.rxRing i).vid.testBit 15 =
          (updateVid s vid set uc mc).1.activeVlans
            (((updateVid s vid set uc mc).1.rxRing i).vid &&& (VLAN_N_VID - 1)) ∧
        ∀ j < 16, j ≠ 15 →
          ((updateVid s vid set uc mc).1.rxRing i).vid.testBit j = (s.rxRing i).vid.testBit j) ∧
    (¬(0 < vid ∧ vid < VLAN_N_VID ∧ ¬(set = true ∧ s.vlanOverride = true)) →
      (updateVid s vid set uc mc).1.activeVlans = s.activeVlans ∧
        (updateVid s vid set uc mc).1.rxRing = s.rxRing) := by
  refine ⟨fun ⟨h₀, hN, ho⟩ => ?_, fun h => ?_⟩
  · -- the bitmap and the rings are those `updateActiveVlans` leaves
    have e : ringsView (updateVid s vid set uc mc).1 = ringsView (updateActiveVlans s vid set) := by
      unfold updateVid
      rw [if_neg (by omega), if_neg (by omega), if_neg (by simpa using ho)]
      dsimp only
      split_ifs
      · rfl
      · rfl
      · rfl
      · exact queueVidRequests_ringsView _ _ _ _ _
    simp only [ringsView, Prod.mk.injEq] at e
    obtain ⟨ha, hr, hn⟩ := e
    rw [ha, hr, hn]
    refine ⟨Function.update_same _ _ _, fun w hw => Function.update_noteq hw _ _, rfl,
      fun i hi => ?_⟩
    simp only [updateActiveVlans, if_pos hi]
    refine ⟨?_, fun j hj h15 => by rw [testBit_ringVid _ _ hj, if_neg h15]⟩
    rw [testBit_ringVid _ _ (by decide), if_pos rfl, ringVid_vlan]
  · have hr : vid = 0 ∨ VLAN_N_VID ≤ vid ∨ (set = true ∧ s.vlanOverride = true) := by
      rcases Nat.eq_zero_or_pos vid with h₀ | h₀
      · exact .inl h₀
      rcases Nat.lt_or_ge vid VLAN_N_VID with hN | hN
      · exact .inr (.inr (not_not.1 fun ho => h ⟨h₀, hN, ho⟩))
      · exact .inr (.inl hN)
    have e := @updateVid_of_reject s vid set uc mc hr
    exact ⟨by rw [e], by rw [e]⟩

/-! ### The base address -/

/-- `fm10k_set_mac`: with the interface up, sync the new address on every member VLAN and, if
that worked, unsync the old one; then record the new address. `-EAGAIN` on a failure. -/
def setMac (s : Intfc) (addr : MacAddr) : Intfc × Int :=
  if !isValidEtherAddr addr then (s, -EADDRNOTAVAIL)
  else
    let r : Intfc × Int := if s.flags.up then
        let r := ucSync s addr
        if r.2 = 0 then ((ucUnsync r.1 r.1.macAddr).1, r.2) else r
      else (s, 0)
    if r.2 = 0 then ({ r.1 with devAddr := addr, macAddr := addr }, 0) else (r.1, -EAGAIN)

/-- The MAC requests of an address on every member VLAN. -/
def memberMacRequests (s : Intfc) (addr : MacAddr) (set : Bool) :
    List (MacvlanRequestBody × Bool) :=
  (membersAbove s 0).flatMap fun v => [(macRequestBody s.glort addr v, set)]

/-- An invalid address is refused with `-EADDRNOTAVAIL` and changes nothing. -/
theorem setMac_of_invalid (s : Intfc) {addr : MacAddr} (h : isValidEtherAddr addr = false) :
    setMac s addr = (s, -EADDRNOTAVAIL) := by
  simp [setMac, h]

/-- On an interface that is not up, a valid address is recorded and nothing is queued. -/
theorem setMac_of_down (s : Intfc) {addr : MacAddr} (h : isValidEtherAddr addr = true)
    (hup : s.flags.up = false) : setMac s addr = ({ s with devAddr := addr, macAddr := addr }, 0) := by
  simp [setMac, h, hup]

/-- **A new base address on an up interface** is synced on every member VLAN, then the old
one is unsynced (if it was valid), then the new one recorded. -/
theorem setMac_of_up {s : Intfc} (hok : AllocOk s) (hd : s.defaultVid < VLAN_N_VID)
    {addr : MacAddr} (h : isValidEtherAddr addr = true) (hup : s.flags.up = true) :
    Emits s { (setMac s addr).1 with devAddr := s.devAddr, macAddr := s.macAddr }
        (memberMacRequests s addr true ++
          if isValidEtherAddr s.macAddr then memberMacRequests s s.macAddr false else []) [] ∧
      (setMac s addr).1.devAddr = addr ∧ (setMac s addr).1.macAddr = addr ∧
      (setMac s addr).2 = 0 := by
  obtain ⟨h₁, hr₁⟩ := addrSync_spec hok hd isValidEtherAddr addr true
  rw [h, if_pos rfl] at h₁ hr₁
  obtain ⟨h₂, -⟩ := addrSync_spec (h₁.allocOk hok) (h₁.defaultVid ▸ hd) isValidEtherAddr
    (addrSync isValidEtherAddr s addr true).1.macAddr false
  rw [show (if isValidEtherAddr (addrSync isValidEtherAddr s addr true).1.macAddr then
      (membersAbove (addrSync isValidEtherAddr s addr true).1 0).flatMap fun v =>
        [(macRequestBody (addrSync isValidEtherAddr s addr true).1.glort
          (addrSync isValidEtherAddr s addr true).1.macAddr v, false)] else []) =
      if isValidEtherAddr s.macAddr then memberMacRequests s s.macAddr false else [] by
    rw [h₁.macAddr, h₁.membersAbove, h₁.glort]; rfl] at h₂
  have hres : setMac s addr = ({ (addrSync isValidEtherAddr (addrSync isValidEtherAddr s addr true).1
      (addrSync isValidEtherAddr s addr true).1.macAddr false).1 with
        devAddr := addr, macAddr := addr }, 0) := by
    simp [setMac, h, hup, ucSync, ucUnsync, ucSyncAddr, hr₁]
  rw [hres]
  exact ⟨(h₁.trans h₂).setAddr s.devAddr s.macAddr, rfl, rfl, rfl⟩

/-! ### The multicast mode -/

/-- The multicast mode the device flags ask for, in order of priority. -/
def xcastModeOf (flags : NetFlags) : XcastMode :=
  if flags.promisc then .promisc
  else if flags.allmulti then .allmulti
  else if flags.broadcast || flags.multicast then .multi
  else .none

/-- The VLAN table side of the mode change in `fm10k_set_rx_mode`: outside IES mode, open the
table on entering promiscuous mode, and clear its gaps on leaving it. -/
def xcastVlans (s : Intfc) (xcastMode : XcastMode) : Intfc :=
  if !s.ies then
    let s := if xcastMode = .promisc then (queueVlanRequest s FM10K_VLAN_ALL 0 true).1 else s
    if s.xcastMode = .promisc then clearUnusedVlans s else s
  else s

/-- The mode change of `fm10k_set_rx_mode`: the VLAN table, then the logical port's mode if
the mailbox is ready, then the record of the mode. -/
def changeXcastMode (s : Intfc) (xcastMode : XcastMode) : Intfc :=
  let s := xcastVlans s xcastMode
  let s := if hostMbxReady s then s.callMbx (.updateXcastMode s.glort xcastMode) else s
  { s with xcastMode := xcastMode }

/-- `fm10k_set_rx_mode`, with the passes of the kernel's `__dev_uc_sync` and `__dev_mc_sync`. -/
def setRxMode (s : Intfc) (uc mc : AddrSyncPass) : Intfc :=
  if !s.flags.up then s
  else
    let xcastMode := xcastModeOf s.flags
    let s := if s.xcastMode ≠ xcastMode then changeXcastMode s xcastMode else s
    let s := (hwAddrSyncDev ucSync ucUnsync s uc).1
    (hwAddrSyncDev mcSync mcUnsync s mc).1

/-- The VLAN table after a request covering every VLAN id. -/
theorem vlanApply_all (t : Nat → Bool) (f : Bool) :
    vlanApply t (.vlan (FM10K_VLAN_ALL % 2 ^ 32) (0 % 2 ^ 8), f) =
      fun v => if v < VLAN_N_VID then f else t v := by
  have h : FM10K_VLAN_ALL % 2 ^ 32 = 0 + 4095 * 2 ^ 16 := by decide
  rw [h, vlanApply_range t (by decide)]
  funext v
  exact if_congr (by unfold VLAN_N_VID; omega) rfl rfl

/-- What the mode change does to the VLAN table. -/
def modeTable (s : Intfc) (xcastMode : XcastMode) (t : Nat → Bool) : Nat → Bool :=
  if s.ies then t
  else
    let t := if xcastMode = .promisc then fun v => if v < VLAN_N_VID then true else t v else t
    if s.xcastMode = .promisc then clearsFrom s 1 t else t

/-- **The VLAN side of a mode change**, with every allocation granted, queues only VLAN requests,
and the switch's table after them is `modeTable`. -/
theorem xcastVlans_spec {s : Intfc} (hok : AllocOk s) (hd : s.defaultVid < VLAN_N_VID)
    (xcastMode : XcastMode) :
    ∃ L, Emits s (xcastVlans s xcastMode) L [] ∧ (∀ b ∈ L, b.1.isVlan = true) ∧
      ∀ t, vlanTable t L = modeTable s xcastMode t := by
  unfold xcastVlans modeTable
  cases hies : s.ies
  · simp only [Bool.not_false, if_true, Bool.false_eq_true, if_false]
    -- the request opening the table, or none
    obtain ⟨s₁, L₁, hs₁, he₁, hL₁, ht₁⟩ : ∃ s₁ L₁,
        s₁ = (if xcastMode = .promisc then (queueVlanRequest s FM10K_VLAN_ALL 0 true).1 else s) ∧
        Emits s s₁ L₁ [] ∧ (∀ b ∈ L₁, b.1.isVlan = true) ∧ ∀ t, vlanTable t L₁ =
          if xcastMode = .promisc then fun v => if v < VLAN_N_VID then true else t v else t := by
      split
      · exact ⟨_, _, rfl, (queueRequest_emits hok _ true).1, by simp [MacvlanRequestBody.isVlan],
          fun t => by rw [vlanTable_cons, vlanTable_nil, vlanApply_all]⟩
      · exact ⟨s, [], rfl, Emits.refl s, by simp, fun t => rfl⟩
    rw [← hs₁, show s₁.xcastMode = s.xcastMode from he₁.congr Intfc.xcastMode fun _ _ _ => rfl]
    split
    · obtain ⟨L₂, he₂, hL₂, ht₂⟩ := clearUnusedVlans_emits (he₁.allocOk hok) (he₁.defaultVid ▸ hd)
      refine ⟨L₁ ++ L₂, he₁.trans he₂, fun b hb => (mem_append.1 hb).elim (hL₁ b) (hL₂ b),
        fun t => ?_⟩
      rw [vlanTable_append, ht₁, ht₂]
      funext v
      simp only [clearsFrom, he₁.vlanMember]
    · exact ⟨L₁, he₁, hL₁, ht₁⟩
  · exact ⟨[], Emits.refl s, by simp, fun t => rfl⟩

/-- **The mode change** queues only VLAN requests, which act on the table as `modeTable` says,
calls the mailbox for the PF's GLORT if it is ready, and records the mode. -/
theorem changeXcastMode_spec {s : Intfc} (hok : AllocOk s) (hd : s.defaultVid < VLAN_N_VID)
    (xcastMode : XcastMode) :
    ∃ L, Emits s { changeXcastMode s xcastMode with xcastMode := s.xcastMode } L
        (if hostMbxReady s then [.updateXcastMode s.glort xcastMode] else []) ∧
      (∀ b ∈ L, b.1.isVlan = true) ∧ (∀ t, vlanTable t L = modeTable s xcastMode t) ∧
      (changeXcastMode s xcastMode).xcastMode = xcastMode := by
  obtain ⟨L, he, hL, ht⟩ := xcastVlans_spec hok hd xcastMode
  refine ⟨L, ?_, hL, ht, rfl⟩
  have hready : hostMbxReady (xcastVlans s xcastMode) = hostMbxReady s :=
    he.congr hostMbxReady fun _ _ _ => rfl
  have hx : (xcastVlans s xcastMode).xcastMode = s.xcastMode :=
    he.congr Intfc.xcastMode fun _ _ _ => rfl
  unfold changeXcastMode
  dsimp only
  rw [hready, he.glort]
  split
  · have := (he.trans (callMbx_emits _ (.updateXcastMode s.glort xcastMode))).setXcastMode s.xcastMode
    simpa [hx] using this
  · have := he.setXcastMode s.xcastMode
    simpa [hx] using this

/-- The unicast then multicast sync passes, whatever the allocations give. -/
theorem syncPasses_macs (s : Intfc) (uc mc : AddrSyncPass) :
    EmitsOnly (MacFor s.glort (AddrSyncPass.addrs uc mc)) (fun _ => False) s
      (hwAddrSyncDev mcSync mcUnsync (hwAddrSyncDev ucSync ucUnsync s uc).1 mc).1 := by
  have h₁ : EmitsOnly (MacFor s.glort (uc.removed ++ uc.added)) (fun _ => False) s
      (hwAddrSyncDev ucSync ucUnsync s uc).1 := hwAddrSyncDev_macs isValidEtherAddr s uc
  have h₂ : EmitsOnly (MacFor (hwAddrSyncDev ucSync ucUnsync s uc).1.glort
      (mc.removed ++ mc.added)) (fun _ => False) (hwAddrSyncDev ucSync ucUnsync s uc).1
      (hwAddrSyncDev mcSync mcUnsync (hwAddrSyncDev ucSync ucUnsync s uc).1 mc).1 :=
    hwAddrSyncDev_macs isMulticastEtherAddr _ mc
  rw [h₁.congr Intfc.glort fun _ _ _ => rfl] at h₂
  exact h₁.macs_append h₂

/-- **`fm10k_set_rx_mode` on an up interface** changes the mode if the flags ask for another
one (`changeXcastMode_spec`), then queues only MAC requests for the PF's GLORT and the addresses
the kernel's passes visit. -/
theorem setRxMode_of_up {s : Intfc} (hok : AllocOk s) (hd : s.defaultVid < VLAN_N_VID)
    (hup : s.flags.up = true) (uc mc : AddrSyncPass) :
    ∃ Lv Ls M, Emits s { setRxMode s uc mc with xcastMode := s.xcastMode } (Lv ++ Ls) M ∧
      (setRxMode s uc mc).xcastMode = xcastModeOf s.flags ∧
      (∀ b ∈ Lv, b.1.isVlan = true) ∧
      (∀ t, vlanTable t Lv =
        if s.xcastMode = xcastModeOf s.flags then t else modeTable s (xcastModeOf s.flags) t) ∧
      (∀ c ∈ M, c = .updateXcastMode s.glort (xcastModeOf s.flags)) ∧
      MacRequestsFor s.glort (AddrSyncPass.addrs uc mc) Ls := by
  unfold setRxMode
  rw [if_neg (by simp [hup])]
  dsimp only
  split
  · next hne =>
    obtain ⟨Lv, hv, hLv, htv, hx⟩ := changeXcastMode_spec hok hd (xcastModeOf s.flags)
    have hok₁ : AllocOk (changeXcastMode s (xcastModeOf s.flags)) := hv.allocOk hok
    obtain ⟨Ls, hs, hms⟩ := (syncPasses_macs _ uc mc).noCalls
    refine ⟨Lv, Ls, _, hv.trans (hs.setXcastMode s.xcastMode), ?_, hLv, htv, fun c hc => ?_, ?_⟩
    · rw [hs.congr Intfc.xcastMode fun _ _ _ => rfl, hx]
    · simp only [append_nil] at hc
      split at hc
      · exact mem_singleton.1 hc
      · exact absurd hc (not_mem_nil _)
    · exact hv.glort ▸ hms
  · next heq =>
    obtain ⟨Ls, hs, hms⟩ := (syncPasses_macs s uc mc).noCalls
    refine ⟨[], Ls, [], hs.setXcastMode s.xcastMode, ?_, by simp,
      fun t => by rw [if_pos (not_not.1 heq)]; rfl, by simp, hms⟩
    rw [hs.congr Intfc.xcastMode fun _ _ _ => rfl]
    simpa using heq
end Fm10k
