import Fm10k.RxState

/-!
# Runs of the Receive Filters

Once the logical port is up, the stack calls the receive-filter entry points in any order:
VLAN changes (`ndo_vlan_rx_add_vid`, `ndo_vlan_rx_kill_vid`), new device flags followed by
`ndo_set_rx_mode`, and new base addresses (`ndo_set_mac_address`). `rxRun` runs such calls.

The switch applies the queued requests in order (`Fm10k.Switch`). On an up PF outside IES mode,
without VLAN override, whose allocations all succeed (`RxEnv`), the VLAN table it builds after
a restore agrees with the interface on every VLAN id from 1 on (`VlanSynced`): an id is open
iff the interface is promiscuous or a member of the VLAN.

VLAN 0 is the exception. A restore closes it with the request covering every id, but leaving
promiscuous mode clears only the gaps from 1 on: `fm10k_clear_unused_vlans` starts at
`prev_vid = vid = 0` and skips its first pass. After promiscuous mode, VLAN 0 stays open.

The base address has an exception of its own: `fm10k_set_mac` syncs the new address on every
member VLAN before it unsyncs the old one, so setting the current address again queues the
removal of its entries last.

## Main results

* `restoreRxState_synced`, `rxStep_synced`, `rxRun_synced`: a restore puts the VLAN table in
  step with the interface, and every call keeps it so.
* `vlan_table_synced`: after a restore and any calls, the table on the ids from 1 on.
* `restoreRxState_vlanTable`, `setRxMode_vlanTable`: what a restore and a mode change do to
  the VLAN table.
* `vlan_zero_open_after_promisc`: VLAN 0 stays open after promiscuous mode.
* `setMac_same_clears`, `setMac_current_address_drops_base`: setting the current base address
  again removes its entries.
-/

namespace Fm10k

open List

/-! ### Calls -/

/-- A call of the stack on the receive filters. A VLAN id comes as the `u16` of
`ndo_vlan_rx_add_vid` and `ndo_vlan_rx_kill_vid`, with the addresses the kernel then passes
back; new device flags come with `ndo_set_rx_mode` and the passes of its address lists. -/
inductive RxCall
  | updateVid (vid : UInt16) (set : Bool) (uc mc : List MacAddr)
  | setRxMode (flags : NetFlags) (uc mc : AddrSyncPass)
  | setMac (addr : MacAddr)

/-- One call, as the driver handles it. New flags leave `IFF_UP` alone: only opening and
closing the device change it. -/
def rxStep (s : Intfc) : RxCall → Intfc
  | .updateVid vid flag uc mc => (updateVid s vid.toNat flag uc mc).1
  | .setRxMode flags uc mc => setRxMode { s with flags := { flags with up := s.flags.up } } uc mc
  | .setMac addr => (setMac s addr).1

/-- A sequence of calls. -/
def rxRun (s : Intfc) (cs : List RxCall) : Intfc :=
  cs.foldl rxStep s

@[simp] theorem rxRun_nil (s : Intfc) : rxRun s [] = s := rfl

@[simp] theorem rxRun_cons (s : Intfc) (c : RxCall) (cs : List RxCall) :
    rxRun s (c :: cs) = rxRun (rxStep s c) cs := rfl

/-- A run of one address change is that change. -/
theorem rxRun_setMac (s : Intfc) (addr : MacAddr) : rxRun s [.setMac addr] = (setMac s addr).1 :=
  rfl

/-! ### The setting -/

/-- The setting of the filter invariants: an up PF outside IES mode, without VLAN override,
not going down, whose default VLAN is a VLAN id and whose allocations all succeed. -/
structure RxEnv (s : Intfc) : Prop where
  pf : s.macType = .pf
  ies : s.ies = false
  vlanOverride : s.vlanOverride = false
  defaultVid : s.defaultVid < VLAN_N_VID
  up : s.flags.up = true
  running : s.down = false
  allocOk : AllocOk s

/-- A stretch that only queues requests and calls the mailbox keeps the setting. -/
theorem RxEnv.of_emits {s s' : Intfc} {L : List (MacvlanRequestBody × Bool)}
    {M : List MbxCall} (he : RxEnv s) (h : Emits s s' L M) : RxEnv s' :=
  ⟨(h.congr Intfc.macType fun _ _ _ => rfl).trans he.pf,
    (h.congr Intfc.ies fun _ _ _ => rfl).trans he.ies,
    (h.congr Intfc.vlanOverride fun _ _ _ => rfl).trans he.vlanOverride,
    h.defaultVid ▸ he.defaultVid, (h.congr (·.flags.up) fun _ _ _ => rfl).trans he.up,
    (h.congr Intfc.down fun _ _ _ => rfl).trans he.running, h.allocOk he.allocOk⟩

@[simp] theorem xcastModeOf_eq_promisc (flags : NetFlags) :
    xcastModeOf flags = .promisc ↔ flags.promisc = true := by
  unfold xcastModeOf
  split_ifs <;> simp_all

/-- The VLAN table the switch builds from `t` agrees with the interface on the ids from 1:
the mode is the one the flags ask for, and an id is open iff the interface is promiscuous or a
member of the VLAN. -/
structure VlanSynced (t : Nat → Bool) (s : Intfc) : Prop where
  mode : s.xcastMode = xcastModeOf s.flags
  table : ∀ v, 1 ≤ v → v < VLAN_N_VID →
    vlanTable t (s.macvlanRequests.map MacvlanRequest.view) v =
      (decide (s.xcastMode = .promisc) || vlanMember s v)

/-! ### The restore -/

/-- A restore keeps the setting, records the mode the flags ask for, and keeps the flags, the
membership, the base address and the GLORT. -/
theorem restoreRxState_keeps {s : Intfc} (he : RxEnv s) (uc mc : AddrSyncPass) :
    RxEnv (restoreRxState s uc mc) ∧
      (restoreRxState s uc mc).xcastMode = xcastModeOf s.flags ∧
      (restoreRxState s uc mc).flags = s.flags ∧
      vlanMember (restoreRxState s uc mc) = vlanMember s ∧
      (restoreRxState s uc mc).macAddr = s.macAddr ∧ (restoreRxState s uc mc).glort = s.glort := by
  obtain ⟨s', Ls, h, -, hr⟩ := restoreRxState_spec he.allocOk he.defaultVid uc mc
  obtain ⟨a, b, c, hu⟩ := restoreUdpPortInfo_frame { s' with xcastMode := xcastModeOf s.flags }
  rw [hr, hu]
  have he' := he.of_emits h
  exact ⟨⟨he'.1, he'.2, he'.3, he'.4, he'.5, he'.6, he'.7⟩, rfl,
    h.congr Intfc.flags fun _ _ _ => rfl, h.vlanMember, h.macAddr, h.glort⟩

/-- **The VLAN table after a restore** is `restoreTable`, whatever the table before. -/
theorem restoreRxState_vlanTable {s : Intfc} (he : RxEnv s) (uc mc : AddrSyncPass)
    (t : Nat → Bool) :
    vlanTable t ((restoreRxState s uc mc).macvlanRequests.map MacvlanRequest.view) =
      restoreTable s (xcastModeOf s.flags)
        (vlanTable t (s.macvlanRequests.map MacvlanRequest.view)) := by
  obtain ⟨s', Ls, h, hLs, hr⟩ := restoreRxState_spec he.allocOk he.defaultVid uc mc
  obtain ⟨a, b, c, hu⟩ := restoreUdpPortInfo_frame { s' with xcastMode := xcastModeOf s.flags }
  rw [hr, hu]
  refine (h.vlanTable t).trans ?_
  rw [vlanTable_append, vlanTable_append, vlanTable_of_noVlan _ (restoreStationRequests_noVlan s),
    vlanTable_of_noVlan _ hLs.noVlan, vlanTable_restoreVlanRequests]

/-- **A restore keeps the VLAN table in step** with the interface, whatever the table before. -/
theorem restoreRxState_synced {s : Intfc} (he : RxEnv s) (uc mc : AddrSyncPass)
    (t : Nat → Bool) :
    RxEnv (restoreRxState s uc mc) ∧ VlanSynced t (restoreRxState s uc mc) := by
  obtain ⟨he', hx, hf, hm, -, -⟩ := restoreRxState_keeps he uc mc
  refine ⟨he', ⟨by rw [hx, hf], fun v h₁ h₂ => ?_⟩⟩
  rw [restoreRxState_vlanTable he, hx, hm]
  simp [restoreTable, h₂, he.ies]

/-! ### One call -/

/-- What a VLAN change does to the membership: the bit of `vid` takes `set`. -/
theorem vlanMember_updateActiveVlans (s : Intfc) (vid : Nat) (set : Bool) (v : Nat) :
    vlanMember (updateActiveVlans s vid set) v =
      if v = vid then decide (1 ≤ v ∧ v < VLAN_N_VID) && (set || v == s.defaultVid)
      else vlanMember s v := by
  by_cases hv : v = vid
  · subst hv; simp [vlanMember, updateActiveVlans]
  · simp [vlanMember, updateActiveVlans, hv]

/-- **A VLAN add or delete keeps the VLAN table in step** with the interface. -/
theorem updateVid_synced {s : Intfc} {t : Nat → Bool} (he : RxEnv s) (hs : VlanSynced t s)
    (vid : Nat) (set : Bool) (uc mc : List MacAddr) :
    RxEnv (updateVid s vid set uc mc).1 ∧ VlanSynced t (updateVid s vid set uc mc).1 := by
  by_cases hrej : vid = 0 ∨ VLAN_N_VID ≤ vid ∨ (set = true ∧ s.vlanOverride = true)
  · rw [updateVid_of_reject s set uc mc hrej]; exact ⟨he, hs⟩
  have h₀ : vid ≠ 0 := fun h => hrej (.inl h)
  have hN : vid < VLAN_N_VID := Nat.lt_of_not_le fun h => hrej (.inr (.inl h))
  have he₁ : RxEnv (updateActiveVlans s vid set) :=
    ⟨he.pf, he.ies, he.vlanOverride, he.defaultVid, he.up, he.running, he.allocOk⟩
  by_cases hdef : set = false ∧ vid = s.defaultVid
  · -- the default VLAN keeps its entries
    rw [updateVid_of_skip s set uc mc h₀ hN (by simp [he.vlanOverride]) (.inr (.inl hdef))]
    refine ⟨he₁, hs.mode, fun v h₁ h₂ => ?_⟩
    have hm : vlanMember (updateActiveVlans s vid set) v = vlanMember s v := by
      rw [vlanMember_updateActiveVlans]
      split
      · next hv => subst hv; simp [vlanMember, hdef.2, h₁, h₂]
      · rfl
    rw [hm]
    exact hs.table v h₁ h₂
  · -- the request for the VLAN, unless promiscuous, then MAC requests only
    rw [updateVid_of_queue s set uc mc h₀ hN he.vlanOverride hdef he.running]
    obtain ⟨L, h, hL, -, -⟩ := queueVidRequests_spec he₁.allocOk hN set uc mc
    have he₂ := he₁.of_emits h
    have hx : (queueVidRequests (updateActiveVlans s vid set) vid set uc mc).1.xcastMode =
        s.xcastMode := h.congr Intfc.xcastMode fun _ _ _ => rfl
    have hm : vlanMember (queueVidRequests (updateActiveVlans s vid set) vid set uc mc).1 =
        vlanMember (updateActiveVlans s vid set) := h.vlanMember
    refine ⟨⟨he₂.1, he₂.2, he₂.3, he₂.4, he₂.5, he₂.6, he₂.7⟩,
      (h.congr (fun x => x.xcastMode = xcastModeOf x.flags) fun _ _ _ => rfl).mpr hs.mode,
      fun v h₁ h₂ => ?_⟩
    refine (congrFun (h.vlanTable t) v).trans ?_
    rw [vlanTable_append, vlanTable_of_noVlan _ fun b hb => (mem_cons.1 hb).elim
      (fun e => by rw [e, macRequestBody_isVlan]) (hL.noVlan b), hx, hm,
      vlanMember_updateActiveVlans]
    have ht := hs.table v h₁ h₂
    cases hp : s.flags.promisc
    · have hx' : s.xcastMode ≠ .promisc := by rw [hs.mode, Ne, xcastModeOf_eq_promisc, hp]; simp
      simp only [vidVlanRequests, updateActiveVlans, he.ies, he.pf, hp, Bool.or_false,
        Bool.not_false, Bool.true_or, if_true, vlanTable_cons, vlanTable_nil,
        vlanApply_single _ (show vid < 2 ^ 16 by unfold VLAN_N_VID at hN; omega)]
      split
      · next hv =>
        subst hv
        cases set <;> simp_all
      · simpa [hx'] using ht
    · have hx' : s.xcastMode = .promisc := by rw [hs.mode, xcastModeOf_eq_promisc, hp]
      simp only [vidVlanRequests, updateActiveVlans, he.ies, he.pf, hp, Bool.or_false,
        Bool.not_true, Bool.false_or, beq_self_eq_true, reduceCtorEq, Bool.false_eq_true,
        if_false, vlanTable_nil]
      simpa [hx'] using ht

/-- **A mode change** opens the table on entering promiscuous mode and clears its gaps on
leaving it (`modeTable`), and records the mode of the new flags. -/
theorem setRxMode_vlanTable {s : Intfc} (he : RxEnv s) (flags : NetFlags)
    (uc mc : AddrSyncPass) (t : Nat → Bool) :
    RxEnv (rxStep s (.setRxMode flags uc mc)) ∧
      (rxStep s (.setRxMode flags uc mc)).xcastMode = xcastModeOf { flags with up := s.flags.up } ∧
      (rxStep s (.setRxMode flags uc mc)).flags = { flags with up := s.flags.up } ∧
      vlanMember (rxStep s (.setRxMode flags uc mc)) = vlanMember s ∧
      vlanTable t ((rxStep s (.setRxMode flags uc mc)).macvlanRequests.map MacvlanRequest.view) =
        if s.xcastMode = xcastModeOf { flags with up := s.flags.up } then
          vlanTable t (s.macvlanRequests.map MacvlanRequest.view)
        else modeTable s (xcastModeOf { flags with up := s.flags.up })
          (vlanTable t (s.macvlanRequests.map MacvlanRequest.view)) := by
  have he₁ : RxEnv { s with flags := { flags with up := s.flags.up } } :=
    ⟨he.pf, he.ies, he.vlanOverride, he.defaultVid, he.up, he.running, he.allocOk⟩
  obtain ⟨Lv, Ls, M, h, hx, -, htv, -, hLs⟩ := setRxMode_of_up he₁.allocOk he₁.defaultVid he₁.up uc mc
  have he₂ := he₁.of_emits h
  simp only [rxStep]
  refine ⟨⟨he₂.1, he₂.2, he₂.3, he₂.4, he₂.5, he₂.6, he₂.7⟩, hx,
    h.congr Intfc.flags fun _ _ _ => rfl, h.vlanMember, (h.vlanTable t).trans ?_⟩
  rw [vlanTable_append, vlanTable_of_noVlan _ hLs.noVlan, htv]
  rfl

/-- Entering promiscuous mode opens every VLAN id. -/
theorem modeTable_enter {s : Intfc} (hies : s.ies = false) (hx : s.xcastMode ≠ .promisc)
    (T : Nat → Bool) : modeTable s .promisc T = fun v => if v < VLAN_N_VID then true else T v := by
  simp [modeTable, hies, hx]

/-- Leaving promiscuous mode clears the ids that are not members, from 1 on. -/
theorem modeTable_leave {s : Intfc} (hies : s.ies = false) (hx : s.xcastMode = .promisc)
    {xcastMode : XcastMode} (hm : xcastMode ≠ .promisc) (T : Nat → Bool) :
    modeTable s xcastMode T = clearsFrom s 1 T := by
  simp [modeTable, hies, hx, hm]

/-- A mode change that neither enters nor leaves promiscuous mode leaves the table alone. -/
theorem modeTable_stay {s : Intfc} (hies : s.ies = false) (hx : s.xcastMode ≠ .promisc)
    {xcastMode : XcastMode} (hm : xcastMode ≠ .promisc) (T : Nat → Bool) :
    modeTable s xcastMode T = T := by
  simp [modeTable, hies, hx, hm]

/-- The table a mode change leaves agrees with the interface on the ids from 1, if the table
before it did. -/
theorem modeTable_synced {s : Intfc} (hies : s.ies = false) {T : Nat → Bool}
    (hT : ∀ v, 1 ≤ v → v < VLAN_N_VID →
      T v = (decide (s.xcastMode = .promisc) || vlanMember s v))
    {xcastMode : XcastMode} (hne : s.xcastMode ≠ xcastMode) (v : Nat) (h₁ : 1 ≤ v)
    (h₂ : v < VLAN_N_VID) :
    modeTable s xcastMode T v = (decide (xcastMode = .promisc) || vlanMember s v) := by
  by_cases hp : xcastMode = .promisc
  · subst hp
    simp [modeTable_enter hies hne, h₂]
  · by_cases hp₀ : s.xcastMode = .promisc
    · rw [modeTable_leave hies hp₀ hp, clearsFrom, hT v h₁ h₂, hp₀]
      cases vlanMember s v <;> simp [h₁, h₂, hp]
    · rw [modeTable_stay hies hp₀ hp, hT v h₁ h₂]
      simp [hp, hp₀]

/-- The MAC requests for the member VLANs are not VLAN requests. -/
theorem memberMacRequests_noVlan (s : Intfc) (addr : MacAddr) (set : Bool) :
    ∀ b ∈ memberMacRequests s addr set, b.1.isVlan = false := fun b hb => by
  obtain ⟨v, -, hb⟩ := mem_flatMap.1 hb
  rw [mem_singleton.1 hb, macRequestBody_isVlan]

/-- **An address change keeps the VLAN table in step** with the interface. -/
theorem setMac_synced {s : Intfc} {t : Nat → Bool} (he : RxEnv s) (hs : VlanSynced t s)
    (addr : MacAddr) : RxEnv (setMac s addr).1 ∧ VlanSynced t (setMac s addr).1 := by
  cases hv : isValidEtherAddr addr
  · rw [setMac_of_invalid s hv]; exact ⟨he, hs⟩
  obtain ⟨h, -, -, -⟩ := setMac_of_up he.allocOk he.defaultVid hv he.up
  have he' := he.of_emits h
  have hx : (setMac s addr).1.xcastMode = s.xcastMode := h.congr Intfc.xcastMode fun _ _ _ => rfl
  have hm : vlanMember (setMac s addr).1 = vlanMember s := h.vlanMember
  refine ⟨⟨he'.1, he'.2, he'.3, he'.4, he'.5, he'.6, he'.7⟩,
    (h.congr (fun x => x.xcastMode = xcastModeOf x.flags) fun _ _ _ => rfl).mpr hs.mode,
    fun v h₁ h₂ => ?_⟩
  refine (congrFun (h.vlanTable t) v).trans ?_
  rw [vlanTable_of_noVlan _ fun b hb => (mem_append.1 hb).elim
    (memberMacRequests_noVlan s addr true b) fun hb => ?_, hx, hm]
  · exact hs.table v h₁ h₂
  · split at hb
    · exact memberMacRequests_noVlan s s.macAddr false b hb
    · exact absurd hb (not_mem_nil _)

/-- **One call keeps the VLAN table in step** with the interface. -/
theorem rxStep_synced {s : Intfc} {t : Nat → Bool} (he : RxEnv s) (hs : VlanSynced t s) :
    ∀ c, RxEnv (rxStep s c) ∧ VlanSynced t (rxStep s c)
  | .updateVid vid flag uc mc => updateVid_synced he hs vid.toNat flag uc mc
  | .setRxMode flags uc mc => by
    obtain ⟨he', hx, hf, hm, ht⟩ := setRxMode_vlanTable he flags uc mc t
    refine ⟨he', by rw [hx, hf], fun v h₁ h₂ => ?_⟩
    rw [ht, hx, hm]
    split
    · next heq => rw [hs.table v h₁ h₂, heq]
    · next hne => exact modeTable_synced he.ies (hs.table) hne v h₁ h₂
  | .setMac addr => setMac_synced he hs addr

/-- Every sequence of filter calls keeps the VLAN table in step with the interface. -/
theorem rxRun_synced {s : Intfc} {t : Nat → Bool} (he : RxEnv s) (hs : VlanSynced t s)
    (cs : List RxCall) : RxEnv (rxRun s cs) ∧ VlanSynced t (rxRun s cs) := by
  induction cs generalizing s with
  | nil => exact ⟨he, hs⟩
  | cons c cs ih =>
    obtain ⟨he', hs'⟩ := rxStep_synced he hs c
    exact ih he' hs'

/-- **The VLAN table from 1 on.** After a restore and any sequence of VLAN changes, mode
changes and base-address changes, the switch's VLAN table opens an id from 1 to 4095 iff the
interface is promiscuous or a member of that VLAN, whatever the table before. -/
theorem vlan_table_synced (s : Intfc) (he : RxEnv s) (uc mc : AddrSyncPass) (cs : List RxCall)
    (t : Nat → Bool) (v : Nat) (h₁ : 1 ≤ v) (h₂ : v < VLAN_N_VID) :
    vlanTable t ((rxRun (restoreRxState s uc mc) cs).macvlanRequests.map MacvlanRequest.view) v =
      (decide ((rxRun (restoreRxState s uc mc) cs).xcastMode = .promisc) ||
        vlanMember (rxRun (restoreRxState s uc mc) cs) v) :=
  (rxRun_synced (restoreRxState_synced he uc mc t).1 (restoreRxState_synced he uc mc t).2
    cs).2.table v h₁ h₂

/-- A freshly probed PF brought up with broadcast and multicast enabled, with base address
`02:00:00:00:00:01` and default VLAN 1, whose allocations all succeed. -/
def upPf : Intfc :=
  { Intfc.zeroed .pf ⟨0, fun _ => true, [], []⟩ with
    flags := ⟨true, false, false, true, true⟩, macAddr := ⟨2, 0, 0, 0, 0, 1⟩, defaultVid := 1 }

/-- `upPf` is in the setting of the filter invariants. -/
theorem upPf_env : RxEnv upPf :=
  ⟨rfl, rfl, rfl, by decide, rfl, rfl, fun _ => rfl⟩

/-- From `upPf`, a restore and then an add of VLAN 5. -/
theorem vlan_table_synced_upPf :
    RxEnv upPf ∧ 1 ≤ 5 ∧ 5 < VLAN_N_VID ∧
      vlanTable (fun _ => false) ((rxRun (restoreRxState upPf ⟨[], []⟩ ⟨[], []⟩)
          [.updateVid 5 true [] []]).macvlanRequests.map MacvlanRequest.view) 5 =
        (decide ((rxRun (restoreRxState upPf ⟨[], []⟩ ⟨[], []⟩) [.updateVid 5 true [] []]).xcastMode =
            .promisc) ||
          vlanMember (rxRun (restoreRxState upPf ⟨[], []⟩ ⟨[], []⟩) [.updateVid 5 true [] []]) 5) :=
  ⟨upPf_env, by decide, by decide,
    vlan_table_synced upPf upPf_env _ _ _ _ 5 (by decide) (by decide)⟩

/-! ### VLAN 0 -/

/-- **VLAN 0 after promiscuous mode**: a restore outside promiscuous mode closes VLAN 0, but
entering promiscuous mode and leaving it again leaves VLAN 0 open in the table, while the
interface is no longer promiscuous. -/
theorem vlanZero_after_promisc {s : Intfc} (he : RxEnv s) (hs : xcastModeOf s.flags ≠ .promisc)
    (uc mc : AddrSyncPass) {f₁ f₂ : NetFlags} (h₁ : f₁.promisc = true) (h₂ : f₂.promisc = false)
    (uc₁ mc₁ uc₂ mc₂ : AddrSyncPass) (t : Nat → Bool) :
    vlanTable t ((restoreRxState s uc mc).macvlanRequests.map MacvlanRequest.view) 0 = false ∧
      vlanTable t ((rxRun (restoreRxState s uc mc)
        [.setRxMode f₁ uc₁ mc₁, .setRxMode f₂ uc₂ mc₂]).macvlanRequests.map
          MacvlanRequest.view) 0 = true ∧
      (rxRun (restoreRxState s uc mc) [.setRxMode f₁ uc₁ mc₁, .setRxMode f₂ uc₂ mc₂]).xcastMode ≠
        .promisc := by
  have hm₁ : ∀ u, xcastModeOf { f₁ with up := u } = .promisc := fun u => by simp [h₁]
  have hm₂ : ∀ u, xcastModeOf { f₂ with up := u } ≠ .promisc := fun u => by simp [h₂]
  obtain ⟨he₁, hx₁, -, -, -, -⟩ := restoreRxState_keeps he uc mc
  obtain ⟨he₂, hx₂, -, -, ht₂⟩ := setRxMode_vlanTable he₁ f₁ uc₁ mc₁ t
  obtain ⟨-, hx₃, -, -, ht₃⟩ := setRxMode_vlanTable he₂ f₂ uc₂ mc₂ t
  rw [hm₁] at hx₂ ht₂
  rw [hx₁] at ht₂
  simp only [rxRun_cons, rxRun_nil]
  refine ⟨by simp [restoreRxState_vlanTable he, restoreTable, he.ies, hs, vlanMember, VLAN_N_VID],
    ?_, by rw [hx₃]; exact hm₂ _⟩
  -- entering promiscuous mode opens every id, leaving it clears the gaps from 1 on only
  rw [ht₃, hx₂, if_neg (Ne.symm (hm₂ _)), modeTable_leave he₂.ies hx₂ (hm₂ _), clearsFrom,
    if_neg (by omega), ht₂, if_neg hs, modeTable_enter he₁.ies (hx₁ ▸ hs)]
  rfl

/-- From `upPf` restored, entering promiscuous mode and leaving it leaves VLAN 0 open in the
switch although the interface is not promiscuous, while a restore closes it. -/
theorem vlan_zero_open_after_promisc :
    vlanTable (fun _ => false)
        ((restoreRxState upPf ⟨[], []⟩ ⟨[], []⟩).macvlanRequests.map MacvlanRequest.view) 0 =
      false ∧
    vlanTable (fun _ => false) ((rxRun (restoreRxState upPf ⟨[], []⟩ ⟨[], []⟩)
        [.setRxMode ⟨true, true, false, true, true⟩ ⟨[], []⟩ ⟨[], []⟩,
          .setRxMode ⟨true, false, false, true, true⟩ ⟨[], []⟩ ⟨[], []⟩]).macvlanRequests.map
        MacvlanRequest.view) 0 = true ∧
    (rxRun (restoreRxState upPf ⟨[], []⟩ ⟨[], []⟩)
        [.setRxMode ⟨true, true, false, true, true⟩ ⟨[], []⟩ ⟨[], []⟩,
          .setRxMode ⟨true, false, false, true, true⟩ ⟨[], []⟩ ⟨[], []⟩]).xcastMode ≠ .promisc :=
  vlanZero_after_promisc upPf_env (by decide) _ _ rfl rfl _ _ _ _ _

/-! ### The base address -/

/-- With no secondary address and no station, a restore sets the base address on every member
VLAN in the MAC table. -/
theorem restoreRxState_macTable {s : Intfc} (he : RxEnv s) (hl2 : s.l2Accel = none)
    (T : Nat → MacAddr → Nat → Bool) {v : Nat} (hv : vlanMember s v = true) :
    macTable T ((restoreRxState s ⟨[], []⟩ ⟨[], []⟩).macvlanRequests.map MacvlanRequest.view)
      (s.glort % 2 ^ 16) s.macAddr v = true := by
  obtain ⟨s', Ls, h, hLs, hr⟩ := restoreRxState_spec he.allocOk he.defaultVid ⟨[], []⟩ ⟨[], []⟩
  obtain ⟨a, b, c, hu⟩ := restoreUdpPortInfo_frame { s' with xcastMode := xcastModeOf s.flags }
  have hLs' : Ls = [] := eq_nil_iff_forall_not_mem.2 fun b hb => by
    obtain ⟨a, ha, -⟩ := hLs b hb
    exact not_mem_nil _ ha
  have hst : restoreStationRequests s = [] := by unfold restoreStationRequests; rw [hl2]
  rw [hr, hu]
  refine (congrFun (congrFun (congrFun (h.macTable T) _) _) _).trans ?_
  rw [hLs', hst, append_nil, append_nil, restoreVlanRequests, macTable_cons]
  refine (congrFun (congrFun (congrFun (macTable_perVid _ s.glort s.macAddr true
    (fun v => [(.vlan (v % 2 ^ 32) (0 % 2 ^ 8), true)]) (fun _ b hb => by rw [mem_singleton.1 hb]; rfl)
    (membersAbove s 0) membersAbove_lt) _) _) _).trans ?_
  simp [mem_membersAbove_zero.2 hv]

/-- **Setting the current base address again** removes its entries on every member VLAN: the
sync of the new address comes first, the unsync of the old one last. -/
theorem setMac_same_clears {s : Intfc} (he : RxEnv s) (hv : isValidEtherAddr s.macAddr = true)
    (T : Nat → MacAddr → Nat → Bool) {v : Nat} (hm : vlanMember s v = true) :
    macTable T ((setMac s s.macAddr).1.macvlanRequests.map MacvlanRequest.view)
      (s.glort % 2 ^ 16) s.macAddr v = false := by
  obtain ⟨h, -, -, -⟩ := setMac_of_up he.allocOk he.defaultVid hv he.up
  refine (congrFun (congrFun (congrFun (h.macTable T) _) _) _).trans ?_
  rw [if_pos hv, macTable_append]
  refine (congrFun (congrFun (congrFun (macTable_perVid _ s.glort s.macAddr false (fun _ => [])
    (fun _ _ hb => absurd hb (not_mem_nil _)) (membersAbove s 0) membersAbove_lt) _) _) _).trans ?_
  simp [mem_membersAbove_zero.2 hm]

/-- From `upPf` restored, the base address is on VLAN 1, its default VLAN; setting the same
address again removes that entry from the switch. -/
theorem setMac_current_address_drops_base :
    vlanMember (restoreRxState upPf ⟨[], []⟩ ⟨[], []⟩) 1 = true ∧
    macTable (fun _ _ _ => false) ((restoreRxState upPf ⟨[], []⟩ ⟨[], []⟩).macvlanRequests.map
      MacvlanRequest.view) 0 ⟨2, 0, 0, 0, 0, 1⟩ 1 = true ∧
    macTable (fun _ _ _ => false) ((rxRun (restoreRxState upPf ⟨[], []⟩ ⟨[], []⟩)
      [.setMac ⟨2, 0, 0, 0, 0, 1⟩]).macvlanRequests.map MacvlanRequest.view)
      0 ⟨2, 0, 0, 0, 0, 1⟩ 1 = false := by
  obtain ⟨he₁, -, -, hm₁, ha₁, hg₁⟩ := restoreRxState_keeps upPf_env ⟨[], []⟩ ⟨[], []⟩
  have hm : vlanMember upPf 1 = true := rfl
  have hm' : vlanMember (restoreRxState upPf ⟨[], []⟩ ⟨[], []⟩) 1 = true := by rw [hm₁]; rfl
  have h := setMac_same_clears he₁ (by rw [ha₁]; rfl) (fun _ _ _ => false) hm'
  rw [ha₁, hg₁] at h
  refine ⟨hm', ?_, ?_⟩
  · exact restoreRxState_macTable upPf_env rfl _ hm
  · rw [show upPf.glort % 2 ^ 16 = 0 from rfl, show upPf.macAddr = ⟨2, 0, 0, 0, 0, 1⟩ from rfl] at h
    rw [rxRun_setMac]
    exact h

end Fm10k
