import Fm10k.RxState

/-!
# Station GLORTs along Adds, Deletes and Restores

After `fm10k_request_glort_range` the PF owns `[glort, glort + glort_count - 1]`, and its
stations get the GLORTs above its own: slot `i` of the forwarding table has GLORT
`dglort + 1 + i`. This module follows the GLORTs the driver programs along any sequence of
station adds and deletes (`Fm10k.L2Accel`) and restores of the receive filters
(`Fm10k.RxState`), for any allocation outcome.

The range is safe when the table is created after the range is requested: the table then
starts at the PF's GLORT. A table kept from an earlier assignment keeps its old first GLORT:
one delete then programs the DGLORT map at the new `interface->glort` but the station's
rules at the table's old `l2_accel->dglort`, outside the new range
(`stale_table_station_glort`).

## Main results

* `restoreRxState_glorts`: a restore programs only the PF's GLORT and its stations'.
* `glortRun_glorts`: the GLORT invariant and the programmed GLORTs along every run.
* `station_glorts_in_range`: from a range requested with no table, every station's GLORT is
  `glort + 1 + i` for its slot `i`, inside the range, and nothing else is programmed.
-/

namespace Fm10k

open List

/-! ### The restore -/

/-- A stretch that only queues requests and calls the mailbox keeps the tables. -/
theorem EmitsOnly.sameTables {P : MacvlanRequestBody × Bool → Prop} {Q : MbxCall → Prop}
    {s s' : Intfc} (h : EmitsOnly P Q s s') : SameTables s s' :=
  ⟨h.congr Intfc.l2Accel fun _ _ _ => rfl, h.congr Intfc.l2Tables fun _ _ _ => rfl,
    h.congr Intfc.numRxQueues fun _ _ _ => rfl, h.congr Intfc.rxRing fun _ _ _ => rfl,
    h.congr Intfc.glort fun _ _ _ => rfl, h.congr Intfc.glortCount fun _ _ _ => rfl,
    h.congr Intfc.dglortMap fun _ _ _ => rfl⟩

/-- Under the GLORT invariant, a GLORT a restore may program is the PF's or one of the range
above it. -/
theorem restoreGlort_mem {s : Intfc} (hg : GlortInv s) {g : Nat} (h : RestoreGlort s g) :
    g = s.glort ∨ s.glort + 1 ≤ g ∧ g ≤ s.glort + s.glortCount - 1 := by
  have := hg.range.top_le
  have := hg.range.count_pos
  have := hg.nowrap
  rcases h with h | h | ⟨p, i, hp, hi, hs, rfl⟩
  · exact .inl (h.trans (Nat.mod_eq_of_lt (by omega)))
  · exact .inl h
  · obtain ⟨hd, -, hslot⟩ := hg.table p hp
    exact .inr ((glortOf_mem hg.range hg.nowrap hd (hslot i hi hs)).1 ▸
      ⟨by omega, (glortOf_mem hg.range hg.nowrap hd (hslot i hi hs)).2⟩)

/-- What a stretch of calls programs, read as `StationGlorts`. -/
theorem stationGlorts_of_only {s s' : Intfc}
    (h : EmitsOnly (fun b => ∀ g, b.1.glort? = some g →
        g = s.glort ∨ s.glort + 1 ≤ g ∧ g ≤ s.glort + s.glortCount - 1)
      (fun c => ∀ g m, c = .updateXcastMode g m →
        g = s.glort ∨ s.glort + 1 ≤ g ∧ g ≤ s.glort + s.glortCount - 1) s s') :
    StationGlorts s s' := by
  obtain ⟨L, M, e, hL, hM⟩ := h
  obtain ⟨Δ, hΔ, hv⟩ := e.requests
  refine ⟨M, Δ, e.mbx, hΔ, fun g m hc => hM _ hc g m rfl, fun r hr g hg => ?_⟩
  exact hL r.view (hv ▸ mem_map_of_mem _ hr) g hg

/-- **A restore** keeps the tables and the GLORT range and programs only the PF's GLORT and its
stations', whatever the allocations give. -/
theorem restoreRxState_glorts {s : Intfc} (hi : L2Inv s) (hg : GlortInv s)
    (uc mc : AddrSyncPass) :
    L2Inv (restoreRxState s uc mc) ∧ GlortInv (restoreRxState s uc mc) ∧
      StationGlorts s (restoreRxState s uc mc) ∧
      (restoreRxState s uc mc).glort = s.glort ∧
      (restoreRxState s uc mc).glortCount = s.glortCount := by
  obtain ⟨s', h, hr⟩ := restoreRxState_only s uc mc
  obtain ⟨a, b, c, hu⟩ := restoreUdpPortInfo_frame { s' with xcastMode := xcastModeOf s.flags }
  have hs : SameTables s (restoreRxState s uc mc) := by
    rw [hr, hu]; exact h.sameTables.trans ⟨rfl, rfl, rfl, rfl, rfl, rfl, rfl⟩
  have hp : StationGlorts s' (restoreRxState s uc mc) := by
    rw [hr, hu]; exact stationGlorts_of_same rfl rfl
  refine ⟨hi.of_same hs, hg.of_same hs, ?_, hs.glort, hs.glortCount⟩
  exact (stationGlorts_of_only (h.mono (fun _ hb g hgb => restoreGlort_mem hg (hb g hgb))
    fun _ hc g m he => restoreGlort_mem hg (hc g m he))).trans hp h.sameTables.glort
    h.sameTables.glortCount

/-! ### Runs -/

/-- A call that programs station GLORTs: an add or a delete of a station, or a restore of the
receive filters. -/
inductive GlortCall
  | l2 (c : L2Call)
  | restore (uc mc : AddrSyncPass)

/-- One call, as the driver handles it. -/
def glortStep (s : Intfc) : GlortCall → Intfc
  | .l2 c => l2Step s c
  | .restore uc mc => restoreRxState s uc mc

/-- A sequence of calls. -/
def glortRun (s : Intfc) (cs : List GlortCall) : Intfc :=
  cs.foldl glortStep s

/-- **One step keeps the GLORTs in range.** An add, a delete or a restore keeps the table and GLORT
invariants and the range, and programs only the PF's and its stations' GLORTs. -/
theorem glortStep_glorts {s : Intfc} (hi : L2Inv s) (hg : GlortInv s) :
    ∀ c, L2Inv (glortStep s c) ∧ GlortInv (glortStep s c) ∧ StationGlorts s (glortStep s c) ∧
      (glortStep s c).glort = s.glort ∧ (glortStep s c).glortCount = s.glortCount
  | .l2 c => ⟨l2Step_inv hi c, l2Step_glorts hi hg c⟩
  | .restore uc mc => restoreRxState_glorts hi hg uc mc

/-- Along every run the tables stay well formed, the GLORT invariant holds, and every GLORT
programmed is the PF's or one of its stations'. -/
theorem glortRun_glorts {s : Intfc} (hi : L2Inv s) (hg : GlortInv s) (cs : List GlortCall) :
    L2Inv (glortRun s cs) ∧ GlortInv (glortRun s cs) ∧ StationGlorts s (glortRun s cs) ∧
      (glortRun s cs).glort = s.glort ∧ (glortRun s cs).glortCount = s.glortCount := by
  induction cs generalizing s with
  | nil => exact ⟨hi, hg, stationGlorts_of_same rfl rfl, rfl, rfl⟩
  | cons c cs ih =>
    obtain ⟨hi₁, hg₁, hs₁, hgl₁, hc₁⟩ := glortStep_glorts hi hg c
    obtain ⟨hi₂, hg₂, hs₂, hgl₂, hc₂⟩ := ih hi₁ hg₁
    exact ⟨hi₂, hg₂, hs₁.trans hs₂ hgl₁ hc₁, hgl₂.trans hgl₁, hc₂.trans hc₁⟩

/-- The GLORT guarantees of a state `s` reached from `s₀`: the PF's range is non-empty and
inside the switch's, it has not moved since `s₀`, every GLORT programmed since `s₀` is the
PF's or in the range above it, and the station in slot `i` has GLORT `glort + 1 + i`, inside
the range. -/
structure GlortSafe (s₀ s : Intfc) : Prop where
  range : GlortRange s
  glort : s.glort = s₀.glort
  glortCount : s.glortCount = s₀.glortCount
  programmed : StationGlorts s₀ s
  stations : ∀ p, s.l2Accel = some p → ∀ i < (s.table p).size, (s.table p).slot i ≠ none →
    (s.table p).glortOf i = s.glort + 1 + i ∧ s.glort + 1 + i ≤ s.glort + s.glortCount - 1

/-- **Station GLORTs stay in range**: for an assigned range that does not wrap, requested while
the PF has no forwarding table, along every sequence of adds, deletes and restores, whatever
the allocations give. -/
theorem station_glorts_in_range (s : Intfc) (hmap : s.dglortMap ≠ FM10K_DGLORTMAP_NONE)
    (hwrap : dglortBase s.dglortMap + dglortMask s.dglortMap ≤ 0xFFFF) (hi : L2Inv s)
    (hl2 : s.l2Accel = none) (cs : List GlortCall) :
    GlortSafe (requestGlortRange s) (glortRun (requestGlortRange s) cs) := by
  obtain ⟨g, c, hreq⟩ := requestGlortRange_frame s
  have hr := requestGlortRange_range s hmap hwrap
  rw [hreq] at hr ⊢
  have hi₀ : L2Inv { s with glort := g, glortCount := c } := ⟨hi.1, hi.2⟩
  have hg₀ : GlortInv { s with glort := g, glortCount := c } :=
    ⟨hr, hwrap, fun p hp => by simp [hl2] at hp⟩
  obtain ⟨-, hg, hs, hgl, hc⟩ := glortRun_glorts hi₀ hg₀ cs
  refine ⟨hg.range, hgl, hc, hs, fun p hp i hi hslot => ?_⟩
  obtain ⟨hd, -, hslots⟩ := hg.table p hp
  exact glortOf_mem hg.range hg.nowrap hd (hslots i hi hslot)

/-- A PF without a forwarding table to which the switch assigns GLORTs `0x200` to `0x23f`. -/
def rangedPf : Intfc :=
  { Intfc.zeroed .pf ⟨0, fun _ => true, [], []⟩ with dglortMap := 0xFFC00200 }

/-- The range requested on `rangedPf`, which has no table, followed by a restore. -/
theorem station_glorts_in_range_probe :
    rangedPf.dglortMap ≠ FM10K_DGLORTMAP_NONE ∧
      dglortBase rangedPf.dglortMap + dglortMask rangedPf.dglortMap ≤ 0xFFFF ∧
      L2Inv rangedPf ∧ rangedPf.l2Accel = none ∧
      GlortSafe (requestGlortRange rangedPf)
        (glortRun (requestGlortRange rangedPf) [.restore ⟨[], []⟩ ⟨[], []⟩]) := by
  have hi : L2Inv rangedPf := ⟨fun _ hp => absurd hp (by simp [rangedPf, Intfc.zeroed]),
    fun _ hi => absurd hi (Nat.not_lt_zero _)⟩
  exact ⟨by decide, by decide, hi, rfl,
    station_glorts_in_range rangedPf (by decide) (by decide) hi rfl _⟩

/-- A PF whose forwarding table was set up under an earlier GLORT assignment: the table starts
at GLORT `0x100` and holds one station in slot 0, while the switch now assigns `0x200` to
`0x23f`. -/
def staleStation : Intfc :=
  { Intfc.zeroed .pf ⟨0, fun _ => true, [], []⟩ with
    dglortMap := 0xFFC00200, hostReady := true, l2Accel := some 0,
    l2Tables := fun p => if p = 0 then
      some ⟨7, 1, 0x100, [some 100, none, none, none, none, none, none]⟩
      else none
    sdevAddr := fun _ => ⟨2, 0, 0, 0, 0, 2⟩ }

/-- With the table of `staleStation` kept, the range requested is `0x220` to `0x23f`. Deleting
the station then programs the table's DGLORT map at the PF's GLORT `0x220`, but clears the
station's mode at GLORT `0x101`, outside the range. -/
theorem stale_table_station_glort :
    staleStation.dglortMap ≠ FM10K_DGLORTMAP_NONE ∧
    dglortBase staleStation.dglortMap + dglortMask staleStation.dglortMap ≤ 0xFFFF ∧
    L2Inv staleStation ∧
    (requestGlortRange staleStation).glort = 0x220 ∧
    (requestGlortRange staleStation).glortCount = 32 ∧
    MbxCall.configureDglortMap 0x220 3 ∈
      (glortRun (requestGlortRange staleStation) [.l2 (.del 100)]).mbx ∧
    MbxCall.updateXcastMode 0x101 .none ∈
      (glortRun (requestGlortRange staleStation) [.l2 (.del 100)]).mbx := by
  refine ⟨by decide, by decide, ⟨fun p hp => ?_, fun i hi => absurd hi (Nat.not_lt_zero _)⟩,
    by decide, by decide, by decide, by decide⟩
  simp only [staleStation, Option.some.injEq] at hp
  subst hp
  exact ⟨_, rfl, ⟨by decide, by decide, by decide⟩, by decide⟩

end Fm10k
