import Fm10k.Switch

/-!
# VLAN Ids

The interface is a member of the VLANs of its `active_vlans` bitmap and of the default VLAN
the switch assigned (`hw->mac.default_vid`), VLAN 0 excepted (`vlanMember`).
`fm10k_find_next_vlan` steps from one member to the next, and three loops of the driver walk
the members with it: `__fm10k_uc_sync`, `__fm10k_mc_sync` and `fm10k_restore_rx_state`
(`forEachVlan`). `fm10k_clear_unused_vlans` walks them too, and clears the gaps between them
in the switch's VLAN table, one request per gap.

The loops are written with an explicit bound on their passes (`fuel`); the bounds given are
enough, and the loops are equal to runs over the list of members (`forEachVlan_eq`).

## Main results

* `findNextVlan_spec`: the next VLAN is the least member above `vid`, or `VLAN_N_VID`.
* `forEachVlan_eq`: the `for` loop over `fm10k_find_next_vlan` visits exactly the members, in
  increasing order, once each.
* `clearUnusedVlans_emits`: clearing the gaps queues only VLAN requests, which clear exactly
  the ids from 1 to 4095 that are not members.
* `clearUnusedVlans_eq`: the loop queues one clear request per gap of the membership
  (`vlanGaps`, the maximal runs of non-members), in increasing order; `mem_gapsFrom` and
  `gapsFrom_pairwise`: the gaps cover exactly the non-members and are apart from one another.
* `clear_unused_vlans_attempts`: whatever the allocations give, the request of each gap is
  queued exactly when its allocation succeeds, the errors being ignored.
* `clear_unused_vlans_runs`: with every allocation granted, the values queued encode, without
  loss, maximal runs in increasing order that cover exactly the non-members;
  `clear_unused_vlans_refused`: with every allocation refused, nothing is queued.
-/

namespace Fm10k

open List

/-! ### Constants -/

/-- `VLAN_N_VID`, the number of VLAN ids. -/
def VLAN_N_VID : Nat := 4096

/-- Modelled from the spec: `FM10K_VLAN_LENGTH_SHIFT`, the bit from which the value of a VLAN
request holds the length of its run. -/
def FM10K_VLAN_LENGTH_SHIFT : Nat := 16

/-- Modelled from the spec: `FM10K_VLAN_ALL`, the value of a VLAN request covering the ids
`0` to `VLAN_N_VID - 1`. -/
def FM10K_VLAN_ALL : Nat := (VLAN_N_VID - 1) <<< FM10K_VLAN_LENGTH_SHIFT

/-! ### Searching the bitmap -/

/-- The first set bit among the `k` bits of `bits` from `i`, or `i + k` if there is none. -/
def scanBits (bits : Nat → Bool) : Nat → Nat → Nat
  | 0, i => i
  | k + 1, i => if bits i then i else scanBits bits k (i + 1)

/-- Modelled from the spec: the kernel's `find_next_bit(addr, size, offset)`, the first set
bit in `[offset, size)`, or `size`. -/
def findNextBit (bits : Nat → Bool) (size offset : Nat) : Nat :=
  if offset < size then scanBits bits (size - offset) offset else size

/-- `fm10k_find_next_vlan` (the bitmap variant): the next active VLAN above `vid`, stopping at
the default VLAN while below it, or `VLAN_N_VID`. `vid` is a `u16`. -/
def findNextVlan (s : Intfc) (vid : Nat) : Nat :=
  let vidLimit := if vid < s.defaultVid then s.defaultVid else VLAN_N_VID
  findNextBit s.activeVlans vidLimit ((vid + 1) % 2 ^ 16)

/-- The VLANs the interface is a member of: the ids from 1 below `VLAN_N_VID` that are active
or the default. -/
def vlanMember (s : Intfc) (v : Nat) : Bool :=
  decide (1 ≤ v ∧ v < VLAN_N_VID) && (s.activeVlans v || v == s.defaultVid)

/-- `r` is the first index in `[lo, hi)` where `p` holds, or `hi` if there is none. -/
structure FirstSet (p : Nat → Bool) (lo hi r : Nat) : Prop where
  lo_le : lo ≤ r
  le_hi : r ≤ hi
  found : r < hi → p r = true
  gap : ∀ u, lo ≤ u → u < r → p u = false

/-- **The bit scan** returns the first set bit among the `k` bits from `i`, or `i + k`. -/
theorem scanBits_spec (bits : Nat → Bool) : ∀ k i, FirstSet bits i (i + k) (scanBits bits k i)
  | 0, i => ⟨le_refl _, by simp [scanBits], by simp [scanBits], fun u h₁ h₂ => by
      simp only [scanBits] at h₂; omega⟩
  | k + 1, i => by
    by_cases h : bits i = true
    · simp only [scanBits, h, if_true]
      exact ⟨le_refl _, by omega, fun _ => h, fun u h₁ h₂ => by omega⟩
    · have ih := scanBits_spec bits k (i + 1)
      simp only [scanBits, h, if_false, Bool.false_eq_true]
      refine ⟨by have := ih.lo_le; omega, by have := ih.le_hi; omega, fun hr => ih.found (by omega),
        fun u h₁ h₂ => ?_⟩
      rcases Nat.eq_or_lt_of_le h₁ with rfl | h₁
      · simpa using h
      · exact ih.gap u h₁ h₂

/-- `find_next_bit` returns the first set bit in `[offset, size)`, or `size`. -/
theorem findNextBit_spec (bits : Nat → Bool) {size offset : Nat} (h : offset ≤ size) :
    FirstSet bits offset size (findNextBit bits size offset) := by
  unfold findNextBit
  split
  · have := scanBits_spec bits (size - offset) offset
    rwa [Nat.add_sub_cancel' h] at this
  · have : offset = size := by omega
    subst this
    exact ⟨le_refl _, le_refl _, fun h => absurd h (lt_irrefl _), fun u h₁ h₂ => by omega⟩

/-- **The next VLAN**: from below `VLAN_N_VID`, `fm10k_find_next_vlan` returns the least member
above `vid`, or `VLAN_N_VID` if there is none. -/
theorem findNextVlan_spec {s : Intfc} (hd : s.defaultVid < VLAN_N_VID) {vid : Nat}
    (hv : vid < VLAN_N_VID) :
    FirstSet (vlanMember s) (vid + 1) VLAN_N_VID (findNextVlan s vid) := by
  have hmod : (vid + 1) % 2 ^ 16 = vid + 1 := Nat.mod_eq_of_lt (by unfold VLAN_N_VID at hv; omega)
  unfold findNextVlan
  simp only [hmod]
  split
  · next hlt =>
    have h := findNextBit_spec s.activeVlans (show vid + 1 ≤ s.defaultVid by omega)
    refine ⟨h.lo_le, by have := h.le_hi; omega, fun hr => ?_, fun u h₁ h₂ => ?_⟩
    · rcases Nat.lt_or_ge (findNextBit s.activeVlans s.defaultVid (vid + 1)) s.defaultVid with
        hr' | hr'
      · simp [vlanMember, h.found hr', hr, show 1 ≤ findNextBit s.activeVlans s.defaultVid
          (vid + 1) by have := h.lo_le; omega]
      · have : findNextBit s.activeVlans s.defaultVid (vid + 1) = s.defaultVid :=
          Nat.le_antisymm h.le_hi hr'
        simp [vlanMember, this, hd, show 1 ≤ s.defaultVid by omega]
    · have := h.le_hi
      simp [vlanMember, h.gap u h₁ h₂, show u ≠ s.defaultVid by omega]
  · next hge =>
    have h := findNextBit_spec s.activeVlans (show vid + 1 ≤ VLAN_N_VID by omega)
    refine ⟨h.lo_le, h.le_hi, fun hr => ?_, fun u h₁ h₂ => ?_⟩
    · simp [vlanMember, h.found hr, hr, show 1 ≤ findNextBit s.activeVlans VLAN_N_VID
        (vid + 1) by have := h.lo_le; omega]
    · simp [vlanMember, h.gap u h₁ h₂, show u ≠ s.defaultVid by omega]

/-- The next member depends on the active VLANs and the default VLAN only. -/
theorem findNextVlan_congr {s s' : Intfc} (ha : s'.activeVlans = s.activeVlans)
    (hd : s'.defaultVid = s.defaultVid) : findNextVlan s' = findNextVlan s := by
  funext vid; simp only [findNextVlan, ha, hd]

/-- Membership depends on the active VLANs and the default VLAN only. -/
theorem vlanMember_congr {s s' : Intfc} (ha : s'.activeVlans = s.activeVlans)
    (hd : s'.defaultVid = s.defaultVid) : vlanMember s' = vlanMember s := by
  funext v; simp only [vlanMember, ha, hd]

/-- A stretch keeps the membership. -/
theorem Emits.vlanMember {s s' : Intfc} {L : List (MacvlanRequestBody × Bool)}
    {M : List MbxCall} (h : Emits s s' L M) : Fm10k.vlanMember s' = Fm10k.vlanMember s :=
  vlanMember_congr h.activeVlans h.defaultVid

/-! ### The members, in order -/

/-- The members above `vid`, in increasing order. -/
def membersAbove (s : Intfc) (vid : Nat) : List Nat :=
  (range' (vid + 1) (VLAN_N_VID - 1 - vid)).filter (vlanMember s)

/-- A stretch keeps the members. -/
theorem Emits.membersAbove {s s' : Intfc} {L : List (MacvlanRequestBody × Bool)}
    {M : List MbxCall} (h : Emits s s' L M) : Fm10k.membersAbove s' = Fm10k.membersAbove s := by
  funext vid; simp only [Fm10k.membersAbove, h.vlanMember]

/-- A member is a VLAN id from 1. -/
theorem vlanMember_bounds {s : Intfc} {v : Nat} (h : vlanMember s v = true) :
    1 ≤ v ∧ v < VLAN_N_VID := by
  simp only [vlanMember, Bool.and_eq_true, decide_eq_true_eq] at h
  exact h.1

/-- The members above `0` are all the members. -/
theorem mem_membersAbove_zero {s : Intfc} {v : Nat} :
    v ∈ membersAbove s 0 ↔ vlanMember s v = true := by
  refine ⟨fun h => (mem_filter.1 h).2, fun h => mem_filter.2 ⟨?_, h⟩⟩
  have := vlanMember_bounds h
  rw [mem_range'_1]
  omega

/-- Every member fits in a `u16`. -/
theorem membersAbove_lt {s : Intfc} : ∀ v ∈ membersAbove s 0, v < 2 ^ 16 := fun _ hv =>
  Nat.lt_trans (vlanMember_bounds (mem_membersAbove_zero.1 hv)).2 (by decide)

/-- The members above `vid` are the next VLAN and the members above it. -/
theorem membersAbove_of_next {s : Intfc} {vid w : Nat} (hv : vid < VLAN_N_VID)
    (h : FirstSet (vlanMember s) (vid + 1) VLAN_N_VID w) :
    membersAbove s vid = if w < VLAN_N_VID then w :: membersAbove s w else [] := by
  have hlo := h.lo_le
  have hhi := h.le_hi
  have hsplit : range' (vid + 1) (VLAN_N_VID - 1 - vid) =
      range' (vid + 1) (w - (vid + 1)) ++ range' w (VLAN_N_VID - w) := by
    have := range'_append_1 (vid + 1) (w - (vid + 1)) (VLAN_N_VID - w)
    rw [show vid + 1 + (w - (vid + 1)) = w by omega,
      show VLAN_N_VID - w + (w - (vid + 1)) = VLAN_N_VID - 1 - vid by omega] at this
    exact this.symm
  have hgap : (range' (vid + 1) (w - (vid + 1))).filter (vlanMember s) = [] :=
    filter_eq_nil_iff.2 fun u hu => by
      rw [mem_range'_1] at hu
      simp [h.gap u hu.1 (by omega)]
  rw [membersAbove, hsplit, filter_append, hgap, nil_append]
  split
  · next hw =>
    rw [show VLAN_N_VID - w = (VLAN_N_VID - 1 - w) + 1 by omega, range'_succ,
      filter_cons_of_pos (h.found hw)]
    rfl
  · rw [show VLAN_N_VID - w = 0 by omega, range'_zero, filter_nil]

/-! ### Loops over the members -/

/-- The loop `for (vid = fm10k_find_next_vlan(interface, 0); vid < VLAN_N_VID;
vid = fm10k_find_next_vlan(interface, vid))` from `vid`, running `body` on each id and
returning the first error. The loop makes at most `VLAN_N_VID` tests (`fuel`). -/
def forEachVlanLoop (body : Intfc → Nat → Intfc × Int) : Nat → Intfc → Nat → Intfc × Int
  | 0, s, _ => (s, 0)
  | fuel + 1, s, vid =>
    if vid < VLAN_N_VID then
      let r := body s vid
      if r.2 = 0 then forEachVlanLoop body fuel r.1 (findNextVlan r.1 vid) else r
    else (s, 0)

/-- The loop over every VLAN the interface is a member of, as `__fm10k_uc_sync`,
`__fm10k_mc_sync` and `fm10k_restore_rx_state` write it. -/
def forEachVlan (body : Intfc → Nat → Intfc × Int) (s : Intfc) : Intfc × Int :=
  forEachVlanLoop body VLAN_N_VID s (findNextVlan s 0)

/-- `body` on each id of `ids` in order, stopping at the first error. -/
def runVlans (body : Intfc → Nat → Intfc × Int) : Intfc → List Nat → Intfc × Int
  | s, [] => (s, 0)
  | s, v :: vs =>
    let r := body s v
    if r.2 = 0 then runVlans body r.1 vs else r

section Loops

variable {body : Intfc → Nat → Intfc × Int}
  (hbody : ∀ s v, (body s v).1.activeVlans = s.activeVlans ∧
    (body s v).1.defaultVid = s.defaultVid)
include hbody

/-- **The loop over the members**, with enough fuel, runs the body on the members above `vid` in
increasing order, as long as the body keeps the membership. -/
theorem forEachVlanLoop_eq : ∀ fuel s vid, s.defaultVid < VLAN_N_VID → vid < VLAN_N_VID →
    VLAN_N_VID - vid ≤ fuel →
    forEachVlanLoop body fuel s (findNextVlan s vid) = runVlans body s (membersAbove s vid)
  | 0, s, vid, _, hv, hf => by omega
  | fuel + 1, s, vid, hd, hv, hf => by
    have hn := findNextVlan_spec hd hv
    rw [membersAbove_of_next hv hn, forEachVlanLoop]
    split
    · next hw =>
      simp only [runVlans]
      split
      · next he =>
        have ⟨ha, hd'⟩ := hbody s (findNextVlan s vid)
        rw [forEachVlanLoop_eq fuel _ _ (hd' ▸ hd) hw (by have := hn.lo_le; omega)]
        simp only [membersAbove, vlanMember_congr ha hd']
      · rfl
    · rfl

/-- **The loop over the members** visits exactly the VLANs the interface is a member of, in
increasing order, once each. -/
theorem forEachVlan_eq (s : Intfc) (hd : s.defaultVid < VLAN_N_VID) :
    forEachVlan body s = runVlans body s (membersAbove s 0) :=
  forEachVlanLoop_eq hbody _ s 0 hd (by decide) (le_refl _)

end Loops

/-- Whatever the allocations give, the loop over the members emits only what its body may. -/
theorem forEachVlanLoop_only {body : Intfc → Nat → Intfc × Int}
    {P : MacvlanRequestBody × Bool → Prop} {Q : MbxCall → Prop}
    (hbody : ∀ s v, EmitsOnly P Q s (body s v).1) :
    ∀ fuel s vid, EmitsOnly P Q s (forEachVlanLoop body fuel s vid).1
  | 0, s, _ => EmitsOnly.refl s
  | fuel + 1, s, vid => by
    rw [forEachVlanLoop]
    split
    · dsimp only
      split
      · exact (hbody s vid).trans (forEachVlanLoop_only hbody fuel _ _)
      · exact hbody s vid
    · exact EmitsOnly.refl s

/-- Whatever the body emits on one VLAN, the loop emits on all. -/
theorem forEachVlan_only {body : Intfc → Nat → Intfc × Int}
    {P : MacvlanRequestBody × Bool → Prop} {Q : MbxCall → Prop}
    (hbody : ∀ s v, EmitsOnly P Q s (body s v).1) (s : Intfc) :
    EmitsOnly P Q s (forEachVlan body s).1 :=
  forEachVlanLoop_only hbody _ s _

/-- A run of a body that never fails, keeps an invariant `P` (such as "every allocation is
granted") and emits `L v` and `M v` on each id, emits those for each id in turn. -/
theorem runVlans_emits {body : Intfc → Nat → Intfc × Int} {P : Intfc → Prop}
    {L : Nat → List (MacvlanRequestBody × Bool)} {M : Nat → List MbxCall}
    (hbody : ∀ s v, P s → Emits s (body s v).1 (L v) (M v) ∧ (body s v).2 = 0 ∧ P (body s v).1) :
    ∀ ids s, P s →
      Emits s (runVlans body s ids).1 (ids.flatMap L) (ids.flatMap M) ∧
        (runVlans body s ids).2 = 0
  | [], s, _ => ⟨Emits.refl s, rfl⟩
  | v :: vs, s, hp => by
    obtain ⟨h₁, h₂, hp₁⟩ := hbody s v hp
    obtain ⟨h₃, h₄⟩ := runVlans_emits hbody vs _ hp₁
    simp only [runVlans, h₂, if_true, flatMap_cons]
    exact ⟨h₁.trans h₃, h₄⟩

/-! ### Clearing the gaps -/

/-- The value of the request clearing `[prev_vid, vid)`, `prev_vid += (vid - prev_vid - 1) <<
FM10K_VLAN_LENGTH_SHIFT` on `u32`s. -/
def clearRunValue (vid prevVid : Nat) : Nat :=
  (prevVid + (((vid + 2 ^ 32 - prevVid - 1) % 2 ^ 32) <<< FM10K_VLAN_LENGTH_SHIFT) % 2 ^ 32) %
    2 ^ 32

/-- The loop of `fm10k_clear_unused_vlans` at `vid` and `prev_vid` (both `u32`): clear the gap
`[prev_vid, vid)` if there is one, then step to the next VLAN. `prev_vid` grows at each pass
and stops the loop at `VLAN_N_VID`, so `VLAN_N_VID + 1` passes are enough (`fuel`). -/
def clearUnusedVlansLoop : Nat → Intfc → Nat → Nat → Intfc
  | 0, s, _, _ => s
  | fuel + 1, s, vid, prevVid =>
    if prevVid < VLAN_N_VID then
      let s := if prevVid = vid then s else (queueVlanRequest s (clearRunValue vid prevVid) 0 false).1
      clearUnusedVlansLoop fuel s (findNextVlan s (vid % 2 ^ 16)) ((vid + 1) % 2 ^ 32)
    else s

/-- `fm10k_clear_unused_vlans`. -/
def clearUnusedVlans (s : Intfc) : Intfc :=
  clearUnusedVlansLoop (VLAN_N_VID + 1) s 0 0

/-- The `u32` value of a run of ids does not wrap. -/
theorem clearRunValue_eq {vid prevVid : Nat} (h₁ : prevVid < vid) (h₂ : vid ≤ VLAN_N_VID) :
    clearRunValue vid prevVid = prevVid + (vid - prevVid - 1) * 2 ^ 16 := by
  unfold clearRunValue FM10K_VLAN_LENGTH_SHIFT
  unfold VLAN_N_VID at h₂
  rw [Nat.shiftLeft_eq]
  have h₃ : (vid + 2 ^ 32 - prevVid - 1) % 2 ^ 32 = vid - prevVid - 1 := by omega
  rw [h₃, Nat.mod_eq_of_lt (by omega : (vid - prevVid - 1) * 2 ^ 16 < 2 ^ 32),
    Nat.mod_eq_of_lt (by omega)]

/-- The clearing loop stops once `prev_vid` reaches `VLAN_N_VID`. -/
theorem clearUnusedVlansLoop_done (s : Intfc) {prevVid : Nat} (h : VLAN_N_VID ≤ prevVid) :
    ∀ fuel vid, clearUnusedVlansLoop fuel s vid prevVid = s
  | 0, _ => rfl
  | _ + 1, _ => by simp only [clearUnusedVlansLoop, if_neg (show ¬prevVid < VLAN_N_VID by omega)]

/-- The table effect of clearing the non-members from `prevVid` on. -/
def clearsFrom (s : Intfc) (prevVid : Nat) (t : Nat → Bool) : Nat → Bool :=
  fun v => if prevVid ≤ v ∧ v < VLAN_N_VID ∧ vlanMember s v = false then false else t v

/-! ### The gaps, one request each -/

/-- The gaps from `prev` on, given the members `ws` from `prev` on in increasing order: the
runs of non-members up to `VLAN_N_VID - 1`, each as its first and its last id. -/
def gapsFrom : Nat → List Nat → List (Nat × Nat)
  | prev, [] => if prev < VLAN_N_VID then [(prev, VLAN_N_VID - 1)] else []
  | prev, w :: ws => (if prev < w then [(prev, w - 1)] else []) ++ gapsFrom (w + 1) ws

/-- The gaps of the membership: the maximal runs of ids from 1 to `VLAN_N_VID - 1` that are
not members, in increasing order. -/
def vlanGaps (s : Intfc) : List (Nat × Nat) :=
  gapsFrom 1 (membersAbove s 0)

/-- The value of the VLAN request for the run `[g.1, g.2]`: its first id, and above
`FM10K_VLAN_LENGTH_SHIFT` the number of ids after it. -/
def gapValue (g : Nat × Nat) : Nat :=
  g.1 + (g.2 - g.1) * 2 ^ FM10K_VLAN_LENGTH_SHIFT

/-- A clear request for each gap in turn, whatever each enqueue returns. -/
def clearGaps (s : Intfc) (gs : List (Nat × Nat)) : Intfc :=
  gs.foldl (fun s g => (queueVlanRequest s (gapValue g) 0 false).1) s

@[simp] theorem clearGaps_nil (s : Intfc) : clearGaps s [] = s := rfl

@[simp] theorem clearGaps_cons (s : Intfc) (g : Nat × Nat) (gs : List (Nat × Nat)) :
    clearGaps s (g :: gs) = clearGaps (queueVlanRequest s (gapValue g) 0 false).1 gs := rfl

/-- The members above `VLAN_N_VID - 1`: none. -/
theorem membersAbove_last (s : Intfc) : membersAbove s (VLAN_N_VID - 1) = [] := rfl

/-- **The loop of `fm10k_clear_unused_vlans`** from a member (or the end) `vid`, the first at
or above `prevVid`, queues a clear request for each gap from `prevVid` on, in order. -/
theorem clearUnusedVlansLoop_eq : ∀ fuel (s : Intfc) vid prevVid, s.defaultVid < VLAN_N_VID →
    1 ≤ prevVid → FirstSet (vlanMember s) prevVid VLAN_N_VID vid → VLAN_N_VID + 1 - vid ≤ fuel →
    clearUnusedVlansLoop fuel s vid prevVid =
      clearGaps s (gapsFrom prevVid (membersAbove s (prevVid - 1)))
  | 0, s, vid, _, _, _, hf, hfuel => by have := hf.le_hi; unfold VLAN_N_VID at *; omega
  | fuel + 1, s, vid, prevVid, hd, h₁, hf, hfuel => by
    have hlo := hf.lo_le
    have hhi := hf.le_hi
    rcases Nat.lt_or_ge prevVid VLAN_N_VID with hp | hp
    · have hm := @membersAbove_of_next s (prevVid - 1) vid (by omega)
        (show FirstSet (vlanMember s) (prevVid - 1 + 1) VLAN_N_VID vid by
          rwa [Nat.sub_add_cancel h₁])
      have hvid : vid % 2 ^ 16 = vid := Nat.mod_eq_of_lt (by unfold VLAN_N_VID at hhi; omega)
      have hvid' : (vid + 1) % 2 ^ 32 = vid + 1 := Nat.mod_eq_of_lt (by unfold VLAN_N_VID at hhi; omega)
      rw [clearUnusedVlansLoop, if_pos hp, hm, hvid, hvid']
      dsimp only
      rcases Nat.lt_or_ge vid VLAN_N_VID with hv | hv
      · -- the member `vid`, after the gap `[prevVid, vid)` if there is one
        rw [if_pos hv, gapsFrom]
        have hn := findNextVlan_spec hd hv
        by_cases he : prevVid = vid
        · rw [if_pos he, if_neg (by omega), nil_append,
            clearUnusedVlansLoop_eq fuel s _ (vid + 1) hd (by omega) hn (by have := hn.lo_le; omega)]
          rfl
        · rw [if_neg he, if_pos (by omega), singleton_append, clearGaps_cons,
            clearRunValue_eq (by omega) (by omega),
            show prevVid + (vid - prevVid - 1) * 2 ^ 16 = gapValue (prevVid, vid - 1) by
              unfold gapValue FM10K_VLAN_LENGTH_SHIFT; omega]
          have hq : Emits s (queueVlanRequest s (gapValue (prevVid, vid - 1)) 0 false).1 _ [] :=
            (queueRequest_spec _ _ _).1
          generalize (queueVlanRequest s (gapValue (prevVid, vid - 1)) 0 false).1 = s₁ at hq ⊢
          rw [findNextVlan_congr hq.activeVlans hq.defaultVid,
            clearUnusedVlansLoop_eq fuel _ _ (vid + 1) (hq.defaultVid ▸ hd) (by omega)
              (vlanMember_congr hq.activeVlans hq.defaultVid ▸ hn) (by have := hn.lo_le; omega),
            Nat.add_sub_cancel, hq.membersAbove]
      · -- the end: the last gap `[prevVid, VLAN_N_VID)`, then the loop stops
        have hv' : vid = VLAN_N_VID := by omega
        subst hv'
        rw [if_neg (lt_irrefl _), gapsFrom, if_pos hp, if_neg (by omega), clearGaps_cons,
          clearGaps_nil, clearRunValue_eq hp le_rfl,
          show prevVid + (VLAN_N_VID - prevVid - 1) * 2 ^ 16 = gapValue (prevVid, VLAN_N_VID - 1) by
            unfold gapValue FM10K_VLAN_LENGTH_SHIFT; omega]
        exact clearUnusedVlansLoop_done _ (by omega) _ _
    · -- `prevVid` is `VLAN_N_VID`: nothing is left
      have hp' : prevVid = VLAN_N_VID := by omega
      subst hp'
      rw [clearUnusedVlansLoop_done s hp, membersAbove_last, gapsFrom, if_neg (lt_irrefl _)]
      rfl

/-- **`fm10k_clear_unused_vlans`** queues a clear request for each gap of the membership, in
increasing order. -/
theorem clearUnusedVlans_eq (s : Intfc) (hd : s.defaultVid < VLAN_N_VID) :
    clearUnusedVlans s = clearGaps s (vlanGaps s) := by
  have hn := findNextVlan_spec hd (show 0 < VLAN_N_VID by decide)
  rw [clearUnusedVlans, clearUnusedVlansLoop, if_pos (by decide), if_pos rfl]
  exact clearUnusedVlansLoop_eq VLAN_N_VID s (findNextVlan s 0) 1 hd le_rfl hn
    (by have := hn.lo_le; omega)

/-- Clearing a list of gaps: attempt `next + i` serves the `i`-th gap, and the request of a
gap is queued exactly when its attempt succeeds; a failure is ignored. -/
theorem clearGaps_emits : ∀ (gs : List (Nat × Nat)) (s : Intfc), (∀ g ∈ gs, gapValue g < 2 ^ 32) →
    Emits s (clearGaps s gs) (((gs.enumFrom s.mem.next).filter fun a => s.mem.ok a.1).map
      fun a => (.vlan (gapValue a.2) 0, false)) []
  | [], s, _ => Emits.refl s
  | g :: gs, s, hg => by
    have hq : Emits s (queueVlanRequest s (gapValue g) 0 false).1
        (if s.mem.ok s.mem.next then [(.vlan (gapValue g) 0, false)] else []) [] := by
      have h := (queueRequest_spec s (.vlan (gapValue g % 2 ^ 32) (0 % 2 ^ 8)) false).1
      rw [show (MacvlanRequestBody.vlan (gapValue g % 2 ^ 32) (0 % 2 ^ 8), false) =
        (.vlan (gapValue g) 0, false) by rw [Nat.mod_eq_of_lt (hg g (mem_cons_self g gs)),
          Nat.zero_mod]] at h
      exact h
    have ih := clearGaps_emits gs (queueVlanRequest s (gapValue g) 0 false).1
      fun g' h' => hg g' (mem_cons_of_mem g h')
    rw [show (queueVlanRequest s (gapValue g) 0 false).1.mem.next = s.mem.next + 1 from
      queueRequest_next _ _ _, hq.ok] at ih
    have := hq.trans ih
    rw [clearGaps_cons, enumFrom_cons, filter_cons]
    cases h : s.mem.ok s.mem.next <;> simpa [h] using this

/-- Ids from `prev` on, below `VLAN_N_VID`, in increasing order: the members a gap list is
built from. -/
structure IdsFrom (prev : Nat) (ws : List Nat) : Prop where
  sorted : ws.Sorted (· < ·)
  bounds : ∀ w ∈ ws, prev ≤ w ∧ w < VLAN_N_VID

/-- The ids after the first start above it. -/
theorem IdsFrom.tail {prev w : Nat} {ws : List Nat} (h : IdsFrom prev (w :: ws)) :
    IdsFrom (w + 1) ws :=
  ⟨(sorted_cons.1 h.sorted).2, fun w' hw' =>
    ⟨(sorted_cons.1 h.sorted).1 w' hw', (h.bounds w' (mem_cons_of_mem w hw')).2⟩⟩

/-- The members from 0 are ids from 1, in increasing order. -/
theorem idsFrom_membersAbove (s : Intfc) : IdsFrom 1 (membersAbove s 0) :=
  ⟨(pairwise_lt_range' _ _).filter _, fun _ hw => vlanMember_bounds (mem_membersAbove_zero.1 hw)⟩

section Gaps

variable {prev : Nat} {ws : List Nat}

/-- Every gap from `prev` on is a run `[g.1, g.2]` from `prev` on, below `VLAN_N_VID`. -/
theorem gapsFrom_bounds (h : IdsFrom prev ws) :
    ∀ g ∈ gapsFrom prev ws, prev ≤ g.1 ∧ g.1 ≤ g.2 ∧ g.2 < VLAN_N_VID := by
  induction ws generalizing prev with
  | nil =>
    intro g hg
    rw [gapsFrom] at hg
    split at hg
    · rw [mem_singleton.1 hg]; unfold VLAN_N_VID at *; omega
    · cases hg
  | cons w ws ih =>
    intro g hg
    have hw := h.bounds w (mem_cons_self w ws)
    rcases mem_append.1 hg with hg | hg
    · split at hg
      · rw [mem_singleton.1 hg]; omega
      · cases hg
    · have := ih h.tail g hg
      omega

/-- **The gaps cover exactly the non-members**: an id is in a gap from `prev` on exactly when
it is from `prev` on, below `VLAN_N_VID` and not a member. -/
theorem mem_gapsFrom (h : IdsFrom prev ws) (v : Nat) :
    (∃ g ∈ gapsFrom prev ws, g.1 ≤ v ∧ v ≤ g.2) ↔ prev ≤ v ∧ v < VLAN_N_VID ∧ v ∉ ws := by
  induction ws generalizing prev with
  | nil =>
    rw [gapsFrom]
    split
    · simp only [mem_singleton, exists_eq_left, not_mem_nil, not_false_eq_true, and_true]
      unfold VLAN_N_VID at *; omega
    · simp only [not_mem_nil, false_and, exists_false, false_iff]; omega
  | cons w ws ih =>
    have hw := h.bounds w (mem_cons_self w ws)
    have hlt := (sorted_cons.1 h.sorted).1
    rw [gapsFrom]
    constructor
    · rintro ⟨g, hg, h₁, h₂⟩
      rcases mem_append.1 hg with hg | hg
      · split at hg
        · obtain rfl := mem_singleton.1 hg
          refine ⟨h₁, by omega, fun hv => ?_⟩
          rcases mem_cons.1 hv with hv | hv
          · omega
          · have := hlt v hv; omega
        · cases hg
      · obtain ⟨h₃, h₄, h₅⟩ := (ih h.tail).1 ⟨g, hg, h₁, h₂⟩
        exact ⟨by omega, h₄, fun hv => (mem_cons.1 hv).elim (fun e => by omega) h₅⟩
    · rintro ⟨h₁, h₂, hv⟩
      rcases Nat.lt_or_gt_of_ne (fun e : v = w => hv (e ▸ mem_cons_self w ws)) with h₃ | h₃
      · exact ⟨(prev, w - 1), mem_append_left _ (by rw [if_pos (by omega)]; exact mem_singleton_self _),
          h₁, by dsimp only; omega⟩
      · obtain ⟨g, hg, h₄⟩ := (ih h.tail).2 ⟨h₃, h₂, fun h' => hv (mem_cons_of_mem w h')⟩
        exact ⟨g, mem_append_right _ hg, h₄⟩

/-- **The gaps are apart**: each ends at least two ids before the next begins, so they are
disjoint, in increasing order, and none could be joined to the next. -/
theorem gapsFrom_pairwise (h : IdsFrom prev ws) :
    (gapsFrom prev ws).Pairwise fun g g' => g.2 + 1 < g'.1 := by
  induction ws generalizing prev with
  | nil =>
    rw [gapsFrom]
    split
    · exact pairwise_singleton _ _
    · exact Pairwise.nil
  | cons w ws ih =>
    rw [gapsFrom, pairwise_append]
    refine ⟨?_, ih h.tail, fun g hg g' hg' => ?_⟩
    · split
      · exact pairwise_singleton _ _
      · exact Pairwise.nil
    · split at hg
      · obtain rfl := mem_singleton.1 hg
        have := gapsFrom_bounds h.tail g' hg'
        dsimp only
        omega
      · cases hg

end Gaps

/-- The gaps of the membership cover exactly the ids from 1 to `VLAN_N_VID - 1` that are
neither active nor the default VLAN. -/
theorem mem_vlanGaps (s : Intfc) (v : Nat) :
    (∃ g ∈ vlanGaps s, g.1 ≤ v ∧ v ≤ g.2) ↔
      1 ≤ v ∧ v < VLAN_N_VID ∧ s.activeVlans v = false ∧ v ≠ s.defaultVid := by
  rw [vlanGaps, mem_gapsFrom (idsFrom_membersAbove s), mem_membersAbove_zero]
  by_cases hv : 1 ≤ v ∧ v < VLAN_N_VID
  · simp [vlanMember, hv]
  · constructor
    · rintro ⟨h₁, h₂, -⟩; exact absurd ⟨h₁, h₂⟩ hv
    · rintro ⟨h₁, h₂, -⟩; exact absurd ⟨h₁, h₂⟩ hv

/-- A run `[g.1, g.2]` of VLAN ids is encoded without loss: the value fits in 32 bits and
decodes to the run. -/
theorem gapValue_decode {g : Nat × Nat} (h₁ : g.1 ≤ g.2) (h₂ : g.2 < VLAN_N_VID) :
    gapValue g < 2 ^ 32 ∧ gapValue g % 2 ^ 16 = g.1 ∧ gapValue g / 2 ^ 16 = g.2 - g.1 := by
  unfold gapValue FM10K_VLAN_LENGTH_SHIFT
  unfold VLAN_N_VID at h₂
  omega

/-- The value of every gap fits in a `u32`. -/
theorem vlanGaps_fit (s : Intfc) : ∀ g ∈ vlanGaps s, gapValue g < 2 ^ 32 := fun g hg =>
  have hb := gapsFrom_bounds (idsFrom_membersAbove s) g hg
  (gapValue_decode hb.2.1 hb.2.2).1

/-- Clear requests for runs `[g.1, g.2]`, applied to the VLAN table, clear exactly the ids of
the runs. -/
theorem vlanTable_gaps (t : Nat → Bool) {gs : List (Nat × Nat)}
    (h : ∀ g ∈ gs, g.1 ≤ g.2 ∧ g.2 < VLAN_N_VID) :
    vlanTable t (gs.map fun g => (.vlan (gapValue g) 0, false)) =
      fun v => if ∃ g ∈ gs, g.1 ≤ v ∧ v ≤ g.2 then false else t v := by
  induction gs generalizing t with
  | nil => simp
  | cons g gs ih =>
    obtain ⟨h₁, h₂⟩ := h g (mem_cons_self g gs)
    rw [map_cons, vlanTable_cons, gapValue, FM10K_VLAN_LENGTH_SHIFT,
      vlanApply_range t (show g.1 < 2 ^ 16 by unfold VLAN_N_VID at h₂; omega),
      ih _ fun g' h' => h g' (mem_cons_of_mem g h'), Nat.add_sub_cancel' h₁]
    funext v
    simp only [mem_cons, exists_eq_or_imp]
    by_cases hv : g.1 ≤ v ∧ v ≤ g.2 <;> simp [hv]

/-- With every allocation granted, the request of each gap is queued. -/
theorem clearUnusedVlans_allOk {s : Intfc} (hok : AllocOk s) (hd : s.defaultVid < VLAN_N_VID) :
    Emits s (clearUnusedVlans s) ((vlanGaps s).map fun g => (.vlan (gapValue g) 0, false)) [] := by
  have := clearGaps_emits (vlanGaps s) s (vlanGaps_fit s)
  rw [filter_eq_self.2 fun a _ => hok a.1, ← clearUnusedVlans_eq s hd] at this
  rw [← enumFrom_map_snd s.mem.next (vlanGaps s), map_map]
  exact this

/-- **Clearing the gaps** queues only VLAN requests, and they clear in the VLAN table exactly
the ids from 1 to `VLAN_N_VID - 1` that are not members; VLAN 0 is left alone. -/
theorem clearUnusedVlans_emits {s : Intfc} (hok : AllocOk s) (hd : s.defaultVid < VLAN_N_VID) :
    ∃ L, Emits s (clearUnusedVlans s) L [] ∧ (∀ b ∈ L, b.1.isVlan = true) ∧
      ∀ t, vlanTable t L = clearsFrom s 1 t := by
  have hb : ∀ g ∈ vlanGaps s, _ := gapsFrom_bounds (idsFrom_membersAbove s)
  refine ⟨_, clearUnusedVlans_allOk hok hd, fun b hb => ?_, fun t => ?_⟩
  · obtain ⟨g, -, rfl⟩ := mem_map.1 hb
    rfl
  · rw [vlanTable_gaps t fun g hg => (hb g hg).2]
    funext v
    refine if_congr ?_ rfl rfl
    rw [vlanGaps, mem_gapsFrom (idsFrom_membersAbove s), mem_membersAbove_zero, Bool.not_eq_true]

/-- A PF whose default VLAN is 1, every allocation granted. -/
def vlanOnePf : Intfc :=
  { Intfc.zeroed .pf ⟨0, fun _ => true, [], []⟩ with defaultVid := 1 }

/-- **Clearing the unused VLANs, whatever the allocations give**: the requests of the gaps are
tried in increasing order, the `i`-th gap with attempt `next + i`, and each is queued exactly
when its attempt succeeds; a refused one is dropped and the loop goes on. -/
theorem clear_unused_vlans_attempts (s : Intfc) (hd : s.defaultVid < VLAN_N_VID) :
    Emits s (clearUnusedVlans s)
      ((((vlanGaps s).enumFrom s.mem.next).filter fun a => s.mem.ok a.1).map
        fun a => (.vlan (gapValue a.2) 0, false)) [] := by
  rw [clearUnusedVlans_eq s hd]
  exact clearGaps_emits _ s (vlanGaps_fit s)

/-- `fm10k_clear_unused_vlans` on `vlanOnePf`. -/
theorem clear_unused_vlans_attempts_vlanOnePf :
    vlanOnePf.defaultVid < VLAN_N_VID ∧
      Emits vlanOnePf (clearUnusedVlans vlanOnePf)
        ((((vlanGaps vlanOnePf).enumFrom vlanOnePf.mem.next).filter
          fun a => vlanOnePf.mem.ok a.1).map fun a => (.vlan (gapValue a.2) 0, false)) [] :=
  ⟨by decide, clear_unused_vlans_attempts _ (by decide)⟩

/-- **Clearing the unused VLANs**, with every allocation granted: the requests queued are
clear requests, in increasing order, for runs that are apart from one another, whose values
fit in the request's 32 bits, and which together cover exactly the ids from 1 to
`VLAN_N_VID - 1` that are neither active nor the default VLAN. -/
theorem clear_unused_vlans_runs (s : Intfc) (hd : s.defaultVid < VLAN_N_VID) (hok : AllocOk s) :
    ∃ xs : List Nat, Emits s (clearUnusedVlans s) (xs.map fun x => (.vlan x 0, false)) [] ∧
      (∀ x ∈ xs, x < 2 ^ 32) ∧
      xs.Pairwise (fun x y => x % 2 ^ 16 + x / 2 ^ 16 + 1 < y % 2 ^ 16) ∧
      ∀ v, (∃ x ∈ xs, x % 2 ^ 16 ≤ v ∧ v ≤ x % 2 ^ 16 + x / 2 ^ 16) ↔
        1 ≤ v ∧ v < VLAN_N_VID ∧ s.activeVlans v = false ∧ v ≠ s.defaultVid := by
  have hb := gapsFrom_bounds (idsFrom_membersAbove s)
  have hdec : ∀ g ∈ vlanGaps s, gapValue g < 2 ^ 32 ∧ gapValue g % 2 ^ 16 = g.1 ∧
      gapValue g / 2 ^ 16 = g.2 - g.1 := fun g hg =>
    gapValue_decode (hb g hg).2.1 (hb g hg).2.2
  refine ⟨(vlanGaps s).map gapValue, ?_, ?_, ?_, fun v => ?_⟩
  · rw [map_map]
    exact clearUnusedVlans_allOk hok hd
  · intro x hx
    obtain ⟨g, hg, rfl⟩ := mem_map.1 hx
    exact (hdec g hg).1
  · rw [pairwise_map]
    refine (gapsFrom_pairwise (idsFrom_membersAbove s)).imp_of_mem fun {g g'} hg hg' h => ?_
    rw [(hdec g hg).2.1, (hdec g hg).2.2, (hdec g' hg').2.1]
    have := hb g hg
    omega
  · have key : ∀ g ∈ vlanGaps s, (gapValue g % 2 ^ 16 ≤ v ∧
        v ≤ gapValue g % 2 ^ 16 + gapValue g / 2 ^ 16) ↔ (g.1 ≤ v ∧ v ≤ g.2) := fun g hg => by
      rw [(hdec g hg).2.1, (hdec g hg).2.2, Nat.add_sub_cancel' (hb g hg).2.1]
    rw [← mem_vlanGaps]
    constructor
    · rintro ⟨x, hx, h⟩
      obtain ⟨g, hg, rfl⟩ := mem_map.1 hx
      exact ⟨g, hg, (key g hg).1 h⟩
    · rintro ⟨g, hg, h⟩
      exact ⟨gapValue g, mem_map_of_mem _ hg, (key g hg).2 h⟩

/-- `fm10k_clear_unused_vlans` on `vlanOnePf`, every allocation granted. -/
theorem clear_unused_vlans_runs_vlanOnePf :
    vlanOnePf.defaultVid < VLAN_N_VID ∧ AllocOk vlanOnePf ∧
      ∃ xs : List Nat,
        Emits vlanOnePf (clearUnusedVlans vlanOnePf) (xs.map fun x => (.vlan x 0, false)) [] ∧
        (∀ x ∈ xs, x < 2 ^ 32) ∧
        xs.Pairwise (fun x y => x % 2 ^ 16 + x / 2 ^ 16 + 1 < y % 2 ^ 16) ∧
        ∀ v, (∃ x ∈ xs, x % 2 ^ 16 ≤ v ∧ v ≤ x % 2 ^ 16 + x / 2 ^ 16) ↔
          1 ≤ v ∧ v < VLAN_N_VID ∧ vlanOnePf.activeVlans v = false ∧
            v ≠ vlanOnePf.defaultVid :=
  ⟨by decide, fun _ => rfl, clear_unused_vlans_runs _ (by decide) fun _ => rfl⟩

/-- A PF whose allocator refuses every attempt. -/
def refusingPf : Intfc :=
  Intfc.zeroed .pf ⟨0, fun _ => false, [], []⟩

/-- When every allocation fails, `fm10k_clear_unused_vlans` queues nothing, ignoring each
error, though the ids from 1 to `VLAN_N_VID - 1` are all gaps. -/
theorem clear_unused_vlans_refused :
    refusingPf.defaultVid < VLAN_N_VID ∧
      ¬∃ xs : List Nat,
        Emits refusingPf (clearUnusedVlans refusingPf) (xs.map fun x => (.vlan x 0, false)) [] ∧
        (∀ x ∈ xs, x < 2 ^ 32) ∧
        xs.Pairwise (fun x y => x % 2 ^ 16 + x / 2 ^ 16 + 1 < y % 2 ^ 16) ∧
        ∀ v, (∃ x ∈ xs, x % 2 ^ 16 ≤ v ∧ v ≤ x % 2 ^ 16 + x / 2 ^ 16) ↔
          1 ≤ v ∧ v < VLAN_N_VID ∧ refusingPf.activeVlans v = false ∧
            v ≠ refusingPf.defaultVid := by
  have hd : refusingPf.defaultVid < VLAN_N_VID := by decide
  refine ⟨hd, fun ⟨xs, he, _, _, hv⟩ => ?_⟩
  have h₀ := clearGaps_emits (vlanGaps refusingPf) refusingPf (vlanGaps_fit _)
  simp only [show ∀ n, refusingPf.mem.ok n = false from fun _ => rfl, filter_false,
    map_nil, ← clearUnusedVlans_eq _ hd] at h₀
  obtain rfl : xs = [] := map_eq_nil_iff.1 (he.requests_eq h₀)
  simpa [refusingPf, Intfc.zeroed, VLAN_N_VID] using (hv 1).2

end Fm10k
