import Fm10k.MacvlanQueue

/-!
# GLORT Ranges and the Forwarding-Acceleration Table

A PF interface owns a range of GLORTs (global resource tags, the switch's port numbers),
which `fm10k_request_glort_range` carves out of the range the switch manager assigned in
`dglort_map`. The first GLORT is the PF's own; the ones above it go to secondary
(macvlan) interfaces offloaded to the switch, "stations".

The stations live in `struct fm10k_l2_accel`, a table of `size` slots of which `count` are in
use: the station in slot `i` has GLORT `dglort + 1 + i`. The table is allocated with 7 slots
for the first station, is replaced by a copy with `2 * size + 1` slots when it is full, and
is dropped when its last station goes. The interface and every receive ring point to the
current table; the old one is given back with `kfree_rcu`.

Tables live in the heap `Intfc.l2Tables`, each at the address its allocation returned. The
two entry points are `dfwdAddStation` and `dfwdDelStation`; the first is cut where the
source's control flow joins, after the table has been found, created or grown
(`prepareL2Accel`).

## Main results

* `prepareL2Accel_cases`: what the first half of an add can do, in one statement.
* `l2Step_inv`: one add or delete keeps the table well formed (`L2Inv`).
* `l2_accel_invariant`: along every sequence of adds and deletes the table is well formed,
  every add writes a slot below the table size, and a failed add changes no table and no
  pointer.
* `station_slots_stable`: a station stays in its slot until a delete of that device clears
  it.
* `dfwdDelStation_sdevAddr`: a station is found by its device, so a delete clears the same
  slot whatever address the device has taken since it was added.
* `l2Step_glorts`, `l2Run_glorts`: the station GLORTs stay inside the interface's GLORT
  range.
-/

namespace Fm10k

open List

/-! ### The GLORT range -/

/-- Modelled from the spec: `FM10K_DGLORTMAP_NONE` (`fm10k_type.h`), no range assigned; also
the mask of the range's base. -/
def FM10K_DGLORTMAP_NONE : Nat := 0x0000FFFF

/-- Modelled from the spec: `FM10K_DGLORTMAP_MASK_SHIFT` (`fm10k_type.h`). -/
def FM10K_DGLORTMAP_MASK_SHIFT : Nat := 16

/-- The base of the range `dglort_map` assigns. -/
def dglortBase (dglortMap : Nat) : Nat :=
  dglortMap &&& FM10K_DGLORTMAP_NONE

/-- The `u16` mask of the range: `(~dglort_map) >> FM10K_DGLORTMAP_MASK_SHIFT` on the `u32`. -/
def dglortMask (dglortMap : Nat) : Nat :=
  (2 ^ 32 - 1 - dglortMap % 2 ^ 32) >>> FM10K_DGLORTMAP_MASK_SHIFT % 2 ^ 16

/-- `fm10k_request_glort_range`: the PF takes the last GLORT when the VFs use all but one,
the upper half of a range of fewer than 64, and everything above the first 64 otherwise.
`glort` and `glort_count` are `u16`. -/
def requestGlortRange (s : Intfc) : Intfc :=
  let mask := dglortMask s.dglortMap
  let s := { s with glort := dglortBase s.dglortMap, glortCount := 0 }
  if s.dglortMap = FM10K_DGLORTMAP_NONE then s
  else if mask ≤ s.totalVfs then { s with glortCount := 1, glort := (s.glort + mask) % 2 ^ 16 }
  else if mask < 64 then
    { s with glortCount := (mask + 1) / 2, glort := (s.glort + (mask + 1) / 2) % 2 ^ 16 }
  else { s with glortCount := mask - 63, glort := (s.glort + 64) % 2 ^ 16 }

/-- The PF's range `[glort, glort + glort_count - 1]` is non-empty and inside the range the
switch assigned. -/
structure GlortRange (s : Intfc) : Prop where
  count_pos : 1 ≤ s.glortCount
  base_le : dglortBase s.dglortMap ≤ s.glort
  top_le : s.glort + s.glortCount ≤ dglortBase s.dglortMap + dglortMask s.dglortMap + 1

@[simp] theorem dglortBase_eq (dglortMap : Nat) : dglortBase dglortMap = dglortMap % 2 ^ 16 :=
  Nat.and_pow_two_sub_one_eq_mod dglortMap 16

@[simp] theorem dglortMask_eq (dglortMap : Nat) :
    dglortMask dglortMap = (2 ^ 32 - 1 - dglortMap % 2 ^ 32) / 2 ^ 16 % 2 ^ 16 := by
  simp [dglortMask, FM10K_DGLORTMAP_MASK_SHIFT, Nat.shiftRight_eq_div_pow]

/-- **The requested range**: for an assigned range that does not wrap, the PF's GLORTs lie
inside it. -/
theorem requestGlortRange_range (s : Intfc) (hmap : s.dglortMap ≠ FM10K_DGLORTMAP_NONE)
    (hwrap : dglortBase s.dglortMap + dglortMask s.dglortMap ≤ 0xFFFF) :
    GlortRange (requestGlortRange s) := by
  unfold requestGlortRange
  simp only [hmap, if_false]
  split_ifs with h₁ h₂ <;> constructor <;> simp only [dglortBase_eq] at hwrap ⊢ <;> omega

/-- The fields `fm10k_request_glort_range` writes are the GLORT and the count. -/
theorem requestGlortRange_frame (s : Intfc) :
    ∃ g c, requestGlortRange s = { s with glort := g, glortCount := c } := by
  unfold requestGlortRange
  dsimp only
  split_ifs <;> exact ⟨_, _, rfl⟩

/-! ### Tables and pointers -/

/-- The table at address `p`, as the driver dereferences it. -/
def Intfc.table (s : Intfc) (p : Nat) : L2Accel :=
  (s.l2Tables p).getD ⟨0, 0, 0, []⟩

/-- Modelled from the spec: `FM10K_MAX_STATIONS` (`fm10k.h`). -/
def FM10K_MAX_STATIONS : Nat := 63

/-- `fm10k_assign_l2_accel`: point every receive ring, then the interface, at `l2Accel`. -/
def assignL2Accel (s : Intfc) (l2Accel : Option Nat) : Intfc :=
  { s with
    rxRing := fun i => if i < s.numRxQueues then { s.rxRing i with l2Accel := l2Accel }
      else s.rxRing i
    l2Accel := l2Accel }

/-- Slot `i` of a table, `macvlan[i]`. -/
def L2Accel.slot (t : L2Accel) (i : Nat) : Option Nat :=
  t.macvlan.getD i none

/-- The search loops of `fm10k_dfwd_add_station` and `fm10k_dfwd_del_station`,
`for (; i < size; i++) if (p(macvlan[i])) break;`, from slot `i` with `k` slots left. -/
def searchSlot (p : Option Nat → Bool) (t : L2Accel) : Nat → Nat → Nat
  | i, 0 => i
  | i, k + 1 => if p (t.slot i) then i else searchSlot p t (i + 1) k

/-- The slot an add writes: the first free one. -/
def L2Accel.freeSlot (t : L2Accel) : Nat :=
  searchSlot Option.isNone t 0 t.size

/-- The slot a delete of `sdev` clears: the first one holding that device, compared by
address (`macvlan[i] == sdev`). -/
def L2Accel.slotOf (t : L2Accel) (sdev : Nat) : Nat :=
  searchSlot (· == some sdev) t 0 t.size

/-- Record a station in slot `i`: `macvlan[i] = sdev; count++` (`count` is a `u16`). -/
def L2Accel.record (t : L2Accel) (i : Nat) (sdev : Nat) : L2Accel :=
  { t with macvlan := t.macvlan.set i (some sdev), count := (t.count + 1) % 2 ^ 16 }

/-- Record a removal from slot `i`: `macvlan[i] = NULL; count--`. -/
def L2Accel.erase (t : L2Accel) (i : Nat) : L2Accel :=
  { t with macvlan := t.macvlan.set i none, count := (t.count + 2 ^ 16 - 1) % 2 ^ 16 }

/-- The first table: `kzalloc`ed with 7 slots, its first GLORT the interface's. -/
def L2Accel.first (glort : Nat) : L2Accel :=
  ⟨7, 0, glort, replicate 7 none⟩

/-- The table an add grows into: `kzalloc`ed with `2 * size + 1` slots, the header and the
first `size` slots copied by `memcpy`, then the new size recorded. -/
def L2Accel.grow (t : L2Accel) : L2Accel :=
  { t with
    size := 2 * t.size + 1
    macvlan := (range (2 * t.size + 1)).map fun j => if j < t.size then t.slot j else none }

/-- The GLORT of slot `i` of a table, a `u16`. -/
def L2Accel.glortOf (t : L2Accel) (i : Nat) : Nat :=
  (t.dglort + 1 + i) % 2 ^ 16

/-! ### Adding and deleting stations -/

/-- The first half of `fm10k_dfwd_add_station`: find the table the station goes into,
creating it (if enough GLORTs are free) or growing it (unless the station limit or the
GLORT range is reached). Returns the table's address, or the error. -/
def prepareL2Accel (s : Intfc) : Intfc × Except Int Nat :=
  match s.l2Accel with
  | none =>
    if s.glortCount < 7 then (s, .error (-EBUSY))
    else
      match s.alloc with
      | (none, s) => (s, .error (-ENOMEM))
      | (some q, s) =>
        (assignL2Accel { s with l2Tables := Function.update s.l2Tables q (some (.first s.glort)) }
          (some q), .ok q)
  | some p =>
    let t := s.table p
    if t.count = FM10K_MAX_STATIONS ∨ (t.count : Int) = (s.glortCount : Int) - 1 then
      (s, .error (-EBUSY))
    else if t.count = t.size then
      match s.alloc with
      | (none, s) => (s, .error (-ENOMEM))
      | (some q, s) =>
        let s := assignL2Accel { s with l2Tables := Function.update s.l2Tables q (some t.grow) }
          (some q)
        ({ s with mem := s.mem.release (.kfreeRcu p) }, .ok q)
    else (s, .ok p)

/-- The rules of a station in the switch, when the host's mailbox is ready: its multicast
mode and the address its device has now (`sdev->dev_addr`) on the default VLAN. -/
def stationRules (s : Intfc) (glort : Nat) (sdev : Nat) (mode : XcastMode) (set : Bool) :
    Intfc :=
  if hostMbxReady s then
    (queueMacRequest (s.callMbx (.updateXcastMode glort mode)) glort (s.sdevAddr sdev)
      s.defaultVid set).1
  else s

/-- Log `configure_dglort_map` for the interface's GLORT and the table size. -/
def configureDglortMap (s : Intfc) (size : Nat) : Intfc :=
  s.callMbx (.configureDglortMap s.glort (fls size))

/-- `fm10k_dfwd_add_station`: the station goes into the first free slot of the table. -/
def dfwdAddStation (s : Intfc) (sdev : Nat) : Intfc × Except Int Nat :=
  match prepareL2Accel s with
  | (s, .error e) => (s, .error e)
  | (s, .ok p) =>
    let t := s.table p
    let i := t.freeSlot
    let t := t.record i sdev
    let s := configureDglortMap { s with l2Tables := Function.update s.l2Tables p (some t) } t.size
    (stationRules s (t.glortOf i) sdev .multi true, .ok sdev)

/-- `fm10k_dfwd_del_station`: clear the first slot holding `sdev`, and drop the table with
its last station. -/
def dfwdDelStation (s : Intfc) (sdev : Nat) : Intfc :=
  match s.l2Accel with
  | none => s
  | some p =>
    let t := s.table p
    let i := t.slotOf sdev
    if i = t.size then s
    else
      let s := stationRules s (t.glortOf i) sdev .none false
      let t := t.erase i
      let s := configureDglortMap { s with l2Tables := Function.update s.l2Tables p (some t) }
        t.size
      if t.count = 0 then
        let s := assignL2Accel s none
        { s with mem := s.mem.release (.kfreeRcu p) }
      else s

/-- A call of the stack on the table. -/
inductive L2Call
  | add (sdev : Nat)
  | del (sdev : Nat)

/-- One call, as the driver handles it. -/
def l2Step (s : Intfc) : L2Call → Intfc
  | .add sdev => (dfwdAddStation s sdev).1
  | .del sdev => dfwdDelStation s sdev

/-- A sequence of calls. -/
def l2Run (s : Intfc) (cs : List L2Call) : Intfc :=
  cs.foldl l2Step s

/-! ### Slots -/

/-- **The slot search** from slot `i` over `k` slots returns a slot in `[i, i + k]`: the first that
satisfies `p`, or `i + k` when none does. -/
theorem searchSlot_spec (p : Option Nat → Bool) (t : L2Accel) :
    ∀ i k, i ≤ searchSlot p t i k ∧ searchSlot p t i k ≤ i + k ∧
      (searchSlot p t i k < i + k → p (t.slot (searchSlot p t i k)) = true) ∧
      ∀ j, i ≤ j → j < searchSlot p t i k → p (t.slot j) = false
  | i, 0 => ⟨le_rfl, by simp [searchSlot], fun h => absurd h (by simp [searchSlot]),
      fun j h h' => absurd h' (by simp [searchSlot]; omega)⟩
  | i, k + 1 => by
    obtain ⟨h₁, h₂, h₃, h₄⟩ := searchSlot_spec p t (i + 1) k
    by_cases hp : p (t.slot i) = true
    · rw [searchSlot, if_pos hp]
      exact ⟨le_rfl, by omega, fun _ => hp, fun j h h' => absurd h' (by omega)⟩
    · rw [searchSlot, if_neg hp]
      refine ⟨by omega, by omega, fun h => h₃ (by omega), fun j hj hj' => ?_⟩
      rcases Nat.eq_or_lt_of_le hj with rfl | hj
      · simpa using hp
      · exact h₄ j hj hj'

/-- Slot `i` of a table is its `macvlan[i]` below the array's length. -/
theorem slot_of_lt {t : L2Accel} {i : Nat} (h : i < t.macvlan.length) :
    t.slot i = t.macvlan[i] := by
  simp [L2Accel.slot, h]

/-- Slots past the array are empty. -/
theorem slot_of_le {t : L2Accel} {i : Nat} (h : t.macvlan.length ≤ i) : t.slot i = none := by
  simp [L2Accel.slot, getElem?_eq_none h]

@[simp] theorem record_size (t : L2Accel) (i : Nat) (sdev : Nat) :
    (t.record i sdev).size = t.size := by
  cases t; rfl

@[simp] theorem record_dglort (t : L2Accel) (i : Nat) (sdev : Nat) :
    (t.record i sdev).dglort = t.dglort := by
  cases t; rfl

@[simp] theorem erase_size (t : L2Accel) (i : Nat) : (t.erase i).size = t.size := by
  cases t; rfl

@[simp] theorem erase_dglort (t : L2Accel) (i : Nat) : (t.erase i).dglort = t.dglort := by
  cases t; rfl

@[simp] theorem record_macvlan (t : L2Accel) (i : Nat) (sdev : Nat) :
    (t.record i sdev).macvlan = t.macvlan.set i (some sdev) := by
  cases t; rfl

@[simp] theorem erase_macvlan (t : L2Accel) (i : Nat) :
    (t.erase i).macvlan = t.macvlan.set i none := by
  cases t; rfl

/-- Recording a station adds one to the `u16` count when it does not wrap. -/
theorem record_count (t : L2Accel) (i : Nat) (sdev : Nat) (h : t.count + 1 < 2 ^ 16) :
    (t.record i sdev).count = t.count + 1 := by
  cases t; exact Nat.mod_eq_of_lt h

/-- `count--` on a `u16` that is not zero. -/
theorem u16_pred {n : Nat} (h₁ : 1 ≤ n) (h₂ : n ≤ 2 ^ 16) : (n + 2 ^ 16 - 1) % 2 ^ 16 = n - 1 := by
  omega

/-- Clearing a slot takes one off a nonzero count. -/
theorem erase_count (t : L2Accel) (i : Nat) (h₁ : 1 ≤ t.count) (h₂ : t.count ≤ 2 ^ 16) :
    (t.erase i).count = t.count - 1 := by
  cases t; exact u16_pred h₁ h₂

@[simp] theorem record_slot (t : L2Accel) (i j : Nat) (sdev : Nat)
    (h : i < t.macvlan.length) :
    (t.record i sdev).slot j = if j = i then some sdev else t.slot j := by
  unfold L2Accel.record L2Accel.slot
  by_cases hj : j = i
  · subst hj; simp [h]
  · simp [getElem?_set_ne (Ne.symm hj), hj]

@[simp] theorem erase_slot (t : L2Accel) (i j : Nat) (h : i < t.macvlan.length) :
    (t.erase i).slot j = if j = i then none else t.slot j := by
  unfold L2Accel.erase L2Accel.slot
  by_cases hj : j = i
  · subst hj; simp [h]
  · simp [getElem?_set_ne (Ne.symm hj), hj]

@[simp] theorem first_slot (glort i : Nat) : (L2Accel.first glort).slot i = none := by
  unfold L2Accel.first L2Accel.slot
  rw [getD_eq_getElem?_getD, getElem?_replicate]
  split <;> rfl

@[simp] theorem grow_size (t : L2Accel) : t.grow.size = 2 * t.size + 1 := rfl
@[simp] theorem grow_count (t : L2Accel) : t.grow.count = t.count := rfl
@[simp] theorem grow_dglort (t : L2Accel) : t.grow.dglort = t.dglort := rfl

/-- **Growth copies the old slots**: the first `size` slots of the new table are those of
the old one, the others are empty. -/
theorem grow_slot (t : L2Accel) (j : Nat) :
    t.grow.slot j = if j < t.size then t.slot j else none := by
  by_cases hj : j < 2 * t.size + 1
  · simp [L2Accel.grow, L2Accel.slot, hj]
  · rw [slot_of_le (by simp [L2Accel.grow]; omega), if_neg (by omega)]

/-! ### Well-formed tables -/

/-- A table as the driver builds it: one of the four sizes, `size` slots, and `count` the
number of slots that hold a station. -/
structure L2Accel.WellFormed (t : L2Accel) : Prop where
  size : t.size = 7 ∨ t.size = 15 ∨ t.size = 31 ∨ t.size = 63
  length : t.macvlan.length = t.size
  count : t.count = t.macvlan.countP Option.isSome

namespace L2Accel.WellFormed

variable {t : L2Accel} (w : t.WellFormed)
include w

/-- A well-formed table has no more stations than slots. -/
theorem count_le : t.count ≤ t.size :=
  w.count ▸ w.length ▸ countP_le_length _

/-- A well-formed table has at most 63 slots. -/
theorem size_le : t.size ≤ 63 := by
  rcases w.size with h | h | h | h <;> omega

/-- A slot below the first free one holds a station, so the first free slot is at most the
number of stations. -/
theorem freeSlot_le_count : t.freeSlot ≤ t.count := by
  obtain ⟨-, hle, -, hbefore⟩ := searchSlot_spec Option.isNone t 0 t.size
  have hsome : ∀ a ∈ t.macvlan.take t.freeSlot, a.isSome := fun a ha => by
    obtain ⟨j, hj, rfl⟩ := getElem_of_mem ha
    have hj' : j < t.freeSlot := by simp at hj; omega
    have := hbefore j (Nat.zero_le _) hj'
    rw [slot_of_lt (by simp at hj; omega)] at this
    simpa [Option.isNone_iff_eq_none, ← Option.not_isSome_iff_eq_none] using this
  have htake := countP_eq_length.2 hsome
  have hsub := ((take_sublist t.freeSlot t.macvlan).countP_le Option.isSome)
  rw [htake, length_take, w.length, Nat.min_eq_left (by simpa [L2Accel.freeSlot] using hle)]
    at hsub
  exact w.count ▸ hsub

/-- A table with fewer stations than slots has a free slot below its size. -/
theorem freeSlot_lt (hc : t.count < t.size) :
    t.freeSlot < t.size ∧ t.slot t.freeSlot = none := by
  have hlt : t.freeSlot < t.size := lt_of_le_of_lt (w.freeSlot_le_count) hc
  obtain ⟨-, -, hfound, -⟩ := searchSlot_spec Option.isNone t 0 t.size
  exact ⟨hlt, by simpa using hfound (by simpa [L2Accel.freeSlot] using hlt)⟩

/-- Recording a station in the first free slot of a table with room keeps it well formed and adds
one to the count. -/
theorem record (hc : t.count < t.size) (sdev : Nat) :
    (t.record t.freeSlot sdev).WellFormed ∧ (t.record t.freeSlot sdev).count = t.count + 1 := by
  obtain ⟨hlt, hfree⟩ := w.freeSlot_lt hc
  have hlen : t.freeSlot < t.macvlan.length := w.length ▸ hlt
  have hnone : t.macvlan[t.freeSlot] = none := (slot_of_lt hlen).symm.trans hfree
  have hcount := record_count t t.freeSlot sdev (by have := w.size_le; omega)
  refine ⟨⟨by simpa using w.size, by simp [w.length], ?_⟩, hcount⟩
  rw [hcount, w.count, record_macvlan, countP_set _ _ _ _ hlen, hnone]
  simp

/-- Clearing an occupied slot keeps the table well formed and takes one off the count. -/
theorem erase {i : Nat} (hi : i < t.size) (hs : (t.slot i).isSome) :
    (t.erase i).WellFormed ∧ (t.erase i).count + 1 = t.count := by
  have hlen : i < t.macvlan.length := w.length ▸ hi
  have hsome : (t.macvlan[i]).isSome := slot_of_lt hlen ▸ hs
  have hle := boole_getElem_le_countP Option.isSome t.macvlan i hlen
  have hset := countP_set Option.isSome t.macvlan i none hlen
  simp only [hsome, if_true, Option.isSome_none, Bool.false_eq_true, if_false] at hle hset
  have hpos : 1 ≤ t.count := w.count ▸ hle
  have hcount := erase_count t i hpos (by have := w.size_le; have := w.count_le; omega)
  refine ⟨⟨by simpa using w.size, by simp [w.length], ?_⟩, by omega⟩
  rw [hcount, w.count, erase_macvlan, hset]
  rfl

/-- Growing a table that is not of the largest size keeps it well formed. -/
theorem grow (hmax : t.size ≠ 63) : t.grow.WellFormed := by
  have hl := w.length
  have happ : t.grow.macvlan = t.macvlan ++ replicate (t.size + 1) none := by
    apply ext_getElem?
    intro j
    simp only [L2Accel.grow, getElem?_map]
    by_cases h₁ : j < t.size
    · rw [getElem?_range (by omega), getElem?_append_left (hl ▸ h₁)]
      simp [h₁, slot_of_lt (hl ▸ h₁)]
    · rw [getElem?_append_right (by omega), getElem?_replicate]
      by_cases h₂ : j < 2 * t.size + 1
      · rw [getElem?_range h₂]; simp [h₁]; omega
      · rw [getElem?_eq_none (by simpa using h₂), if_neg (by omega)]
        rfl
  refine ⟨by rcases w.size with h | h | h | h <;> simp [L2Accel.grow, h]; omega,
    by simp [L2Accel.grow], ?_⟩
  show t.count = _
  rw [happ, countP_append, countP_replicate, w.count]
  simp

end L2Accel.WellFormed

/-- The first table of an interface is well formed. -/
theorem first_wellFormed (glort : Nat) : (L2Accel.first glort).WellFormed :=
  ⟨by simp [L2Accel.first], by simp [L2Accel.first], by simp [L2Accel.first, countP_replicate]⟩

/-! ### What a call touches -/

/-- The station rules touch only the allocator, the request queue and the mailbox log. -/
theorem stationRules_frame (s : Intfc) (glort : Nat) (sdev : Nat) (mode : XcastMode)
    (set : Bool) : ∃ m rs mb,
      stationRules s glort sdev mode set = { s with mem := m, macvlanRequests := rs, mbx := mb } := by
  unfold stationRules queueMacRequest
  split
  · cases h : (s.callMbx (.updateXcastMode glort mode)).mem.ok
        (s.callMbx (.updateXcastMode glort mode)).mem.next
    · rw [queueRequest_of_fail h]; exact ⟨_, _, _, rfl⟩
    · rw [queueRequest_of_ok h]; exact ⟨_, _, _, rfl⟩
  · exact ⟨_, _, _, rfl⟩

@[simp] theorem assignL2Accel_l2Accel (s : Intfc) (l2Accel : Option Nat) :
    (assignL2Accel s l2Accel).l2Accel = l2Accel := rfl

@[simp] theorem assignL2Accel_mem (s : Intfc) (l2Accel : Option Nat) :
    (assignL2Accel s l2Accel).mem = s.mem := rfl

@[simp] theorem assignL2Accel_table (s : Intfc) (l2Accel : Option Nat) (p : Nat) :
    (assignL2Accel s l2Accel).table p = s.table p := rfl

@[simp] theorem assignL2Accel_l2Tables (s : Intfc) (l2Accel : Option Nat) :
    (assignL2Accel s l2Accel).l2Tables = s.l2Tables := rfl

@[simp] theorem assignL2Accel_numRxQueues (s : Intfc) (l2Accel : Option Nat) :
    (assignL2Accel s l2Accel).numRxQueues = s.numRxQueues := rfl

@[simp] theorem assignL2Accel_mbx (s : Intfc) (l2Accel : Option Nat) :
    (assignL2Accel s l2Accel).mbx = s.mbx := rfl

@[simp] theorem assignL2Accel_macvlanRequests (s : Intfc) (l2Accel : Option Nat) :
    (assignL2Accel s l2Accel).macvlanRequests = s.macvlanRequests := rfl

@[simp] theorem assignL2Accel_glort (s : Intfc) (l2Accel : Option Nat) :
    (assignL2Accel s l2Accel).glort = s.glort := rfl

@[simp] theorem assignL2Accel_glortCount (s : Intfc) (l2Accel : Option Nat) :
    (assignL2Accel s l2Accel).glortCount = s.glortCount := rfl

/-- `fm10k_assign_l2_accel` points every receive ring of the scheme at the table it is given. -/
theorem assignL2Accel_rxRing (s : Intfc) (l2Accel : Option Nat) {i : Nat}
    (hi : i < s.numRxQueues) : ((assignL2Accel s l2Accel).rxRing i).l2Accel = l2Accel := by
  simp [assignL2Accel, hi]

/-- Everything `prepareL2Accel` can do: fail with only the allocator moved, keep a table with
room, create the first table, or grow a full one. -/
theorem prepareL2Accel_cases (s : Intfc) :
    (∃ e m, prepareL2Accel s = ({ s with mem := m }, .error e)) ∨
    (∃ p, s.l2Accel = some p ∧ (s.table p).count ≠ (s.table p).size ∧
      ¬((s.table p).count = FM10K_MAX_STATIONS ∨ ((s.table p).count : Int) = s.glortCount - 1) ∧
      prepareL2Accel s = (s, .ok p)) ∨
    (s.l2Accel = none ∧ 7 ≤ s.glortCount ∧ s.mem.ok s.mem.next = true ∧
      prepareL2Accel s = (assignL2Accel
        { s with
          mem := s.mem.alloc.2
          l2Tables := Function.update s.l2Tables s.mem.next (some (.first s.glort)) }
        (some s.mem.next), .ok s.mem.next)) ∨
    (∃ p, s.l2Accel = some p ∧ (s.table p).count = (s.table p).size ∧
      ¬((s.table p).count = FM10K_MAX_STATIONS ∨ ((s.table p).count : Int) = s.glortCount - 1) ∧
      s.mem.ok s.mem.next = true ∧
      prepareL2Accel s = ({ assignL2Accel
        { s with
          mem := s.mem.alloc.2
          l2Tables := Function.update s.l2Tables s.mem.next (some (s.table p).grow) }
        (some s.mem.next) with mem := s.mem.alloc.2.release (.kfreeRcu p) }, .ok s.mem.next)) := by
  unfold prepareL2Accel
  split
  next hl =>
    by_cases hg : s.glortCount < 7
    · exact .inl ⟨-EBUSY, s.mem, by simp only [hg, if_true]⟩
    · cases hok : s.mem.ok s.mem.next
      · exact .inl ⟨-ENOMEM, s.mem.alloc.2, by simp [hg, Intfc.alloc, Mem.alloc, hok]⟩
      · exact .inr (.inr (.inl ⟨hl, by omega, rfl, by simp [hg, Intfc.alloc, Mem.alloc, hok]⟩))
  next p hl =>
    by_cases hb : (s.table p).count = FM10K_MAX_STATIONS ∨
        ((s.table p).count : Int) = (s.glortCount : Int) - 1
    · exact .inl ⟨-EBUSY, s.mem, by simp only [hb, if_true]⟩
    · by_cases hf : (s.table p).count = (s.table p).size
      · cases hok : s.mem.ok s.mem.next
        · refine .inl ⟨-ENOMEM, s.mem.alloc.2, ?_⟩
          rw [if_neg hb, if_pos hf]
          simp [Intfc.alloc, Mem.alloc, hok]
        · refine .inr (.inr (.inr ⟨p, hl, hf, hb, rfl, ?_⟩))
          rw [if_neg hb, if_pos hf]
          simp [Intfc.alloc, Mem.alloc, hok]
      · exact .inr (.inl ⟨p, hl, hf, hb, by rw [if_neg hb, if_neg hf]⟩)

/-! ### The table invariant -/

/-- The forwarding-table invariant: the interface has no table, or a well-formed table with
at least one station, and every receive ring points where the interface does. -/
structure L2Inv (s : Intfc) : Prop where
  table : ∀ p, s.l2Accel = some p → ∃ t, s.l2Tables p = some t ∧ t.WellFormed ∧ 1 ≤ t.count
  rings : ∀ i < s.numRxQueues, (s.rxRing i).l2Accel = s.l2Accel

/-- Under the table invariant the interface's table is stored, well formed and holds a station. -/
theorem L2Inv.table_eq {s : Intfc} (hi : L2Inv s) {p : Nat} (hp : s.l2Accel = some p) :
    s.l2Tables p = some (s.table p) ∧ (s.table p).WellFormed ∧ 1 ≤ (s.table p).count := by
  obtain ⟨t, ht, hw, hc⟩ := hi.table p hp
  simpa [Intfc.table, ht] using ⟨hw, hc⟩

/-- The state in which `fm10k_dfwd_add_station` records its station: the interface points
to a well-formed table with a free slot, and so does every receive ring. -/
structure ReadyTable (s : Intfc) (p : Nat) : Prop where
  ptr : s.l2Accel = some p
  table : s.l2Tables p = some (s.table p)
  wf : (s.table p).WellFormed
  room : (s.table p).count < (s.table p).size
  rings : ∀ i < s.numRxQueues, (s.rxRing i).l2Accel = some p

@[simp] theorem table_update_self (s : Intfc) (p : Nat) (t : L2Accel) :
    { s with l2Tables := Function.update s.l2Tables p (some t) }.table p = t := by
  simp [Intfc.table]

/-- The first half of an add ends with a table ready for the station, or with an error and
no table, slot or pointer changed. -/
theorem prepareL2Accel_spec {s : Intfc} (hi : L2Inv s) :
    (∃ e m, prepareL2Accel s = ({ s with mem := m }, .error e)) ∨
      ∃ p, (prepareL2Accel s).2 = .ok p ∧ ReadyTable (prepareL2Accel s).1 p := by
  rcases prepareL2Accel_cases s with h | ⟨p, hp, hf, -, h⟩ | ⟨hl, -, -, h⟩ | ⟨p, hp, hf, hb, -, h⟩
  · exact .inl h
  · obtain ⟨ht, hw, -⟩ := hi.table_eq hp
    rw [h]
    exact .inr ⟨p, rfl, hp, ht, hw, lt_of_le_of_ne hw.count_le hf,
      fun i h => (hi.rings i h).trans hp⟩
  · rw [h]
    refine .inr ⟨_, rfl, rfl, by simp [Intfc.table], ?_, ?_,
      fun i h => assignL2Accel_rxRing _ _ h⟩
    · simpa [Intfc.table] using first_wellFormed s.glort
    · simp [Intfc.table, L2Accel.first]
  · obtain ⟨-, hw, -⟩ := hi.table_eq hp
    have hg := hw.grow (by simpa [FM10K_MAX_STATIONS, hf] using fun h => hb (.inl h))
    have := hw.count_le
    rw [h]
    refine .inr ⟨_, rfl, rfl, by simp [Intfc.table], ?_, ?_,
      fun i h => assignL2Accel_rxRing _ _ h⟩
    · simpa [Intfc.table] using hg
    · simp only [Intfc.table] at this ⊢
      simp
      omega

/-- Two interfaces that agree on everything the tables, their pointers and the GLORT range
are made of. -/
structure SameTables (s s' : Intfc) : Prop where
  l2Accel : s'.l2Accel = s.l2Accel
  l2Tables : s'.l2Tables = s.l2Tables
  numRxQueues : s'.numRxQueues = s.numRxQueues
  rxRing : s'.rxRing = s.rxRing
  glort : s'.glort = s.glort
  glortCount : s'.glortCount = s.glortCount
  dglortMap : s'.dglortMap = s.dglortMap

/-- An interface agrees with itself on its tables. -/
theorem SameTables.refl (s : Intfc) : SameTables s s :=
  ⟨rfl, rfl, rfl, rfl, rfl, rfl, rfl⟩

/-- Agreement on the tables is transitive. -/
theorem SameTables.trans {s₁ s₂ s₃ : Intfc} (h₁ : SameTables s₁ s₂) (h₂ : SameTables s₂ s₃) :
    SameTables s₁ s₃ :=
  ⟨h₂.1.trans h₁.1, h₂.2.trans h₁.2, h₂.3.trans h₁.3, h₂.4.trans h₁.4, h₂.5.trans h₁.5,
    h₂.6.trans h₁.6, h₂.7.trans h₁.7⟩

/-- A change of the allocator only keeps the tables. -/
theorem sameTables_mem (s : Intfc) (m : Mem) : SameTables s { s with mem := m } :=
  ⟨rfl, rfl, rfl, rfl, rfl, rfl, rfl⟩

/-- Programming a station's rules keeps the tables. -/
theorem sameTables_stationRules (s : Intfc) (glort : Nat) (sdev : Nat) (mode : XcastMode)
    (set : Bool) : SameTables s (stationRules s glort sdev mode set) := by
  obtain ⟨_, _, _, h⟩ := stationRules_frame s glort sdev mode set
  rw [h]; exact ⟨rfl, rfl, rfl, rfl, rfl, rfl, rfl⟩

/-- Programming the DGLORT map keeps the tables. -/
theorem sameTables_configureDglortMap (s : Intfc) (size : Nat) :
    SameTables s (configureDglortMap s size) :=
  ⟨rfl, rfl, rfl, rfl, rfl, rfl, rfl⟩

/-- The table invariant depends on the tables only. -/
theorem L2Inv.of_same {s s' : Intfc} (hi : L2Inv s) (h : SameTables s s') : L2Inv s' :=
  ⟨fun p hp => by rw [h.l2Tables]; exact hi.table p (h.l2Accel ▸ hp),
    fun i hr => by rw [h.rxRing, h.l2Accel]; exact hi.rings i (h.numRxQueues ▸ hr)⟩

/-- An add records its station in the first free slot of the table `prepareL2Accel`
readied. -/
theorem dfwdAddStation_of_ok {s s₁ : Intfc} {p : Nat} (h : prepareL2Accel s = (s₁, .ok p))
    (sdev : Nat) :
    dfwdAddStation s sdev =
      (stationRules (configureDglortMap
        { s₁ with
          l2Tables := Function.update s₁.l2Tables p
            (some ((s₁.table p).record (s₁.table p).freeSlot sdev)) }
        (s₁.table p).size) ((s₁.table p).glortOf (s₁.table p).freeSlot) sdev .multi true,
        .ok sdev) := by
  simp [dfwdAddStation, h, L2Accel.glortOf]

/-- The tables after the record step of an add are those of the ready state, but for the
recorded table. -/
theorem dfwdAddStation_sameTables {s s₁ : Intfc} {p : Nat} (h : prepareL2Accel s = (s₁, .ok p))
    (sdev : Nat) :
    SameTables
      { s₁ with
        l2Tables := Function.update s₁.l2Tables p
          (some ((s₁.table p).record (s₁.table p).freeSlot sdev)) }
      (dfwdAddStation s sdev).1 := by
  rw [dfwdAddStation_of_ok h]
  exact (sameTables_configureDglortMap _ _).trans (sameTables_stationRules _ _ _ _ _)

/-- **An add keeps the table invariant.** -/
theorem dfwdAddStation_inv {s : Intfc} (hi : L2Inv s) (sdev : Nat) :
    L2Inv (dfwdAddStation s sdev).1 := by
  rcases prepareL2Accel_spec hi with ⟨e, m, h⟩ | ⟨p, hok, hr⟩
  · simpa [dfwdAddStation, h] using hi.of_same (sameTables_mem s m)
  · rcases hh : prepareL2Accel s with ⟨s₁, r⟩
    rw [hh] at hok hr
    cases hok
    obtain ⟨hwf, hc⟩ := hr.wf.record hr.room sdev
    refine L2Inv.of_same ⟨fun q hq => ?_, fun i h => ?_⟩ (dfwdAddStation_sameTables hh sdev)
    · cases hr.ptr.symm.trans hq
      exact ⟨_, by simp, hwf, by omega⟩
    · exact (hr.rings i h).trans hr.ptr.symm

/-! ### Stations by slot -/

/-- The station in slot `i` of the interface's table, if any. -/
def stations (s : Intfc) (i : Nat) : Option Nat :=
  match s.l2Accel with
  | none => none
  | some p => if i < (s.table p).size then (s.table p).slot i else none

/-- The stations depend on the tables only. -/
theorem stations_of_same {s s' : Intfc} (h : SameTables s s') : stations s' = stations s := by
  funext i; simp [stations, h.l2Accel, Intfc.table, h.l2Tables]

/-- An interface with no table has no stations. -/
theorem stations_of_none {s : Intfc} (h : s.l2Accel = none) : stations s = fun _ => none := by
  funext i; simp [stations, h]

/-- The stations of an interface with a well-formed table are its slots. -/
theorem stations_of_some {s : Intfc} {p : Nat} (hp : s.l2Accel = some p)
    (hw : (s.table p).WellFormed) : stations s = (s.table p).slot := by
  funext i
  by_cases h : i < (s.table p).size
  · simp [stations, hp, h]
  · simp [stations, hp, h, slot_of_le (hw.length ▸ Nat.le_of_not_lt h)]

/-- The stations of an interface, read through the table it points to. -/
theorem stations_eq_of {s : Intfc} {q : Nat} {t : L2Accel} (hq : s.l2Accel = some q)
    (ht : s.l2Tables q = some t) (i : Nat) :
    stations s i = if i < t.size then t.slot i else none := by
  simp [stations, hq, Intfc.table, ht]

/-- Replacing the interface's table replaces its stations. -/
theorem stations_update_table {s : Intfc} {p : Nat} (hp : s.l2Accel = some p) (t : L2Accel)
    (i : Nat) : stations { s with l2Tables := Function.update s.l2Tables p (some t) } i =
      if i < t.size then t.slot i else none := by
  simp [stations, hp, Intfc.table]

/-- Readying the table moves no station: a new table is empty, a grown one keeps its slots. -/
theorem prepareL2Accel_stations {s s₁ : Intfc} {p : Nat} (hi : L2Inv s)
    (h : prepareL2Accel s = (s₁, .ok p)) : stations s₁ = stations s := by
  rcases prepareL2Accel_cases s with ⟨e, m, h'⟩ | ⟨p', -, -, -, h'⟩ | ⟨hl, -, -, h'⟩ |
      ⟨p', hp, -, -, -, h'⟩ <;> rw [h'] at h <;> simp only [Prod.mk.injEq] at h
  · cases h.2
  · rw [← h.1]
  · rw [← h.1, stations_of_none hl]
    funext i
    simp [stations, Intfc.table]
  · obtain ⟨-, hw, -⟩ := hi.table_eq hp
    rw [← h.1, stations_of_some hp hw]
    funext i
    rw [stations_eq_of (t := (s.table p').grow) rfl (by simp), grow_size, grow_slot]
    split_ifs <;> first | rfl | omega | exact (slot_of_le (hw.length ▸ by omega)).symm

/-- Everything a delete can do: nothing, when no slot holds `sdev`; or clear the first slot
holding it, and drop the table if that was its last station. -/
theorem dfwdDelStation_spec {s : Intfc} (hi : L2Inv s) (sdev : Nat) :
    ((∀ i, stations s i ≠ some sdev) ∧ dfwdDelStation s sdev = s) ∨
    ∃ p i, s.l2Accel = some p ∧ i = (s.table p).slotOf sdev ∧ i < (s.table p).size ∧
      stations s i = some sdev ∧ (∀ j < i, stations s j ≠ some sdev) ∧
      ((1 ≤ ((s.table p).erase i).count ∧
        SameTables { s with l2Tables := Function.update s.l2Tables p (some ((s.table p).erase i)) }
          (dfwdDelStation s sdev)) ∨
       (((s.table p).erase i).count = 0 ∧
        SameTables (assignL2Accel
          { s with l2Tables := Function.update s.l2Tables p (some ((s.table p).erase i)) } none)
          (dfwdDelStation s sdev))) := by
  unfold dfwdDelStation
  split
  next hl => exact .inl ⟨by simp [stations_of_none hl], rfl⟩
  next p hp =>
    obtain ⟨-, hw, -⟩ := hi.table_eq hp
    obtain ⟨-, hle, hfound, hbefore⟩ :=
      searchSlot_spec (· == some sdev) (s.table p) 0 (s.table p).size
    rw [stations_of_some hp hw]
    by_cases hs : (s.table p).slotOf sdev = (s.table p).size
    · refine .inl ⟨fun i => ?_, if_pos hs⟩
      by_cases hi' : i < (s.table p).size
      · simpa using hbefore i (Nat.zero_le _)
          (show i < (s.table p).slotOf sdev by rw [hs]; exact hi')
      · simp [slot_of_le (hw.length ▸ Nat.le_of_not_lt hi')]
    · have hlt : (s.table p).slotOf sdev < (s.table p).size := by
        simp only [L2Accel.slotOf] at hs ⊢; omega
      rw [if_neg hs]
      refine .inr ⟨p, _, hp, rfl, hlt, by simpa using hfound (by simpa [L2Accel.slotOf] using hlt),
        fun j hj => by simpa using hbefore j (Nat.zero_le _) hj, ?_⟩
      have hsr := sameTables_stationRules s (((s.table p).glortOf ((s.table p).slotOf sdev)))
        sdev .none false
      dsimp only
      split_ifs with hz
      · refine .inr ⟨hz, ⟨?_, ?_, ?_, ?_, ?_, ?_, ?_⟩⟩ <;>
          simp [configureDglortMap, Intfc.callMbx, assignL2Accel, hsr.l2Tables, hsr.rxRing,
            hsr.numRxQueues, hsr.glort, hsr.glortCount, hsr.dglortMap]
      · refine .inl ⟨by omega, ⟨?_, ?_, ?_, ?_, ?_, ?_, ?_⟩⟩ <;>
          simp [configureDglortMap, Intfc.callMbx, hsr.l2Accel, hsr.l2Tables, hsr.rxRing,
            hsr.numRxQueues, hsr.glort, hsr.glortCount, hsr.dglortMap]

/-- **A delete keeps the table invariant.** -/
theorem dfwdDelStation_inv {s : Intfc} (hi : L2Inv s) (sdev : Nat) :
    L2Inv (dfwdDelStation s sdev) := by
  rcases dfwdDelStation_spec hi sdev with ⟨-, h⟩ | ⟨p, i, hp, -, hlt, hsome, -, ⟨hc, hsame⟩ |
      ⟨-, hsame⟩⟩
  · rwa [h]
  · obtain ⟨-, hw, -⟩ := hi.table_eq hp
    have hs : ((s.table p).slot i).isSome := by
      rw [stations_of_some hp hw] at hsome; simp [hsome]
    obtain ⟨hwf, -⟩ := hw.erase hlt hs
    refine L2Inv.of_same ?_ hsame
    refine ⟨fun q hq => ?_, fun j h => hi.rings j h⟩
    cases hp.symm.trans hq
    exact ⟨_, by simp, hwf, hc⟩
  · refine L2Inv.of_same ?_ hsame
    exact ⟨fun q hq => by simp at hq, fun j h => assignL2Accel_rxRing _ _ h⟩

/-- **One add or delete keeps the table invariant.** -/
theorem l2Step_inv {s : Intfc} (hi : L2Inv s) : ∀ c, L2Inv (l2Step s c)
  | .add sdev => dfwdAddStation_inv hi sdev
  | .del sdev => dfwdDelStation_inv hi sdev

/-- Every sequence of adds and deletes keeps the table invariant. -/
theorem l2Run_inv {s : Intfc} (hi : L2Inv s) (cs : List L2Call) : L2Inv (l2Run s cs) := by
  induction cs generalizing s with
  | nil => exact hi
  | cons c cs ih => exact ih (l2Step_inv hi c)

/-- What the forwarding table guarantees in a state: the invariant holds, an add writes a
slot below the size of the table it writes, and a failed add changes no table, slot or
pointer. -/
def L2Safe (s : Intfc) : Prop :=
  L2Inv s ∧
    (∀ s₁ p, prepareL2Accel s = (s₁, .ok p) → (s₁.table p).freeSlot < (s₁.table p).size) ∧
    ∀ sdev e, (dfwdAddStation s sdev).2 = .error e → SameTables s (dfwdAddStation s sdev).1

/-- **The forwarding table stays well formed** along every sequence of adds and deletes,
whatever the devices, the allocation outcomes and the GLORT count. -/
theorem l2_accel_invariant (s : Intfc) (hs : L2Inv s) (cs : List L2Call) :
    L2Safe (l2Run s cs) := by
  have hi := l2Run_inv hs cs
  refine ⟨hi, fun s₁ p h => ?_, fun sdev e he => ?_⟩ <;>
    rcases prepareL2Accel_spec hi with ⟨e', m, h'⟩ | ⟨q, hq, hr⟩
  · rw [h'] at h; cases h
  · rw [h] at hq hr; cases hq; exact (hr.wf.freeSlot_lt hr.room).1
  · simpa [dfwdAddStation, h'] using sameTables_mem _ m
  · rcases hh : prepareL2Accel (l2Run s cs) with ⟨s₁, r⟩
    rw [hh] at hq; cases hq
    rw [dfwdAddStation_of_ok hh] at he; cases he

/-- The invariant from a freshly probed PF with 16 GLORTs, along two adds and a delete. -/
theorem l2_accel_invariant_probe :
    let s := { Intfc.zeroed .pf ⟨0, fun _ => true, [], []⟩ with glortCount := 16 }
    L2Inv s ∧ L2Safe (l2Run s [.add 100, .add 101, .del 100]) :=
  have hs : L2Inv { Intfc.zeroed .pf ⟨0, fun _ => true, [], []⟩ with glortCount := 16 } :=
    ⟨fun _ hp => by simp [Intfc.zeroed] at hp, fun _ hi => by simp [Intfc.zeroed] at hi⟩
  ⟨hs, l2_accel_invariant _ hs _⟩

/-! ### Stable slots -/

/-- The first GLORT of the interface's table, if it has one. -/
def Intfc.dglort? (s : Intfc) : Option Nat :=
  s.l2Accel.map fun p => (s.table p).dglort

/-- The first GLORT of the table depends on the tables only. -/
theorem dglort?_of_same {s s' : Intfc} (h : SameTables s s') : s'.dglort? = s.dglort? := by
  simp [Intfc.dglort?, h.l2Accel, Intfc.table, h.l2Tables]

/-- Replacing the interface's table replaces its first GLORT. -/
theorem dglort?_update_table {s : Intfc} {p : Nat} (hp : s.l2Accel = some p) (t : L2Accel) :
    { s with l2Tables := Function.update s.l2Tables p (some t) }.dglort? = some t.dglort := by
  simp [Intfc.dglort?, hp, Intfc.table]

/-- Readying the table keeps its first GLORT, unless there was no table. -/
theorem prepareL2Accel_dglort {s s₁ : Intfc} {p : Nat} (h : prepareL2Accel s = (s₁, .ok p)) :
    s.dglort? = none ∨ s.dglort? = some (s₁.table p).dglort := by
  rcases prepareL2Accel_cases s with ⟨e, m, h'⟩ | ⟨p', hp, -, -, h'⟩ | ⟨hl, -, -, h'⟩ |
      ⟨p', hp, -, -, -, h'⟩ <;> rw [h'] at h <;> simp only [Prod.mk.injEq] at h
  · cases h.2
  · obtain ⟨rfl, h⟩ := h; cases h
    exact .inr (by simp [Intfc.dglort?, hp])
  · exact .inl (by simp [Intfc.dglort?, hl])
  · obtain ⟨rfl, h⟩ := h; cases h
    exact .inr (by simp [Intfc.dglort?, hp, Intfc.table])

/-- **An add fills the lowest free slot** and changes no other slot and no first GLORT. -/
theorem dfwdAddStation_stations {s s' : Intfc} {sdev d : Nat} (hi : L2Inv s)
    (h : dfwdAddStation s sdev = (s', .ok d)) :
    ∃ i, stations s i = none ∧ (∀ j < i, stations s j ≠ none) ∧
      stations s' = Function.update (stations s) i (some sdev) ∧
      (s.dglort? = none ∨ s'.dglort? = s.dglort?) := by
  rcases prepareL2Accel_spec hi with ⟨e, m, h'⟩ | ⟨p, hok, hr⟩
  · simp [dfwdAddStation, h'] at h
  rcases hh : prepareL2Accel s with ⟨s₁, r⟩
  rw [hh] at hok hr; cases hok
  dsimp only at hr
  have hsame := dfwdAddStation_sameTables hh sdev
  rw [h] at hsame
  dsimp only at hsame
  have hst := (prepareL2Accel_stations hi hh).symm
  have hs₁ := stations_eq_of hr.ptr hr.table
  obtain ⟨hlt, hfree⟩ := hr.wf.freeSlot_lt hr.room
  obtain ⟨-, -, -, hbefore⟩ := searchSlot_spec Option.isNone (s₁.table p) 0 (s₁.table p).size
  have hlen := hr.wf.length
  refine ⟨(s₁.table p).freeSlot, ?_, fun j hj => ?_, ?_, ?_⟩
  · rw [hst, hs₁, if_pos hlt, hfree]
  · rw [hst, hs₁, if_pos (by omega)]
    exact Option.ne_none_iff_isSome.2 (by simpa using hbefore j (Nat.zero_le _) hj)
  · funext j
    rw [stations_of_same hsame, stations_update_table hr.ptr, hst, record_size,
      record_slot _ _ _ _ (hlen ▸ hlt)]
    by_cases hj : j = (s₁.table p).freeSlot
    · subst hj; simp [hlt]
    · rw [Function.update_noteq hj, hs₁, if_neg hj]
  · rcases prepareL2Accel_dglort hh with h₀ | h₀
    · exact .inl h₀
    · right
      rw [dglort?_of_same hsame, h₀, dglort?_update_table hr.ptr, record_dglort]

/-- A table without stations holds no station in any slot. -/
theorem L2Accel.WellFormed.slot_of_count_zero {t : L2Accel} (w : t.WellFormed) (h : t.count = 0)
    (j : Nat) : t.slot j = none := by
  by_cases hj : j < t.macvlan.length
  · rw [slot_of_lt hj]
    have := List.countP_eq_zero.1 (w.count ▸ h) _ (getElem_mem hj)
    simpa using this
  · exact slot_of_le (Nat.le_of_not_lt hj)

/-- **A delete clears only the lowest slot holding its device**, and nothing when no slot
holds it; the first GLORT stays, unless the table goes. -/
theorem dfwdDelStation_stations {s : Intfc} (hi : L2Inv s) (sdev : Nat) :
    (∀ i, stations s i = some sdev → (∀ j < i, stations s j ≠ some sdev) →
      stations (dfwdDelStation s sdev) = Function.update (stations s) i none) ∧
    ((∀ i, stations s i ≠ some sdev) → dfwdDelStation s sdev = s) ∧
    ((dfwdDelStation s sdev).dglort? = s.dglort? ∨ (dfwdDelStation s sdev).dglort? = none) := by
  rcases dfwdDelStation_spec hi sdev with ⟨hno, h⟩ | ⟨p, i, hp, -, hlt, hsome, hbefore, hcase⟩
  · exact ⟨fun i hi' => absurd hi' (hno i), fun _ => h, .inl (by rw [h])⟩
  obtain ⟨-, hw, -⟩ := hi.table_eq hp
  have hs := stations_of_some hp hw
  have hsome' : ((s.table p).slot i).isSome := by rw [hs] at hsome; simp [hsome]
  obtain ⟨hwf, -⟩ := hw.erase hlt hsome'
  have hlen := hw.length
  have hclear : ∀ i', stations s i' = some sdev → (∀ j < i', stations s j ≠ some sdev) → i' = i :=
    fun i' h₁ h₂ => by
      rcases Nat.lt_trichotomy i' i with h | h | h
      · exact absurd h₁ (hbefore i' h)
      · exact h
      · exact absurd hsome (h₂ i h)
  refine ⟨fun i' h₁ h₂ => ?_, fun hno => absurd hsome (hno i), ?_⟩ <;>
    rcases hcase with ⟨-, hsame⟩ | ⟨hz, hsame⟩
  · cases hclear i' h₁ h₂
    funext j
    rw [stations_of_same hsame, stations_update_table hp, hs, erase_size,
      erase_slot _ _ _ (hlen ▸ hlt)]
    by_cases hj : j = i
    · subst hj; simp
    · simp only [hj, if_false, Function.update_noteq hj]
      split_ifs with hj'
      · rfl
      · exact (slot_of_le (hlen ▸ Nat.le_of_not_lt hj')).symm
  · cases hclear i' h₁ h₂
    rw [stations_of_same hsame, stations_of_none rfl, hs]
    funext j
    by_cases hj : j = i
    · subst hj; simp
    · have := hwf.slot_of_count_zero hz j
      simp only [erase_slot _ _ _ (hlen ▸ hlt), if_neg hj] at this
      simp [hj, this]
  · exact .inl (by rw [dglort?_of_same hsame]; simp [Intfc.dglort?, hp, Intfc.table])
  · exact .inr (by rw [dglort?_of_same hsame]; simp [Intfc.dglort?])

/-- **A station is its device, not its address.** After the stack changes the addresses of
any devices, a delete leaves the same stations as it would have before: the slots are found
by pointer, and only the request that clears the station reads the address. -/
theorem dfwdDelStation_sdevAddr {s : Intfc} (hi : L2Inv s) (f : Nat → MacAddr) (sdev : Nat) :
    stations (dfwdDelStation { s with sdevAddr := f } sdev) = stations (dfwdDelStation s sdev) := by
  have hsame : SameTables s { s with sdevAddr := f } := ⟨rfl, rfl, rfl, rfl, rfl, rfl, rfl⟩
  have hi' := hi.of_same hsame
  have hst : stations { s with sdevAddr := f } = stations s := stations_of_same hsame
  by_cases hex : ∃ i, stations s i = some sdev
  · classical
    have h₁ : stations s (Nat.find hex) = some sdev := Nat.find_spec hex
    have h₂ : ∀ j < Nat.find hex, stations s j ≠ some sdev := fun j hj => Nat.find_min hex hj
    rw [(dfwdDelStation_stations hi' sdev).1 _ (by rwa [hst]) (by rwa [hst]),
      (dfwdDelStation_stations hi sdev).1 _ h₁ h₂, hst]
  · push_neg at hex
    rw [(dfwdDelStation_stations hi' sdev).2.1 (by rwa [hst]),
      (dfwdDelStation_stations hi sdev).2.1 hex, hst]

example :
    let s :=
      l2Run { Intfc.zeroed .pf ⟨0, fun _ => true, [], []⟩ with glortCount := 16 } [.add 100]
    stations (dfwdDelStation
      { s with sdevAddr := Function.update s.sdevAddr 100 ⟨2, 0, 0, 0, 0, 9⟩ } 100) 0 = none := by
  decide

/-- Slot stability in a state: an add fills the lowest free slot and no other, a failed add
changes no slot, a delete clears only the lowest slot holding its device and changes nothing
when no slot holds it, and the first GLORT of a table never changes. -/
def StationsStable (s : Intfc) : Prop :=
  (∀ sdev s' d, dfwdAddStation s sdev = (s', .ok d) →
    ∃ i, stations s i = none ∧ (∀ j < i, stations s j ≠ none) ∧
      stations s' = Function.update (stations s) i (some sdev) ∧
      (s.dglort? = none ∨ s'.dglort? = s.dglort?)) ∧
  (∀ sdev s' e, dfwdAddStation s sdev = (s', .error e) →
    stations s' = stations s ∧ s'.dglort? = s.dglort?) ∧
  (∀ sdev i, stations s i = some sdev → (∀ j < i, stations s j ≠ some sdev) →
    stations (dfwdDelStation s sdev) = Function.update (stations s) i none) ∧
  (∀ sdev, (∀ i, stations s i ≠ some sdev) → dfwdDelStation s sdev = s) ∧
  (∀ sdev, (dfwdDelStation s sdev).dglort? = s.dglort? ∨
    (dfwdDelStation s sdev).dglort? = none)

/-- **Every station keeps its slot**, and so its GLORT, from the add that filled it to the
delete of its device: along every sequence of adds and deletes the slots change only as
`StationsStable` allows, and growth copies the old slots into the new table with the count
and the first GLORT. -/
theorem station_slots_stable (s : Intfc) (hs : L2Inv s) (cs : List L2Call) :
    StationsStable (l2Run s cs) ∧
      ∀ t : L2Accel, t.grow.count = t.count ∧ t.grow.dglort = t.dglort ∧
        ∀ j, t.grow.slot j = if j < t.size then t.slot j else none := by
  have hi := l2Run_inv hs cs
  refine ⟨⟨fun sdev s' d h => dfwdAddStation_stations hi h, fun sdev s' e h => ?_,
    fun sdev => (dfwdDelStation_stations hi sdev).1, fun sdev => (dfwdDelStation_stations hi sdev).2.1,
    fun sdev => (dfwdDelStation_stations hi sdev).2.2⟩, fun t => ⟨rfl, rfl, grow_slot t⟩⟩
  rcases prepareL2Accel_spec hi with ⟨e', m, h'⟩ | ⟨q, hq, hr⟩
  · simp only [dfwdAddStation, h', Prod.mk.injEq] at h
    rw [← h.1]
    exact ⟨stations_of_same (sameTables_mem _ m), dglort?_of_same (sameTables_mem _ m)⟩
  · rcases hh : prepareL2Accel (l2Run s cs) with ⟨s₁, r⟩
    rw [hh] at hq; cases hq
    rw [dfwdAddStation_of_ok hh] at h; cases h

/-- Slot stability from a freshly probed PF with 16 GLORTs, along two adds and a delete. -/
theorem station_slots_stable_probe :
    let s := { Intfc.zeroed .pf ⟨0, fun _ => true, [], []⟩ with glortCount := 16 }
    L2Inv s ∧ StationsStable (l2Run s [.add 100, .add 101, .del 100]) :=
  have hs : L2Inv { Intfc.zeroed .pf ⟨0, fun _ => true, [], []⟩ with glortCount := 16 } :=
    ⟨fun _ hp => by simp [Intfc.zeroed] at hp, fun _ hi => by simp [Intfc.zeroed] at hi⟩
  ⟨hs, (station_slots_stable _ hs _).1⟩

/-! ### Station GLORTs -/

/-- The GLORT invariant: the PF's range is assigned, inside the switch's range, which does
not wrap; the table, if any, starts at the PF's GLORT, has a free GLORT above its stations,
and every station's slot is below the end of the range. -/
structure GlortInv (s : Intfc) : Prop where
  range : GlortRange s
  nowrap : dglortBase s.dglortMap + dglortMask s.dglortMap ≤ 0xFFFF
  table : ∀ p, s.l2Accel = some p →
    (s.table p).dglort = s.glort ∧ (s.table p).count + 1 ≤ s.glortCount ∧
      ∀ i < (s.table p).size, (s.table p).slot i ≠ none → i + 2 ≤ s.glortCount

/-- The GLORTs a stretch of mailbox log and of queued requests gives the switch lie in
`[lo, hi]`, or are `g`. -/
def GlortsIn (g lo hi : Nat) (Δm : List MbxCall) (Δr : List MacvlanRequest) : Prop :=
  (∀ g' mode, MbxCall.updateXcastMode g' mode ∈ Δm → g' = g ∨ lo ≤ g' ∧ g' ≤ hi) ∧
    ∀ r ∈ Δr, ∀ g', r.body.glort? = some g' → g' = g ∨ lo ≤ g' ∧ g' ≤ hi

/-- From `s` to `s'` the driver appended to the mailbox log and to the request queue only
calls and requests whose GLORT is the PF's or one of its stations'. -/
def StationGlorts (s s' : Intfc) : Prop :=
  ∃ Δm Δr, s'.mbx = s.mbx ++ Δm ∧ s'.macvlanRequests = s.macvlanRequests ++ Δr ∧
    GlortsIn s.glort (s.glort + 1) (s.glort + s.glortCount - 1) Δm Δr

/-- GLORTs in a range in two stretches are in the range in both together. -/
theorem glortsIn_append {g lo hi : Nat} {m₁ m₂ : List MbxCall} {r₁ r₂ : List MacvlanRequest}
    (h₁ : GlortsIn g lo hi m₁ r₁) (h₂ : GlortsIn g lo hi m₂ r₂) :
    GlortsIn g lo hi (m₁ ++ m₂) (r₁ ++ r₂) :=
  ⟨fun g' mode h => (mem_append.1 h).elim (h₁.1 g' mode) (h₂.1 g' mode),
    fun r h => (mem_append.1 h).elim (h₁.2 r) (h₂.2 r)⟩

/-- Two stretches that program only the PF's and its stations' GLORTs do so together, when the first
keeps the range. -/
theorem StationGlorts.trans {s₁ s₂ s₃ : Intfc} (h₁ : StationGlorts s₁ s₂)
    (h₂ : StationGlorts s₂ s₃) (hg : s₂.glort = s₁.glort) (hc : s₂.glortCount = s₁.glortCount) :
    StationGlorts s₁ s₃ := by
  obtain ⟨m₁, r₁, hm₁, hr₁, h₁⟩ := h₁
  obtain ⟨m₂, r₂, hm₂, hr₂, h₂⟩ := h₂
  rw [hg, hc] at h₂
  exact ⟨m₁ ++ m₂, r₁ ++ r₂, by rw [hm₂, hm₁, append_assoc], by rw [hr₂, hr₁, append_assoc],
    glortsIn_append h₁ h₂⟩

/-- A stretch that programs nothing programs only allowed GLORTs. -/
theorem stationGlorts_of_same {s s' : Intfc} (hm : s'.mbx = s.mbx)
    (hr : s'.macvlanRequests = s.macvlanRequests) : StationGlorts s s' :=
  ⟨[], [], by simp [hm], by simp [hr], by simp [GlortsIn]⟩

/-- What the station rules append: a multicast-mode call and a MAC request, both for
`glort` as a `u16`, or less. -/
theorem stationRules_log (s : Intfc) (glort : Nat) (sdev : Nat) (mode : XcastMode)
    (set : Bool) (hg : glort < 2 ^ 16) (g : Nat) :
    ∃ Δm Δr, (stationRules s glort sdev mode set).mbx = s.mbx ++ Δm ∧
      (stationRules s glort sdev mode set).macvlanRequests = s.macvlanRequests ++ Δr ∧
      GlortsIn g glort glort Δm Δr := by
  unfold stationRules queueMacRequest
  split
  · cases h : (s.callMbx (.updateXcastMode glort mode)).mem.ok
        (s.callMbx (.updateXcastMode glort mode)).mem.next
    · rw [queueRequest_of_fail h]
      exact ⟨[.updateXcastMode glort mode], [], by simp, by simp, by simp [GlortsIn]⟩
    · rw [queueRequest_of_ok h]
      have hb : (macRequestBody glort (s.sdevAddr sdev) s.defaultVid).glort? = some glort := by
        rw [macRequestBody_glort?, Nat.mod_eq_of_lt hg]
      refine ⟨[.updateXcastMode glort mode], [⟨s.mem.next, macRequestBody glort (s.sdevAddr sdev)
        s.defaultVid, set⟩], by simp, by simp, fun g' m h' => ?_, fun r hr g' hg' => ?_⟩
      · cases mem_singleton.1 h'
        exact .inr ⟨le_rfl, le_rfl⟩
      · obtain rfl := mem_singleton.1 hr
        obtain rfl := Option.some.inj (hb.symm.trans hg')
        exact .inr ⟨le_rfl, le_rfl⟩
  · exact ⟨[], [], by simp, by simp, by simp [GlortsIn]⟩

/-- GLORTs in a range are in every wider range. -/
theorem GlortsIn.mono {g lo hi lo' hi' : Nat} {Δm : List MbxCall} {Δr : List MacvlanRequest}
    (h : GlortsIn g lo hi Δm Δr) (hlo : lo' ≤ lo) (hhi : hi ≤ hi') : GlortsIn g lo' hi' Δm Δr :=
  ⟨fun g' m h' => (h.1 g' m h').imp_right fun h => ⟨by omega, by omega⟩,
    fun r h' g' hr => (h.2 r h' g' hr).imp_right fun h => ⟨by omega, by omega⟩⟩

/-- The GLORT invariant depends on the tables and the range only. -/
theorem GlortInv.of_same {s s' : Intfc} (hg : GlortInv s) (h : SameTables s s') : GlortInv s' :=
  ⟨⟨h.glortCount ▸ hg.range.count_pos, by rw [h.dglortMap, h.glort]; exact hg.range.base_le,
    by rw [h.dglortMap, h.glort, h.glortCount]; exact hg.range.top_le⟩,
    h.dglortMap ▸ hg.nowrap, fun p hp => by
      simp only [Intfc.table, h.l2Tables, h.glort, h.glortCount]
      exact hg.table p (h.l2Accel ▸ hp)⟩

/-- **A station's GLORT**: in a table that starts at the PF's GLORT, slot `i` with room above
it has GLORT `glort + 1 + i`, inside the PF's range. -/
theorem glortOf_mem {s : Intfc} (hr : GlortRange s)
    (hw : dglortBase s.dglortMap + dglortMask s.dglortMap ≤ 0xFFFF) {t : L2Accel} {i : Nat}
    (hd : t.dglort = s.glort) (hi : i + 2 ≤ s.glortCount) :
    t.glortOf i = s.glort + 1 + i ∧ s.glort + 1 + i ≤ s.glort + s.glortCount - 1 := by
  have := hr.top_le
  refine ⟨?_, by omega⟩
  rw [L2Accel.glortOf, hd, Nat.mod_eq_of_lt (by omega)]

/-- Readying the table keeps the GLORT range, starts the table at the PF's GLORT, and leaves a
free GLORT for the new station above every station. -/
theorem prepareL2Accel_glorts {s s₁ : Intfc} {p : Nat} (hg : GlortInv s)
    (h : prepareL2Accel s = (s₁, .ok p)) :
    s₁.glort = s.glort ∧ s₁.glortCount = s.glortCount ∧ s₁.dglortMap = s.dglortMap ∧
      s₁.mbx = s.mbx ∧ s₁.macvlanRequests = s.macvlanRequests ∧
      (s₁.table p).dglort = s.glort ∧ (s₁.table p).count + 2 ≤ s.glortCount ∧
      ∀ i < (s₁.table p).size, (s₁.table p).slot i ≠ none → i + 2 ≤ s.glortCount := by
  rcases prepareL2Accel_cases s with ⟨e, m, h'⟩ | ⟨p', hp, -, hb, h'⟩ | ⟨hl, h7, -, h'⟩ |
      ⟨p', hp, hf, hb, -, h'⟩ <;> rw [h'] at h <;> simp only [Prod.mk.injEq] at h
  · cases h.2
  · obtain ⟨rfl, h⟩ := h; cases h
    obtain ⟨hd, hc, hs⟩ := hg.table p hp
    exact ⟨rfl, rfl, rfl, rfl, rfl, hd, by simp [FM10K_MAX_STATIONS] at hb; omega, hs⟩
  · obtain ⟨rfl, h⟩ := h; cases h
    refine ⟨rfl, rfl, rfl, rfl, rfl, by simp [Intfc.table, L2Accel.first], ?_, fun i _ h => ?_⟩
    · simp [Intfc.table, L2Accel.first]; omega
    · simp [Intfc.table] at h
  · obtain ⟨rfl, h⟩ := h; cases h
    obtain ⟨hd, hc, hs⟩ := hg.table p' hp
    simp only [FM10K_MAX_STATIONS] at hb
    simp only [Intfc.table] at hb hc hd hs ⊢
    refine ⟨rfl, rfl, rfl, rfl, rfl, by simpa using hd, by simp; omega, fun i hi' h => ?_⟩
    simp only [assignL2Accel_l2Tables, Function.update_same, Option.getD_some, grow_slot,
      grow_size] at hi' h
    split_ifs at h with hlt
    · exact hs i hlt h
    · exact absurd rfl h

/-- **An add keeps the GLORT invariant** and hands the switch only its station's GLORT, which
lies in the PF's range. -/
theorem dfwdAddStation_glorts {s : Intfc} (hi : L2Inv s) (hg : GlortInv s) (sdev : Nat) :
    GlortInv (dfwdAddStation s sdev).1 ∧ StationGlorts s (dfwdAddStation s sdev).1 ∧
      SameTables s (dfwdAddStation s sdev).1 ∨
    GlortInv (dfwdAddStation s sdev).1 ∧ StationGlorts s (dfwdAddStation s sdev).1 ∧
      (dfwdAddStation s sdev).1.glort = s.glort ∧
      (dfwdAddStation s sdev).1.glortCount = s.glortCount := by
  rcases prepareL2Accel_spec hi with ⟨e, m, h'⟩ | ⟨p, hok, hr⟩
  · have hs : SameTables s (dfwdAddStation s sdev).1 := by
      simpa [dfwdAddStation, h'] using sameTables_mem s m
    exact .inl ⟨hg.of_same hs, stationGlorts_of_same (by simp [dfwdAddStation, h'])
      (by simp [dfwdAddStation, h']), hs⟩
  rcases hh : prepareL2Accel s with ⟨s₁, r⟩
  rw [hh] at hok hr; cases hok
  dsimp only at hr
  obtain ⟨hgl, hgc, hdm, hmb, hrq, hd, hc, hslots⟩ := prepareL2Accel_glorts hg hh
  have hle := hr.wf.freeSlot_le_count
  have hlen := hr.wf.length
  have hlt := (hr.wf.freeSlot_lt hr.room).1
  have hrec := hr.wf.record hr.room sdev
  have hrange : GlortRange s₁ := ⟨hgc ▸ hg.range.count_pos, hdm ▸ hgl ▸ hg.range.base_le,
    hdm ▸ hgl ▸ hgc ▸ hg.range.top_le⟩
  obtain ⟨hgo, hgo'⟩ := glortOf_mem hrange (hdm ▸ hg.nowrap) (t := s₁.table p)
    (i := (s₁.table p).freeSlot) (by rw [hd, hgl]) (by rw [hgc]; omega)
  obtain ⟨Δm, Δr, hm, hq, hin⟩ := stationRules_log
    (configureDglortMap { s₁ with
      l2Tables := Function.update s₁.l2Tables p
        (some ((s₁.table p).record (s₁.table p).freeSlot sdev)) } (s₁.table p).size)
    ((s₁.table p).glortOf (s₁.table p).freeSlot) sdev .multi true (by
      have h₁ := hrange.top_le
      have h₂ : dglortBase s₁.dglortMap + dglortMask s₁.dglortMap ≤ 0xFFFF := hdm ▸ hg.nowrap
      rw [hgo]; omega) s.glort
  have hsame := dfwdAddStation_sameTables hh sdev
  refine .inr ⟨GlortInv.of_same ?_ hsame, ?_, hsame.glort.trans hgl,
    hsame.glortCount.trans hgc⟩
  · refine ⟨⟨hrange.1, hrange.2, hrange.3⟩, hdm ▸ hg.nowrap, fun q hq => ?_⟩
    cases hr.ptr.symm.trans hq
    refine ⟨by rw [table_update_self, record_dglort, hd]; exact hgl.symm,
      by rw [table_update_self, hrec.2]; dsimp only; omega, fun i hi' hs => ?_⟩
    rw [table_update_self, record_slot _ _ _ _ (hlen ▸ hlt)] at hs
    rw [table_update_self, record_size] at hi'
    dsimp only
    split_ifs at hs with hj
    · subst hj; omega
    · exact hgc ▸ hslots i hi' hs
  · rw [dfwdAddStation_of_ok hh]
    dsimp only
    refine ⟨[.configureDglortMap s₁.glort (fls (s₁.table p).size)] ++ Δm, Δr, ?_, ?_, ?_⟩
    · rw [hm]; simp [configureDglortMap, hmb]
    · rw [hq]; simp [configureDglortMap, hrq]
    · rw [hgo] at hin
      have hin' : GlortsIn s.glort (s.glort + 1) (s.glort + s.glortCount - 1) _ _ :=
        hin.mono (by omega) (by omega)
      exact ⟨fun g' m h' => hin'.1 g' m (by simpa using h'), hin'.2⟩

/-- What a delete appends to the logs: nothing, or the station rules of the slot it clears
and the map update. -/
theorem dfwdDelStation_log (s : Intfc) (sdev : Nat) :
    dfwdDelStation s sdev = s ∨ ∃ p, s.l2Accel = some p ∧
      (dfwdDelStation s sdev).mbx = (stationRules s ((s.table p).glortOf ((s.table p).slotOf sdev))
        sdev .none false).mbx ++ [.configureDglortMap s.glort (fls (s.table p).size)] ∧
      (dfwdDelStation s sdev).macvlanRequests = (stationRules s
        ((s.table p).glortOf ((s.table p).slotOf sdev)) sdev .none false).macvlanRequests := by
  unfold dfwdDelStation
  split
  next => exact .inl rfl
  next p hp =>
    by_cases hs : (s.table p).slotOf sdev = (s.table p).size
    · exact .inl (if_pos hs)
    · have hsr := (sameTables_stationRules s ((s.table p).glortOf ((s.table p).slotOf sdev))
        sdev .none false).glort
      refine .inr ⟨p, hp, ?_⟩
      dsimp only
      rw [if_neg hs]
      -- the rules' state stays opaque, so the kernel never unfolds the enqueue
      generalize stationRules s _ sdev .none false = r at hsr ⊢
      split_ifs <;> simp [configureDglortMap, hsr]

/-- **A delete keeps the GLORT invariant** and hands the switch only the GLORT of the slot it
clears, which lies in the PF's range. -/
theorem dfwdDelStation_glorts {s : Intfc} (hi : L2Inv s) (hg : GlortInv s) (sdev : Nat) :
    GlortInv (dfwdDelStation s sdev) ∧ StationGlorts s (dfwdDelStation s sdev) ∧
      (dfwdDelStation s sdev).glort = s.glort ∧
      (dfwdDelStation s sdev).glortCount = s.glortCount := by
  rcases dfwdDelStation_spec hi sdev with ⟨-, h⟩ | ⟨p, i, hp, hi', hlt, hsome, -, hcase⟩
  · rw [h]; exact ⟨hg, stationGlorts_of_same rfl rfl, rfl, rfl⟩
  obtain ⟨-, hw, -⟩ := hi.table_eq hp
  obtain ⟨hd, hc, hslots⟩ := hg.table p hp
  have hne : (s.table p).slot i ≠ none := by rw [stations_of_some hp hw] at hsome; simp [hsome]
  have hsome' : ((s.table p).slot i).isSome := Option.ne_none_iff_isSome.1 hne
  obtain ⟨hwf, hcount⟩ := hw.erase hlt hsome'
  have hlen := hw.length
  obtain ⟨hgo, hgo'⟩ := glortOf_mem hg.range hg.nowrap hd (hslots i hlt hne)
  have hinv : GlortInv (dfwdDelStation s sdev) ∧ (dfwdDelStation s sdev).glort = s.glort ∧
      (dfwdDelStation s sdev).glortCount = s.glortCount := by
    rcases hcase with ⟨-, h⟩ | ⟨-, h⟩ <;> refine ⟨GlortInv.of_same ?_ h, h.glort, h.glortCount⟩
    · refine ⟨⟨hg.range.1, hg.range.2, hg.range.3⟩, hg.nowrap, fun q hq => ?_⟩
      cases hp.symm.trans hq
      refine ⟨by rw [table_update_self, erase_dglort, hd], by rw [table_update_self]; dsimp only; omega,
        fun j hj hs => ?_⟩
      rw [table_update_self, erase_slot _ _ _ (hlen ▸ hlt)] at hs
      rw [table_update_self, erase_size] at hj
      split_ifs at hs with hji
      · exact absurd rfl hs
      · exact hslots j hj hs
    · exact ⟨⟨hg.range.1, hg.range.2, hg.range.3⟩, hg.nowrap, fun q hq => by simp at hq⟩
  refine ⟨hinv.1, ?_, hinv.2⟩
  rcases dfwdDelStation_log s sdev with h | ⟨p', hp', hm, hq⟩
  · rw [h]; exact stationGlorts_of_same rfl rfl
  cases hp.symm.trans hp'
  rw [← hi'] at hm hq
  obtain ⟨Δm, Δr, hm', hq', hin⟩ := stationRules_log s ((s.table p).glortOf i) sdev .none false
    (by have := hg.range.top_le; have := hg.nowrap; rw [hgo]; omega) s.glort
  rw [hgo] at hin
  have hin' : GlortsIn s.glort (s.glort + 1) (s.glort + s.glortCount - 1) _ _ :=
    hin.mono (by omega) (by omega)
  refine ⟨Δm ++ [.configureDglortMap s.glort (fls (s.table p).size)], Δr, ?_, ?_, ?_⟩
  · rw [hm, hm', append_assoc]
  · rw [hq, hq']
  · exact ⟨fun g' m h' => hin'.1 g' m (by simpa using h'), hin'.2⟩

/-- One add or delete keeps the GLORT invariant and the PF's range, and programs only the
PF's GLORT and its stations'. -/
theorem l2Step_glorts {s : Intfc} (hi : L2Inv s) (hg : GlortInv s) :
    ∀ c, GlortInv (l2Step s c) ∧ StationGlorts s (l2Step s c) ∧
      (l2Step s c).glort = s.glort ∧ (l2Step s c).glortCount = s.glortCount
  | .add sdev => (dfwdAddStation_glorts hi hg sdev).elim
      (fun ⟨h₁, h₂, h₃⟩ => ⟨h₁, h₂, h₃.glort, h₃.glortCount⟩) id
  | .del sdev => dfwdDelStation_glorts hi hg sdev

/-- Along a sequence of adds and deletes the GLORT invariant holds and every GLORT programmed
is the PF's or one of its stations'. -/
theorem l2Run_glorts {s : Intfc} (hi : L2Inv s) (hg : GlortInv s) (cs : List L2Call) :
    GlortInv (l2Run s cs) ∧ StationGlorts s (l2Run s cs) ∧
      (l2Run s cs).glort = s.glort ∧ (l2Run s cs).glortCount = s.glortCount := by
  induction cs generalizing s with
  | nil => exact ⟨hg, stationGlorts_of_same rfl rfl, rfl, rfl⟩
  | cons c cs ih =>
    obtain ⟨hg₁, hs₁, hgl₁, hc₁⟩ := l2Step_glorts hi hg c
    obtain ⟨hg₂, hs₂, hgl₂, hc₂⟩ := ih (l2Step_inv hi c) hg₁
    exact ⟨hg₂, hs₁.trans hs₂ hgl₁ hc₁, hgl₂.trans hgl₁, hc₂.trans hc₁⟩

end Fm10k
