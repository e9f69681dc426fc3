import Fm10k.Ring

/-!
# The Life of One Ring

A single ring goes through any interleaving of its driver calls (setup on a torn-down ring,
clean, free) and of the data path's steps on a set-up ring: the transmit path fills an
entry with a fresh skb and DMA mapping (`txFill`) or reclaims one through
`fm10k_unmap_and_free_tx_resource` (`txReclaim`); the receive path fills an entry with a
fresh mapped page (`rxFill`), parks a partially assembled skb on the ring (`rxHoldSkb`) and
moves the cursors (`rxMove`). A fill may land on an entry that still owns something; the
data path then leaks it, which no driver call can see.

The invariant of a reachable world (`TxRingInv`, `RxRingInv`) is the shape of the ring (torn
down, or set up with an array of `count` entries) together with `Owns`: nothing is held
twice or given back twice. Each call is a ledger step (`Fm10k.Ring`), each data-path step a
step that may leak, so `Owns` is preserved by `Owns.of_le`.

## Main results

* `txRing_reachable_inv`, `rxRing_reachable_inv`: the invariant of every reachable world.
* `ring_lifecycle`: the ring is set up or torn down, nothing is given back twice, a free
  gives back everything the ring holds, and a clean gives back exactly the entries' contents
  and keeps both blocks, for either ring kind.
-/

namespace Fm10k

open List

/-! ### Entries of an array -/

/-- Replacing an entry adds at most what the new entry holds. -/
theorem count_flatMap_set_le {α : Type} (f : α → List Nat) (p : Nat) :
    ∀ (l : List α) (i : Nat) (e : α),
      ((l.set i e).flatMap f).count p ≤ (l.flatMap f).count p + (f e).count p
  | [], _, _ => by simp
  | _ :: _, 0, _ => by simp; omega
  | x :: l, i + 1, e => by
    have := count_flatMap_set_le f p l i e
    simp; omega

/-- Replacing an entry changes what the entries hold by what the old and the new entry hold. -/
theorem count_flatMap_set_of_getElem? {α : Type} (f : α → List Nat) (p : Nat) (e : α) :
    ∀ (l : List α) (i : Nat) (b : α), l[i]? = some b →
      ((l.set i e).flatMap f).count p + (f b).count p = (l.flatMap f).count p + (f e).count p
  | [], _, _, h => by simp at h
  | x :: l, 0, b, h => by simp at h; subst h; simp; omega
  | x :: l, i + 1, b, h => by
    have := count_flatMap_set_of_getElem? f p e l i b (by simpa using h)
    simp; omega

/-! ### The data path -/

/-- The transmit path fills entry `i`: a fresh skb when `withSkb`, a fresh DMA mapping of
unmap length `len`, and the watch marker. -/
def txFill (m : Mem) (r : Ring TxBuffer) (i : Nat) (withSkb : Bool) (len : Nat)
    (watch : Option Nat) : Mem × Ring TxBuffer :=
  let (skb, m) := if withSkb then (some m.fresh.1, m.fresh.2) else (none, m)
  let (dma, m) := m.fresh
  match r.buffer with
  | none => (m, r)
  | some a => (m, { r with buffer := some ⟨a.ptr, a.entries.set i ⟨watch, skb, dma, len⟩⟩ })

/-- The transmit path gives entry `i` back through `fm10k_unmap_and_free_tx_resource`. -/
def txReclaim (m : Mem) (r : Ring TxBuffer) (i : Nat) : Mem × Ring TxBuffer :=
  match r.buffer with
  | none => (m, r)
  | some a =>
    match a.entries[i]? with
    | none => (m, r)
    | some b =>
      let (m, b) := unmapAndFreeTxResource m b
      (m, { r with buffer := some ⟨a.ptr, a.entries.set i b⟩ })

/-- The receive path fills entry `i` with a fresh page and its fresh DMA mapping. -/
def rxFill (m : Mem) (r : Ring RxBuffer) (i : Nat) (offset : Nat) : Mem × Ring RxBuffer :=
  let (page, m) := m.fresh
  let (dma, m) := m.fresh
  match r.buffer with
  | none => (m, r)
  | some a => (m, { r with buffer := some ⟨a.ptr, a.entries.set i ⟨dma, some page, offset⟩⟩ })

/-- The receive path parks a fresh partially assembled skb on the ring. -/
def rxHoldSkb (m : Mem) (r : Ring RxBuffer) : Mem × Ring RxBuffer :=
  (m.fresh.2, { r with skb := some m.fresh.1 })

/-- The receive path moves its cursors. -/
def rxMove (r : Ring RxBuffer) (ntu ntc nta : Nat) : Ring RxBuffer :=
  { r with nextToUse := ntu, nextToClean := ntc, nextToAlloc := nta }

/-- A call or a data-path step on one transmit ring. -/
inductive TxRingOp
  | setup
  | clean
  | free
  | fill (i : Nat) (withSkb : Bool) (len : Nat) (watch : Option Nat)
  | reclaim (i : Nat)

/-- A call or a data-path step on one receive ring. -/
inductive RxRingOp
  | setup
  | clean
  | free
  | fill (i : Nat) (offset : Nat)
  | holdSkb
  | move (ntu ntc nta : Nat)

/-- One step of a transmit ring world. -/
def txRingStep (txDescSize : Nat) (s : Mem × Ring TxBuffer) : TxRingOp → Mem × Ring TxBuffer
  | .setup => let res := setupTxResources txDescSize s.1 s.2; (res.1, res.2.1)
  | .clean => cleanTxRing s.1 s.2
  | .free => freeTxResources s.1 s.2
  | .fill i withSkb len watch => txFill s.1 s.2 i withSkb len watch
  | .reclaim i => txReclaim s.1 s.2 i

/-- One step of a receive ring world. -/
def rxRingStep (rxDescSize : Nat) (s : Mem × Ring RxBuffer) : RxRingOp → Mem × Ring RxBuffer
  | .setup => let res := setupRxResources rxDescSize s.1 s.2; (res.1, res.2.1)
  | .clean => cleanRxRing s.1 s.2
  | .free => freeRxResources s.1 s.2
  | .fill i offset => rxFill s.1 s.2 i offset
  | .holdSkb => rxHoldSkb s.1 s.2
  | .move ntu ntc nta => (s.1, rxMove s.2 ntu ntc nta)

/-- When a step may happen: setup only on a torn-down ring, the data path only on a ring
with its array. -/
def TxRingOp.Allowed (r : Ring TxBuffer) : TxRingOp → Prop
  | .setup => r.TornDown
  | .clean | .free => True
  | .fill .. | .reclaim _ => r.buffer.isSome

/-- When a step may happen on a receive ring. -/
def RxRingOp.Allowed (r : Ring RxBuffer) : RxRingOp → Prop
  | .setup => r.TornDown
  | .clean | .free => True
  | .fill .. | .holdSkb | .move .. => r.buffer.isSome

/-- The transmit ring worlds reachable from a torn-down ring. -/
inductive TxRingReachable (txDescSize : Nat) : Mem × Ring TxBuffer → Prop
  | init {m : Mem} {r : Ring TxBuffer} : Owns m [] → r.TornDown → TxRingReachable txDescSize (m, r)
  | step {s : Mem × Ring TxBuffer} {op : TxRingOp} : TxRingReachable txDescSize s →
      op.Allowed s.2 → TxRingReachable txDescSize (txRingStep txDescSize s op)

/-- The receive ring worlds reachable from a torn-down ring. -/
inductive RxRingReachable (rxDescSize : Nat) : Mem × Ring RxBuffer → Prop
  | init {m : Mem} {r : Ring RxBuffer} : Owns m [] → r.TornDown → RxRingReachable rxDescSize (m, r)
  | step {s : Mem × Ring RxBuffer} {op : RxRingOp} : RxRingReachable rxDescSize s →
      op.Allowed s.2 → RxRingReachable rxDescSize (rxRingStep rxDescSize s op)

/-! ### The invariant -/

/-- The invariant of a transmit ring world: the ring owns its memory, never a partial skb,
and is torn down or set up. -/
structure TxRingInv (txDescSize : Nat) (s : Mem × Ring TxBuffer) : Prop where
  owns : Owns s.1 (s.2.held TxBuffer.held)
  skb : s.2.skb = none
  shape : s.2.TornDown ∨ s.2.SetUp txDescSize

/-- The invariant of a receive ring world. -/
structure RxRingInv (rxDescSize : Nat) (s : Mem × Ring RxBuffer) : Prop where
  owns : Owns s.1 (s.2.held RxBuffer.held)
  shape : s.2.TornDown ∨ s.2.SetUp rxDescSize

section Fill

variable {β : Type} {held : β → List Nat} {m m' : Mem} {r : Ring β}

/-- A data-path step that puts an entry made of fresh addresses `Δ` in place of entry `i`
keeps the ring owning its memory. -/
theorem Owns.set_entry (o : Owns m (r.held held)) {a : BufferArray β} (hb : r.buffer = some a)
    (g : m.Grows m') {Δ : List Nat} (hΔ : m'.allocated = m.allocated ++ Δ)
    (hrel : m'.released = m.released) (i : Nat) {e : β} (he : ∀ p, (held e).count p ≤ Δ.count p) :
    Owns m' ({ r with buffer := some ⟨a.ptr, a.entries.set i e⟩ }.held held) :=
  o.of_le g fun p => by
    have := count_flatMap_set_le held p a.entries i e
    have := he p
    simp [Ring.held, hb, hΔ, hrel, Mem.releasedPtrs, count_cons] at *
    omega

end Fill

/-- Writing one entry of the array keeps a ring set up. -/
theorem Ring.SetUp.set_entry {β : Type} {d : Nat} {r : Ring β} (h : r.SetUp d)
    {a : BufferArray β} (hb : r.buffer = some a) (i : Nat) (e : β) :
    ({ r with buffer := some ⟨a.ptr, a.entries.set i e⟩ } : Ring β).SetUp d := by
  obtain ⟨⟨a', ha', hl⟩, hd, hs⟩ := h
  rw [hb] at ha'; cases ha'
  exact ⟨⟨_, rfl, by simpa using hl⟩, hd, hs⟩

section Steps

variable {d : Nat} {m : Mem} {r : Ring TxBuffer} {a : BufferArray TxBuffer}

/-- A transmit fill without an skb takes one fresh mapping. -/
theorem txFill_false (ha : r.buffer = some a) (i len : Nat) (watch : Option Nat) :
    txFill m r i false len watch =
      (m.fresh.2, { r with buffer := some ⟨a.ptr, a.entries.set i ⟨watch, none, m.next, len⟩⟩ }) := by
  simp [txFill, ha]

/-- A transmit fill with an skb takes a fresh skb and a fresh mapping. -/
theorem txFill_true (ha : r.buffer = some a) (i len : Nat) (watch : Option Nat) :
    txFill m r i true len watch =
      (m.fresh.2.fresh.2, { r with
        buffer := some ⟨a.ptr, a.entries.set i ⟨watch, some m.next, m.next + 1, len⟩⟩ }) := by
  simp [txFill, ha]

/-- A transmit fill keeps the ring invariant. -/
theorem txFill_inv (hi : TxRingInv d (m, r)) (ha : r.buffer = some a) (i : Nat)
    (withSkb : Bool) (len : Nat) (watch : Option Nat) :
    TxRingInv d (txFill m r i withSkb len watch) := by
  have hset : r.SetUp d := hi.shape.resolve_left fun h => nomatch h.buffer.symm.trans ha
  cases withSkb
  · rw [txFill_false ha]
    refine ⟨hi.owns.set_entry ha (Mem.Grows.of_fresh m) (Δ := [m.next]) (by simp) rfl i
      fun p => ?_, hi.skb, .inr (hset.set_entry ha i _)⟩
    by_cases hl : len = 0 <;> simp [TxBuffer.held, hl]
  · rw [txFill_true ha]
    refine ⟨hi.owns.set_entry ha ((Mem.Grows.of_fresh m).trans (Mem.Grows.of_fresh _))
      (Δ := [m.next, m.next + 1]) (by simp) rfl i fun p => ?_, hi.skb,
      .inr (hset.set_entry ha i _)⟩
    by_cases hl : len = 0 <;> simp [TxBuffer.held, hl, count_cons]

/-- A transmit completion keeps the ring invariant. -/
theorem txReclaim_inv (hi : TxRingInv d (m, r)) (i : Nat) :
    TxRingInv d (txReclaim m r i) := by
  cases ha : r.buffer with
  | none => simpa [txReclaim, ha] using hi
  | some a =>
    cases hb : a.entries[i]? with
    | none => simpa [txReclaim, ha, hb] using hi
    | some b =>
      have hset : r.SetUp d := hi.shape.resolve_left fun h => nomatch h.buffer.symm.trans ha
      obtain ⟨⟨rs, hm, hrs⟩, hb'⟩ := unmapAndFreeTxResource_spec m b
      simp only [txReclaim, ha, hb, hm, hb']
      refine ⟨hi.owns.of_ledger (Ledger.releaseAll fun p => ?_), hi.skb,
        .inr (hset.set_entry ha i _)⟩
      have := count_flatMap_set_of_getElem? TxBuffer.held p
        { b with nextToWatch := none, skb := none, len := 0 } a.entries i b hb
      simp [Ring.held, ha, hrs, count_cons, TxBuffer.held] at this ⊢
      omega

/-- Setup of a torn-down transmit ring keeps the ring invariant. -/
theorem txSetup_inv (hi : TxRingInv d (m, r)) (hr : r.TornDown) :
    TxRingInv d (txRingStep d (m, r) .setup) := by
  obtain ⟨l, hs, -⟩ := @setupResources_spec _ TxBuffer.zero d m _ TxBuffer.held rfl hr
  have ho : Owns m [] := by simpa [hr.held_eq] using hi.owns
  exact ⟨ho.of_ledger l, (setupResources_frame TxBuffer.zero d m r).2.trans hi.skb,
    hs.elim (fun h => .inr h.2) (fun h => .inl h.2)⟩

/-- `fm10k_clean_tx_ring` keeps the ring invariant. -/
theorem txClean_inv (hi : TxRingInv d (m, r)) : TxRingInv d (cleanTxRing m r) := by
  refine ⟨hi.owns.of_ledger (cleanTxRing_ledger m r), ?_, ?_⟩
  · cases ha : r.buffer with
    | none => simpa [cleanTxRing_of_none ha] using hi.skb
    | some a => obtain ⟨rs, he, -⟩ := cleanTxRing_of_some ha m; simpa [he] using hi.skb
  · rcases hi.shape with h | h
    · rw [cleanTxRing_of_none h.buffer]; exact .inl h
    · obtain ⟨⟨a, ha, -⟩, hd, hsz⟩ := h
      obtain ⟨rs, he, -⟩ := cleanTxRing_of_some ha m
      rw [he]
      exact .inr ⟨⟨_, rfl, by simp⟩, hd, hsz⟩

/-- `fm10k_free_tx_resources` tears down a ring that meets the invariant. -/
theorem txFree_tornDown (hi : TxRingInv d (m, r)) : (freeTxResources m r).2.TornDown := by
  have hskb : (cleanTxRing m r).2.skb = none := (txClean_inv hi).skb
  have hsnd := @freeResources_snd _ cleanTxRing m r
  exact ⟨by simp [freeTxResources, hsnd], by simp [freeTxResources, hsnd],
    by simp [freeTxResources, hsnd, hskb]⟩

/-- `fm10k_free_tx_resources` keeps the ring invariant. -/
theorem txFree_inv (hi : TxRingInv d (m, r)) : TxRingInv d (freeTxResources m r) :=
  ⟨hi.owns.of_ledger (freeTxResources_ledger m r), (txFree_tornDown hi).skb,
    .inl (txFree_tornDown hi)⟩

end Steps

section RxSteps

variable {d : Nat} {m : Mem} {r : Ring RxBuffer}

/-- Setup of a torn-down receive ring keeps the ring invariant. -/
theorem rxSetup_inv (hi : RxRingInv d (m, r)) (hr : r.TornDown) :
    RxRingInv d (rxRingStep d (m, r) .setup) := by
  obtain ⟨l, hs, -⟩ := @setupResources_spec _ RxBuffer.zero d m _ RxBuffer.held rfl hr
  have ho : Owns m [] := by simpa [hr.held_eq] using hi.owns
  exact ⟨ho.of_ledger l, hs.elim (fun h => .inr h.2) (fun h => .inl h.2)⟩

/-- `fm10k_clean_rx_ring` keeps the ring invariant. -/
theorem rxClean_inv (hi : RxRingInv d (m, r)) : RxRingInv d (cleanRxRing m r) := by
  refine ⟨hi.owns.of_ledger (cleanRxRing_ledger m r), ?_⟩
  rcases hi.shape with h | h
  · rw [cleanRxRing_of_none h.buffer]; exact .inl h
  · obtain ⟨⟨a, ha, -⟩, hd, hsz⟩ := h
    obtain ⟨rs, he, -⟩ := cleanRxRing_of_some ha m
    rw [he]
    exact .inr ⟨⟨_, rfl, by simp⟩, hd, hsz⟩

/-- `fm10k_free_rx_resources` tears down a ring that meets the invariant. -/
theorem rxFree_tornDown (hi : RxRingInv d (m, r)) : (freeRxResources m r).2.TornDown := by
  have hskb : (cleanRxRing m r).2.skb = none := by
    rcases hi.shape with h | h
    · simpa [cleanRxRing_of_none h.buffer] using h.skb
    · obtain ⟨⟨a, ha, -⟩, -, -⟩ := h
      obtain ⟨rs, he, -⟩ := cleanRxRing_of_some ha m
      simp [he]
  have hsnd := @freeResources_snd _ cleanRxRing m r
  exact ⟨by simp [freeRxResources, hsnd], by simp [freeRxResources, hsnd],
    by simp [freeRxResources, hsnd, hskb]⟩

/-- `fm10k_free_rx_resources` keeps the ring invariant. -/
theorem rxFree_inv (hi : RxRingInv d (m, r)) : RxRingInv d (freeRxResources m r) :=
  ⟨hi.owns.of_ledger (freeRxResources_ledger m r), .inl (rxFree_tornDown hi)⟩

/-- A receive fill keeps the ring invariant. -/
theorem rxFill_inv (hi : RxRingInv d (m, r)) {a : BufferArray RxBuffer}
    (ha : r.buffer = some a) (i offset : Nat) : RxRingInv d (rxFill m r i offset) := by
  have hset : r.SetUp d := hi.shape.resolve_left fun h => nomatch h.buffer.symm.trans ha
  have he : rxFill m r i offset = (m.fresh.2.fresh.2,
      { r with buffer := some ⟨a.ptr, a.entries.set i ⟨m.next + 1, some m.next, offset⟩⟩ }) := by
    simp [rxFill, ha]
  rw [he]
  refine ⟨hi.owns.set_entry ha ((Mem.Grows.of_fresh m).trans (Mem.Grows.of_fresh _))
    (Δ := [m.next, m.next + 1]) (by simp) rfl i fun p => ?_, .inr (hset.set_entry ha i _)⟩
  simp [RxBuffer.held, count_cons]
  omega

/-- Holding a partial skb keeps the receive ring invariant. -/
theorem rxHoldSkb_inv (hi : RxRingInv d (m, r)) (hb : r.buffer.isSome) :
    RxRingInv d (rxHoldSkb m r) := by
  have hset : r.SetUp d := hi.shape.resolve_left fun h => by
    simp [show r.buffer = none from h.buffer] at hb
  refine ⟨hi.owns.of_le (Mem.Grows.of_fresh m) fun p => ?_, .inr ⟨hset.1, hset.2, hset.3⟩⟩
  cases hs : r.skb <;> simp [rxHoldSkb, Ring.held, hs, Mem.releasedPtrs, count_cons] <;> omega

end RxSteps

/-! ### Every reachable world -/

/-- **One allowed step keeps the transmit ring invariant.** -/
theorem txRingStep_inv {d : Nat} {s : Mem × Ring TxBuffer} (hi : TxRingInv d s) :
    ∀ op : TxRingOp, op.Allowed s.2 → TxRingInv d (txRingStep d s op)
  | .setup, h => txSetup_inv hi h
  | .clean, _ => txClean_inv hi
  | .free, _ => txFree_inv hi
  | .fill i withSkb len watch, h => by
    obtain ⟨a, ha⟩ := Option.isSome_iff_exists.1 h
    exact txFill_inv hi ha i withSkb len watch
  | .reclaim i, _ => txReclaim_inv hi i

/-- **One allowed step keeps the receive ring invariant.** -/
theorem rxRingStep_inv {d : Nat} {s : Mem × Ring RxBuffer} (hi : RxRingInv d s) :
    ∀ op : RxRingOp, op.Allowed s.2 → RxRingInv d (rxRingStep d s op)
  | .setup, h => rxSetup_inv hi h
  | .clean, _ => rxClean_inv hi
  | .free, _ => rxFree_inv hi
  | .fill i offset, h => by
    obtain ⟨a, ha⟩ := Option.isSome_iff_exists.1 h
    exact rxFill_inv hi ha i offset
  | .holdSkb, h => rxHoldSkb_inv hi h
  | .move .., _ => ⟨hi.owns, hi.shape.imp (fun h => ⟨h.1, h.2, h.3⟩) (fun h => ⟨h.1, h.2, h.3⟩)⟩

/-- Every reachable transmit ring meets the invariant. -/
theorem txRing_reachable_inv {d : Nat} {s : Mem × Ring TxBuffer} (h : TxRingReachable d s) :
    TxRingInv d s := by
  induction h with
  | init o hr => exact ⟨by simpa [hr.held_eq] using o, hr.skb, .inl hr⟩
  | step _ ha ih => exact txRingStep_inv ih _ ha

/-- Every reachable receive ring meets the invariant. -/
theorem rxRing_reachable_inv {d : Nat} {s : Mem × Ring RxBuffer} (h : RxRingReachable d s) :
    RxRingInv d s := by
  induction h with
  | init o hr => exact ⟨by simpa [hr.held_eq] using o, .inl hr⟩
  | step _ ha ih => exact rxRingStep_inv ih _ ha

/-! ### The lifecycle of a ring -/

/-- No overflow: with a 16-bit entry count and a descriptor of at most 64 KiB, the size
`setup` stores is `ALIGN(count * descSize, 4096)` computed exactly. -/
theorem ringSize_eq {count descSize : Nat} (hc : count < 2 ^ 16) (hd : descSize ≤ 2 ^ 16) :
    ringSize count descSize = (count * descSize + 4095) / 4096 * 4096 := by
  have : count * descSize ≤ (2 ^ 16 - 1) * 2 ^ 16 :=
    Nat.mul_le_mul (by omega) hd
  have h32 : count * descSize + 4095 < 2 ^ 32 := by omega
  rw [ringSize, align4096U32, Nat.mod_eq_of_lt (by omega),
    Nat.mod_eq_of_lt (show count * descSize < 2 ^ 32 by omega)]

/-- A free **gives back everything** the ring holds, each address once, and leaves the ring
torn down. -/
def FreesAll {β : Type} (free : Mem → Ring β → Mem × Ring β) (held : β → List Nat) (m : Mem)
    (r : Ring β) : Prop :=
  (free m r).2.TornDown ∧
    ∃ Δ, (free m r).1.released = m.released ++ Δ ∧ (Δ.map Release.ptr).Perm (r.held held)

/-- `fm10k_clean_tx_ring` allocates nothing. -/
theorem cleanTxRing_allocated (m : Mem) (r : Ring TxBuffer) :
    (cleanTxRing m r).1.allocated = m.allocated := by
  cases ha : r.buffer with
  | none => simp [cleanTxRing_of_none ha]
  | some a => obtain ⟨rs, he, -⟩ := cleanTxRing_of_some ha m; simp [he]

/-- `fm10k_clean_rx_ring` allocates nothing. -/
theorem cleanRxRing_allocated (m : Mem) (r : Ring RxBuffer) :
    (cleanRxRing m r).1.allocated = m.allocated := by
  cases ha : r.buffer with
  | none => simp [cleanRxRing_of_none ha]
  | some a => obtain ⟨rs, he, -⟩ := cleanRxRing_of_some ha m; simp [he]

/-- From a transmit ring that meets the invariant, `fm10k_free_tx_resources` gives back exactly what
the ring holds. -/
theorem freesAll_tx {d : Nat} {m : Mem} {r : Ring TxBuffer} (hi : TxRingInv d (m, r)) :
    FreesAll freeTxResources TxBuffer.held m r := by
  have ht := txFree_tornDown hi
  have l := freeTxResources_ledger m r
  rw [ht.held_eq] at l
  exact ⟨ht, l.released_perm
    (by simp [freeTxResources, freeResources_fst, cleanTxRing_allocated])⟩

/-- From a receive ring that meets the invariant, `fm10k_free_rx_resources` gives back exactly what
the ring holds. -/
theorem freesAll_rx {d : Nat} {m : Mem} {r : Ring RxBuffer} (hi : RxRingInv d (m, r)) :
    FreesAll freeRxResources RxBuffer.held m r := by
  have ht := rxFree_tornDown hi
  have l := freeRxResources_ledger m r
  rw [ht.held_eq] at l
  exact ⟨ht, l.released_perm
    (by simp [freeRxResources, freeResources_fst, cleanRxRing_allocated])⟩

/-- **The transmit ring lifecycle**: every reachable world has its ring torn down or set up
with the exact block size, has given nothing back twice, frees everything the ring holds,
and cleans a ring with an array by giving back exactly what the entries hold, keeping both
blocks and clearing every entry. -/
def TxLifecycle (txDescSize : Nat) : Prop :=
  ∀ s, TxRingReachable txDescSize s →
    (s.2.TornDown ∨
      s.2.SetUp txDescSize ∧ s.2.size = (s.2.count * txDescSize + 4095) / 4096 * 4096) ∧
    s.1.releasedPtrs.Nodup ∧
    FreesAll freeTxResources TxBuffer.held s.1 s.2 ∧
    ∀ a, s.2.buffer = some a → ∃ Δ,
      cleanTxRing s.1 s.2 =
        (s.1.releaseAll Δ, { s.2 with buffer := some ⟨a.ptr, List.replicate s.2.count .zero⟩ }) ∧
      Δ.map Release.ptr = a.entries.flatMap TxBuffer.held

/-- **The receive ring lifecycle**, as `TxLifecycle`; a clean also gives back the partial
skb and resets the three cursors. -/
def RxLifecycle (rxDescSize : Nat) : Prop :=
  ∀ s, RxRingReachable rxDescSize s →
    (s.2.TornDown ∨
      s.2.SetUp rxDescSize ∧ s.2.size = (s.2.count * rxDescSize + 4095) / 4096 * 4096) ∧
    s.1.releasedPtrs.Nodup ∧
    FreesAll freeRxResources RxBuffer.held s.1 s.2 ∧
    ∀ a, s.2.buffer = some a → ∃ Δ,
      cleanRxRing s.1 s.2 =
        (s.1.releaseAll Δ, { s.2 with
          skb := none, buffer := some ⟨a.ptr, List.replicate s.2.count .zero⟩,
          nextToAlloc := 0, nextToClean := 0, nextToUse := 0 }) ∧
      Δ.map Release.ptr = s.2.skb.toList ++ a.entries.flatMap RxBuffer.held

/-- **The life of a ring.** For descriptors of at most 64 KiB, both ring kinds follow their
lifecycle through every interleaving of setup, clean, free and data-path steps. -/
theorem ring_lifecycle (txDescSize rxDescSize : Nat) (htx : txDescSize ≤ 2 ^ 16)
    (hrx : rxDescSize ≤ 2 ^ 16) : TxLifecycle txDescSize ∧ RxLifecycle rxDescSize := by
  refine ⟨fun ⟨m, r⟩ hs => ?_, fun ⟨m, r⟩ hs => ?_⟩
  · have hi := txRing_reachable_inv hs
    exact ⟨hi.shape.imp_right fun h => ⟨h, h.size.trans (ringSize_eq r.count_lt htx)⟩,
      hi.owns.nodup_released, freesAll_tx hi, fun a ha => cleanTxRing_of_some ha m⟩
  · have hi := rxRing_reachable_inv hs
    exact ⟨hi.shape.imp_right fun h => ⟨h, h.size.trans (ringSize_eq r.count_lt hrx)⟩,
      hi.owns.nodup_released, freesAll_rx hi, fun a ha => cleanRxRing_of_some ha m⟩

/-- The lifecycle with the hardware's 16-byte descriptors. -/
theorem ring_lifecycle_sixteen : TxLifecycle 16 ∧ RxLifecycle 16 :=
  ring_lifecycle 16 16 (by decide) (by decide)

end Fm10k
