import Fm10k.Basic

/-!
# Descriptor Rings: Setup, Clean and Free

A transmit or receive queue of the fm10k driver is a `struct fm10k_ring`. Its memory is two
blocks allocated together: the software buffer array (`tx_buffer` or `rx_buffer`, from
`vzalloc`) and the DMA-visible descriptor block (`desc`, from `dma_alloc_coherent`). While the
ring runs, the data path parks skbs, pages and DMA mappings in the entries of the array; the
ring owns them until the completion path or a teardown gives them back.

The two ring kinds differ only in the entry type, so `Ring β` is generic over the entry and
the functions of `fm10k_netdev.c` are instances of one generic definition each:

* `setupResources` is `fm10k_setup_tx_resources` / `fm10k_setup_rx_resources`;
* `freeResources` is `fm10k_free_tx_resources` / `fm10k_free_rx_resources`, each over its
  own clean function `cleanTxRing` / `cleanRxRing`, which differ in what an entry holds.

Descriptor contents are not modelled: nothing in `fm10k_netdev.c` reads them, and the
`memset` of the descriptor block changes no modelled field. The sizes of a descriptor are
declared outside the source (`fm10k_type.h`), so they are parameters.

What a ring holds is the list `Ring.held` of addresses it owns. The **ledger** of a call
(`Ledger`) says that what the ring held before, together with what the call allocated, is
exactly what it holds after together with what the call released.
-/

namespace Fm10k

open List

/-! ### Buffer entries -/

/-- `struct fm10k_tx_buffer`, the fields teardown reads and writes. `len` is the DMA unmap
length; a mapping at `dma` is live exactly when `len ≠ 0`. -/
structure TxBuffer where
  nextToWatch : Option Nat
  skb : Option Nat
  dma : Nat
  len : Nat
  deriving DecidableEq, Repr

/-- A transmit entry as `vzalloc` and `memset` leave it. -/
def TxBuffer.zero : TxBuffer := ⟨none, none, 0, 0⟩

/-- `struct fm10k_rx_buffer`: a page and the DMA mapping of that page. -/
structure RxBuffer where
  dma : Nat
  page : Option Nat
  pageOffset : Nat
  deriving DecidableEq, Repr

/-- A receive entry as `vzalloc` and `memset` leave it. -/
def RxBuffer.zero : RxBuffer := ⟨0, none, 0⟩

/-- What a transmit entry owns: its skb, and its DMA mapping while the unmap length is
nonzero. -/
def TxBuffer.held (b : TxBuffer) : List Nat :=
  b.skb.toList ++ if b.len = 0 then [] else [b.dma]

/-- What a receive entry owns: its page and the page's DMA mapping. -/
def RxBuffer.held (b : RxBuffer) : List Nat :=
  match b.page with
  | none => []
  | some p => [b.dma, p]

/-- An entry owns nothing. -/
def TxBuffer.Clear (b : TxBuffer) : Prop :=
  b.skb = none ∧ b.len = 0 ∧ b.nextToWatch = none

/-! ### Rings -/

/-- A software buffer array: its address and its entries. -/
structure BufferArray (β : Type) where
  ptr : Nat
  entries : List β

/-- `struct fm10k_ring`, the fields the modelled functions read and write. `count` is a
`u16`; `buffer` is `tx_buffer` or `rx_buffer` by entry type; `skb` is the partially
assembled receive packet; `vid` and `l2Accel` are the receive ring's default VLAN and its
copy of the forwarding-acceleration table pointer. -/
structure Ring (β : Type) where
  count : Nat
  count_lt : count < 2 ^ 16
  size : Nat
  dma : Nat
  desc : Option Nat
  buffer : Option (BufferArray β)
  skb : Option Nat
  nextToUse : Nat
  nextToClean : Nat
  nextToAlloc : Nat
  vid : Nat
  l2Accel : Option Nat

/-- A ring as the queueing scheme creates it: `kzalloc`ed, with its entry count set. -/
def Ring.fresh (count : Nat) (h : count < 2 ^ 16) : Ring β :=
  ⟨count, h, 0, 0, none, none, none, 0, 0, 0, 0, none⟩

/-- `ALIGN(x, 4096)` on an `unsigned int`. -/
def align4096U32 (x : Nat) : Nat :=
  (x + 4095) % 2 ^ 32 / 4096 * 4096

/-- The descriptor block size `setup` stores in the `unsigned int` field `size`:
`count * descSize`, then rounded up to 4096. -/
def ringSize (count descSize : Nat) : Nat :=
  align4096U32 (count * descSize % 2 ^ 32)

/-- Everything the ring owns: the buffer array and what its entries hold, the
descriptor block, and the partial receive skb. -/
def Ring.held (held : β → List Nat) (r : Ring β) : List Nat :=
  (match r.buffer with
    | none => []
    | some a => a.ptr :: a.entries.flatMap held) ++ r.desc.toList ++ r.skb.toList

/-- A **torn-down** ring: no buffer array, no descriptor block, no partial skb. -/
structure Ring.TornDown (r : Ring β) : Prop where
  buffer : r.buffer = none
  desc : r.desc = none
  skb : r.skb = none

/-- A **set-up** ring: an array of `count` entries, a descriptor block, and the size
`setup` computed. -/
structure Ring.SetUp (descSize : Nat) (r : Ring β) : Prop where
  buffer : ∃ a, r.buffer = some a ∧ a.entries.length = r.count
  desc : r.desc.isSome
  size : r.size = ringSize r.count descSize

/-! ### Setup -/

section Setup

variable {β : Type} (zero : β) (descSize : Nat)

/-- `fm10k_setup_tx_resources` and `fm10k_setup_rx_resources`: `vzalloc` the array, compute
the block size, `dma_alloc_coherent` the block; on either failure `vfree` the array (a no-op
when it is `NULL`), clear the pointer and return `-ENOMEM`. -/
def setupResources (m : Mem) (r : Ring β) : Mem × Ring β × Int :=
  match m.alloc with
  | (none, m) => (m, { r with buffer := none }, -ENOMEM)
  | (some p, m) =>
    let r := { r with
      buffer := some ⟨p, List.replicate r.count zero⟩
      size := ringSize r.count descSize }
    match m.alloc with
    | (none, m) => (m.vfree (some p), { r with desc := none, buffer := none }, -ENOMEM)
    | (some d, m) => (m, { r with desc := some d, dma := d }, 0)

end Setup

/-- `fm10k_setup_tx_resources`; `txDescSize` is `sizeof(struct fm10k_tx_desc)`. -/
def setupTxResources (txDescSize : Nat) : Mem → Ring TxBuffer → Mem × Ring TxBuffer × Int :=
  setupResources TxBuffer.zero txDescSize

/-- `fm10k_setup_rx_resources`; `rxDescSize` is `sizeof(union fm10k_rx_desc)`. -/
def setupRxResources (rxDescSize : Nat) : Mem → Ring RxBuffer → Mem × Ring RxBuffer × Int :=
  setupResources RxBuffer.zero rxDescSize

/-! ### Clean -/

/-- `fm10k_unmap_and_free_tx_resource`: free the skb and unmap its mapping, or unmap a bare
mapping as a page; then clear the watch marker, the skb and the unmap length together. -/
def unmapAndFreeTxResource (m : Mem) (b : TxBuffer) : Mem × TxBuffer :=
  let m := match b.skb with
    | some skb =>
      let m := m.release (.devKfreeSkb skb)
      if b.len ≠ 0 then m.release (.dmaUnmapSingle b.dma) else m
    | none => if b.len ≠ 0 then m.release (.dmaUnmapPage b.dma) else m
  (m, { b with nextToWatch := none, skb := none, len := 0 })

/-- The loop of `fm10k_clean_tx_ring` over the entries of the array. -/
def unmapAndFreeTxResources : Mem → List TxBuffer → Mem × List TxBuffer
  | m, [] => (m, [])
  | m, b :: bs =>
    let (m, b) := unmapAndFreeTxResource m b
    let (m, bs) := unmapAndFreeTxResources m bs
    (m, b :: bs)

/-- `fm10k_clean_tx_ring`: nothing to do without an array; otherwise release every entry,
then `memset` the array to zero. The byte-queue-limit reset and the `memset` of the
descriptor block change no modelled field. -/
def cleanTxRing (m : Mem) (r : Ring TxBuffer) : Mem × Ring TxBuffer :=
  match r.buffer with
  | none => (m, r)
  | some a =>
    let (m, _) := unmapAndFreeTxResources m a.entries
    (m, { r with buffer := some ⟨a.ptr, List.replicate r.count TxBuffer.zero⟩ })

/-- One entry of the loop of `fm10k_clean_rx_ring`: skip an entry without a page; otherwise
unmap and free the page and clear the pointer. -/
def freeRxBuffer (m : Mem) (b : RxBuffer) : Mem × RxBuffer :=
  match b.page with
  | none => (m, b)
  | some p => ((m.release (.dmaUnmapPage b.dma)).release (.freePage p), { b with page := none })

/-- The loop of `fm10k_clean_rx_ring` over the entries of the array. -/
def freeRxBuffers : Mem → List RxBuffer → Mem × List RxBuffer
  | m, [] => (m, [])
  | m, b :: bs =>
    let (m, b) := freeRxBuffer m b
    let (m, bs) := freeRxBuffers m bs
    (m, b :: bs)

/-- `fm10k_clean_rx_ring`: nothing to do without an array; otherwise free the partial skb,
release every page, `memset` the array and reset the three cursors. -/
def cleanRxRing (m : Mem) (r : Ring RxBuffer) : Mem × Ring RxBuffer :=
  match r.buffer with
  | none => (m, r)
  | some a =>
    let m := match r.skb with
      | some skb => m.release (.devKfreeSkb skb)
      | none => m
    let (m, _) := freeRxBuffers m a.entries
    (m, { r with
      skb := none
      buffer := some ⟨a.ptr, List.replicate r.count RxBuffer.zero⟩
      nextToAlloc := 0
      nextToClean := 0
      nextToUse := 0 })

/-! ### Free -/

/-- `fm10k_free_tx_resources` and `fm10k_free_rx_resources`: clean, `vfree` the array and
clear its pointer, then give the descriptor block back only if there is one. -/
def freeResources {β : Type} (clean : Mem → Ring β → Mem × Ring β) (m : Mem) (r : Ring β) :
    Mem × Ring β :=
  let (m, r) := clean m r
  let m := m.vfree (r.buffer.map BufferArray.ptr)
  let r := { r with buffer := none }
  match r.desc with
  | none => (m, r)
  | some d => (m.release (.dmaFreeCoherent d), { r with desc := none })

/-- `fm10k_free_tx_resources`. -/
def freeTxResources : Mem → Ring TxBuffer → Mem × Ring TxBuffer :=
  freeResources cleanTxRing

/-- `fm10k_free_rx_resources`. -/
def freeRxResources : Mem → Ring RxBuffer → Mem × Ring RxBuffer :=
  freeResources cleanRxRing

/-! ### Ledgers -/

/-- Give back a list of releases, in order. -/
def Mem.releaseAll (m : Mem) (rs : List Release) : Mem :=
  { m with released := m.released ++ rs }

@[simp] theorem Mem.releaseAll_next (m : Mem) (rs : List Release) :
    (m.releaseAll rs).next = m.next := rfl
@[simp] theorem Mem.releaseAll_ok (m : Mem) (rs : List Release) :
    (m.releaseAll rs).ok = m.ok := rfl
@[simp] theorem Mem.releaseAll_allocated (m : Mem) (rs : List Release) :
    (m.releaseAll rs).allocated = m.allocated := rfl
@[simp] theorem Mem.releaseAll_released (m : Mem) (rs : List Release) :
    (m.releaseAll rs).released = m.released ++ rs := rfl

/-- Giving back nothing changes nothing. -/
theorem Mem.releaseAll_nil (m : Mem) : m.releaseAll [] = m := by
  simp [Mem.releaseAll]

/-- Two batches of releases are one batch, in order. -/
theorem Mem.releaseAll_append (m : Mem) (rs rs' : List Release) :
    (m.releaseAll rs).releaseAll rs' = m.releaseAll (rs ++ rs') := by
  simp [Mem.releaseAll]

/-- One release is a batch of one. -/
theorem Mem.release_eq_releaseAll (m : Mem) (r : Release) : m.release r = m.releaseAll [r] :=
  rfl

/-- The allocator moves forward: the logs only grow and what it hands out is fresh and
distinct. -/
structure Mem.Grows (m m' : Mem) : Prop where
  next_le : m.next ≤ m'.next
  ok_eq : m'.ok = m.ok
  alloc : ∃ Δ, m'.allocated = m.allocated ++ Δ ∧ Δ.Nodup ∧ ∀ p ∈ Δ, m.next ≤ p ∧ p < m'.next
  rel : ∃ Δ, m'.released = m.released ++ Δ

/-- Doing nothing moves the allocator forward. -/
theorem Mem.Grows.refl (m : Mem) : m.Grows m :=
  ⟨le_rfl, rfl, ⟨[], by simp, nodup_nil, by simp⟩, ⟨[], by simp⟩⟩

/-- Two calls that each move the allocator forward move it forward together. -/
theorem Mem.Grows.trans {m₁ m₂ m₃ : Mem} (h₁ : m₁.Grows m₂) (h₂ : m₂.Grows m₃) :
    m₁.Grows m₃ := by
  obtain ⟨n₁, o₁, ⟨a₁, ha₁, na₁, fa₁⟩, ⟨r₁, hr₁⟩⟩ := h₁
  obtain ⟨n₂, o₂, ⟨a₂, ha₂, na₂, fa₂⟩, ⟨r₂, hr₂⟩⟩ := h₂
  refine ⟨n₁.trans n₂, o₂.trans o₁, ⟨a₁ ++ a₂, by simp [ha₁, ha₂], ?_, ?_⟩,
    ⟨r₁ ++ r₂, by simp [hr₁, hr₂]⟩⟩
  · refine nodup_append.2 ⟨na₁, na₂, fun p hp hq => ?_⟩
    have := fa₁ p hp; have := fa₂ p hq; omega
  · intro p hp
    rcases mem_append.1 hp with hp | hp
    · have := fa₁ p hp; omega
    · have := fa₂ p hp; omega

/-- Giving back memory moves the allocator forward. -/
theorem Mem.Grows.of_releaseAll (m : Mem) (rs : List Release) : m.Grows (m.releaseAll rs) :=
  ⟨le_rfl, rfl, ⟨[], by simp, nodup_nil, by simp⟩, ⟨rs, rfl⟩⟩

/-- An allocation attempt, failed or not, moves the allocator forward. -/
theorem Mem.Grows.of_alloc (m : Mem) : m.Grows m.alloc.2 := by
  refine ⟨by simp, by simp, ?_, ⟨[], by simp⟩⟩
  rcases m.alloc_cases with ⟨-, h⟩ | ⟨-, h⟩
  · exact ⟨[], by simp [h], nodup_nil, by simp⟩
  · exact ⟨[m.next], h, nodup_singleton _, by simp⟩

/-- Handing out a data-path resource moves the allocator forward. -/
theorem Mem.Grows.of_fresh (m : Mem) : m.Grows m.fresh.2 :=
  ⟨by simp, rfl, ⟨[m.next], by simp, nodup_singleton _, by simp⟩, ⟨[], by simp⟩⟩

/-- The **ledger** of a call that takes the allocator from `m` to `m'` and the holdings of a
ring from `h` to `h'`: what was held before and what the call allocated is exactly what is
held after and what the call gave back. -/
structure Ledger (m : Mem) (h : List Nat) (m' : Mem) (h' : List Nat)
    extends Mem.Grows m m' : Prop where
  balance : ∀ p, h'.count p + m'.releasedPtrs.count p + m.allocated.count p =
    h.count p + m.releasedPtrs.count p + m'.allocated.count p

/-- The ledgers of two calls in sequence are the ledger of the pair. -/
theorem Ledger.trans {m₁ m₂ m₃ : Mem} {h₁ h₂ h₃ : List Nat} (l₁ : Ledger m₁ h₁ m₂ h₂)
    (l₂ : Ledger m₂ h₂ m₃ h₃) : Ledger m₁ h₁ m₃ h₃ :=
  { l₁.toGrows.trans l₂.toGrows with
    balance := fun p => by have := l₁.balance p; have := l₂.balance p; omega }

/-- A call that only gives back what it held. -/
theorem Ledger.releaseAll {m : Mem} {h h' : List Nat} {rs : List Release}
    (hc : ∀ p, h'.count p + (rs.map Release.ptr).count p = h.count p) :
    Ledger m h (m.releaseAll rs) h' :=
  { Mem.Grows.of_releaseAll m rs with
    balance := fun p => by have := hc p; simp [Mem.releasedPtrs] at *; omega }

/-- Holdings that are permutations of each other balance. -/
theorem Ledger.of_perm {m : Mem} {h h' : List Nat} (hp : h'.Perm h) : Ledger m h m h' := by
  simpa [Mem.releaseAll_nil] using
    (Ledger.releaseAll fun p => by simpa using hp.count_eq p : Ledger m h (m.releaseAll []) h')

/-- A ledger whose holdings end empty and which allocates nothing gives back exactly what
was held, each address once. -/
theorem Ledger.released_perm {m m' : Mem} {h : List Nat} (l : Ledger m h m' [])
    (ha : m'.allocated = m.allocated) :
    ∃ Δ, m'.released = m.released ++ Δ ∧ (Δ.map Release.ptr).Perm h := by
  obtain ⟨Δ, hΔ⟩ := l.rel
  refine ⟨Δ, hΔ, perm_iff_count.2 fun p => ?_⟩
  have := l.balance p
  simp [Mem.releasedPtrs, hΔ, ha] at this
  omega

/-- **What a ring can own**: every address it holds or the allocator has been given back
is there at most once in all, and is below the next address to be handed out. -/
structure Owns (m : Mem) (h : List Nat) : Prop where
  once : ∀ p, h.count p + m.releasedPtrs.count p ≤ 1
  lt_next : ∀ p, 0 < h.count p + m.releasedPtrs.count p → p < m.next

/-- Ownership survives any call that moves the allocator forward and neither holds nor
gives back anything it was not holding or given. -/
theorem Owns.of_le {m m' : Mem} {h h' : List Nat} (o : Owns m h) (g : m.Grows m')
    (hb : ∀ p, h'.count p + m'.releasedPtrs.count p + m.allocated.count p ≤
      h.count p + m.releasedPtrs.count p + m'.allocated.count p) : Owns m' h' := by
  obtain ⟨Δ, hΔ, nd, fr⟩ := g.alloc
  have hc : ∀ p, m'.allocated.count p = m.allocated.count p + Δ.count p := by
    simp [hΔ]
  have hfresh : ∀ p, 0 < Δ.count p → m.next ≤ p ∧ p < m'.next :=
    fun p hp => fr p (count_pos_iff.1 hp)
  have hΔ1 : ∀ p, Δ.count p ≤ 1 := nodup_iff_count_le_one.1 nd
  refine ⟨fun p => ?_, fun p hp => ?_⟩
  · have := hb p; have := hc p; have := o.once p; have := hΔ1 p
    by_cases hp : 0 < Δ.count p
    · have := hfresh p hp
      by_cases h0 : 0 < h.count p + m.releasedPtrs.count p
      · have := o.lt_next p h0; omega
      · omega
    · omega
  · have := hb p; have := hc p; have := g.next_le
    by_cases hd : 0 < Δ.count p
    · exact (hfresh p hd).2
    · have := o.lt_next p (by omega); omega

/-- Ownership survives any call with a ledger. -/
theorem Owns.of_ledger {m m' : Mem} {h h' : List Nat} (o : Owns m h) (l : Ledger m h m' h') :
    Owns m' h' :=
  o.of_le l.toGrows fun p => (l.balance p).le

/-- An owned world gives nothing back twice. -/
theorem Owns.nodup_released {m : Mem} {h : List Nat} (o : Owns m h) : m.releasedPtrs.Nodup :=
  nodup_iff_count_le_one.2 fun p => by have := o.once p; omega

/-! ### What each function gives back -/

@[simp] theorem TxBuffer.held_zero : TxBuffer.zero.held = [] := rfl
@[simp] theorem RxBuffer.held_zero : RxBuffer.zero.held = [] := rfl

/-- Copies of an entry that holds nothing hold nothing. -/
theorem flatMap_replicate_of_nil {α β : Type} (f : α → List β) (x : α) (hx : f x = [])
    (n : Nat) : (List.replicate n x).flatMap f = [] := by
  induction n <;> simp_all [List.replicate_succ]

/-- `fm10k_unmap_and_free_tx_resource` gives back exactly what the entry holds, and clears
the skb, the unmap length and the watch marker together. -/
theorem unmapAndFreeTxResource_spec (m : Mem) (b : TxBuffer) :
    (∃ rs, (unmapAndFreeTxResource m b).1 = m.releaseAll rs ∧ rs.map Release.ptr = b.held) ∧
      (unmapAndFreeTxResource m b).2 = { b with nextToWatch := none, skb := none, len := 0 } := by
  refine ⟨?_, rfl⟩
  unfold unmapAndFreeTxResource
  rcases b with ⟨w, _ | s, d, l⟩ <;> by_cases hl : l = 0
  · exact ⟨[], by simp [hl, Mem.releaseAll_nil], by simp [TxBuffer.held, hl]⟩
  · exact ⟨[.dmaUnmapPage d], by simp [hl, Mem.release_eq_releaseAll],
      by simp [TxBuffer.held, hl, Release.ptr]⟩
  · exact ⟨[.devKfreeSkb s], by simp [hl, Mem.release_eq_releaseAll],
      by simp [TxBuffer.held, hl, Release.ptr]⟩
  · exact ⟨[.devKfreeSkb s, .dmaUnmapSingle d],
      by simp [hl, Mem.release_eq_releaseAll, Mem.releaseAll_append],
      by simp [TxBuffer.held, hl, Release.ptr]⟩

/-- The loop of `fm10k_clean_tx_ring` over the entries gives back exactly what they hold, in order.
-/
theorem unmapAndFreeTxResources_spec (m : Mem) (bs : List TxBuffer) :
    ∃ rs, (unmapAndFreeTxResources m bs).1 = m.releaseAll rs ∧
      rs.map Release.ptr = bs.flatMap TxBuffer.held := by
  induction bs generalizing m with
  | nil => exact ⟨[], by simp [unmapAndFreeTxResources, Mem.releaseAll_nil], rfl⟩
  | cons b bs ih =>
    obtain ⟨⟨rs, hm, hrs⟩, -⟩ := unmapAndFreeTxResource_spec m b
    obtain ⟨rs', hm', hrs'⟩ := ih (unmapAndFreeTxResource m b).1
    rw [hm] at hm'
    exact ⟨rs ++ rs', by simp [unmapAndFreeTxResources, hm, hm', Mem.releaseAll_append],
      by simp [hrs, hrs']⟩

/-- The loop of `fm10k_clean_rx_ring` over the entries gives back exactly what they hold, in order.
-/
theorem freeRxBuffers_spec (m : Mem) (bs : List RxBuffer) :
    ∃ rs, (freeRxBuffers m bs).1 = m.releaseAll rs ∧
      rs.map Release.ptr = bs.flatMap RxBuffer.held := by
  induction bs generalizing m with
  | nil => exact ⟨[], by simp [freeRxBuffers, Mem.releaseAll_nil], rfl⟩
  | cons b bs ih =>
    obtain ⟨rs', hm', hrs'⟩ := ih (freeRxBuffer m b).1
    rcases b with ⟨d, _ | p, o⟩
    · exact ⟨rs', by simpa [freeRxBuffers, freeRxBuffer] using hm',
        by simpa [RxBuffer.held] using hrs'⟩
    · simp only [freeRxBuffer, Mem.release_eq_releaseAll, Mem.releaseAll_append] at hm'
      exact ⟨[.dmaUnmapPage d, .freePage p] ++ rs',
        by simpa [freeRxBuffers, freeRxBuffer, Mem.release_eq_releaseAll,
          Mem.releaseAll_append] using hm',
        by simp [RxBuffer.held, hrs', Release.ptr]⟩

/-- **Clean, transmit side.** On a ring with an array, `fm10k_clean_tx_ring` gives back
exactly what the entries hold and keeps the array, now all zero entries, and everything
else. -/
theorem cleanTxRing_of_some {r : Ring TxBuffer} {a : BufferArray TxBuffer}
    (h : r.buffer = some a) (m : Mem) :
    ∃ rs, cleanTxRing m r =
        (m.releaseAll rs, { r with buffer := some ⟨a.ptr, List.replicate r.count .zero⟩ }) ∧
      rs.map Release.ptr = a.entries.flatMap TxBuffer.held := by
  obtain ⟨rs, hm, hrs⟩ := unmapAndFreeTxResources_spec m a.entries
  exact ⟨rs, by simp [cleanTxRing, h, hm], hrs⟩

/-- **Clean, receive side.** On a ring with an array, `fm10k_clean_rx_ring` gives back the
partial skb and every page with its mapping, keeps the array with zero entries, and resets
the cursors. -/
theorem cleanRxRing_of_some {r : Ring RxBuffer} {a : BufferArray RxBuffer}
    (h : r.buffer = some a) (m : Mem) :
    ∃ rs, cleanRxRing m r =
        (m.releaseAll rs, { r with
          skb := none, buffer := some ⟨a.ptr, List.replicate r.count .zero⟩,
          nextToAlloc := 0, nextToClean := 0, nextToUse := 0 }) ∧
      rs.map Release.ptr = r.skb.toList ++ a.entries.flatMap RxBuffer.held := by
  obtain ⟨rs, hm, hrs⟩ := freeRxBuffers_spec (match r.skb with
    | some skb => m.release (.devKfreeSkb skb)
    | none => m) a.entries
  cases hs : r.skb with
  | none =>
    exact ⟨rs, by simp [cleanRxRing, h, hs] at hm ⊢; exact hm, by simpa [hs] using hrs⟩
  | some s =>
    refine ⟨.devKfreeSkb s :: rs, ?_, by simp [hrs, Release.ptr]⟩
    simp only [hs, Mem.release_eq_releaseAll, Mem.releaseAll_append] at hm
    simp [cleanRxRing, h, hs, hm, Mem.release_eq_releaseAll]

/-- A transmit ring with no buffer array is left as it is by `fm10k_clean_tx_ring`. -/
theorem cleanTxRing_of_none {r : Ring TxBuffer} (h : r.buffer = none) (m : Mem) :
    cleanTxRing m r = (m, r) := by
  simp [cleanTxRing, h]

/-- A receive ring with no buffer array is left as it is by `fm10k_clean_rx_ring`. -/
theorem cleanRxRing_of_none {r : Ring RxBuffer} (h : r.buffer = none) (m : Mem) :
    cleanRxRing m r = (m, r) := by
  simp [cleanRxRing, h]

/-! ### The ledger of each ring function -/

/-- A successful allocation attempt adds the address it returns to what is held. -/
theorem Ledger.alloc_some {m : Mem} (h : m.ok m.next = true) (hs : List Nat) :
    Ledger m hs m.alloc.2 (m.next :: hs) :=
  { Mem.Grows.of_alloc m with
    balance := fun p => by simp [Mem.alloc, h, Mem.releasedPtrs, count_cons]; omega }

/-- A failed allocation attempt holds nothing new. -/
theorem Ledger.alloc_none {m : Mem} (h : m.ok m.next = false) (hs : List Nat) :
    Ledger m hs m.alloc.2 hs :=
  { Mem.Grows.of_alloc m with
    balance := fun p => by simp [Mem.alloc, h, Mem.releasedPtrs] }

/-- A torn-down ring holds nothing. -/
theorem Ring.TornDown.held_eq {r : Ring β} (h : r.TornDown) (held : β → List Nat) :
    r.held held = [] := by
  simp [Ring.held, h.buffer, h.desc, h.skb]

@[simp] theorem Ring.held_of_buffer_none {r : Ring β} (held : β → List Nat)
    (h : r.buffer = none) : r.held held = r.desc.toList ++ r.skb.toList := by
  simp [Ring.held, h]

/-- **Clean a transmit ring.** `fm10k_clean_tx_ring` balances: what the entries held is given back,
and the cleaned ring holds only its array and block. -/
theorem cleanTxRing_ledger (m : Mem) (r : Ring TxBuffer) :
    Ledger m (r.held TxBuffer.held) (cleanTxRing m r).1
      ((cleanTxRing m r).2.held TxBuffer.held) := by
  cases h : r.buffer with
  | none => rw [cleanTxRing_of_none h]; exact Ledger.of_perm (Perm.refl _)
  | some a =>
    obtain ⟨rs, he, hrs⟩ := cleanTxRing_of_some h m
    rw [he]
    refine Ledger.releaseAll fun p => ?_
    simp [Ring.held, h, hrs, flatMap_replicate_of_nil, count_cons]
    omega

/-- **Clean a receive ring.** `fm10k_clean_rx_ring` balances, the partial skb included. -/
theorem cleanRxRing_ledger (m : Mem) (r : Ring RxBuffer) :
    Ledger m (r.held RxBuffer.held) (cleanRxRing m r).1
      ((cleanRxRing m r).2.held RxBuffer.held) := by
  cases h : r.buffer with
  | none => rw [cleanRxRing_of_none h]; exact Ledger.of_perm (Perm.refl _)
  | some a =>
    obtain ⟨rs, he, hrs⟩ := cleanRxRing_of_some h m
    rw [he]
    refine Ledger.releaseAll fun p => ?_
    simp [Ring.held, h, hrs, flatMap_replicate_of_nil, count_cons]
    omega

section Free

variable {β : Type} {held : β → List Nat} {clean : Mem → Ring β → Mem × Ring β}

/-- The ring `fm10k_free_*_resources` leaves: the cleaned ring without array or block. -/
theorem freeResources_snd (m : Mem) (r : Ring β) :
    (freeResources clean m r).2 = { (clean m r).2 with buffer := none, desc := none } := by
  rcases hc : clean m r with ⟨m₁, r₁⟩
  cases hd : r₁.desc <;> simp [freeResources, hc, hd]

/-- `vfree` gives back its pointer, or nothing for `NULL`. -/
theorem Mem.vfree_eq_releaseAll (m : Mem) (o : Option Nat) :
    m.vfree o = m.releaseAll (o.toList.map .vfree) := by
  cases o <;> simp [Mem.releaseAll_nil, Mem.release_eq_releaseAll]

/-- What `fm10k_free_*_resources` gives back after cleaning: the array, then the block. -/
theorem freeResources_fst (m : Mem) (r : Ring β) :
    (freeResources clean m r).1 = (clean m r).1.releaseAll
      ((clean m r).2.buffer.toList.map (fun a => .vfree a.ptr) ++
        (clean m r).2.desc.toList.map .dmaFreeCoherent) := by
  rcases hc : clean m r with ⟨m₁, r₁⟩
  cases hb : r₁.buffer <;> cases hd : r₁.desc <;>
    simp [freeResources, hc, hb, hd, Mem.releaseAll_nil, Mem.release_eq_releaseAll,
      Mem.releaseAll_append]

/-- **Free.** If cleaning balances and leaves every entry owning nothing, then freeing
balances: it gives back what the ring held, except the partial skb cleaning kept. -/
theorem freeResources_ledger
    (hc : ∀ m r, Ledger m (r.held held) (clean m r).1 ((clean m r).2.held held))
    (he : ∀ m r a, (clean m r).2.buffer = some a → a.entries.flatMap held = [])
    (m : Mem) (r : Ring β) :
    Ledger m (r.held held) (freeResources clean m r).1
      ((freeResources clean m r).2.held held) := by
  refine (hc m r).trans ?_
  rw [freeResources_fst, freeResources_snd]
  have he' := he m r
  generalize clean m r = c at he' ⊢
  obtain ⟨m₁, r₁⟩ := c
  refine Ledger.releaseAll fun p => ?_
  cases hb : r₁.buffer with
  | none => cases hd : r₁.desc <;> simp [Ring.held, hb, hd, Release.ptr, count_cons]
  | some a =>
    have := he' a hb
    cases hd : r₁.desc
    · simp [Ring.held, hb, hd, this, Release.ptr, count_cons]
    · simp [Ring.held, hb, hd, this, Release.ptr, count_cons]; omega

/-- **`fm10k_free_tx_resources`** balances whatever the ring holds. -/
theorem freeTxResources_ledger (m : Mem) (r : Ring TxBuffer) :
    Ledger m (r.held TxBuffer.held) (freeTxResources m r).1
      ((freeTxResources m r).2.held TxBuffer.held) := by
  refine freeResources_ledger cleanTxRing_ledger (fun m r a ha => ?_) m r
  cases h : r.buffer with
  | none => simp [cleanTxRing_of_none h] at ha; simp [h] at ha
  | some b =>
    obtain ⟨rs, he, -⟩ := cleanTxRing_of_some h m
    simp only [he, Option.some.injEq] at ha
    simp [← ha, flatMap_replicate_of_nil]

/-- **`fm10k_free_rx_resources`** balances whatever the ring holds. -/
theorem freeRxResources_ledger (m : Mem) (r : Ring RxBuffer) :
    Ledger m (r.held RxBuffer.held) (freeRxResources m r).1
      ((freeRxResources m r).2.held RxBuffer.held) := by
  refine freeResources_ledger cleanRxRing_ledger (fun m r a ha => ?_) m r
  cases h : r.buffer with
  | none => simp [cleanRxRing_of_none h] at ha; simp [h] at ha
  | some b =>
    obtain ⟨rs, he, -⟩ := cleanRxRing_of_some h m
    simp only [he, Option.some.injEq] at ha
    simp [← ha, flatMap_replicate_of_nil]

end Free

/-! ### Setup is all or nothing -/

section SetupSpec

variable {β : Type} {zero : β} {descSize : Nat} {m : Mem} {r : Ring β}

/-- Setup when the buffer array cannot be allocated: the ring keeps no array and `-ENOMEM` is
returned. -/
theorem setupResources_of_array_fail (h : m.ok m.next = false) :
    setupResources zero descSize m r = (m.alloc.2, { r with buffer := none }, -ENOMEM) := by
  simp [setupResources, Mem.alloc, h]

/-- Setup when the array is allocated but the descriptor block is not: the array is given back and
`-ENOMEM` returned. -/
theorem setupResources_of_desc_fail (h₁ : m.ok m.next = true)
    (h₂ : m.ok (m.next + 1) = false) :
    setupResources zero descSize m r =
      ((m.alloc.2.alloc.2).release (.vfree m.next),
        { r with buffer := none, size := ringSize r.count descSize, desc := none }, -ENOMEM) := by
  simp [setupResources, Mem.alloc, h₁, h₂]

/-- Setup when both allocations succeed: the ring gets a zeroed array of `count` entries and the
block, and `0` is returned. -/
theorem setupResources_of_ok (h₁ : m.ok m.next = true) (h₂ : m.ok (m.next + 1) = true) :
    setupResources zero descSize m r =
      (m.alloc.2.alloc.2,
        { r with
          buffer := some ⟨m.next, List.replicate r.count zero⟩
          size := ringSize r.count descSize
          desc := some (m.next + 1)
          dma := m.next + 1 }, 0) := by
  simp [setupResources, Mem.alloc, h₁, h₂]

/-- **What a setup asks of the allocator.** It returns `0` exactly when its two allocation
attempts succeed, and then stands two attempts further on; it never changes the verdicts. -/
theorem setupResources_allocs :
    ((setupResources zero descSize m r).2.2 = 0 ↔ m.AllocsOk 2) ∧
      (setupResources zero descSize m r).1.ok = m.ok ∧
      ((setupResources zero descSize m r).2.2 = 0 →
        (setupResources zero descSize m r).1.next = m.next + 2) := by
  rw [Mem.allocsOk_two]
  by_cases h₁ : m.ok m.next
  · by_cases h₂ : m.ok (m.next + 1)
    · simp [setupResources_of_ok h₁ h₂, h₁, h₂]
    · simp [setupResources_of_desc_fail h₁ (by simpa using h₂), h₂, ENOMEM]
  · simp [setupResources_of_array_fail (by simpa using h₁), h₁, ENOMEM]

/-- **Setup is all or nothing.** On a torn-down ring, `fm10k_setup_*_resources` either
returns `0` with the ring set up, or returns `-ENOMEM` with the ring torn down; either way
the ring holds exactly what the call allocated and kept. -/
theorem setupResources_spec {held : β → List Nat} (hz : held zero = []) (hr : r.TornDown) :
    let res := setupResources zero descSize m r
    Ledger m [] res.1 (res.2.1.held held) ∧
      (res.2.2 = 0 ∧ res.2.1.SetUp descSize ∨ res.2.2 = -ENOMEM ∧ res.2.1.TornDown) ∧
      res.2.1.count = r.count := by
  have hz' := flatMap_replicate_of_nil held zero hz r.count
  by_cases h₁ : m.ok m.next
  · have hn : m.alloc.2.next = m.next + 1 := by simp
    have l₁ := Ledger.alloc_some h₁ []
    by_cases h₂ : m.ok (m.next + 1)
    · have l₂ := Ledger.alloc_some (m := m.alloc.2) (by simpa [hn] using h₂) [m.next]
      rw [setupResources_of_ok h₁ h₂]
      refine ⟨(l₁.trans l₂).trans (Ledger.of_perm ?_), .inl ⟨rfl, ⟨_, rfl, by simp⟩, rfl, rfl⟩,
        rfl⟩
      simpa [Ring.held, hz', hr.skb, hn] using Perm.swap _ _ _
    · have l₂ := Ledger.alloc_none (m := m.alloc.2) (by simpa [hn] using h₂) [m.next]
      rw [setupResources_of_desc_fail h₁ (by simpa using h₂), Mem.release_eq_releaseAll]
      refine ⟨(l₁.trans l₂).trans (Ledger.releaseAll fun p => ?_),
        .inr ⟨rfl, rfl, rfl, hr.skb⟩, rfl⟩
      simp [Ring.held, hr.skb, Release.ptr]
  · rw [setupResources_of_array_fail (by simpa using h₁)]
    refine ⟨?_, .inr ⟨rfl, rfl, hr.desc, hr.skb⟩, rfl⟩
    simpa [Ring.held, hr.desc, hr.skb] using Ledger.alloc_none (by simpa using h₁) []

end SetupSpec

/-- Setup touches neither the entry count nor the partial skb. -/
theorem setupResources_frame {β : Type} (zero : β) (descSize : Nat) (m : Mem) (r : Ring β) :
    (setupResources zero descSize m r).2.1.count = r.count ∧
      (setupResources zero descSize m r).2.1.skb = r.skb := by
  unfold setupResources
  split
  · exact ⟨rfl, rfl⟩
  · split <;> exact ⟨rfl, rfl⟩

end Fm10k
