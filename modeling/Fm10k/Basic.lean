import Mathlib

/-!
# The Kernel Environment of the fm10k Host Interface

The network-device layer of the fm10k driver (`fm10k_netdev.c`) never owns memory on its
own: every buffer array, descriptor block, request, tunnel-port entry and forwarding table
comes from a kernel allocator that may fail, and every teardown hands the memory back.
This module fixes how the model sees that environment.

* `Mem` is the allocator. Each allocation attempt takes the next address; whether it
  succeeds is decided by the environment (`Mem.ok`), once and for all, for every attempt
  number. The addresses handed out are logged in `Mem.allocated`.
* `Release` is one call that gives memory back (`vfree`, `dma_free_coherent`,
  `dev_kfree_skb`, `dma_unmap_*`, `__free_page`, `kfree`, `kfree_rcu`); `Mem.released`
  logs them in order. "Released at most once" is `Nodup` of the released addresses.

Both logs only grow, so a call's effect on memory is the pair of suffixes it appends:
the **ledger** of the call. The ring and queue modules state each function's ledger.

The errno values and the few kernel constants the driver code uses are also fixed here,
with `MacAddr` and the address predicates of `etherdevice.h`.
-/

namespace Fm10k

/-! ### Error codes -/

/-- `ENOMEM`. -/
def ENOMEM : Int := 12
/-- `EINVAL`. -/
def EINVAL : Int := 22
/-- `EACCES`. -/
def EACCES : Int := 13
/-- `EBUSY`. -/
def EBUSY : Int := 16
/-- `EADDRNOTAVAIL`. -/
def EADDRNOTAVAIL : Int := 99
/-- `EAGAIN`. -/
def EAGAIN : Int := 11

/-! ### Releases and the allocator -/

/-- One call that gives memory or a mapping back to the kernel, with the address it
releases. -/
inductive Release
  | vfree (p : Nat)
  | dmaFreeCoherent (p : Nat)
  | devKfreeSkb (p : Nat)
  | dmaUnmapSingle (p : Nat)
  | dmaUnmapPage (p : Nat)
  | freePage (p : Nat)
  | kfree (p : Nat)
  | kfreeRcu (p : Nat)
  deriving DecidableEq, Repr

/-- The address a release gives back. -/
def Release.ptr : Release → Nat
  | vfree p | dmaFreeCoherent p | devKfreeSkb p | dmaUnmapSingle p | dmaUnmapPage p
  | freePage p | kfree p | kfreeRcu p => p

/-- The **kernel allocator** as the driver sees it: the next address to hand out, the
environment's verdict on each allocation attempt, and the logs of what was handed out and
what was given back. -/
structure Mem where
  next : Nat
  ok : Nat → Bool
  allocated : List Nat
  released : List Release

namespace Mem

/-- One allocation attempt (`vzalloc`, `kzalloc`, `kmalloc`, `dma_alloc_coherent`): the
attempt takes address `next`, and returns it exactly when the environment lets it
succeed. -/
def alloc (m : Mem) : Option Nat × Mem :=
  if m.ok m.next then (some m.next, { m with next := m.next + 1, allocated := m.allocated ++ [m.next] })
  else (none, { m with next := m.next + 1 })

/-- A resource handed to the driver by the data path (an skb, a page, a DMA mapping): it
always gets a fresh address. -/
def fresh (m : Mem) : Nat × Mem :=
  (m.next, { m with next := m.next + 1, allocated := m.allocated ++ [m.next] })

/-- Log one release. -/
def release (m : Mem) (r : Release) : Mem :=
  { m with released := m.released ++ [r] }

/-- `vfree`, which ignores `NULL`. -/
def vfree (m : Mem) : Option Nat → Mem
  | none => m
  | some p => m.release (.vfree p)

/-- The addresses given back so far. -/
def releasedPtrs (m : Mem) : List Nat :=
  m.released.map Release.ptr

/-- An allocator state the driver can meet: nothing was given back twice, and everything
handed out or given back has an address below `next`. -/
structure Valid (m : Mem) : Prop where
  nodup_released : m.releasedPtrs.Nodup
  released_lt : ∀ p ∈ m.releasedPtrs, p < m.next
  allocated_lt : ∀ p ∈ m.allocated, p < m.next

@[simp] theorem release_next (m : Mem) (r : Release) : (m.release r).next = m.next := rfl
@[simp] theorem release_ok (m : Mem) (r : Release) : (m.release r).ok = m.ok := rfl
@[simp] theorem release_allocated (m : Mem) (r : Release) :
    (m.release r).allocated = m.allocated := rfl
@[simp] theorem release_released (m : Mem) (r : Release) :
    (m.release r).released = m.released ++ [r] := rfl

@[simp] theorem vfree_none (m : Mem) : m.vfree none = m := rfl
@[simp] theorem vfree_some (m : Mem) (p : Nat) : m.vfree (some p) = m.release (.vfree p) := rfl

@[simp] theorem fresh_fst (m : Mem) : m.fresh.1 = m.next := rfl
@[simp] theorem fresh_next (m : Mem) : m.fresh.2.next = m.next + 1 := rfl
@[simp] theorem fresh_ok (m : Mem) : m.fresh.2.ok = m.ok := rfl
@[simp] theorem fresh_allocated (m : Mem) : m.fresh.2.allocated = m.allocated ++ [m.next] := rfl
@[simp] theorem fresh_released (m : Mem) : m.fresh.2.released = m.released := rfl

@[simp] theorem alloc_next (m : Mem) : m.alloc.2.next = m.next + 1 := by
  unfold alloc; split <;> rfl
@[simp] theorem alloc_ok (m : Mem) : m.alloc.2.ok = m.ok := by
  unfold alloc; split <;> rfl
@[simp] theorem alloc_released (m : Mem) : m.alloc.2.released = m.released := by
  unfold alloc; split <;> rfl

/-- What an allocation attempt returns and logs, in one statement: it fails and logs
nothing, or it returns `next` and logs it. -/
theorem alloc_cases (m : Mem) :
    (m.alloc.1 = none ∧ m.alloc.2.allocated = m.allocated) ∨
      (m.alloc.1 = some m.next ∧ m.alloc.2.allocated = m.allocated ++ [m.next]) := by
  unfold alloc; split <;> simp

@[simp] theorem releasedPtrs_release (m : Mem) (r : Release) :
    (m.release r).releasedPtrs = m.releasedPtrs ++ [r.ptr] := by
  simp [releasedPtrs]

/-- The `n` allocation attempts from `next` on would all succeed. -/
def AllocsOk (m : Mem) (n : Nat) : Prop :=
  ∀ k < n, m.ok (m.next + k) = true

/-- Whether a run of attempts succeeds is decided attempt by attempt. -/
instance (m : Mem) (n : Nat) : Decidable (m.AllocsOk n) :=
  inferInstanceAs (Decidable (∀ k < n, m.ok (m.next + k) = true))

/-- Two attempts succeed exactly when the first and the second do. -/
theorem allocsOk_two (m : Mem) :
    m.AllocsOk 2 ↔ m.ok m.next = true ∧ m.ok (m.next + 1) = true :=
  ⟨fun h => ⟨h 0 (by omega), h 1 (by omega)⟩, fun ⟨h₀, h₁⟩ k hk => by
    rcases (show k = 0 ∨ k = 1 by omega) with rfl | rfl
    exacts [h₀, h₁]⟩

/-- A run of `a + b` attempts is the first `a`, then `b` more from a state that stands `a`
attempts further on with the same verdicts. -/
theorem allocsOk_add {m m' : Mem} {a b : Nat} (hn : m'.next = m.next + a) (ho : m'.ok = m.ok) :
    m.AllocsOk (a + b) ↔ m.AllocsOk a ∧ m'.AllocsOk b := by
  simp only [AllocsOk, hn, ho, Nat.add_assoc]
  refine ⟨fun h => ⟨fun k hk => h k (by omega), fun k hk => h (a + k) (by omega)⟩,
    fun ⟨h₁, h₂⟩ k hk => ?_⟩
  by_cases hka : k < a
  · exact h₁ k hka
  · simpa only [Nat.add_sub_cancel' (Nat.le_of_not_lt hka)] using h₂ (k - a) (by omega)

end Mem

/-! ### Ethernet addresses -/

/-- A 48-bit Ethernet address, byte by byte in transmission order. -/
structure MacAddr where
  b0 : UInt8
  b1 : UInt8
  b2 : UInt8
  b3 : UInt8
  b4 : UInt8
  b5 : UInt8
  deriving DecidableEq, Repr

/-- `is_multicast_ether_addr`: the group bit of the first byte. -/
def isMulticastEtherAddr (a : MacAddr) : Bool :=
  a.b0 % 2 == 1

/-- `is_zero_ether_addr`. -/
def isZeroEtherAddr (a : MacAddr) : Bool :=
  a.b0 == 0 && a.b1 == 0 && a.b2 == 0 && a.b3 == 0 && a.b4 == 0 && a.b5 == 0

/-- `is_valid_ether_addr`: neither multicast nor all zeros. -/
def isValidEtherAddr (a : MacAddr) : Bool :=
  !isMulticastEtherAddr a && !isZeroEtherAddr a

end Fm10k
