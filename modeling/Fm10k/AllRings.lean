import Fm10k.Intfc

/-!
# All the Rings of an Interface

An interface has `num_tx_queues` transmit rings and `num_rx_queues` receive rings, and three
loops of `fm10k_netdev.c` run over them: `fm10k_setup_all_*_resources` sets the rings up in
order and, when one fails, rewinds over the rings before it, freeing each;
`fm10k_free_all_*_resources` frees them from the last one down; `fm10k_clean_all_*_rings`
cleans them in order. The loops are modelled once over any array of rings (`setupFrom`,
`freeDown`, `cleanFrom`) and instantiated for both ring kinds.

What an array holds is what its rings hold, one after the other (`heldUpTo`), so the ledger
of one ring function (`Fm10k.Ring`) is the ledger of the array in which that ring is replaced
(`Ledger.update`), and the ledgers of a loop's steps chain into the ledger of the loop.

## Main results

* `setupFrom_spec`: the setup loop over torn-down rings either sets every ring up and
  returns `0`, or returns `-ENOMEM` with every ring torn down again; either way the ledger
  balances.
* `setupFrom_allocs`: the setup loop returns `0` exactly when the two allocation attempts of
  every ring succeed (`setupAllTxResources_allocs`, `setupAllRxResources_allocs`).
* `freeDown_post`: the free loop carries a property from every ring it frees to what each
  free leaves, so it tears down every ring that holds no partial skb.
* `setupAllTxResources_spec`, `setupAllRxResources_spec`, `freeAllTxResources_spec`,
  `freeAllRxResources_spec`: the same for the rings of an interface, with the ledger of all
  its rings.
-/

namespace Fm10k

open List

/-! ### The three loops -/

section Loops

variable {β : Type}

/-- The rewind `while (i--) free(ring[i])`: free rings `i - 1` down to `0`. With
`i = num_*_queues` it is `fm10k_free_all_*_resources`; from the ring that failed it is the
unwind of `fm10k_setup_all_*_resources`. -/
def freeDown (free : Mem → Ring β → Mem × Ring β) :
    Nat → Mem → (Nat → Ring β) → Mem × (Nat → Ring β)
  | 0, m, rings => (m, rings)
  | i + 1, m, rings =>
    let res := free m (rings i)
    freeDown free i res.1 (Function.update rings i res.2)

/-- The loop `for (i = 0; i < num; i++) clean(ring[i])` of `fm10k_clean_all_*_rings`, from
ring `i` with `k` rings to go. -/
def cleanFrom (clean : Mem → Ring β → Mem × Ring β) :
    Nat → Nat → Mem → (Nat → Ring β) → Mem × (Nat → Ring β)
  | 0, _, m, rings => (m, rings)
  | k + 1, i, m, rings =>
    let res := clean m (rings i)
    cleanFrom clean k (i + 1) res.1 (Function.update rings i res.2)

/-- The loop of `fm10k_setup_all_*_resources` from ring `i` with `k` rings to go: set ring
`i` up and go on; on a failure, rewind over the rings before `i` and return the error. -/
def setupFrom (setup : Mem → Ring β → Mem × Ring β × Int) (free : Mem → Ring β → Mem × Ring β) :
    Nat → Nat → Mem → (Nat → Ring β) → Mem × (Nat → Ring β) × Int
  | 0, _, m, rings => (m, rings, 0)
  | k + 1, i, m, rings =>
    let res := setup m (rings i)
    let rings := Function.update rings i res.2.1
    if res.2.2 = 0 then setupFrom setup free k (i + 1) res.1 rings
    else
      let rew := freeDown free i res.1 rings
      (rew.1, rew.2, res.2.2)

/-- What rings `0` to `n - 1` hold, in order. -/
def heldUpTo (held : β → List Nat) (rings : Nat → Ring β) : Nat → List Nat
  | 0 => []
  | n + 1 => heldUpTo held rings n ++ (rings n).held held

end Loops

/-! ### The rings of an interface -/

section Interface

variable (txDescSize rxDescSize : Nat)

/-- `fm10k_setup_all_tx_resources`. -/
def setupAllTxResources (s : Intfc) : Intfc × Int :=
  let res := setupFrom (setupTxResources txDescSize) freeTxResources s.numTxQueues 0 s.mem
    s.txRing
  ({ s with mem := res.1, txRing := res.2.1 }, res.2.2)

/-- `fm10k_setup_all_rx_resources`. -/
def setupAllRxResources (s : Intfc) : Intfc × Int :=
  let res := setupFrom (setupRxResources rxDescSize) freeRxResources s.numRxQueues 0 s.mem
    s.rxRing
  ({ s with mem := res.1, rxRing := res.2.1 }, res.2.2)

/-- `fm10k_free_all_tx_resources`. -/
def freeAllTxResources (s : Intfc) : Intfc :=
  let res := freeDown freeTxResources s.numTxQueues s.mem s.txRing
  { s with mem := res.1, txRing := res.2 }

/-- `fm10k_free_all_rx_resources`. -/
def freeAllRxResources (s : Intfc) : Intfc :=
  let res := freeDown freeRxResources s.numRxQueues s.mem s.rxRing
  { s with mem := res.1, rxRing := res.2 }

/-- `fm10k_clean_all_tx_rings`. -/
def cleanAllTxRings (s : Intfc) : Intfc :=
  let res := cleanFrom cleanTxRing s.numTxQueues 0 s.mem s.txRing
  { s with mem := res.1, txRing := res.2 }

/-- `fm10k_clean_all_rx_rings`. -/
def cleanAllRxRings (s : Intfc) : Intfc :=
  let res := cleanFrom cleanRxRing s.numRxQueues 0 s.mem s.rxRing
  { s with mem := res.1, rxRing := res.2 }

end Interface

/-- What the rings of the queueing scheme hold: the transmit rings', then the receive
rings'. -/
def Intfc.ringsHeld (s : Intfc) : List Nat :=
  heldUpTo TxBuffer.held s.txRing s.numTxQueues ++ heldUpTo RxBuffer.held s.rxRing s.numRxQueues

/-- Every ring of the queueing scheme **torn down**. -/
structure Intfc.RingsTornDown (s : Intfc) : Prop where
  tx : ∀ i < s.numTxQueues, (s.txRing i).TornDown
  rx : ∀ i < s.numRxQueues, (s.rxRing i).TornDown

/-- Every ring of the queueing scheme **set up**: its buffer array and its descriptor block
allocated. -/
structure Intfc.RingsSetUp (txDescSize rxDescSize : Nat) (s : Intfc) : Prop where
  tx : ∀ i < s.numTxQueues, (s.txRing i).SetUp txDescSize
  rx : ∀ i < s.numRxQueues, (s.rxRing i).SetUp rxDescSize

/-- No ring of the queueing scheme holds a partial receive skb: the state of every ring
between the driver's calls when no packet is in flight. -/
structure Intfc.NoPartialSkb (s : Intfc) : Prop where
  tx : ∀ i < s.numTxQueues, (s.txRing i).skb = none
  rx : ∀ i < s.numRxQueues, (s.rxRing i).skb = none

/-! ### Holdings of an array -/

section Held

variable {β : Type} {held : β → List Nat} {rings rings' : Nat → Ring β}

/-- What rings below `n` hold depends on those rings only. -/
theorem heldUpTo_congr : ∀ {n : Nat}, (∀ j < n, rings' j = rings j) →
    heldUpTo held rings' n = heldUpTo held rings n
  | 0, _ => rfl
  | n + 1, h => by
    rw [heldUpTo, heldUpTo, heldUpTo_congr fun j hj => h j (by omega), h n (by omega)]

/-- Torn-down rings hold nothing. -/
theorem heldUpTo_eq_nil : ∀ {n : Nat}, (∀ j < n, (rings j).TornDown) → heldUpTo held rings n = []
  | 0, _ => rfl
  | n + 1, h => by
    rw [heldUpTo, heldUpTo_eq_nil fun j hj => h j (by omega), (h n (by omega)).held_eq, nil_append]

/-- Replacing ring `i < n` changes what rings below `n` hold by what ring `i` held and
holds. -/
theorem heldUpTo_update_count {i : Nat} (r : Ring β) (p : Nat) : ∀ {n : Nat}, i < n →
    (heldUpTo held (Function.update rings i r) n).count p + ((rings i).held held).count p =
      (heldUpTo held rings n).count p + (r.held held).count p
  | n + 1, hi => by
    rcases Nat.lt_succ_iff_lt_or_eq.1 hi with hi | rfl
    · have := heldUpTo_update_count r p hi
      simp only [heldUpTo, count_append, Function.update_noteq (Nat.ne_of_gt hi)]
      omega
    · rw [heldUpTo, heldUpTo, heldUpTo_congr fun j hj => Function.update_noteq (Nat.ne_of_lt hj) _ _,
        Function.update_same, count_append, count_append]
      omega

/-- A queueing scheme with every ring torn down holds nothing. -/
theorem Intfc.RingsTornDown.ringsHeld {s : Intfc} (h : s.RingsTornDown) : s.ringsHeld = [] := by
  rw [Intfc.ringsHeld, heldUpTo_eq_nil h.tx, heldUpTo_eq_nil h.rx, nil_append]

end Held

/-! ### Ledgers of an array -/

section Ledgers

variable {m m' : Mem} {h h' : List Nat}

/-- A ledger carries over to holdings that change by as much. -/
theorem Ledger.congr {H H' : List Nat} (l : Ledger m h m' h')
    (hc : ∀ p, H'.count p + h.count p = H.count p + h'.count p) : Ledger m H m' H' :=
  { l.toGrows with balance := fun p => by have := l.balance p; have := hc p; omega }

/-- A ledger carries over when the same blocks are held after it on both sides. -/
theorem Ledger.append_right (l : Ledger m h m' h') (k : List Nat) :
    Ledger m (h ++ k) m' (h' ++ k) :=
  l.congr fun p => by simp only [count_append]; omega

/-- A ledger carries over when the same blocks are held before it on both sides. -/
theorem Ledger.append_left (l : Ledger m h m' h') (k : List Nat) :
    Ledger m (k ++ h) m' (k ++ h') :=
  l.congr fun p => by simp only [count_append]; omega

/-- The ledger of one ring is the ledger of the array in which it is replaced. -/
theorem Ledger.update {β : Type} {held : β → List Nat} {rings : Nat → Ring β} {i n : Nat}
    {r : Ring β} (hi : i < n) (l : Ledger m ((rings i).held held) m' (r.held held)) :
    Ledger m (heldUpTo held rings n) m' (heldUpTo held (Function.update rings i r) n) :=
  l.congr fun p => by have := @heldUpTo_update_count β held rings i r p n hi; omega

end Ledgers

/-! ### The loops -/

section LoopSpecs

variable {β : Type} {held : β → List Nat} {f : Mem → Ring β → Mem × Ring β}

/-- The rewind from `i` leaves ring `i` and the rings above it alone. -/
theorem freeDown_frame (f : Mem → Ring β → Mem × Ring β) :
    ∀ i m rings j, i ≤ j → (freeDown f i m rings).2 j = rings j
  | 0, _, _, _, _ => rfl
  | i + 1, m, rings, j, hj => by
    rw [freeDown, freeDown_frame f i _ _ j (by omega), Function.update_noteq (by omega)]

/-- The rewind balances when each free does. -/
theorem freeDown_ledger (hl : ∀ m r, Ledger m (r.held held) (f m r).1 ((f m r).2.held held))
    {n : Nat} : ∀ i ≤ n, ∀ m rings,
      Ledger m (heldUpTo held rings n) (freeDown f i m rings).1
        (heldUpTo held (freeDown f i m rings).2 n)
  | 0, _, _, _ => Ledger.of_perm (Perm.refl _)
  | i + 1, hi, m, rings =>
    ((hl m (rings i)).update (by omega)).trans (freeDown_ledger hl i (by omega) _ _)

/-- What one step of the free loop makes of a ring, the loop makes of every ring it
passes. -/
theorem freeDown_post {P Q : Ring β → Prop} (hf : ∀ m r, P r → Q (f m r).2) :
    ∀ i m rings, (∀ j < i, P (rings j)) → ∀ j < i, Q ((freeDown f i m rings).2 j)
  | 0, _, _, _, j, hj => absurd hj (Nat.not_lt_zero j)
  | i + 1, m, rings, h, j, hj => by
    rw [freeDown]
    rcases Nat.lt_succ_iff_lt_or_eq.1 hj with hj | rfl
    · refine freeDown_post hf i _ _ (fun k hk => ?_) j hj
      rw [Function.update_noteq (by omega)]
      exact h k (by omega)
    · rw [freeDown_frame f j _ _ j le_rfl, Function.update_same]
      exact hf m _ (h j (by omega))

/-- The clean loop balances when each clean does. -/
theorem cleanFrom_ledger (hl : ∀ m r, Ledger m (r.held held) (f m r).1 ((f m r).2.held held))
    {n : Nat} : ∀ k i, i + k ≤ n → ∀ m rings,
      Ledger m (heldUpTo held rings n) (cleanFrom f k i m rings).1
        (heldUpTo held (cleanFrom f k i m rings).2 n)
  | 0, _, _, _, _ => Ledger.of_perm (Perm.refl _)
  | k + 1, i, hk, m, rings =>
    ((hl m (rings i)).update (by omega)).trans (cleanFrom_ledger hl k (i + 1) (by omega) _ _)

/-- A property of rings that one clean keeps, the clean loop keeps for every ring. -/
theorem cleanFrom_post {P : Ring β → Prop} (hf : ∀ m r, P r → P (f m r).2) :
    ∀ k i m rings, (∀ j < i + k, P (rings j)) → ∀ j < i + k, P ((cleanFrom f k i m rings).2 j)
  | 0, _, _, _, h => h
  | k + 1, i, m, rings, h => by
    refine fun j hj => cleanFrom_post hf k (i + 1) _ _ (fun l hl => ?_) j (by omega)
    by_cases hli : l = i
    · subst hli
      rw [Function.update_same]
      exact hf m _ (h l (by omega))
    · rw [Function.update_noteq hli]
      exact h l (by omega)

/-- Replacing a ring by one with the same field keeps that field of every ring. -/
theorem update_field {γ : Type} {g : Ring β → γ} {rings : Nat → Ring β} {i : Nat}
    {r : Ring β} (h : g r = g (rings i)) (j : Nat) :
    g (Function.update rings i r j) = g (rings j) := by
  by_cases hj : j = i
  · rw [hj, Function.update_same, h]
  · rw [Function.update_noteq hj]

/-- A field of a ring that each free keeps, the free loop keeps on every ring. -/
theorem freeDown_field {γ : Type} {g : Ring β → γ} (hf : ∀ m r, g (f m r).2 = g r) :
    ∀ i m rings j, g ((freeDown f i m rings).2 j) = g (rings j)
  | 0, _, _, _ => rfl
  | i + 1, m, rings, j => by
    rw [freeDown, freeDown_field hf i _ _ j, update_field (hf m _) j]

/-- A field of a ring that each clean keeps, the clean loop keeps on every ring. -/
theorem cleanFrom_field {γ : Type} {g : Ring β → γ} (hf : ∀ m r, g (f m r).2 = g r) :
    ∀ k i m rings j, g ((cleanFrom f k i m rings).2 j) = g (rings j)
  | 0, _, _, _, _ => rfl
  | k + 1, i, m, rings, j => by
    rw [cleanFrom, cleanFrom_field hf k (i + 1) _ _ j, update_field (hf m _) j]

section Setup

variable {setup : Mem → Ring β → Mem × Ring β × Int} {U : Ring β → Prop}

/-- A successful ring setup moves the loop on to the next ring. -/
theorem setupFrom_succ_of_ok {k i : Nat} {m : Mem} {rings : Nat → Ring β}
    (h : (setup m (rings i)).2.2 = 0) :
    setupFrom setup f (k + 1) i m rings =
      setupFrom setup f k (i + 1) (setup m (rings i)).1
        (Function.update rings i (setup m (rings i)).2.1) := by
  simp only [setupFrom, h, if_true]

/-- A failed ring setup rewinds over the rings before it and ends the loop with its code. -/
theorem setupFrom_succ_of_err {k i : Nat} {m : Mem} {rings : Nat → Ring β}
    (h : (setup m (rings i)).2.2 ≠ 0) :
    setupFrom setup f (k + 1) i m rings =
      ((freeDown f i (setup m (rings i)).1 (Function.update rings i (setup m (rings i)).2.1)).1,
        (freeDown f i (setup m (rings i)).1 (Function.update rings i (setup m (rings i)).2.1)).2,
        (setup m (rings i)).2.2) := by
  simp only [setupFrom, h, if_false]

/-- **The setup loop is all or nothing.** If each setup on a torn-down ring balances and
either succeeds or fails leaving the ring torn down, and each free balances and tears down a
set-up ring, then the loop over rings `i` to `i + k - 1`, torn down with the rings before
`i` set up, either returns `0` with rings `0` to `i + k - 1` set up, or returns `-ENOMEM`
with every ring below `n` torn down. -/
theorem setupFrom_spec
    (hs : ∀ m r, r.TornDown → Ledger m [] (setup m r).1 ((setup m r).2.1.held held) ∧
      ((setup m r).2.2 = 0 ∧ U (setup m r).2.1 ∨
        (setup m r).2.2 = -ENOMEM ∧ (setup m r).2.1.TornDown))
    (hfl : ∀ m r, Ledger m (r.held held) (f m r).1 ((f m r).2.held held))
    (hft : ∀ m r, U r → (f m r).2.TornDown) {n : Nat} :
    ∀ k i, i + k ≤ n → ∀ m rings, (∀ j < i, U (rings j)) →
      (∀ j, i ≤ j → j < n → (rings j).TornDown) →
      Ledger m (heldUpTo held rings n) (setupFrom setup f k i m rings).1
          (heldUpTo held (setupFrom setup f k i m rings).2.1 n) ∧
        ((setupFrom setup f k i m rings).2.2 = 0 ∧
            (∀ j < i + k, U ((setupFrom setup f k i m rings).2.1 j)) ∨
          (setupFrom setup f k i m rings).2.2 = -ENOMEM ∧
            ∀ j < n, ((setupFrom setup f k i m rings).2.1 j).TornDown)
  | 0, i, _, m, rings, hup, _ => ⟨Ledger.of_perm (Perm.refl _), .inl ⟨rfl, hup⟩⟩
  | k + 1, i, hk, m, rings, hup, htd => by
    have hi := htd i le_rfl (by omega)
    obtain ⟨l₀, hr⟩ := hs m (rings i) hi
    rw [← hi.held_eq held] at l₀
    have l₁ : Ledger m (heldUpTo held rings n) (setup m (rings i)).1
        (heldUpTo held (Function.update rings i (setup m (rings i)).2.1) n) :=
      l₀.update (by omega)
    rcases hr with ⟨hok, hu⟩ | ⟨herr, ht⟩
    · rw [setupFrom_succ_of_ok hok]
      obtain ⟨l₂, hres⟩ := setupFrom_spec hs hfl hft (n := n) k (i + 1) (by omega) (setup m (rings i)).1
        (Function.update rings i (setup m (rings i)).2.1)
        (fun j hj => by
          by_cases hji : j = i
          · subst hji; rw [Function.update_same]; exact hu
          · rw [Function.update_noteq hji]; exact hup j (by omega))
        (fun j hj hjn => by
          rw [Function.update_noteq (show j ≠ i by omega)]; exact htd j (by omega) hjn)
      exact ⟨l₁.trans l₂, by rwa [show i + 1 + k = i + (k + 1) by omega] at hres⟩
    · rw [setupFrom_succ_of_err (by rw [herr]; decide)]
      refine ⟨l₁.trans (freeDown_ledger hfl i (by omega) _ _), .inr ⟨herr, fun j hj => ?_⟩⟩
      dsimp only
      by_cases hji : j < i
      · exact freeDown_post (Q := Ring.TornDown) hft i _ _
          (fun l hl => by rw [Function.update_noteq (by omega)]; exact hup l hl) j hji
      · rw [freeDown_frame f i _ _ j (by omega)]
        by_cases hj' : j = i
        · subst hj'; rw [Function.update_same]; exact ht
        · rw [Function.update_noteq hj']; exact htd j (by omega) hj

/-- **What the setup loop asks of the allocator.** When each setup returns `0` exactly when its
next two allocation attempts succeed, and then stands two attempts further on, the loop over
`k` rings returns `0` exactly when the `2 * k` attempts from its start succeed, and then
stands `2 * k` attempts further on with the same verdicts. -/
theorem setupFrom_allocs
    (hs : ∀ m r, ((setup m r).2.2 = 0 ↔ m.AllocsOk 2) ∧ (setup m r).1.ok = m.ok ∧
      ((setup m r).2.2 = 0 → (setup m r).1.next = m.next + 2)) :
    ∀ k i m rings, ((setupFrom setup f k i m rings).2.2 = 0 ↔ m.AllocsOk (2 * k)) ∧
      ((setupFrom setup f k i m rings).2.2 = 0 →
        (setupFrom setup f k i m rings).1.next = m.next + 2 * k ∧
          (setupFrom setup f k i m rings).1.ok = m.ok)
  | 0, _, _, _ => ⟨iff_of_true rfl fun _ h => absurd h (Nat.not_lt_zero _), fun _ => ⟨rfl, rfl⟩⟩
  | k + 1, i, m, rings => by
    obtain ⟨hc, ho, hn⟩ := hs m (rings i)
    by_cases h : (setup m (rings i)).2.2 = 0
    · obtain ⟨ihc, ihn⟩ := setupFrom_allocs hs k (i + 1) (setup m (rings i)).1
        (Function.update rings i (setup m (rings i)).2.1)
      rw [setupFrom_succ_of_ok h, show 2 * (k + 1) = 2 + 2 * k by omega,
        Mem.allocsOk_add (hn h) ho]
      refine ⟨ihc.trans (and_iff_right (hc.1 h)).symm, fun h' => ?_⟩
      obtain ⟨h₁, h₂⟩ := ihn h'
      exact ⟨by rw [h₁, hn h, Nat.add_assoc], h₂.trans ho⟩
    · rw [setupFrom_succ_of_err h]
      exact ⟨iff_of_false h fun hall => h (hc.2 fun j hj => hall j (by omega)), fun h' => absurd h' h⟩

/-- A field of a ring that each setup and each free keep, the setup loop keeps on every ring,
whether it succeeds or rewinds. -/
theorem setupFrom_field {γ : Type} {g : Ring β → γ} (hs : ∀ m r, g (setup m r).2.1 = g r)
    (hf : ∀ m r, g (f m r).2 = g r) :
    ∀ k i m rings j, g ((setupFrom setup f k i m rings).2.1 j) = g (rings j)
  | 0, _, _, _, _ => rfl
  | k + 1, i, m, rings, j => by
    by_cases h : (setup m (rings i)).2.2 = 0
    · rw [setupFrom_succ_of_ok h, setupFrom_field hs hf k (i + 1) _ _ j, update_field (hs m _) j]
    · rw [setupFrom_succ_of_err h, freeDown_field hf i _ _ j, update_field (hs m _) j]

end Setup

end LoopSpecs

/-! ### One ring -/

section OneRing

variable {β : Type} {m : Mem} {r : Ring β}

/-- A free tears a ring down when the clean before it leaves no partial skb. -/
theorem freeResources_tornDown {clean : Mem → Ring β → Mem × Ring β}
    (h : (clean m r).2.skb = none) : (freeResources clean m r).2.TornDown := by
  rw [freeResources_snd]
  exact ⟨rfl, rfl, h⟩

/-- Cleaning a transmit ring leaves its partial skb alone. -/
theorem cleanTxRing_skb (m : Mem) (r : Ring TxBuffer) : (cleanTxRing m r).2.skb = r.skb := by
  unfold cleanTxRing
  split <;> rfl

/-- Cleaning a receive ring with no partial skb leaves none. -/
theorem cleanRxRing_skb (m : Mem) {r : Ring RxBuffer} (h : r.skb = none) :
    (cleanRxRing m r).2.skb = none := by
  unfold cleanRxRing
  split
  · exact h
  · rfl

/-- Freeing a transmit ring with no partial skb tears it down. -/
theorem freeTxResources_tornDown (m : Mem) {r : Ring TxBuffer} (h : r.skb = none) :
    (freeTxResources m r).2.TornDown :=
  freeResources_tornDown ((cleanTxRing_skb m r).trans h)

/-- Freeing a receive ring with no partial skb tears it down. -/
theorem freeRxResources_tornDown (m : Mem) {r : Ring RxBuffer} (h : r.skb = none) :
    (freeRxResources m r).2.TornDown :=
  freeResources_tornDown (cleanRxRing_skb m h)

/-- The ring functions leave a receive ring's forwarding pointer alone. -/
theorem setupResources_l2Accel (zero : β) (descSize : Nat) (m : Mem) (r : Ring β) :
    (setupResources zero descSize m r).2.1.l2Accel = r.l2Accel := by
  unfold setupResources
  split
  · rfl
  · split <;> rfl

/-- Cleaning a receive ring keeps its forwarding pointer. -/
theorem cleanRxRing_l2Accel (m : Mem) (r : Ring RxBuffer) :
    (cleanRxRing m r).2.l2Accel = r.l2Accel := by
  unfold cleanRxRing
  split <;> rfl

/-- Freeing a receive ring keeps its forwarding pointer. -/
theorem freeRxResources_l2Accel (m : Mem) (r : Ring RxBuffer) :
    (freeRxResources m r).2.l2Accel = r.l2Accel := by
  rw [freeRxResources, freeResources_snd]
  exact cleanRxRing_l2Accel m r

/-- **Setup of one ring**, in the form the setup loop needs: on a torn-down ring it balances,
and it sets the ring up with no partial skb or returns `-ENOMEM` with the ring torn down. -/
theorem setupResources_up (zero : β) (held : β → List Nat) (hz : held zero = [])
    (descSize : Nat) (m : Mem) (hr : r.TornDown) :
    Ledger m [] (setupResources zero descSize m r).1
        ((setupResources zero descSize m r).2.1.held held) ∧
      ((setupResources zero descSize m r).2.2 = 0 ∧
          ((setupResources zero descSize m r).2.1.SetUp descSize ∧
            (setupResources zero descSize m r).2.1.skb = none) ∨
        (setupResources zero descSize m r).2.2 = -ENOMEM ∧
          (setupResources zero descSize m r).2.1.TornDown) := by
  obtain ⟨l, hs, -⟩ := @setupResources_spec β zero descSize m r held hz hr
  have hskb := (setupResources_frame zero descSize m r).2.trans hr.skb
  exact ⟨l, hs.imp_left fun ⟨h₀, hu⟩ => ⟨h₀, hu, hskb⟩⟩

end OneRing

/-! ### The rings of an interface -/

section InterfaceSpecs

variable (txDescSize rxDescSize : Nat) {s : Intfc}

/-- **`fm10k_setup_all_tx_resources`** on torn-down transmit rings: it balances over all the
rings of the interface, and returns `0` with every transmit ring set up, or `-ENOMEM` with
every one torn down. -/
theorem setupAllTxResources_spec (h : ∀ i < s.numTxQueues, (s.txRing i).TornDown) :
    Ledger s.mem s.ringsHeld (setupAllTxResources txDescSize s).1.mem
        (setupAllTxResources txDescSize s).1.ringsHeld ∧
      ((setupAllTxResources txDescSize s).2 = 0 ∧ (∀ i < s.numTxQueues,
          ((setupAllTxResources txDescSize s).1.txRing i).SetUp txDescSize ∧
          ((setupAllTxResources txDescSize s).1.txRing i).skb = none) ∨
        (setupAllTxResources txDescSize s).2 = -ENOMEM ∧
          ∀ i < s.numTxQueues, ((setupAllTxResources txDescSize s).1.txRing i).TornDown) := by
  obtain ⟨l, hr⟩ := @setupFrom_spec _ TxBuffer.held _ _ (fun r => r.SetUp txDescSize ∧ r.skb = none)
    (fun m _ hr => setupResources_up TxBuffer.zero TxBuffer.held rfl txDescSize m hr) freeTxResources_ledger
    (fun m _ hu => freeTxResources_tornDown m hu.2) (n := s.numTxQueues) s.numTxQueues 0 (Nat.zero_add _).le s.mem s.txRing
    (fun _ hj => absurd hj (Nat.not_lt_zero _)) (fun j _ hj => h j hj)
  exact ⟨l.append_right _, by simpa only [Nat.zero_add] using hr⟩

/-- **`fm10k_setup_all_rx_resources`**, as `setupAllTxResources_spec`. -/
theorem setupAllRxResources_spec (h : ∀ i < s.numRxQueues, (s.rxRing i).TornDown) :
    Ledger s.mem s.ringsHeld (setupAllRxResources rxDescSize s).1.mem
        (setupAllRxResources rxDescSize s).1.ringsHeld ∧
      ((setupAllRxResources rxDescSize s).2 = 0 ∧ (∀ i < s.numRxQueues,
          ((setupAllRxResources rxDescSize s).1.rxRing i).SetUp rxDescSize ∧
          ((setupAllRxResources rxDescSize s).1.rxRing i).skb = none) ∨
        (setupAllRxResources rxDescSize s).2 = -ENOMEM ∧
          ∀ i < s.numRxQueues, ((setupAllRxResources rxDescSize s).1.rxRing i).TornDown) := by
  obtain ⟨l, hr⟩ := @setupFrom_spec _ RxBuffer.held _ _ (fun r => r.SetUp rxDescSize ∧ r.skb = none)
    (fun m _ hr => setupResources_up RxBuffer.zero RxBuffer.held rfl rxDescSize m hr) freeRxResources_ledger
    (fun m _ hu => freeRxResources_tornDown m hu.2) (n := s.numRxQueues) s.numRxQueues 0 (Nat.zero_add _).le s.mem s.rxRing
    (fun _ hj => absurd hj (Nat.not_lt_zero _)) (fun j _ hj => h j hj)
  exact ⟨l.append_left _, by simpa only [Nat.zero_add] using hr⟩

/-- **What `fm10k_setup_all_tx_resources` asks of the allocator**: it returns `0` exactly
when the two attempts of every transmit ring succeed, and then stands that many attempts
further on with the same verdicts. -/
theorem setupAllTxResources_allocs (s : Intfc) :
    ((setupAllTxResources txDescSize s).2 = 0 ↔ s.mem.AllocsOk (2 * s.numTxQueues)) ∧
      ((setupAllTxResources txDescSize s).2 = 0 →
        (setupAllTxResources txDescSize s).1.mem.next = s.mem.next + 2 * s.numTxQueues ∧
          (setupAllTxResources txDescSize s).1.mem.ok = s.mem.ok) :=
  setupFrom_allocs (fun _ _ => setupResources_allocs) _ 0 _ _

/-- **`fm10k_setup_all_rx_resources`**, as `setupAllTxResources_allocs`. -/
theorem setupAllRxResources_allocs (s : Intfc) :
    ((setupAllRxResources rxDescSize s).2 = 0 ↔ s.mem.AllocsOk (2 * s.numRxQueues)) ∧
      ((setupAllRxResources rxDescSize s).2 = 0 →
        (setupAllRxResources rxDescSize s).1.mem.next = s.mem.next + 2 * s.numRxQueues ∧
          (setupAllRxResources rxDescSize s).1.mem.ok = s.mem.ok) :=
  setupFrom_allocs (fun _ _ => setupResources_allocs) _ 0 _ _

/-- `fm10k_free_all_tx_resources` balances whatever the rings hold. -/
theorem freeAllTxResources_ledger (s : Intfc) :
    Ledger s.mem s.ringsHeld (freeAllTxResources s).mem (freeAllTxResources s).ringsHeld :=
  (freeDown_ledger freeTxResources_ledger _ le_rfl _ _).append_right _

/-- `fm10k_free_all_rx_resources` balances whatever the rings hold. -/
theorem freeAllRxResources_ledger (s : Intfc) :
    Ledger s.mem s.ringsHeld (freeAllRxResources s).mem (freeAllRxResources s).ringsHeld :=
  (freeDown_ledger freeRxResources_ledger _ le_rfl _ _).append_left _

/-- `fm10k_clean_all_tx_rings` balances whatever the rings hold. -/
theorem cleanAllTxRings_ledger (s : Intfc) :
    Ledger s.mem s.ringsHeld (cleanAllTxRings s).mem (cleanAllTxRings s).ringsHeld :=
  (cleanFrom_ledger (n := s.numTxQueues) cleanTxRing_ledger _ 0 (Nat.zero_add _).le _ _).append_right _

/-- `fm10k_clean_all_rx_rings` balances whatever the rings hold. -/
theorem cleanAllRxRings_ledger (s : Intfc) :
    Ledger s.mem s.ringsHeld (cleanAllRxRings s).mem (cleanAllRxRings s).ringsHeld :=
  (cleanFrom_ledger (n := s.numRxQueues) cleanRxRing_ledger _ 0 (Nat.zero_add _).le _ _).append_left _

/-- **`fm10k_free_all_tx_resources`** balances, and tears down every transmit ring that holds
no partial skb. -/
theorem freeAllTxResources_spec (h : ∀ i < s.numTxQueues, (s.txRing i).skb = none) :
    Ledger s.mem s.ringsHeld (freeAllTxResources s).mem (freeAllTxResources s).ringsHeld ∧
      ∀ i < s.numTxQueues, ((freeAllTxResources s).txRing i).TornDown :=
  ⟨freeAllTxResources_ledger s,
    freeDown_post (f := freeTxResources) (Q := Ring.TornDown)
      (fun m _ h => freeTxResources_tornDown m h) _ _ _ h⟩

/-- **`fm10k_free_all_rx_resources`**, as `freeAllTxResources_spec`. -/
theorem freeAllRxResources_spec (h : ∀ i < s.numRxQueues, (s.rxRing i).skb = none) :
    Ledger s.mem s.ringsHeld (freeAllRxResources s).mem (freeAllRxResources s).ringsHeld ∧
      ∀ i < s.numRxQueues, ((freeAllRxResources s).rxRing i).TornDown :=
  ⟨freeAllRxResources_ledger s,
    freeDown_post (f := freeRxResources) (Q := Ring.TornDown)
      (fun m _ h => freeRxResources_tornDown m h) _ _ _ h⟩

/-- **`fm10k_clean_all_tx_rings`** balances and leaves no partial skb behind. -/
theorem cleanAllTxRings_spec (h : ∀ i < s.numTxQueues, (s.txRing i).skb = none) :
    Ledger s.mem s.ringsHeld (cleanAllTxRings s).mem (cleanAllTxRings s).ringsHeld ∧
      ∀ i < s.numTxQueues, ((cleanAllTxRings s).txRing i).skb = none :=
  ⟨cleanAllTxRings_ledger s,
    fun i hi => cleanFrom_post (P := fun r => r.skb = none)
      (fun m r h => (cleanTxRing_skb m r).trans h) s.numTxQueues 0 s.mem s.txRing
      (fun j hj => h j (by omega)) i (by omega)⟩

/-- **`fm10k_clean_all_rx_rings`**, as `cleanAllTxRings_spec`. -/
theorem cleanAllRxRings_spec (h : ∀ i < s.numRxQueues, (s.rxRing i).skb = none) :
    Ledger s.mem s.ringsHeld (cleanAllRxRings s).mem (cleanAllRxRings s).ringsHeld ∧
      ∀ i < s.numRxQueues, ((cleanAllRxRings s).rxRing i).skb = none :=
  ⟨cleanAllRxRings_ledger s,
    fun i hi => cleanFrom_post (P := fun r => r.skb = none)
      (fun m _ h => cleanRxRing_skb m h) s.numRxQueues 0 s.mem s.rxRing
      (fun j hj => h j (by omega)) i (by omega)⟩

/-- `fm10k_setup_all_rx_resources` keeps every ring's forwarding pointer, whether it succeeds or
rewinds. -/
theorem setupAllRxResources_l2Accel (s : Intfc) (i : Nat) :
    ((setupAllRxResources rxDescSize s).1.rxRing i).l2Accel = (s.rxRing i).l2Accel :=
  setupFrom_field (g := Ring.l2Accel) (setupResources_l2Accel _ _) freeRxResources_l2Accel _ _ _ _ i

/-- `fm10k_free_all_rx_resources` keeps every ring's forwarding pointer. -/
theorem freeAllRxResources_l2Accel (s : Intfc) (i : Nat) :
    ((freeAllRxResources s).rxRing i).l2Accel = (s.rxRing i).l2Accel :=
  freeDown_field (g := Ring.l2Accel) freeRxResources_l2Accel _ _ _ i

/-- `fm10k_clean_all_rx_rings` keeps every ring's forwarding pointer. -/
theorem cleanAllRxRings_l2Accel (s : Intfc) (i : Nat) :
    ((cleanAllRxRings s).rxRing i).l2Accel = (s.rxRing i).l2Accel :=
  cleanFrom_field (g := Ring.l2Accel) cleanRxRing_l2Accel _ _ _ _ i

end InterfaceSpecs

end Fm10k
