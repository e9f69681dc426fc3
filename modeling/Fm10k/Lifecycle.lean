import Fm10k.AllRings
import Fm10k.RxState
import Fm10k.Tunnel

/-!
# Opening, Closing and Reconfiguring the Interface

`fm10k_open` sets up every transmit ring, then every receive ring, requests the q-vector
IRQs, takes its GLORT range, tells the stack its queue counts and brings the interface up;
a failure at any step unwinds the steps before it, in reverse order. `fm10k_close` brings
the interface down and frees everything. `fm10k_setup_tc` closes a running interface,
rebuilds the queueing scheme for the new number of traffic classes and opens it again.

PF_RING ZC adds two shortcuts. While a ZC application holds the interface (its usage counter
is positive), `fm10k_close` only marks the interface a zombie and returns `0`; the next
`fm10k_open` clears the mark and returns `0` without allocating anything. `fm10k_setup_tc`
between the two discards a queueing scheme whose rings are still set up, and then reports
success on an interface that runs with no ring set up (`zc_setup_tc_leaks_rings`).

The functions of other files the three call are modelled from the spec: an IRQ request or a
queue-count update by the result the environment gives, the queueing scheme by discarding its
rings (what they still hold is logged in `leaked`) and creating fresh torn-down ones. The
network stack (`stackStep`) issues `ndo_open` only on an interface that is not running and
`ndo_stop` only on a running one.

## Main results

* `fm10kOpen_spec`: from torn-down rings, `fm10k_open` returns the code of the first step
  that fails (`openCode`), and with it either `0` and every ring set up, or every ring torn
  down and the q-vector IRQs not held; either way the ledger of the rings balances.
* `open_all_or_nothing`: the same, and a failed open gives back every block it allocated,
  exactly once.
* `rings_set_up_without_zc`: with no ZC application, along every sequence of the stack's
  calls, the rings are set up whenever the interface runs after a successful open or
  reconfiguration, and no queueing scheme is discarded while a ring holds memory.
* `zc_setup_tc_leaks_rings`: with a ZC application, one reconfiguration of a running
  interface discards its rings' memory and leaves it running with no ring set up.
-/

namespace Fm10k

open List

/-! ### The environment -/

/-- What the environment gives the steps of `fm10k_open` that are not allocations of this
file: the result of `fm10k_qv_request_irq`, of `netif_set_real_num_tx_queues` and of
`netif_set_real_num_rx_queues`. -/
structure OpenOutcome where
  qvIrq : Int
  realTx : Int
  realRx : Int

/-- What `fm10k_init_queueing_scheme` decides: its result and, on success, the queue counts
and the ring sizes of the new scheme. -/
structure SchemeOutcome where
  err : Int
  numTxQueues : Nat
  numRxQueues : Nat
  txCount : Nat
  rxCount : Nat
  txCount_lt : txCount < 2 ^ 16
  rxCount_lt : rxCount < 2 ^ 16

/-- What the environment gives the steps of `fm10k_setup_tc`: the new queueing scheme, the
result of `fm10k_mbx_request_irq` and of `fm10k_uio_request_irq`, and the outcomes of the
`fm10k_open` it may call. -/
structure TcOutcome where
  scheme : SchemeOutcome
  mbxIrq : Int
  uioIrq : Int
  reopen : OpenOutcome

/-! ### The calls to other files -/

/-- Modelled from the spec: `fm10k_qv_request_irq` requests the IRQ of every q-vector; on a
failure it frees the ones it got and returns the error, here `r`. -/
def qvRequestIrq (r : Int) (s : Intfc) : Intfc × Int :=
  if r = 0 then ({ s with qvIrq := true }, 0) else (s, r)

/-- Modelled from the spec: `fm10k_qv_free_irq`. -/
def qvFreeIrq (s : Intfc) : Intfc :=
  { s with qvIrq := false }

/-- Modelled from the spec: `fm10k_mbx_request_irq`, with its result `r`. -/
def mbxRequestIrq (r : Int) (s : Intfc) : Intfc × Int :=
  if r = 0 then ({ s with mbxIrq := true }, 0) else (s, r)

/-- Modelled from the spec: `fm10k_mbx_free_irq`. -/
def mbxFreeIrq (s : Intfc) : Intfc :=
  { s with mbxIrq := false }

/-- Modelled from the spec: `fm10k_uio_request_irq`, with its result `r`. -/
def uioRequestIrq (r : Int) (s : Intfc) : Intfc × Int :=
  if r = 0 then ({ s with uioIrq := true }, 0) else (s, r)

/-- Modelled from the spec: `fm10k_uio_free_irq`. -/
def uioFreeIrq (s : Intfc) : Intfc :=
  { s with uioIrq := false }

/-- Modelled from the spec: `fm10k_up` starts the hardware on the rings it is given and
clears `__FM10K_DOWN`; of what it does, the flag is modelled. -/
def fm10kUp (s : Intfc) : Intfc :=
  { s with down := false }

/-- Modelled from the spec: `fm10k_down` sets `__FM10K_DOWN`, drains the request queue of
the logical port and tears the port down (`fm10k_reset_rx_state`), stops the hardware and
cleans every ring (`fm10k_clean_all_tx_rings`, `fm10k_clean_all_rx_rings`). -/
def fm10kDown (s : Intfc) : Intfc :=
  cleanAllRxRings (cleanAllTxRings (resetRxState { s with down := true }))

/-- Modelled from the spec: `fm10k_clear_queueing_scheme` frees the q-vectors and the rings
with them. What a ring still holds can no longer be given back and is logged in `leaked`;
the ring pointers left behind are rings with nothing. -/
def clearQueueingScheme (s : Intfc) : Intfc :=
  { s with
    leaked := s.leaked ++ s.ringsHeld
    txRing := fun _ => Ring.fresh 0 (by decide)
    rxRing := fun _ => Ring.fresh 0 (by decide) }

/-- Modelled from the spec: `fm10k_init_queueing_scheme` sets the queue counts for the
number of traffic classes and creates fresh torn-down rings, every receive ring referring to
the interface's forwarding table; or it fails. -/
def initQueueingScheme (o : SchemeOutcome) (s : Intfc) : Intfc × Int :=
  if o.err = 0 then
    ({ s with
      numTxQueues := o.numTxQueues
      numRxQueues := o.numRxQueues
      txRing := fun _ => Ring.fresh o.txCount o.txCount_lt
      rxRing := fun _ => { Ring.fresh o.rxCount o.rxCount_lt with l2Accel := s.l2Accel } }, 0)
  else (s, o.err)

/-! ### The entry points -/

section EntryPoints

variable (txDescSize rxDescSize : Nat)

/-- `fm10k_open`, with the outcomes `o` of its IRQ request and queue-count updates. The
stack's replay of its UDP tunnel ports (`udp_tunnel_get_rx_info`) reaches
`fm10k_udp_tunnel_add` (`Fm10k.Tunnel`) and is not repeated here. -/
def fm10kOpen (o : OpenOutcome) (s : Intfc) : Intfc × Int :=
  if s.zombie then ({ s with zombie := false }, 0) else
  let tx := setupAllTxResources txDescSize s
  if tx.2 ≠ 0 then tx else
  let rx := setupAllRxResources rxDescSize tx.1
  if rx.2 ≠ 0 then (freeAllTxResources rx.1, rx.2) else
  let irq := qvRequestIrq o.qvIrq rx.1
  if irq.2 ≠ 0 then (freeAllTxResources (freeAllRxResources irq.1), irq.2) else
  let s := requestGlortRange irq.1
  if o.realTx ≠ 0 then (freeAllTxResources (freeAllRxResources (qvFreeIrq s)), o.realTx) else
  if o.realRx ≠ 0 then (freeAllTxResources (freeAllRxResources (qvFreeIrq s)), o.realRx) else
  (fm10kUp s, 0)

/-- `fm10k_close`, with the ZC usage counter `usage`. -/
def fm10kClose (usage : Nat) (s : Intfc) : Intfc × Int :=
  if usage > 0 then ({ s with zombie := true }, 0) else
  (freeAllRxResources (freeAllTxResources (freeUdpPortInfo (qvFreeIrq (fm10kDown s)))), 0)

/-- The second half of `fm10k_setup_tc`, once the old queueing scheme is cleared: build the
new scheme, request the mailbox and UIO IRQs, and reopen a running interface; a failure
unwinds the steps before it (`err_open`, `err_uio_irq`, `err_mbx_irq`). -/
def setupTcRebuild (o : TcOutcome) (s : Intfc) : Intfc × Int :=
  let sch := initQueueingScheme o.scheme s
  if sch.2 ≠ 0 then sch else
  let mbx := mbxRequestIrq o.mbxIrq sch.1
  if mbx.2 ≠ 0 then (clearQueueingScheme mbx.1, mbx.2) else
  let uio := uioRequestIrq o.uioIrq mbx.1
  if uio.2 ≠ 0 then (clearQueueingScheme (mbxFreeIrq uio.1), uio.2) else
  let opn := if uio.1.running then fm10kOpen txDescSize rxDescSize o.reopen uio.1 else (uio.1, 0)
  if opn.2 ≠ 0 then (clearQueueingScheme (mbxFreeIrq (uioFreeIrq opn.1)), opn.2) else
  (opn.1, 0)

/-- `fm10k_setup_tc`, with the ZC usage counter `usage` at the `fm10k_close` it may call and
the outcomes `o` of its other steps. `netdev_reset_tc`, `netdev_set_num_tc`,
`netif_device_detach` and the `FM10K_FLAG_SWPRI_CONFIG` bit change nothing the model
reads. -/
def fm10kSetupTc (tc : UInt8) (usage : Nat) (o : TcOutcome) (s : Intfc) : Intfc × Int :=
  if tc ≠ 0 ∧ s.macType ≠ .pf then (s, -EINVAL) else
  if tc > 8 then (s, -EINVAL) else
  let s := if s.running then (fm10kClose usage s).1 else s
  setupTcRebuild txDescSize rxDescSize o (clearQueueingScheme (mbxFreeIrq (uioFreeIrq s)))

end EntryPoints

/-! ### The stack -/

/-- A call of the network stack into the driver: `ndo_open`, `ndo_stop` with the ZC usage
counter at that moment, or `ndo_setup_tc` with the counter and the outcomes of its steps. -/
inductive NdoCall
  | ndoOpen (o : OpenOutcome)
  | ndoStop (usage : Nat)
  | ndoSetupTc (tc : UInt8) (usage : Nat) (o : TcOutcome)

/-- The ZC usage counter a call meets. -/
def NdoCall.usage : NdoCall → Nat
  | .ndoOpen _ => 0
  | .ndoStop usage => usage
  | .ndoSetupTc _ usage _ => usage

/-- The interface, with what the last `fm10k_open` or `fm10k_setup_tc` returned. -/
structure Host where
  dev : Intfc
  ret : Int

section Stack

variable (txDescSize rxDescSize : Nat)

/-- Modelled from the spec: one call as the stack issues it. `dev_open` calls `ndo_open` only
on an interface that is not running and marks it running when it returns `0`; `dev_close`
calls `ndo_stop` only on a running interface and marks it not running; `ndo_setup_tc` may
come at any time. -/
def stackStep (h : Host) : NdoCall → Host
  | .ndoOpen o =>
    if h.dev.running then h
    else
      let res := fm10kOpen txDescSize rxDescSize o h.dev
      ⟨{ res.1 with running := decide (res.2 = 0) }, res.2⟩
  | .ndoStop usage =>
    if h.dev.running then ⟨{ (fm10kClose usage h.dev).1 with running := false }, h.ret⟩ else h
  | .ndoSetupTc tc usage o =>
    let res := fm10kSetupTc txDescSize rxDescSize tc usage o h.dev
    ⟨res.1, res.2⟩

/-- A sequence of the stack's calls. -/
def stackRun (h : Host) (cs : List NdoCall) : Host :=
  cs.foldl (stackStep txDescSize rxDescSize) h

@[simp] theorem stackRun_nil (h : Host) : stackRun txDescSize rxDescSize h [] = h := rfl

@[simp] theorem stackRun_cons (h : Host) (c : NdoCall) (cs : List NdoCall) :
    stackRun txDescSize rxDescSize h (c :: cs) =
      stackRun txDescSize rxDescSize (stackStep txDescSize rxDescSize h c) cs := rfl

end Stack

/-! ### Rings of a scheme -/

/-- Torn-down rings hold no partial skb. -/
theorem Intfc.RingsTornDown.noPartialSkb {s : Intfc} (h : s.RingsTornDown) : s.NoPartialSkb :=
  ⟨fun i hi => (h.tx i hi).skb, fun i hi => (h.rx i hi).skb⟩

/-- A ring as the queueing scheme creates it is torn down. -/
theorem Ring.fresh_tornDown {β : Type} (count : Nat) (h : count < 2 ^ 16) :
    (Ring.fresh count h : Ring β).TornDown :=
  ⟨rfl, rfl, rfl⟩

/-- The unwind of `fm10k_open` after its rings are set up: free the receive rings, then the
transmit rings. -/
theorem unwind_spec {s : Intfc} (h : s.NoPartialSkb) :
    Ledger s.mem s.ringsHeld (freeAllTxResources (freeAllRxResources s)).mem
        (freeAllTxResources (freeAllRxResources s)).ringsHeld ∧
      (freeAllTxResources (freeAllRxResources s)).RingsTornDown := by
  obtain ⟨l₁, hrx⟩ := freeAllRxResources_spec h.rx
  obtain ⟨l₂, htx⟩ := freeAllTxResources_spec (s := freeAllRxResources s) h.tx
  exact ⟨l₁.trans l₂, htx, hrx⟩

/-! ### Open -/

/-- Modelled from the spec: the code `fm10k_open` returns from a closed interface, that of the
first step that fails. The ring setups make two allocation attempts per ring, the transmit
rings first, and fail with `-ENOMEM` when one fails; then come the q-vector IRQ request and
the two queue-count updates, whose results the environment gives. No failing step gives
`0`. -/
def openCode (o : OpenOutcome) (s : Intfc) : Int :=
  if s.mem.AllocsOk (2 * (s.numTxQueues + s.numRxQueues)) then
    if o.qvIrq ≠ 0 then o.qvIrq else if o.realTx ≠ 0 then o.realTx else o.realRx
  else -ENOMEM

/-- The fields `fm10k_open` leaves alone that the stack's invariant reads. -/
def OpenFrame (s u : Intfc) : Prop :=
  u.zombie = s.zombie ∧ u.running = s.running ∧ u.leaked = s.leaked ∧
    u.numTxQueues = s.numTxQueues ∧ u.numRxQueues = s.numRxQueues

/-- What `fm10k_open` guarantees from a closed interface, for its result `res`. -/
structure OpenSpec (txDescSize rxDescSize : Nat) (o : OpenOutcome) (s : Intfc)
    (res : Intfc × Int) : Prop where
  ledger : Ledger s.mem s.ringsHeld res.1.mem res.1.ringsHeld
  skb : res.1.NoPartialSkb
  frame : OpenFrame s res.1
  code : res.2 = openCode o s
  outcome : res.2 = 0 ∧ res.1.RingsSetUp txDescSize rxDescSize ∨
    res.2 ≠ 0 ∧ res.1.RingsTornDown ∧ res.1.qvIrq = false

section OpenProof

variable {o : OpenOutcome} {s : Intfc}

/-- A failure after the rings are set up: `fm10k_open` unwinds from `u`. -/
theorem OpenSpec.of_unwind {txDescSize rxDescSize : Nat} {u : Intfc} {err : Int}
    (l : Ledger s.mem s.ringsHeld u.mem u.ringsHeld) (hu : u.NoPartialSkb) (hf : OpenFrame s u)
    (hq : u.qvIrq = false) (he : err ≠ 0) (hc : err = openCode o s) :
    OpenSpec txDescSize rxDescSize o s (freeAllTxResources (freeAllRxResources u), err) := by
  obtain ⟨l', ht⟩ := unwind_spec hu
  exact ⟨l.trans l', ht.noPartialSkb, hf, hc, .inr ⟨he, ht, hq⟩⟩

/-- **Open** from a closed interface: the ledger of the rings balances, and either every ring
is set up and `0` returned, or every ring is torn down, the q-vector IRQs are not held, and
the code of the first failing step is returned. -/
theorem fm10kOpen_spec (txDescSize rxDescSize : Nat) (o : OpenOutcome) (hz : s.zombie = false) (hq : s.qvIrq = false)
    (ht : s.RingsTornDown) :
    OpenSpec txDescSize rxDescSize o s (fm10kOpen txDescSize rxDescSize o s) := by
  have henomem : -ENOMEM ≠ 0 := by decide
  obtain ⟨l₁, hr₁⟩ := setupAllTxResources_spec txDescSize ht.tx
  obtain ⟨hc₁, hn₁⟩ := setupAllTxResources_allocs txDescSize s
  rcases hr₁.symm with ⟨h₁, td₁⟩ | ⟨h₁, up₁⟩
  · -- a transmit ring fails
    have e : fm10kOpen txDescSize rxDescSize o s = setupAllTxResources txDescSize s := by
      simp only [fm10kOpen, hz, Bool.false_eq_true, h₁, henomem, if_false, ne_eq, not_false_eq_true, if_true]
    have ht₁ : (setupAllTxResources txDescSize s).1.RingsTornDown := ⟨td₁, ht.rx⟩
    have hne : (setupAllTxResources txDescSize s).2 ≠ 0 := h₁ ▸ henomem
    have hc : (setupAllTxResources txDescSize s).2 = openCode o s := by
      rw [h₁, openCode, if_neg fun h => mt hc₁.2 hne fun k hk => h k (by omega)]
    rw [e]
    exact ⟨l₁, ht₁.noPartialSkb, ⟨rfl, rfl, rfl, rfl, rfl⟩, hc,
      .inr ⟨hne, ht₁, hq⟩⟩
  set s₁ := (setupAllTxResources txDescSize s).1 with hs₁
  obtain ⟨l₂, hr₂⟩ := setupAllRxResources_spec rxDescSize (s := s₁) ht.rx
  obtain ⟨hc₂, -⟩ := setupAllRxResources_allocs rxDescSize s₁
  -- the receive setups make the attempts that follow the transmit setups'
  have hsplit : s.mem.AllocsOk (2 * (s.numTxQueues + s.numRxQueues)) ↔
      s₁.mem.AllocsOk (2 * s.numRxQueues) := by
    rw [Nat.mul_add, Mem.allocsOk_add (hn₁ h₁).1 (hn₁ h₁).2, and_iff_right (hc₁.1 h₁)]
  rcases hr₂.symm with ⟨h₂, td₂⟩ | ⟨h₂, up₂⟩
  · -- a receive ring fails
    have e : fm10kOpen txDescSize rxDescSize o s =
        (freeAllTxResources (setupAllRxResources rxDescSize s₁).1,
          (setupAllRxResources rxDescSize s₁).2) := by
      simp only [fm10kOpen, hz, Bool.false_eq_true, h₁, h₂, henomem, if_false, ne_eq, not_false_eq_true, if_true,
        not_true_eq_false]
    obtain ⟨l₃, td₃⟩ := freeAllTxResources_spec (s := (setupAllRxResources rxDescSize s₁).1)
      fun i hi => (up₁ i hi).2
    have hne : (setupAllRxResources rxDescSize s₁).2 ≠ 0 := h₂ ▸ henomem
    have hc : (setupAllRxResources rxDescSize s₁).2 = openCode o s := by
      rw [h₂, openCode, if_neg fun h => mt hc₂.2 hne (hsplit.1 h)]
    rw [e]
    exact ⟨(l₁.trans l₂).trans l₃, ⟨fun i hi => (td₃ i hi).skb, fun i hi => (td₂ i hi).skb⟩,
      ⟨rfl, rfl, rfl, rfl, rfl⟩, hc, .inr ⟨hne, ⟨td₃, td₂⟩, hq⟩⟩
  -- every ring set up: the code is that of the first of the later steps that fails
  have hcode : openCode o s =
      if o.qvIrq ≠ 0 then o.qvIrq else if o.realTx ≠ 0 then o.realTx else o.realRx :=
    if_pos (hsplit.2 (hc₂.1 h₂))
  set s₂ := (setupAllRxResources rxDescSize s₁).1 with hs₂
  have l₁₂ : Ledger s.mem s.ringsHeld s₂.mem s₂.ringsHeld := l₁.trans l₂
  have hskb₂ : s₂.NoPartialSkb := ⟨fun i hi => (up₁ i hi).2, fun i hi => (up₂ i hi).2⟩
  rcases (eq_or_ne o.qvIrq 0).symm with h₃ | h₃
  · -- the q-vector IRQ request fails
    have e : fm10kOpen txDescSize rxDescSize o s =
        (freeAllTxResources (freeAllRxResources s₂), o.qvIrq) := by
      simp only [fm10kOpen, hz, Bool.false_eq_true, h₁, h₂, h₃, qvRequestIrq, if_false, ne_eq, not_false_eq_true,
        if_true, not_true_eq_false]
    rw [e]
    exact OpenSpec.of_unwind l₁₂ hskb₂ ⟨rfl, rfl, rfl, rfl, rfl⟩ hq h₃ (by rw [hcode, if_pos h₃])
  obtain ⟨g, c, hg⟩ := requestGlortRange_frame { s₂ with qvIrq := true }
  set s₃ := { s₂ with qvIrq := true, glort := g, glortCount := c } with hs₃
  have e₃ : requestGlortRange (qvRequestIrq o.qvIrq s₂).1 = s₃ := by
    rw [qvRequestIrq, if_pos h₃, hg]
  have hpre : ∀ res, fm10kOpen txDescSize rxDescSize o s = res ↔
      (if o.realTx ≠ 0 then (freeAllTxResources (freeAllRxResources (qvFreeIrq s₃)), o.realTx) else
        if o.realRx ≠ 0 then (freeAllTxResources (freeAllRxResources (qvFreeIrq s₃)), o.realRx)
        else (fm10kUp s₃, 0)) = res := by
    intro res
    simp only [fm10kOpen, hz, Bool.false_eq_true, h₁, h₂, if_false, ne_eq, not_true_eq_false, ← e₃]
    simp only [qvRequestIrq, h₃, if_true, not_true_eq_false, if_false]
  rcases (eq_or_ne o.realTx 0).symm with h₄ | h₄
  · -- the transmit queue count fails
    rw [(hpre _).2 (by rw [if_pos h₄])]
    exact OpenSpec.of_unwind l₁₂ ⟨hskb₂.tx, hskb₂.rx⟩ ⟨rfl, rfl, rfl, rfl, rfl⟩ rfl h₄
      (by rw [hcode, if_neg (not_not.2 h₃), if_pos h₄])
  rcases (eq_or_ne o.realRx 0).symm with h₅ | h₅
  · -- the receive queue count fails
    rw [(hpre _).2 (by rw [if_neg (not_not.2 h₄), if_pos h₅])]
    exact OpenSpec.of_unwind l₁₂ ⟨hskb₂.tx, hskb₂.rx⟩ ⟨rfl, rfl, rfl, rfl, rfl⟩ rfl h₅
      (by rw [hcode, if_neg (not_not.2 h₃), if_neg (not_not.2 h₄)])
  rw [(hpre _).2 (by rw [if_neg (not_not.2 h₄), if_neg (not_not.2 h₅)])]
  exact ⟨l₁₂, ⟨hskb₂.tx, hskb₂.rx⟩, ⟨rfl, rfl, rfl, rfl, rfl⟩,
    by rw [hcode, if_neg (not_not.2 h₃), if_neg (not_not.2 h₄), h₅],
    .inl ⟨rfl, fun i hi => (up₁ i hi).1, fun i hi => (up₂ i hi).1⟩⟩

end OpenProof

/-- Every block allocated from `m` to `m'` was given back exactly once, and nothing else
was. -/
def FreedOnce (m m' : Mem) : Prop :=
  ∃ Δa Δr, m'.allocated = m.allocated ++ Δa ∧ m'.released = m.released ++ Δr ∧ Δa.Nodup ∧
    (Δr.map Release.ptr).Perm Δa

/-- A ledger that starts and ends holding nothing frees what it allocated, exactly once. -/
theorem Ledger.freedOnce {m m' : Mem} (l : Ledger m [] m' []) : FreedOnce m m' := by
  obtain ⟨Δa, ha, hnd, -⟩ := l.alloc
  obtain ⟨Δr, hr⟩ := l.rel
  refine ⟨Δa, Δr, ha, hr, hnd, perm_iff_count.2 fun p => ?_⟩
  have := l.balance p
  simp only [Mem.releasedPtrs, ha, hr, map_append, count_append, count_nil] at this
  omega

/-- A closed PF with one transmit and one receive ring of one entry each, in a kernel whose
allocations all succeed. -/
def closedPf : Intfc :=
  { Intfc.zeroed .pf ⟨0, fun _ => true, [], []⟩ with
    numTxQueues := 1, numRxQueues := 1
    txRing := fun _ => Ring.fresh 1 (by decide), rxRing := fun _ => Ring.fresh 1 (by decide) }

/-- **Open is all or nothing.** From a closed interface (no zombie mark, no q-vector IRQ,
every ring torn down), for any queue counts, ring sizes and outcomes of every allocation,
IRQ request and queue-count update, `fm10k_open` returns the code of the first step that
fails, `0` when none does (`openCode`), and keeps the queue counts; when it returns `0`
every ring is set up, and otherwise every ring is torn down, the q-vector IRQs are not held,
and every block allocated during the call was freed exactly once. -/
theorem open_all_or_nothing (txDescSize rxDescSize : Nat) (o : OpenOutcome) (s : Intfc)
    (hz : s.zombie = false) (hq : s.qvIrq = false) (ht : s.RingsTornDown) :
    (fm10kOpen txDescSize rxDescSize o s).2 = openCode o s ∧
      (fm10kOpen txDescSize rxDescSize o s).1.numTxQueues = s.numTxQueues ∧
      (fm10kOpen txDescSize rxDescSize o s).1.numRxQueues = s.numRxQueues ∧
      ((fm10kOpen txDescSize rxDescSize o s).2 = 0 ∧
          (fm10kOpen txDescSize rxDescSize o s).1.RingsSetUp txDescSize rxDescSize ∨
        (fm10kOpen txDescSize rxDescSize o s).2 ≠ 0 ∧
          (fm10kOpen txDescSize rxDescSize o s).1.RingsTornDown ∧
          (fm10kOpen txDescSize rxDescSize o s).1.qvIrq = false ∧
          FreedOnce s.mem (fm10kOpen txDescSize rxDescSize o s).1.mem) := by
  obtain ⟨l, -, ⟨-, -, -, htx, hrx⟩, hc, hres⟩ := fm10kOpen_spec txDescSize rxDescSize o hz hq ht
  refine ⟨hc, htx, hrx, hres.imp_right fun ⟨he, htd, hqv⟩ => ⟨he, htd, hqv, ?_⟩⟩
  rw [ht.ringsHeld, htd.ringsHeld] at l
  exact l.freedOnce

/-- Open from `closedPf`, where every allocation and every later step succeeds. -/
theorem open_all_or_nothing_closedPf :
    closedPf.zombie = false ∧ closedPf.qvIrq = false ∧ closedPf.RingsTornDown ∧
      (fm10kOpen 16 16 ⟨0, 0, 0⟩ closedPf).2 = openCode ⟨0, 0, 0⟩ closedPf ∧
      (fm10kOpen 16 16 ⟨0, 0, 0⟩ closedPf).1.numTxQueues = closedPf.numTxQueues ∧
      (fm10kOpen 16 16 ⟨0, 0, 0⟩ closedPf).1.numRxQueues = closedPf.numRxQueues ∧
      ((fm10kOpen 16 16 ⟨0, 0, 0⟩ closedPf).2 = 0 ∧
          (fm10kOpen 16 16 ⟨0, 0, 0⟩ closedPf).1.RingsSetUp 16 16 ∨
        (fm10kOpen 16 16 ⟨0, 0, 0⟩ closedPf).2 ≠ 0 ∧
          (fm10kOpen 16 16 ⟨0, 0, 0⟩ closedPf).1.RingsTornDown ∧
          (fm10kOpen 16 16 ⟨0, 0, 0⟩ closedPf).1.qvIrq = false ∧
          FreedOnce closedPf.mem (fm10kOpen 16 16 ⟨0, 0, 0⟩ closedPf).1.mem) := by
  have ht : closedPf.RingsTornDown :=
    ⟨fun _ _ => Ring.fresh_tornDown _ _, fun _ _ => Ring.fresh_tornDown _ _⟩
  exact ⟨rfl, rfl, ht, open_all_or_nothing 16 16 ⟨0, 0, 0⟩ closedPf rfl rfl ht⟩

/-! ### Close -/

/-- The second loop of `fm10k_free_udp_port_info` writes the allocator and the two port lists only.
-/
theorem freeGenevePorts_frame : ∀ (fuel : Nat) (s : Intfc) (p : Option UdpPort),
    ∃ m vx gn, freeGenevePorts fuel s p = { s with mem := m, vxlanPort := vx, genevePort := gn }
  | 0, s, _ => ⟨s.mem, s.vxlanPort, s.genevePort, rfl⟩
  | _ + 1, s, none => ⟨s.mem, s.vxlanPort, s.genevePort, rfl⟩
  | fuel + 1, s, some p => by
    obtain ⟨m, vx, gn, h⟩ := freeGenevePorts_frame fuel
      ({ s with vxlanPort := s.vxlanPort.erase p, genevePort := s.genevePort.erase p }.kfree p.ptr)
      (s.vxlanPort.erase p).head?
    exact ⟨m, vx, gn, h⟩

/-- `fm10k_free_udp_port_info` writes the allocator and the two port lists only. -/
theorem freeUdpPortInfo_frame (s : Intfc) :
    ∃ m vx gn, freeUdpPortInfo s = { s with mem := m, vxlanPort := vx, genevePort := gn } := by
  obtain ⟨m, vx, gn, h⟩ := freeGenevePorts_frame _
    ({ s with
      mem := (flushVxlanPorts s.mem s.vxlanPort).1
      vxlanPort := (flushVxlanPorts s.mem s.vxlanPort).2 }) s.genevePort.head?
  exact ⟨m, vx, gn, h⟩

/-- `fm10k_down` writes, besides the rings, only the allocator, the request queue, the
mailbox log, the mode and the down flag. -/
theorem fm10kDown_frame (s : Intfc) : ∃ m rs mb, fm10kDown s = cleanAllRxRings (cleanAllTxRings
    { s with down := true, mem := m, macvlanRequests := rs, mbx := mb, xcastMode := .none }) := by
  obtain ⟨m, rs, mb, h⟩ := resetRxState_frame { s with down := true }
  exact ⟨m, rs, mb, by rw [fm10kDown, h]⟩

/-- **Close** with no ZC application: every ring torn down, the q-vector IRQs freed, and the
fields the stack's invariant reads kept. -/
theorem fm10kClose_spec {s : Intfc} (h : s.NoPartialSkb) :
    (fm10kClose 0 s).1.RingsTornDown ∧ (fm10kClose 0 s).1.qvIrq = false ∧
      OpenFrame s (fm10kClose 0 s).1 := by
  obtain ⟨m₀, rs, mb, hd⟩ := fm10kDown_frame s
  obtain ⟨m, vx, gn, hu⟩ := freeUdpPortInfo_frame (qvFreeIrq (fm10kDown s))
  have e : fm10kClose 0 s = (freeAllRxResources (freeAllTxResources
      { qvFreeIrq (fm10kDown s) with mem := m, vxlanPort := vx, genevePort := gn }), 0) := by
    rw [fm10kClose, if_neg (Nat.lt_irrefl 0), hu]
  rw [e, hd]
  set d : Intfc :=
    { s with down := true, mem := m₀, macvlanRequests := rs, mbx := mb, xcastMode := .none }
  set u : Intfc :=
    { qvFreeIrq (cleanAllRxRings (cleanAllTxRings d)) with
      mem := m, vxlanPort := vx, genevePort := gn }
  have htx := (cleanAllTxRings_spec (s := d) h.tx).2
  have hrx := (cleanAllRxRings_spec (s := cleanAllTxRings d) h.rx).2
  exact ⟨⟨(freeAllTxResources_spec (s := u) htx).2,
    (freeAllRxResources_spec (s := freeAllTxResources u) hrx).2⟩, rfl, rfl, rfl, rfl, rfl, rfl⟩

/-! ### Reconfiguration -/

/-- A **closed** interface: every ring torn down, no q-vector IRQ held, no zombie mark. -/
structure Intfc.Closed (s : Intfc) : Prop where
  tornDown : s.RingsTornDown
  qvIrq : s.qvIrq = false
  zombie : s.zombie = false

/-- What the stack may rely on between its calls: no zombie mark and no partial skb; a
stopped interface is closed; a running interface whose last open or reconfiguration
returned `0` has every ring set up. -/
structure HostInv (txDescSize rxDescSize : Nat) (h : Host) : Prop where
  zombie : h.dev.zombie = false
  skb : h.dev.NoPartialSkb
  closed : h.dev.running = false → h.dev.RingsTornDown ∧ h.dev.qvIrq = false
  setUp : h.dev.running = true → h.ret = 0 → h.dev.RingsSetUp txDescSize rxDescSize

section Reconfigure

variable {txDescSize rxDescSize : Nat} {s : Intfc}

/-- A closed interface meets the stack's invariant when it is stopped or its last call failed. -/
theorem HostInv.of_closed {ret : Int} (hc : s.Closed) (hr : s.running = false ∨ ret ≠ 0) :
    HostInv txDescSize rxDescSize ⟨s, ret⟩ := by
  refine ⟨hc.zombie, hc.tornDown.noPartialSkb, fun _ => ⟨hc.tornDown, hc.qvIrq⟩, fun h₁ h₂ => ?_⟩
  rcases hr with hr | hr
  · simp only [hr, Bool.false_eq_true] at h₁
  · exact absurd h₂ hr

/-- Freeing the mailbox IRQ keeps an interface closed. -/
theorem Intfc.Closed.mbxFree (hc : s.Closed) : (mbxFreeIrq s).Closed :=
  ⟨⟨hc.tornDown.tx, hc.tornDown.rx⟩, hc.qvIrq, hc.zombie⟩

/-- Freeing the UIO IRQ keeps an interface closed. -/
theorem Intfc.Closed.uioFree (hc : s.Closed) : (uioFreeIrq s).Closed :=
  ⟨⟨hc.tornDown.tx, hc.tornDown.rx⟩, hc.qvIrq, hc.zombie⟩

/-- Clearing the queueing scheme keeps an interface closed: the rings left behind hold
nothing. -/
theorem Intfc.Closed.clear (hc : s.Closed) : (clearQueueingScheme s).Closed :=
  ⟨⟨fun _ _ => Ring.fresh_tornDown 0 _, fun _ _ => Ring.fresh_tornDown 0 _⟩, hc.qvIrq, hc.zombie⟩

/-- Clearing a scheme whose rings are all torn down discards nothing. -/
theorem clearQueueingScheme_leaked (h : s.RingsTornDown) :
    (clearQueueingScheme s).leaked = s.leaked := by
  simp only [clearQueueingScheme, h.ringsHeld, append_nil]

/-- **The second half of a reconfiguration** from a closed interface: the stack's invariant
holds after it and nothing is discarded while held. -/
theorem setupTcRebuild_spec (o : TcOutcome) (hc : s.Closed) :
    HostInv txDescSize rxDescSize ⟨(setupTcRebuild txDescSize rxDescSize o s).1,
        (setupTcRebuild txDescSize rxDescSize o s).2⟩ ∧
      (setupTcRebuild txDescSize rxDescSize o s).1.leaked = s.leaked := by
  rcases (eq_or_ne o.scheme.err 0).symm with h₁ | h₁
  · -- the new queueing scheme fails
    have e : setupTcRebuild txDescSize rxDescSize o s = (s, o.scheme.err) := by
      simp only [setupTcRebuild, initQueueingScheme, h₁, if_false, ne_eq, not_false_eq_true,
        if_true]
    rw [e]
    exact ⟨HostInv.of_closed hc (.inr h₁), rfl⟩
  set s₁ := (initQueueingScheme o.scheme s).1 with hs₁
  have hc₁ : s₁.Closed := by
    rw [hs₁, initQueueingScheme, if_pos h₁]
    exact ⟨⟨fun _ _ => Ring.fresh_tornDown _ _, fun _ _ => ⟨rfl, rfl, rfl⟩⟩, hc.qvIrq,
      hc.zombie⟩
  have hl₁ : s₁.leaked = s.leaked := by rw [hs₁, initQueueingScheme, if_pos h₁]
  have hr₁ : s₁.running = s.running := by rw [hs₁, initQueueingScheme, if_pos h₁]
  have e₁ : initQueueingScheme o.scheme s = (s₁, 0) := by
    rw [hs₁, initQueueingScheme, if_pos h₁]
  rcases (eq_or_ne o.mbxIrq 0).symm with h₂ | h₂
  · -- the mailbox IRQ request fails
    have e : setupTcRebuild txDescSize rxDescSize o s = (clearQueueingScheme s₁, o.mbxIrq) := by
      simp only [setupTcRebuild, e₁, mbxRequestIrq, h₂, if_false, ne_eq, not_false_eq_true,
        if_true, not_true_eq_false]
    rw [e]
    exact ⟨HostInv.of_closed hc₁.clear (.inr h₂), (clearQueueingScheme_leaked hc₁.tornDown).trans hl₁⟩
  rcases (eq_or_ne o.uioIrq 0).symm with h₃ | h₃
  · -- the UIO IRQ request fails
    have e : setupTcRebuild txDescSize rxDescSize o s =
        (clearQueueingScheme (mbxFreeIrq { s₁ with mbxIrq := true }), o.uioIrq) := by
      simp only [setupTcRebuild, e₁, mbxRequestIrq, uioRequestIrq, h₂, h₃, if_false, ne_eq,
        not_false_eq_true, if_true, not_true_eq_false]
    rw [e]
    have hc' : Intfc.Closed { s₁ with mbxIrq := true } :=
      ⟨⟨hc₁.tornDown.tx, hc₁.tornDown.rx⟩, hc₁.qvIrq, hc₁.zombie⟩
    exact ⟨HostInv.of_closed hc'.mbxFree.clear (.inr h₃),
      (clearQueueingScheme_leaked hc'.mbxFree.tornDown).trans hl₁⟩
  set s₂ := { s₁ with mbxIrq := true, uioIrq := true } with hs₂
  have hc₂ : s₂.Closed := ⟨⟨hc₁.tornDown.tx, hc₁.tornDown.rx⟩, hc₁.qvIrq, hc₁.zombie⟩
  have e₂ : ∀ res, setupTcRebuild txDescSize rxDescSize o s = res ↔
      (if (if s₂.running then fm10kOpen txDescSize rxDescSize o.reopen s₂ else (s₂, 0)).2 ≠ 0 then
        (clearQueueingScheme (mbxFreeIrq (uioFreeIrq
          (if s₂.running then fm10kOpen txDescSize rxDescSize o.reopen s₂ else (s₂, 0)).1)),
          (if s₂.running then fm10kOpen txDescSize rxDescSize o.reopen s₂ else (s₂, 0)).2)
      else ((if s₂.running then fm10kOpen txDescSize rxDescSize o.reopen s₂ else (s₂, 0)).1, 0))
        = res := by
    intro res
    simp only [setupTcRebuild, e₁, mbxRequestIrq, uioRequestIrq, h₂, h₃, if_true, ne_eq,
      not_true_eq_false, if_false]
  cases hr : s₁.running
  · -- a stopped interface is not reopened
    rw [(e₂ (s₂, 0)).2 (by simp only [hr, Bool.false_eq_true, if_false, ne_eq,
      not_true_eq_false])]
    exact ⟨HostInv.of_closed hc₂ (.inl hr), hl₁⟩
  -- a running interface is reopened
  have ho := fm10kOpen_spec txDescSize rxDescSize o.reopen hc₂.zombie hc₂.qvIrq hc₂.tornDown
  obtain ⟨hz, hrun, hl, -, -⟩ := ho.frame
  rcases ho.outcome with ⟨h₄, hsu⟩ | ⟨h₄, htd, hq⟩
  · rw [(e₂ ((fm10kOpen txDescSize rxDescSize o.reopen s₂).1, 0)).2
      (by simp only [hr, if_true, h₄, ne_eq, not_true_eq_false, if_false])]
    exact ⟨⟨hz.trans hc₂.zombie, ho.skb, fun h => (by rw [hrun, hr] at h; cases h), fun _ _ => hsu⟩,
      hl.trans hl₁⟩
  · rw [(e₂ (clearQueueingScheme (mbxFreeIrq (uioFreeIrq
        (fm10kOpen txDescSize rxDescSize o.reopen s₂).1)),
        (fm10kOpen txDescSize rxDescSize o.reopen s₂).2)).2
      (by simp only [hr, if_true, h₄, ne_eq, not_false_eq_true])]
    have hc' := (Intfc.Closed.mk htd hq (hz.trans hc₂.zombie)).uioFree.mbxFree
    exact ⟨HostInv.of_closed hc'.clear (.inr h₄),
      (clearQueueingScheme_leaked hc'.tornDown).trans (hl.trans hl₁)⟩

/-- **A reconfiguration** with no ZC application keeps the stack's invariant and discards
nothing while held: a running interface is closed before its scheme is cleared. -/
theorem fm10kSetupTc_spec (tc : UInt8) (o : TcOutcome) {ret : Int}
    (hi : HostInv txDescSize rxDescSize ⟨s, ret⟩) :
    HostInv txDescSize rxDescSize ⟨(fm10kSetupTc txDescSize rxDescSize tc 0 o s).1,
        (fm10kSetupTc txDescSize rxDescSize tc 0 o s).2⟩ ∧
      (fm10kSetupTc txDescSize rxDescSize tc 0 o s).1.leaked = s.leaked := by
  have hinval : HostInv txDescSize rxDescSize ⟨s, -EINVAL⟩ ∧ s.leaked = s.leaked :=
    ⟨⟨hi.zombie, hi.skb, hi.closed, fun _ h => absurd h (by decide : -EINVAL ≠ 0)⟩, rfl⟩
  unfold fm10kSetupTc
  by_cases h₁ : tc ≠ 0 ∧ s.macType ≠ .pf
  · rw [if_pos h₁]; exact hinval
  by_cases h₂ : tc > 8
  · rw [if_neg h₁, if_pos h₂]; exact hinval
  rw [if_neg h₁, if_neg h₂]
  -- the interface is closed, its IRQs freed and its scheme cleared
  have hc : (if s.running then (fm10kClose 0 s).1 else s).Closed ∧
      (if s.running then (fm10kClose 0 s).1 else s).leaked = s.leaked := by
    cases hr : s.running
    · exact ⟨⟨(hi.closed hr).1, (hi.closed hr).2, hi.zombie⟩, rfl⟩
    · obtain ⟨htd, hq, hz, -, hl, -, -⟩ := fm10kClose_spec hi.skb
      exact ⟨⟨htd, hq, hz.trans hi.zombie⟩, hl⟩
  have hc' := hc.1.uioFree.mbxFree
  obtain ⟨hinv, hl⟩ := @setupTcRebuild_spec txDescSize rxDescSize _ o hc'.clear
  exact ⟨hinv, hl.trans ((clearQueueingScheme_leaked hc'.tornDown).trans hc.2)⟩

end Reconfigure

/-! ### Runs of the stack -/

section Runs

variable {txDescSize rxDescSize : Nat}

/-- One call of the stack with no ZC application keeps the invariant and discards nothing. -/
theorem stackStep_inv {h : Host} (hi : HostInv txDescSize rxDescSize h) :
    ∀ c : NdoCall, c.usage = 0 →
      HostInv txDescSize rxDescSize (stackStep txDescSize rxDescSize h c) ∧
        (stackStep txDescSize rxDescSize h c).dev.leaked = h.dev.leaked
  | .ndoOpen o, _ => by
    cases hr : h.dev.running
    · have ho := fm10kOpen_spec txDescSize rxDescSize o hi.zombie (hi.closed hr).2
        (hi.closed hr).1
      obtain ⟨hz, -, hl, -, -⟩ := ho.frame
      simp only [stackStep, hr, Bool.false_eq_true, if_false]
      refine ⟨⟨hz.trans hi.zombie, ⟨ho.skb.tx, ho.skb.rx⟩, fun hrun => ?_, fun _ h₀ => ?_⟩, hl⟩
      · rcases ho.outcome with ⟨h₀, -⟩ | ⟨-, htd, hq⟩
        · simp only [h₀, decide_True, Bool.true_eq_false] at hrun
        · exact ⟨⟨htd.tx, htd.rx⟩, hq⟩
      · rcases ho.outcome with ⟨-, hsu⟩ | ⟨h₁, -⟩
        · exact ⟨hsu.tx, hsu.rx⟩
        · exact absurd h₀ h₁
    · simp only [stackStep, hr, if_true]
      exact ⟨hi, trivial⟩
  | .ndoStop usage, hu => by
    cases hr : h.dev.running
    · simp only [stackStep, hr, Bool.false_eq_true, if_false]
      exact ⟨hi, trivial⟩
    · obtain ⟨htd, hq, hz, -, hl, -, -⟩ := fm10kClose_spec hi.skb
      simp only [NdoCall.usage] at hu
      subst hu
      simp only [stackStep, hr, if_true]
      exact ⟨⟨hz.trans hi.zombie, ⟨fun i hi => (htd.tx i hi).skb, fun i hi => (htd.rx i hi).skb⟩,
        fun _ => ⟨⟨htd.tx, htd.rx⟩, hq⟩, fun h => absurd h Bool.false_ne_true⟩, hl⟩
  | .ndoSetupTc tc usage o, hu => by
    simp only [NdoCall.usage] at hu
    subst hu
    exact fm10kSetupTc_spec tc o hi

/-- Along every run with no ZC application the invariant holds and nothing is discarded. -/
theorem stackRun_inv {h : Host} (hi : HostInv txDescSize rxDescSize h) :
    ∀ cs : List NdoCall, (∀ c ∈ cs, c.usage = 0) →
      HostInv txDescSize rxDescSize (stackRun txDescSize rxDescSize h cs) ∧
        (stackRun txDescSize rxDescSize h cs).dev.leaked = h.dev.leaked
  | [], _ => ⟨hi, rfl⟩
  | c :: cs, hu => by
    obtain ⟨hi₁, hl₁⟩ := stackStep_inv hi c (hu c (mem_cons_self c cs))
    obtain ⟨hi₂, hl₂⟩ := stackRun_inv hi₁ cs fun c' hc' => hu c' (mem_cons_of_mem c hc')
    exact ⟨hi₂, hl₂.trans hl₁⟩

end Runs

/-- **The rings without ZC.** From any state meeting the stack's invariant (for instance a
closed interface), along every sequence of `ndo_open`, `ndo_stop` and `ndo_setup_tc` calls
as the stack issues them, with no ZC application and any outcome of every allocation and IRQ
request: whenever the interface runs and the last open or reconfiguration returned `0`,
every ring of the current scheme is set up; and no queueing scheme is ever cleared while one
of its rings holds memory. -/
theorem rings_set_up_without_zc (txDescSize rxDescSize : Nat) (h : Host)
    (hi : HostInv txDescSize rxDescSize h) (cs : List NdoCall) (hu : ∀ c ∈ cs, c.usage = 0) :
    ((stackRun txDescSize rxDescSize h cs).dev.running = true →
        (stackRun txDescSize rxDescSize h cs).ret = 0 →
        (stackRun txDescSize rxDescSize h cs).dev.RingsSetUp txDescSize rxDescSize) ∧
      (stackRun txDescSize rxDescSize h cs).dev.leaked = h.dev.leaked :=
  ⟨(stackRun_inv hi cs hu).1.setUp, (stackRun_inv hi cs hu).2⟩

/-- Without ZC, from `closedPf`: an open, a reconfiguration and a stop. -/
theorem rings_set_up_closedPf :
    HostInv 16 16 ⟨closedPf, 0⟩ ∧
      (∀ c ∈ [.ndoOpen ⟨0, 0, 0⟩, .ndoSetupTc 0 0 ⟨⟨0, 1, 1, 1, 1, by decide, by decide⟩, 0, 0,
        ⟨0, 0, 0⟩⟩, .ndoStop 0], NdoCall.usage c = 0) ∧
      ((stackRun 16 16 ⟨closedPf, 0⟩ [.ndoOpen ⟨0, 0, 0⟩, .ndoSetupTc 0 0
          ⟨⟨0, 1, 1, 1, 1, by decide, by decide⟩, 0, 0, ⟨0, 0, 0⟩⟩, .ndoStop 0]).dev.running =
            true →
        (stackRun 16 16 ⟨closedPf, 0⟩ [.ndoOpen ⟨0, 0, 0⟩, .ndoSetupTc 0 0
          ⟨⟨0, 1, 1, 1, 1, by decide, by decide⟩, 0, 0, ⟨0, 0, 0⟩⟩, .ndoStop 0]).ret = 0 →
        (stackRun 16 16 ⟨closedPf, 0⟩ [.ndoOpen ⟨0, 0, 0⟩, .ndoSetupTc 0 0
          ⟨⟨0, 1, 1, 1, 1, by decide, by decide⟩, 0, 0, ⟨0, 0, 0⟩⟩, .ndoStop 0]).dev.RingsSetUp
          16 16) ∧
      (stackRun 16 16 ⟨closedPf, 0⟩ [.ndoOpen ⟨0, 0, 0⟩, .ndoSetupTc 0 0
          ⟨⟨0, 1, 1, 1, 1, by decide, by decide⟩, 0, 0, ⟨0, 0, 0⟩⟩, .ndoStop 0]).dev.leaked =
        closedPf.leaked := by
  have hi : HostInv 16 16 ⟨closedPf, 0⟩ :=
    ⟨rfl, ⟨fun _ _ => rfl, fun _ _ => rfl⟩,
      fun _ => ⟨⟨fun _ _ => Ring.fresh_tornDown _ _, fun _ _ => Ring.fresh_tornDown _ _⟩, rfl⟩,
      fun h => absurd h Bool.false_ne_true⟩
  have hu : ∀ c ∈ [NdoCall.ndoOpen ⟨0, 0, 0⟩, .ndoSetupTc 0 0
      ⟨⟨0, 1, 1, 1, 1, by decide, by decide⟩, 0, 0, ⟨0, 0, 0⟩⟩, .ndoStop 0],
      NdoCall.usage c = 0 := by
    simp only [mem_cons, mem_singleton, not_mem_nil, or_false, forall_eq_or_imp, forall_eq,
      NdoCall.usage, and_self]
  exact ⟨hi, hu, rings_set_up_without_zc 16 16 _ hi _ hu⟩

/-! ### The ZC shortcut -/

/-- The interface is opened; then, while a ZC application holds it, its traffic classes are
reset to none, the new scheme keeping one queue of each kind. -/
def zcCalls : List NdoCall :=
  [.ndoOpen ⟨0, 0, 0⟩, .ndoSetupTc 0 1 ⟨⟨0, 1, 1, 1, 1, by decide, by decide⟩, 0, 0, ⟨0, 0, 0⟩⟩]

/-- After `zcCalls` the interface runs and the reconfiguration returned `0`, but its transmit
ring 0 has no buffer array: the first `fm10k_close` only set the zombie mark, the scheme was
cleared while its rings held their arrays and descriptor blocks (addresses `0` to `3`, now
lost), and the reopen took the zombie shortcut without allocating. -/
theorem zc_setup_tc_leaks_rings :
    (stackRun 16 16 ⟨closedPf, 0⟩ zcCalls).dev.running = true ∧
      (stackRun 16 16 ⟨closedPf, 0⟩ zcCalls).ret = 0 ∧
      0 < (stackRun 16 16 ⟨closedPf, 0⟩ zcCalls).dev.numTxQueues ∧
      ((stackRun 16 16 ⟨closedPf, 0⟩ zcCalls).dev.txRing 0).buffer = none ∧
      (stackRun 16 16 ⟨closedPf, 0⟩ zcCalls).dev.leaked = [0, 1, 2, 3] :=
  ⟨by decide, by decide, by decide, rfl, by decide⟩

end Fm10k
