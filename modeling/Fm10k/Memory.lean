import Fm10k.RxRun
import Fm10k.Lifecycle

/-!
# What the Interface Owns

Every block of memory `fm10k_netdev.c` allocates ends up in one of five places: a ring of the
queueing scheme (its buffer array, its descriptor block, what its entries hold), the queue of
MAC/VLAN requests waiting for the switch manager, the current forwarding table, one of the
two UDP tunnel port lists, or the log of what `fm10k_clear_queueing_scheme` discarded while a
ring still held it (`leaked`). `Intfc.accounted` lists all of them. A call **keeps the ledger**
(`Keeps`) when what was accounted for before, with what the call allocated, is exactly what
is accounted for after, with what the call gave back: nothing handed out is dropped on the
floor, and nothing is given back that was not held.

The entry points fall into two kinds. Those of the filters, the stations and the tunnels
(`fm10k_set_mac`, `fm10k_set_rx_mode`, `fm10k_update_vid`, `fm10k_restore_rx_state`,
`fm10k_reset_rx_state`, `fm10k_dfwd_*_station`, `fm10k_udp_tunnel_*`) are **quiet** (`Quiet`):
they keep the ledger and leave the queueing scheme alone, the storage of every ring and the
flags the network stack's calls depend on, and they keep every receive ring on the
interface's forwarding table (`Intfc.RingsOnTable`): the station calls replace or drop a table
only through `fm10k_assign_l2_accel`, which moves every ring with the interface, before the
`kfree_rcu` of the old one. Each is built from a few primitives (an enqueue, a
mailbox call, a cancel, a port-list edit, a table swap) and loops over them; the loops are
quiet when their bodies are. Those of the stack (`fm10k_open`, `fm10k_close`,
`fm10k_setup_tc`) move the rings; their ledgers come from the ring ledgers of
`Fm10k.AllRings` and `Fm10k.Lifecycle`. `fm10k_clear_queueing_scheme` keeps the ledger by
logging what its rings still held. Only `fm10k_open` needs a precondition: it sets up rings it
assumes torn down, so it keeps the ledger on a closed interface or a zombie one; the
reconfiguration, which calls it, is `Fm10k.Driver`'s.

## Main results

* `rxStep_quiet`, `restoreRxState_quiet`, `resetRxState_quiet`, `l2Step_quiet`,
  `tunnelStep_quiet`: the filter, station and tunnel entry points are quiet, whatever the
  allocations give.
* `fm10kOpen_keeps`, `fm10kClose_keeps`, `clearQueueingScheme_keeps`: the ledgers of open,
  close and the clearing of a scheme, the last two with no precondition at all.
* `Intfc.RingsOnTable.live`: on an interface that owns what it accounts for, a ring on the
  table forwards through a table not given back; `fm10kOpen_ringsOnly`, `fm10kClose_route`:
  open moves only the rings, and neither open nor close moves a forwarding pointer.
-/

namespace Fm10k

open List

/-! ### The ledger of the interface -/

/-- The addresses the interface's lists hold: the queued requests, the current forwarding
table, and the UDP tunnel ports. -/
def Intfc.listsHeld (s : Intfc) : List Nat :=
  s.macvlanRequests.map MacvlanRequest.ptr ++ s.l2Accel.toList ++
    s.vxlanPort.map UdpPort.ptr ++ s.genevePort.map UdpPort.ptr

/-- Every address the interface accounts for: what its rings and its lists hold, and what was
discarded while a ring held it. -/
def Intfc.accounted (s : Intfc) : List Nat :=
  s.ringsHeld ++ (s.listsHeld ++ s.leaked)

/-- What an owned world holds has not been given back. -/
theorem Owns.not_released {m : Mem} {h : List Nat} (o : Owns m h) {p : Nat} (hp : p ∈ h) :
    p ∉ m.releasedPtrs := fun hr => by
  have := o.once p
  have := count_pos_iff.2 hp
  have := count_pos_iff.2 hr
  omega

/-- A call from `s` to `s'` **keeps the ledger** of the interface. -/
def Keeps (s s' : Intfc) : Prop :=
  Ledger s.mem s.accounted s'.mem s'.accounted

/-- Doing nothing keeps the ledger. -/
theorem Keeps.refl (s : Intfc) : Keeps s s :=
  Ledger.of_perm (Perm.refl _)

/-- Two calls that each keep the ledger keep it together. -/
theorem Keeps.trans {s₁ s₂ s₃ : Intfc} (h₁ : Keeps s₁ s₂) (h₂ : Keeps s₂ s₃) : Keeps s₁ s₃ :=
  Ledger.trans h₁ h₂

/-- A call that moves neither the allocator nor anything the interface accounts for. -/
theorem Keeps.of_eq {s s' : Intfc} (hm : s'.mem = s.mem) (ha : s'.accounted = s.accounted) :
    Keeps s s' := by
  unfold Keeps
  rw [hm, ha]
  exact Ledger.of_perm (Perm.refl _)

/-- A ledger of the rings alone is the interface's, when the lists and the log stay. -/
theorem Keeps.of_rings {s s' : Intfc} (l : Ledger s.mem s.ringsHeld s'.mem s'.ringsHeld)
    (hl : s'.listsHeld = s.listsHeld) (hk : s'.leaked = s.leaked) : Keeps s s' := by
  unfold Keeps Intfc.accounted
  rw [hl, hk]
  exact l.append_right _

/-- A ledger of the lists alone is the interface's, when the rings and the log stay. -/
theorem Keeps.of_lists {s s' : Intfc} (l : Ledger s.mem s.listsHeld s'.mem s'.listsHeld)
    (hr : s'.ringsHeld = s.ringsHeld) (hk : s'.leaked = s.leaked) : Keeps s s' := by
  unfold Keeps Intfc.accounted
  rw [hr, hk]
  exact (l.append_right _).append_left _

/-! ### The queueing scheme -/

/-- What a ring owns and how it is laid out: its entry count, block size, DMA address,
descriptor block, buffer array and partial skb. A receive ring's default VLAN and forwarding
pointer are not part of it. -/
def Ring.storage {β : Type} (r : Ring β) :
    Nat × Nat × Nat × Option Nat × Option (BufferArray β) × Option Nat :=
  (r.count, r.size, r.dma, r.desc, r.buffer, r.skb)

section Storage

variable {β : Type} {r r' : Ring β}

/-- Rings with the same storage hold the same. -/
theorem Ring.held_of_storage (h : r'.storage = r.storage) (held : β → List Nat) :
    r'.held held = r.held held := by
  simp only [Ring.storage, Prod.mk.injEq] at h
  simp only [Ring.held, h]

/-- A ring with the storage of a torn-down ring is torn down. -/
theorem Ring.tornDown_of_storage (h : r'.storage = r.storage) (ht : r.TornDown) : r'.TornDown := by
  simp only [Ring.storage, Prod.mk.injEq] at h
  exact ⟨h.2.2.2.2.1.trans ht.buffer, h.2.2.2.1.trans ht.desc, h.2.2.2.2.2.trans ht.skb⟩

/-- A ring with the storage of a set-up ring is set up. -/
theorem Ring.setUp_of_storage {descSize : Nat} (h : r'.storage = r.storage)
    (hs : r.SetUp descSize) : r'.SetUp descSize := by
  simp only [Ring.storage, Prod.mk.injEq] at h
  obtain ⟨⟨a, ha, hl⟩, hd, hz⟩ := hs
  exact ⟨⟨a, h.2.2.2.2.1.trans ha, h.1 ▸ hl⟩, h.2.2.2.1 ▸ hd, h.1 ▸ h.2.1.trans hz⟩

/-- Rings with the same storage have the same partial skb. -/
theorem Ring.skb_of_storage (h : r'.storage = r.storage) : r'.skb = r.skb := by
  simp only [Ring.storage, Prod.mk.injEq] at h
  exact h.2.2.2.2.2

end Storage

/-- What rings below `n` hold depends on what each holds only. -/
theorem heldUpTo_congr_held {β : Type} {held : β → List Nat} {rings rings' : Nat → Ring β} :
    ∀ {n : Nat}, (∀ j < n, (rings' j).held held = (rings j).held held) →
      heldUpTo held rings' n = heldUpTo held rings n
  | 0, _ => rfl
  | n + 1, h => by
    rw [heldUpTo, heldUpTo, heldUpTo_congr_held fun j hj => h j (by omega), h n (by omega)]

/-- What the stack's calls read of an interface and what its rings own: the queue counts, the
transmit rings, the storage of the receive rings, the running, zombie and IRQ flags, and the
log of what was discarded. -/
def Intfc.scheme (s : Intfc) :
    Nat × Nat × (Nat → Ring TxBuffer) ×
      (Nat → Nat × Nat × Nat × Option Nat × Option (BufferArray RxBuffer) × Option Nat) ×
      Bool × Bool × Bool × Bool × Bool × List Nat :=
  (s.numTxQueues, s.numRxQueues, s.txRing, fun i => (s.rxRing i).storage, s.running, s.zombie,
    s.qvIrq, s.mbxIrq, s.uioIrq, s.leaked)

/-- A call that leaves the **queueing scheme** alone. -/
def SameScheme (s s' : Intfc) : Prop :=
  s'.scheme = s.scheme

namespace SameScheme

variable {s s' : Intfc} (h : SameScheme s s')
include h

/-- The scheme keeps the number of transmit queues. -/
theorem numTxQueues : s'.numTxQueues = s.numTxQueues := congrArg (·.1) h
/-- The scheme keeps the number of receive queues. -/
theorem numRxQueues : s'.numRxQueues = s.numRxQueues := congrArg (·.2.1) h
/-- The scheme keeps the transmit rings. -/
theorem txRing : s'.txRing = s.txRing := congrArg (·.2.2.1) h
/-- The scheme keeps the storage of every receive ring. -/
theorem rxStorage (i : Nat) : (s'.rxRing i).storage = (s.rxRing i).storage :=
  congrFun (congrArg (·.2.2.2.1) h) i
/-- The scheme keeps the running flag. -/
theorem running : s'.running = s.running := congrArg (·.2.2.2.2.1) h
/-- The scheme keeps the zombie mark. -/
theorem zombie : s'.zombie = s.zombie := congrArg (·.2.2.2.2.2.1) h
/-- The scheme keeps the q-vector IRQ flag. -/
theorem qvIrq : s'.qvIrq = s.qvIrq := congrArg (·.2.2.2.2.2.2.1) h
/-- The scheme keeps the mailbox IRQ flag. -/
theorem mbxIrq : s'.mbxIrq = s.mbxIrq := congrArg (·.2.2.2.2.2.2.2.1) h
/-- The scheme keeps the UIO IRQ flag. -/
theorem uioIrq : s'.uioIrq = s.uioIrq := congrArg (·.2.2.2.2.2.2.2.2.1) h
/-- The scheme keeps the log of what was discarded. -/
theorem leaked : s'.leaked = s.leaked := congrArg (·.2.2.2.2.2.2.2.2.2) h

/-- The scheme keeps what the rings hold. -/
theorem ringsHeld : s'.ringsHeld = s.ringsHeld := by
  unfold Intfc.ringsHeld
  rw [h.txRing, h.numTxQueues, h.numRxQueues,
    heldUpTo_congr_held fun j _ => Ring.held_of_storage (h.rxStorage j) _]

/-- The scheme keeps the rings torn down. -/
theorem tornDown (ht : s.RingsTornDown) : s'.RingsTornDown :=
  ⟨fun i hi => h.txRing ▸ ht.tx i (h.numTxQueues ▸ hi),
    fun i hi => Ring.tornDown_of_storage (h.rxStorage i) (ht.rx i (h.numRxQueues ▸ hi))⟩

/-- The scheme keeps the rings set up. -/
theorem setUp {txDescSize rxDescSize : Nat} (hs : s.RingsSetUp txDescSize rxDescSize) :
    s'.RingsSetUp txDescSize rxDescSize :=
  ⟨fun i hi => h.txRing ▸ hs.tx i (h.numTxQueues ▸ hi),
    fun i hi => Ring.setUp_of_storage (h.rxStorage i) (hs.rx i (h.numRxQueues ▸ hi))⟩

/-- The scheme keeps the rings free of partial skbs. -/
theorem noPartialSkb (hn : s.NoPartialSkb) : s'.NoPartialSkb :=
  ⟨fun i hi => h.txRing ▸ hn.tx i (h.numTxQueues ▸ hi),
    fun i hi => (Ring.skb_of_storage (h.rxStorage i)).trans (hn.rx i (h.numRxQueues ▸ hi))⟩

/-- The allocator is not part of the scheme. -/
theorem with_mem (m : Mem) : SameScheme s { s' with mem := m } := h

end SameScheme

/-! ### The forwarding pointers -/

/-- Where the receive side forwards: the number of receive rings, each ring's copy of the
forwarding-table pointer, and the interface's own. -/
def Intfc.route (s : Intfc) : Nat × (Nat → Option Nat) × Option Nat :=
  (s.numRxQueues, fun i => (s.rxRing i).l2Accel, s.l2Accel)

/-- **Every receive ring is on the interface's table**: a ring's pointer is the interface's,
or none. `fm10k_assign_l2_accel` sets the rings and the interface together, and both
`fm10k_dfwd_add_station` and `fm10k_dfwd_del_station` call it before the `kfree_rcu` of the
table it replaces. -/
def Intfc.RingsOnTable (s : Intfc) : Prop :=
  ∀ i < s.numRxQueues, (s.rxRing i).l2Accel = none ∨ (s.rxRing i).l2Accel = s.l2Accel

/-- Whether every receive ring is on the table is decided ring by ring. -/
instance (s : Intfc) : Decidable s.RingsOnTable :=
  inferInstanceAs (Decidable (∀ i < s.numRxQueues, _ ∨ _))

namespace Intfc

variable {s s' : Intfc}

/-- The route is the number of receive rings, their pointers and the interface's. -/
theorem route_eq (hn : s'.numRxQueues = s.numRxQueues)
    (hr : ∀ i, (s'.rxRing i).l2Accel = (s.rxRing i).l2Accel) (hl : s'.l2Accel = s.l2Accel) :
    s'.route = s.route := by
  simp only [route, hn, hr, hl]

/-- Being on the table depends on the route only. -/
theorem RingsOnTable.of_route (h : s.RingsOnTable) (hr : s'.route = s.route) :
    s'.RingsOnTable := by
  simp only [route, Prod.mk.injEq] at hr
  obtain ⟨hn, hf, hl⟩ := hr
  intro i hi
  rw [congrFun hf i, hl]
  exact h i (hn ▸ hi)

/-- The allocator is not part of the route. -/
theorem RingsOnTable.with_mem (h : s.RingsOnTable) (m : Mem) : { s with mem := m }.RingsOnTable :=
  h

/-- **A ring on the table of an owning interface forwards through a live table**: the
interface's own, which it still holds, so one not given back. -/
theorem RingsOnTable.live (ht : s.RingsOnTable) (ho : Owns s.mem s.accounted) {i p : Nat}
    (hi : i < s.numRxQueues) (hp : (s.rxRing i).l2Accel = some p) :
    s.l2Accel = some p ∧ p ∉ s.mem.releasedPtrs := by
  have hl : s.l2Accel = some p := by
    rcases ht i hi with h | h
    · exact absurd (hp.symm.trans h) (Option.some_ne_none p)
    · exact h.symm.trans hp
  refine ⟨hl, ho.not_released ?_⟩
  simp [accounted, listsHeld, hl]

end Intfc

/-- `fm10k_assign_l2_accel` puts every receive ring on the table it installs. -/
theorem assignL2Accel_onTable (s : Intfc) (l2Accel : Option Nat) :
    (assignL2Accel s l2Accel).RingsOnTable :=
  fun _ hi => .inr (assignL2Accel_rxRing s l2Accel hi)

/-- A **quiet** call: it keeps the ledger, leaves the queueing scheme alone, and keeps every
receive ring on the interface's table. -/
structure Quiet (s s' : Intfc) : Prop where
  keeps : Keeps s s'
  scheme : SameScheme s s'
  table : s.RingsOnTable → s'.RingsOnTable

namespace Quiet

variable {s₁ s₂ s₃ s : Intfc}

/-- Doing nothing is quiet. -/
theorem refl (s : Intfc) : Quiet s s :=
  ⟨Keeps.refl s, rfl, id⟩

/-- Two quiet calls in sequence are quiet. -/
theorem trans (h₁ : Quiet s₁ s₂) (h₂ : Quiet s₂ s₃) : Quiet s₁ s₃ :=
  ⟨h₁.keeps.trans h₂.keeps, h₂.scheme.trans h₁.scheme, h₂.table ∘ h₁.table⟩

/-- A change of fields the ledger, the scheme and the forwarding pointers do not read. -/
theorem of_eq {s' : Intfc} (hm : s'.mem = s.mem) (hl : s'.listsHeld = s.listsHeld)
    (h : SameScheme s s') (hr : s'.route = s.route) : Quiet s s' :=
  ⟨Keeps.of_eq hm (by rw [Intfc.accounted, Intfc.accounted, h.ringsHeld, hl, h.leaked]), h,
    fun ht => ht.of_route hr⟩

/-- A change of the lists that keeps their ledger. -/
theorem of_lists {s' : Intfc} (l : Ledger s.mem s.listsHeld s'.mem s'.listsHeld)
    (h : SameScheme s s') (hr : s'.route = s.route) : Quiet s s' :=
  ⟨Keeps.of_lists l h.ringsHeld h.leaked, h, fun ht => ht.of_route hr⟩

/-- A change of the lists that keeps their ledger and puts every receive ring on the
interface's table: an install of a table by `fm10k_assign_l2_accel`. -/
theorem of_table {s' : Intfc} (l : Ledger s.mem s.listsHeld s'.mem s'.listsHeld)
    (h : SameScheme s s') (ht : s'.RingsOnTable) : Quiet s s' :=
  ⟨Keeps.of_lists l h.ringsHeld h.leaked, h, fun _ => ht⟩

end Quiet

/-! ### The primitives -/

/-- Holdings after a call may be listed in any order. -/
theorem Ledger.perm_right {m m' : Mem} {h h' H' : List Nat} (l : Ledger m h m' h')
    (hp : H'.Perm h') : Ledger m h m' H' :=
  l.congr fun p => by rw [hp.count_eq]; omega

/-- One release, of an address the holdings give up. -/
theorem Ledger.release {m : Mem} {h h' : List Nat} (r : Release)
    (hc : ∀ p, h'.count p + [r.ptr].count p = h.count p) : Ledger m h (m.release r) h' :=
  Ledger.releaseAll hc

/-- **An enqueue is quiet**: a granted attempt is the address of the request it appends. -/
theorem queueRequest_quiet (s : Intfc) (body : MacvlanRequestBody) (set : Bool) :
    Quiet s (queueRequest s body set).1 := by
  cases h : s.mem.ok s.mem.next
  · rw [queueRequest_of_fail h]
    exact Quiet.of_lists (Ledger.alloc_none h _) rfl rfl
  · rw [queueRequest_of_ok h]
    refine Quiet.of_lists ((Ledger.alloc_some h s.listsHeld).perm_right ?_) rfl rfl
    simp only [Intfc.listsHeld, map_append, map_cons, map_nil, append_assoc, singleton_append]
    exact perm_middle

/-- A mailbox call is quiet. -/
theorem callMbx_quiet (s : Intfc) (c : MbxCall) : Quiet s (s.callMbx c) :=
  Quiet.of_eq rfl rfl rfl rfl

/-- **A cancel is quiet**: it frees exactly the requests it unlinks. -/
theorem clearMacvlanQueue_quiet (s : Intfc) (glort : Nat) (vlans : Bool) :
    Quiet s (clearMacvlanQueue s glort vlans) := by
  unfold clearMacvlanQueue
  rw [clearMacvlanLoop_eq]
  refine Quiet.of_lists (Ledger.releaseAll fun p => ?_) rfl rfl
  have hp := ((filter_append_perm (clearsRequest (glort % 2 ^ 16) vlans)
    s.macvlanRequests).map MacvlanRequest.ptr).count_eq p
  have hc : (cancelled (glort % 2 ^ 16) vlans s.macvlanRequests).map Release.ptr =
      (s.macvlanRequests.filter (clearsRequest (glort % 2 ^ 16) vlans)).map MacvlanRequest.ptr := by
    rw [cancelled, map_map]; rfl
  simp only [map_append, count_append] at hp
  simp only [Intfc.listsHeld, hc, count_append]
  omega

/-- Unlinking a port keeps the list's entries: the one unlinked, if any, and those left. -/
theorem removeTunnelPort_perm (ti : UdpTunnelInfo) :
    ∀ ps : List UdpPort, ((removeTunnelPort ps ti).1.toList ++ (removeTunnelPort ps ti).2).Perm ps
  | [] => Perm.refl _
  | p :: ps => by
    by_cases h : p.port = ti.port ∧ p.saFamily = ti.saFamily
    · simp only [removeTunnelPort, h, and_self, if_true, Option.toList_some, singleton_append,
        Perm.refl]
    · have e : removeTunnelPort (p :: ps) ti =
          ((removeTunnelPort ps ti).1, p :: (removeTunnelPort ps ti).2) := by
        simp [removeTunnelPort, h]
      rw [e]
      exact perm_middle.trans ((removeTunnelPort_perm ti ps).cons p)

/-- **A port insertion keeps the list's ledger**: an entry moved to the tail is still there,
and a new one is the attempt that allocated it. -/
theorem insertTunnelPort_ledger (m : Mem) (ps : List UdpPort) (ti : UdpTunnelInfo) :
    Ledger m (ps.map UdpPort.ptr) (insertTunnelPort m ps ti).1
      ((insertTunnelPort m ps ti).2.map UdpPort.ptr) := by
  have hperm := removeTunnelPort_perm ti ps
  unfold insertTunnelPort
  rcases hr : removeTunnelPort ps ti with ⟨_ | p, ps'⟩
  · rw [hr] at hperm
    simp only [Option.toList_none, nil_append] at hperm
    cases h : m.ok m.next
    · rw [show m.alloc = (none, m.alloc.2) by simp [Mem.alloc, h]]
      exact (Ledger.alloc_none h _).perm_right (hperm.map _)
    · rw [show m.alloc = (some m.next, m.alloc.2) by simp [Mem.alloc, h]]
      refine (Ledger.alloc_some h _).perm_right ?_
      rw [map_append, map_singleton]
      exact perm_append_comm.trans ((hperm.map _).cons _)
  · rw [hr] at hperm
    exact (Ledger.of_perm (Perm.refl _)).perm_right ((perm_append_comm.trans hperm).map _)

/-! ### The tunnel ports -/

/-- Replacing the VXLAN list by one whose ledger balances is quiet. -/
theorem Quiet.of_vxlan {s : Intfc} {m : Mem} {l : List UdpPort}
    (hl : Ledger s.mem (s.vxlanPort.map UdpPort.ptr) m (l.map UdpPort.ptr)) :
    Quiet s { s with mem := m, vxlanPort := l } :=
  Quiet.of_lists (hl.congr fun p => by simp only [Intfc.listsHeld, count_append]; omega) rfl rfl

/-- Replacing the GENEVE list by one whose ledger balances is quiet. -/
theorem Quiet.of_geneve {s : Intfc} {m : Mem} {l : List UdpPort}
    (hl : Ledger s.mem (s.genevePort.map UdpPort.ptr) m (l.map UdpPort.ptr)) :
    Quiet s { s with mem := m, genevePort := l } :=
  Quiet.of_lists (hl.congr fun p => by simp only [Intfc.listsHeld, count_append]; omega) rfl rfl

/-- Unlinking a port and freeing what was unlinked keeps the list's ledger. -/
theorem removeTunnelPort_ledger (m : Mem) (ps : List UdpPort) (ti : UdpTunnelInfo) :
    Ledger m (ps.map UdpPort.ptr)
      (m.releaseAll ((removeTunnelPort ps ti).1.toList.map fun p => .kfree p.ptr))
      ((removeTunnelPort ps ti).2.map UdpPort.ptr) :=
  Ledger.releaseAll fun q => by
    rw [map_map, show (Release.ptr ∘ fun p : UdpPort => Release.kfree p.ptr) = UdpPort.ptr from rfl,
      ← count_append, ← map_append, ((perm_append_comm.trans (removeTunnelPort_perm ti ps)).map
        UdpPort.ptr).count_eq]

/-- `fm10k_restore_udp_port_info` is quiet. -/
theorem restoreUdpPortInfo_quiet (s : Intfc) : Quiet s (restoreUdpPortInfo s) := by
  obtain ⟨a, b, c, h⟩ := restoreUdpPortInfo_frame s
  rw [h]
  exact Quiet.of_eq rfl rfl rfl rfl

/-- `kfree` of an optional port gives back its pointer, or nothing. -/
theorem kfreeOpt_eq (s : Intfc) (p : Option UdpPort) :
    s.kfreeOpt p = { s with mem := s.mem.releaseAll (p.toList.map fun p => .kfree p.ptr) } := by
  cases p
  · simp only [Intfc.kfreeOpt, Option.toList_none, map_nil, Mem.releaseAll_nil]
  · rfl

/-- An added port is moved or freshly allocated. -/
theorem udpTunnelAdd_quiet (s : Intfc) (ti : UdpTunnelInfo) : Quiet s (udpTunnelAdd s ti) := by
  unfold udpTunnelAdd
  by_cases hm : s.macType ≠ .pf
  · rw [if_pos hm]; exact Quiet.refl s
  rw [if_neg hm]
  split
  · have hl := insertTunnelPort_ledger s.mem s.vxlanPort ti
    rcases hi : insertTunnelPort s.mem s.vxlanPort ti with ⟨m, l⟩
    rw [hi] at hl
    exact (Quiet.of_vxlan hl).trans (restoreUdpPortInfo_quiet _)
  · have hl := insertTunnelPort_ledger s.mem s.genevePort ti
    rcases hi : insertTunnelPort s.mem s.genevePort ti with ⟨m, l⟩
    rw [hi] at hl
    exact (Quiet.of_geneve hl).trans (restoreUdpPortInfo_quiet _)
  · exact Quiet.refl s

/-- A deleted port is unlinked and freed. -/
theorem udpTunnelDel_quiet (s : Intfc) (ti : UdpTunnelInfo) : Quiet s (udpTunnelDel s ti) := by
  unfold udpTunnelDel
  by_cases hm : s.macType ≠ .pf
  · rw [if_pos hm]; exact Quiet.refl s
  rw [if_neg hm]
  split
  · have hl := Quiet.of_vxlan (s := s) (removeTunnelPort_ledger s.mem s.vxlanPort ti)
    rcases hr : removeTunnelPort s.vxlanPort ti with ⟨p, l⟩
    rw [hr] at hl
    dsimp only
    rw [kfreeOpt_eq]
    exact hl.trans (restoreUdpPortInfo_quiet _)
  · have hl := Quiet.of_geneve (s := s) (removeTunnelPort_ledger s.mem s.genevePort ti)
    rcases hr : removeTunnelPort s.genevePort ti with ⟨p, l⟩
    rw [hr] at hl
    dsimp only
    rw [kfreeOpt_eq]
    exact hl.trans (restoreUdpPortInfo_quiet _)
  · exact Quiet.refl s

/-- **A tunnel notification is quiet.** -/
theorem tunnelStep_quiet (s : Intfc) : ∀ c, Quiet s (tunnelStep s c)
  | .add ti => udpTunnelAdd_quiet s ti
  | .del ti => udpTunnelDel_quiet s ti

/-- **Freeing the port lists** (`fm10k_free_udp_port_info`, from `fm10k_close`) is quiet: it
frees what it unlinks, and the GENEVE entries it leaves stay on their list. -/
theorem freeUdpPortInfo_quiet (s : Intfc) : Quiet s (freeUdpPortInfo s) := by
  rw [freeUdpPortInfo_eq]
  refine Quiet.of_lists (Ledger.releaseAll (m := s.mem) fun p => ?_) rfl rfl
  have hg := congrArg (fun l => (l.map UdpPort.ptr).count p) (take_append_drop 1 s.genevePort)
  simp only [map_append, count_append] at hg
  simp only [Intfc.listsHeld, map_map, map_append, map_nil, count_append, count_nil, ← drop_one,
    show (Release.ptr ∘ fun p : UdpPort => Release.kfree p.ptr) = UdpPort.ptr from rfl]
  omega

/-! ### The forwarding table -/

/-- `fm10k_assign_l2_accel` leaves the scheme alone: the rings' storage is not their pointer. -/
theorem assignL2Accel_scheme (s : Intfc) (l2Accel : Option Nat) :
    SameScheme s (assignL2Accel s l2Accel) := by
  unfold SameScheme Intfc.scheme assignL2Accel
  congr 1
  simp only [Prod.mk.injEq, true_and, and_true]
  funext i
  split <;> rfl

/-- **Readying the table is quiet**: a new table is the attempt that allocated it, and the
table a grown one replaces is freed. -/
theorem prepareL2Accel_quiet (s : Intfc) : Quiet s (prepareL2Accel s).1 := by
  unfold prepareL2Accel
  split
  next hl =>
    split
    · exact Quiet.refl s
    · cases h : s.mem.ok s.mem.next
      · rw [show s.alloc = (none, { s with mem := s.mem.alloc.2 }) by simp [Intfc.alloc, Mem.alloc, h]]
        exact Quiet.of_lists (Ledger.alloc_none h _) rfl rfl
      · rw [show s.alloc = (some s.mem.next, { s with mem := s.mem.alloc.2 }) by
          simp [Intfc.alloc, Mem.alloc, h]]
        refine Quiet.of_table ((Ledger.alloc_some h s.listsHeld).perm_right ?_)
          (assignL2Accel_scheme _ _) (assignL2Accel_onTable _ _)
        simp only [Intfc.listsHeld, hl, assignL2Accel_l2Accel, Option.toList_none,
          Option.toList_some, append_nil, append_assoc, singleton_append]
        exact perm_middle
  next p hl =>
    dsimp only
    split_ifs with hb hf
    · exact Quiet.refl s
    · cases h : s.mem.ok s.mem.next
      · rw [show s.alloc = (none, { s with mem := s.mem.alloc.2 }) by
          simp [Intfc.alloc, Mem.alloc, h]]
        exact Quiet.of_lists (Ledger.alloc_none h _) rfl rfl
      · rw [show s.alloc = (some s.mem.next, { s with mem := s.mem.alloc.2 }) by
          simp [Intfc.alloc, Mem.alloc, h]]
        dsimp only
        have hs : SameScheme s (assignL2Accel
            { s with
              mem := s.mem.alloc.2
              l2Tables := Function.update s.l2Tables s.mem.next (some (s.table p).grow) }
            (some s.mem.next)) := assignL2Accel_scheme _ _
        refine Quiet.of_table ((Ledger.alloc_some h s.listsHeld).trans
          (Ledger.release (.kfreeRcu p) fun q => ?_)) hs ((assignL2Accel_onTable _ _).with_mem _)
        simp only [Intfc.listsHeld, hl, assignL2Accel, Option.toList_some, map_cons,
          map_nil, count_append, count_cons, count_nil, Release.ptr]
        omega
    · exact Quiet.refl s

/-- Writing a table and reporting its size to the switch. -/
theorem configureDglortMap_quiet (s : Intfc) (t : Nat → Option L2Accel) (size : Nat) :
    Quiet s (configureDglortMap { s with l2Tables := t } size) :=
  Quiet.of_eq rfl rfl rfl rfl

/-- Programming a station's rules is quiet. -/
theorem stationRules_quiet (s : Intfc) (glort : Nat) (sdev : Nat) (mode : XcastMode)
    (set : Bool) : Quiet s (stationRules s glort sdev mode set) := by
  unfold stationRules
  split
  · exact (callMbx_quiet _ _).trans (queueRequest_quiet _ _ _)
  · exact Quiet.refl s

/-- **A station add is quiet.** -/
theorem dfwdAddStation_quiet (s : Intfc) (sdev : Nat) : Quiet s (dfwdAddStation s sdev).1 := by
  have h₁ := prepareL2Accel_quiet s
  unfold dfwdAddStation
  rcases hp : prepareL2Accel s with ⟨s₁, _ | p⟩ <;> rw [hp] at h₁
  · exact h₁
  · exact h₁.trans ((configureDglortMap_quiet s₁ _ _).trans (stationRules_quiet _ _ _ _ _))

/-- **A station delete is quiet**: the table it empties is freed. -/
theorem dfwdDelStation_quiet (s : Intfc) (sdev : Nat) : Quiet s (dfwdDelStation s sdev) := by
  unfold dfwdDelStation
  split
  · exact Quiet.refl s
  next p hp =>
    dsimp only
    split_ifs with hs hc
    · exact Quiet.refl s
    · have h₁ := stationRules_quiet s ((s.table p).glortOf ((s.table p).slotOf sdev)) sdev .none false
      have hl := (sameTables_stationRules s ((s.table p).glortOf ((s.table p).slotOf sdev)) sdev
        .none false).l2Accel
      generalize stationRules s _ sdev .none false = u at h₁ hl ⊢
      refine (h₁.trans (configureDglortMap_quiet u _ _)).trans
        (Quiet.of_table (Ledger.release (.kfreeRcu p) fun q => ?_)
          ((assignL2Accel_scheme _ _).with_mem _) ((assignL2Accel_onTable _ _).with_mem _))
      simp only [Intfc.listsHeld, hl, hp, configureDglortMap, assignL2Accel,
        Option.toList_none, Option.toList_some, Intfc.callMbx, map_cons, map_nil, count_append,
        count_cons, count_nil, Release.ptr]
      omega
    · have h₁ := stationRules_quiet s ((s.table p).glortOf ((s.table p).slotOf sdev)) sdev .none false
      generalize stationRules s _ sdev .none false = u at h₁ ⊢
      exact h₁.trans (configureDglortMap_quiet u _ _)

/-- **One add or delete of a station is quiet.** -/
theorem l2Step_quiet (s : Intfc) : ∀ c, Quiet s (l2Step s c)
  | .add sdev => dfwdAddStation_quiet s sdev
  | .del sdev => dfwdDelStation_quiet s sdev

/-! ### The receive filters -/

/-- A VLAN request is quiet. -/
theorem queueVlanRequest_quiet (s : Intfc) (vid vsi : Nat) (set : Bool) :
    Quiet s (queueVlanRequest s vid vsi set).1 :=
  queueRequest_quiet s _ set

/-- A MAC request is quiet. -/
theorem queueMacRequest_quiet (s : Intfc) (glort : Nat) (addr : MacAddr) (vid : Nat)
    (set : Bool) : Quiet s (queueMacRequest s glort addr vid set).1 :=
  queueRequest_quiet s _ set

/-- Either branch of a test, such as the mailbox-ready test before a mailbox call. -/
theorem Quiet.ite {c : Prop} [Decidable c] {s a b : Intfc} (ha : Quiet s a) (hb : Quiet s b) :
    Quiet s (if c then a else b) := by
  split
  · exact ha
  · exact hb

/-- Either branch of a test that also returns a code. -/
theorem Quiet.fst_ite {c : Prop} [Decidable c] {s : Intfc} {a b : Intfc × Int} (ha : Quiet s a.1)
    (hb : Quiet s b.1) : Quiet s (if c then a else b).1 :=
  iteInduction (motive := fun r : Intfc × Int => Quiet s r.1) (fun _ => ha) fun _ => hb

/-- Recording the multicast mode. -/
theorem withXcastMode_quiet (s : Intfc) (xcastMode : XcastMode) :
    Quiet s { s with xcastMode := xcastMode } :=
  Quiet.of_eq rfl rfl rfl rfl

/-- A fold whose every step is quiet, as the kernel's address-list walks and the station loop
of a restore are. -/
theorem foldl_quiet {α : Type} {f : Intfc → α → Intfc} (hf : ∀ s a, Quiet s (f s a)) :
    ∀ (as : List α) (s : Intfc), Quiet s (as.foldl f s)
  | [], s => Quiet.refl s
  | a :: as, s => (hf s a).trans (foldl_quiet hf as _)

section Loops

variable {body : Intfc → Nat → Intfc × Int} (hb : ∀ s v, Quiet s (body s v).1)
include hb

/-- **The member-VLAN loop** is quiet when its body is, however many passes it makes and
wherever it stops. -/
theorem forEachVlanLoop_quiet : ∀ fuel s vid, Quiet s (forEachVlanLoop body fuel s vid).1
  | 0, s, _ => Quiet.refl s
  | fuel + 1, s, vid => by
    unfold forEachVlanLoop
    dsimp only
    split_ifs
    · exact (hb s vid).trans (forEachVlanLoop_quiet fuel _ _)
    · exact hb s vid
    · exact Quiet.refl s

/-- The loop over the member VLANs is quiet when its body is. -/
theorem forEachVlan_quiet (s : Intfc) : Quiet s (forEachVlan body s).1 :=
  forEachVlanLoop_quiet hb _ s _

end Loops

/-- One address sync is quiet. -/
theorem addrSync_quiet (valid : MacAddr → Bool) (s : Intfc) (addr : MacAddr) (sync : Bool) :
    Quiet s (addrSync valid s addr sync).1 := by
  unfold addrSync
  split
  · exact Quiet.refl s
  · exact forEachVlan_quiet (fun s v => queueMacRequest_quiet s _ addr v sync) s

/-- A pass of syncs is quiet when each sync is. -/
theorem syncAdded_quiet {sync : Intfc → MacAddr → Intfc × Int}
    (hs : ∀ s a, Quiet s (sync s a).1) : ∀ s as, Quiet s (syncAdded sync s as).1
  | s, [] => Quiet.refl s
  | s, a :: as => by
    unfold syncAdded
    dsimp only
    split
    · exact (hs s a).trans (syncAdded_quiet hs _ as)
    · exact hs s a

/-- One pass of the kernel's address-list sync is quiet when its callbacks are. -/
theorem hwAddrSyncDev_quiet {sync unsync : Intfc → MacAddr → Intfc × Int}
    (hs : ∀ s a, Quiet s (sync s a).1) (hu : ∀ s a, Quiet s (unsync s a).1) (s : Intfc)
    (pass : AddrSyncPass) : Quiet s (hwAddrSyncDev sync unsync s pass).1 :=
  (foldl_quiet (fun s a => hu s a) pass.removed s).trans (syncAdded_quiet hs _ _)

/-- The kernel's address-list unsync is quiet when its callback is. -/
theorem hwAddrUnsyncDev_quiet {unsync : Intfc → MacAddr → Intfc × Int}
    (hu : ∀ s a, Quiet s (unsync s a).1) (s : Intfc) (synced : List MacAddr) :
    Quiet s (hwAddrUnsyncDev unsync s synced) :=
  foldl_quiet (fun s a => hu s a) synced s

/-- One address unsync over the member VLANs is quiet. -/
theorem vlanUnsync_quiet (s : Intfc) (addr : MacAddr) : Quiet s (vlanUnsync s addr).1 := by
  unfold vlanUnsync
  dsimp only
  split
  · exact queueMacRequest_quiet _ _ _ _ _
  · exact queueMacRequest_quiet _ _ _ _ _

/-- Recording a VLAN moves the receive rings' default VLAN, not what they own. -/
theorem updateActiveVlans_quiet (s : Intfc) (vid : Nat) (set : Bool) :
    Quiet s (updateActiveVlans s vid set) := by
  refine Quiet.of_eq rfl rfl ?_ (Intfc.route_eq rfl (fun i => ?_) rfl)
  on_goal 2 => unfold updateActiveVlans; dsimp only; split <;> rfl
  unfold SameScheme Intfc.scheme updateActiveVlans
  congr 1
  simp only [Prod.mk.injEq, true_and, and_true]
  funext i
  split <;> rfl

/-- Recording the VLAN in `interface->vid`, then the kernel's revisits of the addresses. -/
theorem vidRecord_quiet (s : Intfc) (vid : Nat) (uc mc : List MacAddr) :
    Quiet s (hwAddrUnsyncDev mcVlanUnsync (hwAddrUnsyncDev ucVlanUnsync { s with vid := vid } uc)
      mc) :=
  (Quiet.of_eq rfl rfl rfl rfl : Quiet s { s with vid := vid }).trans
    ((hwAddrUnsyncDev_quiet vlanUnsync_quiet _ uc).trans (hwAddrUnsyncDev_quiet vlanUnsync_quiet _ mc))

/-- The requests of `fm10k_update_vid` for a VLAN are quiet. -/
theorem queueVidRequests_quiet (s : Intfc) (vid : Nat) (set : Bool) (uc mc : List MacAddr) :
    Quiet s (queueVidRequests s vid set uc mc).1 := by
  have h₁ : Quiet s (queueVidVlanRequest s vid set).1 := by
    unfold queueVidVlanRequest
    split
    · exact queueVlanRequest_quiet _ _ _ _
    · exact Quiet.refl s
  unfold queueVidRequests
  dsimp only
  split
  · exact h₁
  · split
    · exact h₁.trans (queueMacRequest_quiet _ _ _ _ _)
    · exact h₁.trans ((queueMacRequest_quiet _ _ _ _ _).trans (vidRecord_quiet _ _ uc mc))

/-- **A VLAN add or kill is quiet.** -/
theorem updateVid_quiet (s : Intfc) (vid : Nat) (set : Bool) (uc mc : List MacAddr) :
    Quiet s (updateVid s vid set uc mc).1 := by
  have h := updateActiveVlans_quiet s vid set
  unfold updateVid
  dsimp only
  exact .fst_ite (.refl s) (.fst_ite (.refl s) (.fst_ite (.refl s) (.fst_ite h (.fst_ite h
    (.fst_ite h (h.trans (queueVidRequests_quiet _ _ _ _ _)))))))

/-- The loop of `fm10k_clear_unused_vlans` is quiet. -/
theorem clearUnusedVlansLoop_quiet :
    ∀ fuel s vid prevVid, Quiet s (clearUnusedVlansLoop fuel s vid prevVid)
  | 0, s, _, _ => Quiet.refl s
  | fuel + 1, s, vid, prevVid => by
    unfold clearUnusedVlansLoop
    dsimp only
    split_ifs
    · exact clearUnusedVlansLoop_quiet fuel s _ _
    · exact (queueVlanRequest_quiet _ _ _ _).trans (clearUnusedVlansLoop_quiet fuel _ _ _)
    · exact Quiet.refl s

/-- The VLAN side of a mode change is quiet. -/
theorem xcastVlans_quiet (s : Intfc) (xcastMode : XcastMode) : Quiet s (xcastVlans s xcastMode) := by
  have h₁ : Quiet s (if xcastMode = .promisc then (queueVlanRequest s FM10K_VLAN_ALL 0 true).1
      else s) := Quiet.ite (queueVlanRequest_quiet _ _ _ _) (Quiet.refl s)
  exact Quiet.ite (Quiet.ite (h₁.trans (clearUnusedVlansLoop_quiet _ _ _ _)) h₁) (Quiet.refl s)

/-- A mode change is quiet. -/
theorem changeXcastMode_quiet (s : Intfc) (xcastMode : XcastMode) :
    Quiet s (changeXcastMode s xcastMode) :=
  ((xcastVlans_quiet s xcastMode).trans (Quiet.ite (callMbx_quiet _ _) (Quiet.refl _))).trans
    (withXcastMode_quiet _ xcastMode)

/-- `fm10k_set_rx_mode` is quiet. -/
theorem setRxMode_quiet (s : Intfc) (uc mc : AddrSyncPass) : Quiet s (setRxMode s uc mc) := by
  unfold setRxMode
  split
  · exact Quiet.refl s
  · exact ((Quiet.ite (changeXcastMode_quiet _ _) (Quiet.refl s)).trans
      (hwAddrSyncDev_quiet (fun s a => addrSync_quiet _ s a _) (fun s a => addrSync_quiet _ s a _)
        _ uc)).trans
      (hwAddrSyncDev_quiet (fun s a => addrSync_quiet _ s a _) (fun s a => addrSync_quiet _ s a _)
        _ mc)

/-- `fm10k_set_mac` is quiet. -/
theorem setMac_quiet (s : Intfc) (addr : MacAddr) : Quiet s (setMac s addr).1 := by
  have h₁ := addrSync_quiet isValidEtherAddr s addr true
  have h₂ := h₁.trans (addrSync_quiet isValidEtherAddr _
    (addrSync isValidEtherAddr s addr true).1.macAddr false)
  have hr : ∀ r : Intfc × Int, Quiet s r.1 → Quiet s (if r.2 = 0 then
      ({ r.1 with devAddr := addr, macAddr := addr }, (0 : Int)) else (r.1, -EAGAIN)).1 :=
    fun r h => by
      split
      · exact h.trans (Quiet.of_eq rfl rfl rfl rfl)
      · exact h
  unfold setMac
  split
  · exact Quiet.refl s
  · apply hr
    split
    · dsimp only
      split
      · exact h₂
      · exact h₁
    · exact Quiet.refl s

/-- **A filter call of the stack is quiet.** -/
theorem rxStep_quiet (s : Intfc) : ∀ c, Quiet s (rxStep s c)
  | .updateVid vid flag uc mc => updateVid_quiet s _ flag uc mc
  | .setRxMode _ uc mc => by
    refine Quiet.trans ?_ (setRxMode_quiet _ uc mc)
    exact Quiet.of_eq rfl rfl rfl rfl
  | .setMac addr => setMac_quiet s addr

/-! ### Restore and reset -/

/-- The VLAN part of a restore is quiet. -/
theorem restoreVlanTable_quiet (s : Intfc) (glort : Nat) (xcastMode : XcastMode) :
    Quiet s (restoreVlanTable s glort xcastMode) := by
  unfold restoreVlanTable
  refine (Quiet.ite (queueVlanRequest_quiet _ _ _ _) (queueVlanRequest_quiet _ _ _ _)).trans
    (forEachVlan_quiet (fun s v => ?_) _)
  exact (queueVlanRequest_quiet s v 0 true).trans (queueMacRequest_quiet _ _ _ _ _)

/-- One pass of the macvlan loop of a restore is quiet. -/
theorem restoreStation_quiet (t : L2Accel) (s : Intfc) (i : Nat) :
    Quiet s (restoreStation t s i) := by
  unfold restoreStation
  split
  · exact Quiet.refl s
  · exact (callMbx_quiet _ _).trans (queueMacRequest_quiet _ _ _ _ _)

/-- The end of a restore: the stations of the table the restore started with, the mode, and
the tunnel ports. -/
theorem restoreTail_quiet (s : Intfc) (l2Accel : Option Nat) (xcastMode : XcastMode) :
    Quiet s (restoreUdpPortInfo
      { (match l2Accel with
          | none => s
          | some p => restoreStations (s.table p) s) with xcastMode := xcastMode }) := by
  have h : Quiet s (match l2Accel with
      | none => s
      | some p => restoreStations (s.table p) s) := by
    split
    · exact Quiet.refl s
    · exact foldl_quiet (restoreStation_quiet _) _ s
  refine Quiet.trans ?_ (restoreUdpPortInfo_quiet _)
  exact h.trans (Quiet.of_eq rfl rfl rfl rfl)

/-- **A restore is quiet.** -/
theorem restoreRxState_quiet (s : Intfc) (uc mc : AddrSyncPass) :
    Quiet s (restoreRxState s uc mc) := by
  unfold restoreRxState
  exact ((((Quiet.ite (callMbx_quiet _ _) (Quiet.refl s)).trans
    (restoreVlanTable_quiet _ _ _)).trans (Quiet.ite (callMbx_quiet _ _) (Quiet.refl _))).trans
    ((hwAddrSyncDev_quiet (fun s a => addrSync_quiet _ s a _)
      (fun s a => addrSync_quiet _ s a _) _ uc).trans
    (hwAddrSyncDev_quiet (fun s a => addrSync_quiet _ s a _)
      (fun s a => addrSync_quiet _ s a _) _ mc))).trans (restoreTail_quiet _ _ _)

/-- **A reset is quiet**: the requests it cancels are freed. -/
theorem resetRxState_quiet (s : Intfc) : Quiet s (resetRxState s) :=
  ((clearMacvlanQueue_quiet s _ _).trans (Quiet.ite (callMbx_quiet _ _) (Quiet.refl _))).trans
    (withXcastMode_quiet _ .none)

/-! ### The rings -/

/-- `fm10k_down` resets the receive filters, which is quiet, and cleans every ring: what the
cleans give back is what the rings stop holding. -/
theorem fm10kDown_keeps (s : Intfc) : Keeps s (fm10kDown s) := by
  have hd : Keeps s { s with down := true } := Keeps.of_eq rfl rfl
  have hr := hd.trans (resetRxState_quiet _).keeps
  unfold fm10kDown
  generalize resetRxState { s with down := true } = u at hr ⊢
  exact hr.trans
    (Keeps.of_rings ((cleanAllTxRings_ledger u).trans (cleanAllRxRings_ledger _)) rfl rfl)

/-- **Close keeps the ledger**, with or without a ZC application. -/
theorem fm10kClose_keeps (usage : Nat) (s : Intfc) : Keeps s (fm10kClose usage s).1 := by
  have hq : Keeps (fm10kDown s) (qvFreeIrq (fm10kDown s)) := Keeps.of_eq rfl rfl
  have hf : ∀ u, Keeps u (freeAllRxResources (freeAllTxResources u)) := fun _ =>
    Keeps.of_rings ((freeAllTxResources_ledger _).trans (freeAllRxResources_ledger _)) rfl rfl
  unfold fm10kClose
  split
  · exact Keeps.of_eq rfl rfl
  · exact (fm10kDown_keeps s).trans (hq.trans ((freeUdpPortInfo_quiet _).keeps.trans (hf _)))

/-- The rings `fm10k_clear_queueing_scheme` leaves hold nothing. -/
theorem clearQueueingScheme_tornDown (s : Intfc) : (clearQueueingScheme s).RingsTornDown :=
  ⟨fun _ _ => Ring.fresh_tornDown 0 _, fun _ _ => Ring.fresh_tornDown 0 _⟩

/-- **Clearing the scheme keeps the ledger**: what its rings still held moves to `leaked`. -/
theorem clearQueueingScheme_keeps (s : Intfc) : Keeps s (clearQueueingScheme s) := by
  unfold Keeps Intfc.accounted
  rw [(clearQueueingScheme_tornDown s).ringsHeld]
  refine Ledger.of_perm (perm_iff_count.2 fun p => ?_)
  simp only [clearQueueingScheme, Intfc.listsHeld, nil_append, count_append]
  omega

/-- A new scheme on torn-down rings: its fresh rings hold nothing either. -/
theorem initQueueingScheme_keeps (o : SchemeOutcome) {s : Intfc} (h : s.RingsTornDown) :
    Keeps s (initQueueingScheme o s).1 := by
  unfold initQueueingScheme
  split
  · refine Keeps.of_rings ?_ rfl rfl
    rw [h.ringsHeld, Intfc.RingsTornDown.ringsHeld
      ⟨fun _ _ => Ring.fresh_tornDown _ _, fun _ _ => ⟨rfl, rfl, rfl⟩⟩]
    exact Ledger.of_perm (Perm.refl _)
  · exact Keeps.refl s

/-- The rings `fm10k_clear_queueing_scheme` leaves point at no table. -/
theorem clearQueueingScheme_onTable (s : Intfc) : (clearQueueingScheme s).RingsOnTable :=
  fun _ _ => .inl rfl

/-- The fresh receive rings of a new scheme point at the interface's table. -/
theorem initQueueingScheme_onTable (o : SchemeOutcome) {s : Intfc} (h : s.RingsOnTable) :
    (initQueueingScheme o s).1.RingsOnTable := by
  unfold initQueueingScheme
  split
  · exact fun _ _ => .inr rfl
  · exact h

/-! ### What the stack's calls leave alone -/

/-- A call that **moves only the rings** (and the q-vector and state flags): it leaves the
lists, the log of what was discarded, the forwarding pointers and the mailbox and UIO IRQs
alone. -/
structure RingsOnly (s s' : Intfc) : Prop where
  lists : s'.listsHeld = s.listsHeld
  leaked : s'.leaked = s.leaked
  route : s'.route = s.route
  mbxIrq : s'.mbxIrq = s.mbxIrq
  uioIrq : s'.uioIrq = s.uioIrq

namespace RingsOnly

/-- Two calls that move only the rings do so together. -/
theorem trans {s₁ s₂ s₃ : Intfc} (h₁ : RingsOnly s₁ s₂) (h₂ : RingsOnly s₂ s₃) :
    RingsOnly s₁ s₃ :=
  ⟨h₂.lists.trans h₁.lists, h₂.leaked.trans h₁.leaked, h₂.route.trans h₁.route,
    h₂.mbxIrq.trans h₁.mbxIrq, h₂.uioIrq.trans h₁.uioIrq⟩

/-- Either branch of a test of the stack's error handling. -/
theorem ite {c : Prop} [Decidable c] {s : Intfc} {a b : Intfc × Int} (ha : c → RingsOnly s a.1)
    (hb : ¬c → RingsOnly s b.1) : RingsOnly s (if c then a else b).1 :=
  iteInduction (motive := fun r : Intfc × Int => RingsOnly s r.1) ha hb

end RingsOnly

section Routes

variable (txDescSize rxDescSize : Nat)

@[simp] theorem setupAllRxResources_route (s : Intfc) :
    (setupAllRxResources rxDescSize s).1.route = s.route :=
  Intfc.route_eq rfl (setupAllRxResources_l2Accel rxDescSize s) rfl

@[simp] theorem freeAllRxResources_route (s : Intfc) : (freeAllRxResources s).route = s.route :=
  Intfc.route_eq rfl (freeAllRxResources_l2Accel s) rfl

@[simp] theorem fm10kDown_route (s : Intfc) : (fm10kDown s).route = s.route := by
  obtain ⟨m, rs, mb, h⟩ := fm10kDown_frame s
  rw [h]
  exact Intfc.route_eq rfl (fun i => cleanAllRxRings_l2Accel _ i) rfl

@[simp] theorem freeUdpPortInfo_route (s : Intfc) : (freeUdpPortInfo s).route = s.route := by
  rw [freeUdpPortInfo_eq]
  rfl

/-- `fm10k_setup_all_tx_resources` moves only the rings. -/
theorem setupAllTxResources_ringsOnly (s : Intfc) :
    RingsOnly s (setupAllTxResources txDescSize s).1 :=
  ⟨rfl, rfl, rfl, rfl, rfl⟩

/-- `fm10k_setup_all_rx_resources` moves only the rings. -/
theorem setupAllRxResources_ringsOnly (s : Intfc) :
    RingsOnly s (setupAllRxResources rxDescSize s).1 :=
  ⟨rfl, rfl, setupAllRxResources_route rxDescSize s, rfl, rfl⟩

/-- `fm10k_free_all_tx_resources` moves only the rings. -/
theorem freeAllTxResources_ringsOnly (s : Intfc) : RingsOnly s (freeAllTxResources s) :=
  ⟨rfl, rfl, rfl, rfl, rfl⟩

/-- The unwind of `fm10k_open`: free the receive rings, then the transmit rings. -/
theorem unwind_ringsOnly (s : Intfc) :
    RingsOnly s (freeAllTxResources (freeAllRxResources s)) :=
  ⟨rfl, rfl, freeAllRxResources_route s, rfl, rfl⟩

/-- A q-vector IRQ request moves only the rings. -/
theorem qvRequestIrq_ringsOnly (r : Int) (s : Intfc) : RingsOnly s (qvRequestIrq r s).1 := by
  unfold qvRequestIrq
  split <;> exact ⟨rfl, rfl, rfl, rfl, rfl⟩

/-- Freeing the q-vector IRQs moves only the rings. -/
theorem qvFreeIrq_ringsOnly (s : Intfc) : RingsOnly s (qvFreeIrq s) :=
  ⟨rfl, rfl, rfl, rfl, rfl⟩

/-- `fm10k_up` moves only the rings. -/
theorem fm10kUp_ringsOnly (s : Intfc) : RingsOnly s (fm10kUp s) :=
  ⟨rfl, rfl, rfl, rfl, rfl⟩

/-- `fm10k_request_glort_range` moves only the rings. -/
theorem requestGlortRange_ringsOnly (s : Intfc) : RingsOnly s (requestGlortRange s) := by
  obtain ⟨g, c, h⟩ := requestGlortRange_frame s
  rw [h]
  exact ⟨rfl, rfl, rfl, rfl, rfl⟩

/-- **Open moves only the rings**, whichever step fails. -/
theorem fm10kOpen_ringsOnly (o : OpenOutcome) (s : Intfc) :
    RingsOnly s (fm10kOpen txDescSize rxDescSize o s).1 := by
  have h₁ := setupAllTxResources_ringsOnly txDescSize s
  have h₂ := h₁.trans (setupAllRxResources_ringsOnly rxDescSize _)
  have h₃ := h₂.trans (qvRequestIrq_ringsOnly o.qvIrq _)
  have h₄ := h₃.trans (requestGlortRange_ringsOnly _)
  have h₅ := (h₄.trans (qvFreeIrq_ringsOnly _)).trans (unwind_ringsOnly _)
  unfold fm10kOpen
  dsimp only
  refine RingsOnly.ite (fun _ => ⟨rfl, rfl, rfl, rfl, rfl⟩) fun _ => RingsOnly.ite (fun _ => h₁) fun _ => ?_
  refine RingsOnly.ite (fun _ => h₂.trans (freeAllTxResources_ringsOnly _)) fun _ => ?_
  refine RingsOnly.ite (fun _ => h₃.trans (unwind_ringsOnly _)) fun _ => ?_
  exact RingsOnly.ite (fun _ => h₅) fun _ => RingsOnly.ite (fun _ => h₅) fun _ =>
    h₄.trans (fm10kUp_ringsOnly _)

@[simp] theorem fm10kOpen_route (o : OpenOutcome) (s : Intfc) :
    (fm10kOpen txDescSize rxDescSize o s).1.route = s.route :=
  (fm10kOpen_ringsOnly txDescSize rxDescSize o s).route

/-- Close moves no forwarding pointer either. -/
theorem fm10kClose_route (usage : Nat) (s : Intfc) : (fm10kClose usage s).1.route = s.route := by
  unfold fm10kClose
  split
  · rfl
  · have hu := (freeUdpPortInfo_route (qvFreeIrq (fm10kDown s))).trans (fm10kDown_route s)
    generalize freeUdpPortInfo (qvFreeIrq (fm10kDown s)) = u at hu ⊢
    exact (freeAllRxResources_route _).trans hu

/-- **Open keeps the ledger** on a zombie interface, which it only revives, and on a closed
one, whose rings it sets up or unwinds. -/
theorem fm10kOpen_keeps (o : OpenOutcome) {s : Intfc} (h : s.zombie = true ∨ s.Closed) :
    Keeps s (fm10kOpen txDescSize rxDescSize o s).1 := by
  rcases h with hz | hc
  · rw [fm10kOpen, if_pos hz]
    exact Keeps.of_eq rfl rfl
  · exact Keeps.of_rings (fm10kOpen_spec txDescSize rxDescSize o hc.zombie hc.qvIrq hc.tornDown).ledger
      (fm10kOpen_ringsOnly txDescSize rxDescSize o s).lists
      (fm10kOpen_ringsOnly txDescSize rxDescSize o s).leaked

end Routes

end Fm10k
