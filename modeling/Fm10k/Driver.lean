import Fm10k.Memory

/-!
# The Driver as One System

`fm10k_netdev_ops` is the table through which the network stack reaches this file:
`ndo_open`, `ndo_stop`, `ndo_setup_tc` (`fm10k_setup_tc`, or `__fm10k_setup_tc` on kernels
with `NETIF_F_HW_TC`), `ndo_change_mtu`, `ndo_tx_timeout`, `ndo_set_mac_address`,
`ndo_set_rx_mode`, `ndo_vlan_rx_add_vid` and `ndo_vlan_rx_kill_vid`, `ndo_udp_tunnel_add` and
`ndo_udp_tunnel_del` with the older `ndo_add_*_port` and `ndo_del_*_port` callbacks, and
`ndo_dfwd_add_station` and `ndo_dfwd_del_station`. The reset path of the PCI code calls two
more functions of the file, `fm10k_reset_rx_state` and `fm10k_restore_rx_state`. The stack
serialises the calls, in any order. `DriverCall` is one call with what the environment decides
in it (allocation and IRQ outcomes, the ZC usage counter), `driverStep` the driver's answer on
the `net_device` (`Netdev`), and `driverRun` a whole sequence. `ndo_start_xmit`
(`Fm10k.Xmit`) hands a frame to a ring or frees it and changes nothing else the model holds;
`ndo_get_stats64` and `ndo_features_check` only read.

The invariant every call keeps (`Intfc.Ready`) is what `fm10k_open` needs: no ring holds a
partial skb, and an interface the stack has stopped is closed unless PF_RING ZC left it a
zombie. With it every call keeps the ledger of `Fm10k.Memory`, the filter, station and tunnel
calls because they are quiet, the stack's calls by the ring ledgers. From the interface
`alloc_etherdev_mq` hands to the probe this is a conservation law: every address the driver
ever obtained is, at every moment, held in exactly one place of the interface or given back
exactly once. Without ZC nothing is ever discarded while held, and the stack's invariant of
`Fm10k.Lifecycle` survives every call of the table, not only open, stop and reconfigure.
The second half of `fm10k_setup_tc` can end five ways (`setupTcRebuild_cases`); each fact
about a reconfiguration is read off that list, among them that its error labels free the
mailbox and UIO IRQs together.

## Main results

* `driverStep_cases`: a call leaves the interface alone, is quiet, or is a call of the stack;
  every invariant below is derived from it.
* `driverStep_ready`, `driverRun_ready`: every call keeps readiness and the ledger.
* `driver_memory_safe`: from any ready state owning what it accounts for, every run keeps
  ownership and gives nothing back twice.
* `driver_conserves_memory`, `driver_conserves_memory_without_zc`: the conservation law from
  the probed interface, and without ZC with nothing discarded.
* `driver_rings_set_up_without_zc`: the stack's invariant over every run of the whole table.
* `driver_rings_on_live_table`: every receive ring that forwards through a table forwards
  through the interface's current one, which has not been freed.
* `driver_leaks_only_zc_reconfigurations`: memory is discarded while held only by a
  reconfiguration that meets a zombie interface or a running one a ZC application holds, and
  then exactly what the rings hold.
* `driver_irqs_paired`: the driver holds the mailbox IRQ exactly when it holds the UIO IRQ.
* `driverRun_netdev_bounds`: the MTU stays in its range and the watchdog timeout only grows,
  below twice `TX_TIMEO_LIMIT`.
-/

namespace Fm10k

open List

/-! ### The calls -/

/-- `EOPNOTSUPP`. -/
def EOPNOTSUPP : Int := 95

/-- `FM10K_MAX_JUMBO_FRAME_SIZE` (`fm10k.h`): `fm10k_alloc_netdev` gives the MTU range as
`68 - 15342`. -/
def FM10K_MAX_JUMBO_FRAME_SIZE : Nat := 15342

/-- `TX_TIMEO_LIMIT`: a fake Tx hang doubles `watchdog_timeo` only below it. -/
def TX_TIMEO_LIMIT : Nat := 16000

/-- The `net_device` around the interface: the interface with what the last open or
reconfiguration returned, `mtu`, `watchdog_timeo`, and the reset request that
`fm10k_tx_timeout_reset` raises. -/
structure Netdev where
  host : Host
  mtu : Nat
  watchdogTimeo : Nat
  resetRequested : Bool

/-- A call on the interface alone. -/
def Netdev.onIntfc (n : Netdev) (f : Intfc → Intfc) : Netdev :=
  { n with host := { n.host with dev := f n.host.dev } }

/-- `__fm10k_setup_tc`: only an `mqprio` request reaches `fm10k_setup_tc`, with its number of
traffic classes. -/
def setupTcQdisc (txDescSize rxDescSize : Nat) (mqprio : Bool) (tc : UInt8) (usage : Nat)
    (o : TcOutcome) (s : Intfc) : Intfc × Int :=
  if !mqprio then (s, -EOPNOTSUPP) else fm10kSetupTc txDescSize rxDescSize tc usage o s

/-- `fm10k_change_mtu` on `dev->mtu`; `new_mtu` is an `int`. -/
def changeMtu (mtu : Nat) (newMtu : Int) : Nat × Int :=
  if newMtu < 68 ∨ newMtu > FM10K_MAX_JUMBO_FRAME_SIZE then (mtu, -EINVAL) else (newMtu.toNat, 0)

/-- `fm10k_tx_timeout`, with the ZC usage counter and the verdict of `check_for_tx_hang` and
`fm10k_check_tx_hang` on each transmit ring (`hang`): a real hang requests a reset, a fake
one doubles the watchdog timeout below `TX_TIMEO_LIMIT`. -/
def txTimeout (usage : Nat) (hang : Nat → Bool) (n : Netdev) : Netdev :=
  if usage > 0 then n
  else if (range n.host.dev.numTxQueues).any hang then { n with resetRequested := true }
  else if n.watchdogTimeo < TX_TIMEO_LIMIT then { n with watchdogTimeo := n.watchdogTimeo * 2 }
  else n

/-- The body shared by `fm10k_add_vxlan_port`, `fm10k_del_vxlan_port`,
`fm10k_add_geneve_port` and `fm10k_del_geneve_port`: build the `udp_tunnel_info` of `type` and
pass it to `call`. -/
def legacyTunnelPort (call : Intfc → UdpTunnelInfo → Intfc) (type : UdpTunnelType) (s : Intfc)
    (saFamily port : Nat) : Intfc :=
  call s { type := type, saFamily := saFamily, port := port }

/-- `fm10k_add_vxlan_port`. -/
def addVxlanPort (s : Intfc) (saFamily port : Nat) : Intfc :=
  legacyTunnelPort udpTunnelAdd .vxlan s saFamily port

/-- `fm10k_del_vxlan_port`. -/
def delVxlanPort (s : Intfc) (saFamily port : Nat) : Intfc :=
  legacyTunnelPort udpTunnelDel .vxlan s saFamily port

/-- `fm10k_add_geneve_port`. -/
def addGenevePort (s : Intfc) (saFamily port : Nat) : Intfc :=
  legacyTunnelPort udpTunnelAdd .geneve s saFamily port

/-- `fm10k_del_geneve_port`. -/
def delGenevePort (s : Intfc) (saFamily port : Nat) : Intfc :=
  legacyTunnelPort udpTunnelDel .geneve s saFamily port

/-- One call into the file, with what the environment decides in it; and, as
`setStationAddr`, the one change the stack makes between calls that the driver reads: a
secondary (macvlan) device taking a new address, `sdev->dev_addr`. -/
inductive DriverCall
  | ndo (c : NdoCall)
  | setupTc (mqprio : Bool) (tc : UInt8) (usage : Nat) (o : TcOutcome)
  | changeMtu (newMtu : Int)
  | txTimeout (usage : Nat) (hang : Nat → Bool)
  | rx (c : RxCall)
  | tunnel (c : TunnelCall)
  | addVxlanPort (saFamily port : Nat)
  | delVxlanPort (saFamily port : Nat)
  | addGenevePort (saFamily port : Nat)
  | delGenevePort (saFamily port : Nat)
  | l2 (c : L2Call)
  | restoreRxState (uc mc : AddrSyncPass)
  | resetRxState
  | setStationAddr (sdev : Nat) (addr : MacAddr)

/-- The ZC usage counter a call meets. -/
def DriverCall.usage : DriverCall → Nat
  | .ndo c => c.usage
  | .setupTc _ _ usage _ => usage
  | .txTimeout usage _ => usage
  | _ => 0

/-- When a reconfiguration discards what the rings hold: it gets past the checks of
`fm10k_setup_tc` on an interface that runs while a ZC application holds it, whose close then
only marks it a zombie, or on one such a close left a zombie. -/
def reconfigureDiscards (tc : UInt8) (usage : Nat) (s : Intfc) : Bool :=
  !(tc ≠ 0 ∧ s.macType ≠ .pf) && !(tc > 8) && (s.running && 0 < usage || !s.running && s.zombie)

/-- Whether a call of the stack discards what the rings hold. -/
def NdoCall.discards (s : Intfc) : NdoCall → Bool
  | .ndoSetupTc tc usage _ => reconfigureDiscards tc usage s
  | _ => false

/-- Whether a call discards what the rings hold. -/
def DriverCall.discards (s : Intfc) : DriverCall → Bool
  | .ndo c => c.discards s
  | .setupTc mqprio tc usage _ => mqprio && reconfigureDiscards tc usage s
  | _ => false

section Step

variable (txDescSize rxDescSize : Nat)

/-- One call, as the driver handles it. -/
def driverStep (n : Netdev) : DriverCall → Netdev
  | .ndo c => { n with host := stackStep txDescSize rxDescSize n.host c }
  | .setupTc mqprio tc usage o =>
    let res := setupTcQdisc txDescSize rxDescSize mqprio tc usage o n.host.dev
    { n with host := ⟨res.1, res.2⟩ }
  | .changeMtu newMtu => { n with mtu := (changeMtu n.mtu newMtu).1 }
  | .txTimeout usage hang => txTimeout usage hang n
  | .rx c => n.onIntfc (rxStep · c)
  | .tunnel c => n.onIntfc (tunnelStep · c)
  | .addVxlanPort saFamily port => n.onIntfc (addVxlanPort · saFamily port)
  | .delVxlanPort saFamily port => n.onIntfc (delVxlanPort · saFamily port)
  | .addGenevePort saFamily port => n.onIntfc (addGenevePort · saFamily port)
  | .delGenevePort saFamily port => n.onIntfc (delGenevePort · saFamily port)
  | .l2 c => n.onIntfc (l2Step · c)
  | .restoreRxState uc mc => n.onIntfc (restoreRxState · uc mc)
  | .resetRxState => n.onIntfc resetRxState
  | .setStationAddr sdev addr =>
    n.onIntfc fun s => { s with sdevAddr := Function.update s.sdevAddr sdev addr }

/-- A sequence of calls. -/
def driverRun (n : Netdev) (cs : List DriverCall) : Netdev :=
  cs.foldl (driverStep txDescSize rxDescSize) n

@[simp] theorem driverRun_nil (n : Netdev) : driverRun txDescSize rxDescSize n [] = n := rfl

@[simp] theorem driverRun_cons (n : Netdev) (c : DriverCall) (cs : List DriverCall) :
    driverRun txDescSize rxDescSize n (c :: cs) =
      driverRun txDescSize rxDescSize (driverStep txDescSize rxDescSize n c) cs := rfl

end Step

/-! ### Readiness -/

/-- **Ready for the stack**: no ring holds a partial skb, and an interface the stack has
stopped is closed (its rings torn down, its q-vector IRQs free) unless ZC left it a zombie. -/
structure Intfc.Ready (s : Intfc) : Prop where
  skb : s.NoPartialSkb
  closed : s.running = false → s.zombie = false → s.RingsTornDown ∧ s.qvIrq = false

/-- What the second half of `fm10k_setup_tc` starts from: the scheme cleared, and the
q-vector IRQs free unless the interface is a zombie. -/
structure Intfc.Prepared (s : Intfc) : Prop where
  tornDown : s.RingsTornDown
  qvIrq : s.zombie = false → s.qvIrq = false

namespace Intfc

variable {s s' : Intfc}

/-- An interface prepared for the rebuild is ready for the stack. -/
theorem Prepared.ready (hp : s.Prepared) : s.Ready :=
  ⟨hp.tornDown.noPartialSkb, fun _ hz => ⟨hp.tornDown, hp.qvIrq hz⟩⟩

/-- Whatever a running interface's rings are set to, the stack cannot open it. -/
theorem Ready.of_running (hr : s.running = true) (hs : s.NoPartialSkb) : s.Ready :=
  ⟨hs, fun h => absurd (hr.symm.trans h) Bool.noConfusion⟩

/-- Clearing the scheme prepares the rebuild when the q-vector IRQs are free or the interface is a
zombie. -/
theorem Prepared.of_clear (h : s.zombie = false → s.qvIrq = false) :
    (clearQueueingScheme s).Prepared :=
  ⟨clearQueueingScheme_tornDown s, h⟩

/-- A quiet call keeps the interface ready. -/
theorem Ready.quiet (hi : s.Ready) (hq : Quiet s s') : Keeps s s' ∧ s'.Ready :=
  ⟨hq.keeps, hq.scheme.noPartialSkb hi.skb, fun hr hz =>
    let h := hi.closed (hq.scheme.running.symm.trans hr) (hq.scheme.zombie.symm.trans hz)
    ⟨hq.scheme.tornDown h.1, hq.scheme.qvIrq.trans h.2⟩⟩

end Intfc

section Lifecycle

variable (txDescSize rxDescSize : Nat)

/-- What `fm10k_open` gives back to its caller. -/
structure OpenResult (s : Intfc) (res : Intfc × Int) : Prop where
  keeps : Keeps s res.1
  skb : res.1.NoPartialSkb
  running : res.1.running = s.running
  failed : res.2 ≠ 0 → res.1.zombie = false ∧ res.1.RingsTornDown ∧ res.1.qvIrq = false

/-- **Open** on a zombie or a closed interface: the ledger kept, no partial skb, and on a
failure a closed interface again. -/
theorem fm10kOpen_result (o : OpenOutcome) {s : Intfc} (h : s.zombie = true ∨ s.Closed)
    (hs : s.NoPartialSkb) : OpenResult s (fm10kOpen txDescSize rxDescSize o s) := by
  rcases h with hz | hc
  · rw [fm10kOpen, if_pos hz]
    exact ⟨Keeps.of_eq rfl rfl, ⟨hs.tx, hs.rx⟩, rfl, fun h => absurd rfl h⟩
  · have ho := fm10kOpen_spec txDescSize rxDescSize o hc.zombie hc.qvIrq hc.tornDown
    obtain ⟨hz, hr, -, -, -⟩ := ho.frame
    refine ⟨fm10kOpen_keeps txDescSize rxDescSize o (.inr hc), ho.skb, hr, fun he => ?_⟩
    rcases ho.outcome with ⟨h₀, -⟩ | ⟨-, htd, hq⟩
    · exact absurd h₀ he
    · exact ⟨hz.trans hc.zombie, htd, hq⟩

/-- **Close**, with or without a ZC application: the ledger kept, and unless it only marked
the interface a zombie, the rings torn down and the q-vector IRQs freed. -/
theorem fm10kClose_result (usage : Nat) {s : Intfc} (hs : s.NoPartialSkb) :
    Keeps s (fm10kClose usage s).1 ∧ (fm10kClose usage s).1.NoPartialSkb ∧
      ((fm10kClose usage s).1.zombie = false →
        (fm10kClose usage s).1.RingsTornDown ∧ (fm10kClose usage s).1.qvIrq = false) := by
  refine ⟨fm10kClose_keeps usage s, ?_⟩
  rcases Nat.eq_zero_or_pos usage with rfl | hu
  · obtain ⟨htd, hq, -⟩ := fm10kClose_spec hs
    exact ⟨htd.noPartialSkb, fun _ => ⟨htd, hq⟩⟩
  · rw [fm10kClose, if_pos hu]
    exact ⟨⟨hs.tx, hs.rx⟩, Bool.noConfusion⟩

/-- A new queueing scheme, or a failed attempt, keeps the interface prepared and its running flag.
-/
theorem initQueueingScheme_prepared (o : SchemeOutcome) {s : Intfc} (hp : s.Prepared) :
    (initQueueingScheme o s).1.Prepared ∧ (initQueueingScheme o s).1.running = s.running := by
  unfold initQueueingScheme
  split
  · exact ⟨⟨⟨fun _ _ => Ring.fresh_tornDown _ _, fun _ _ => ⟨rfl, rfl, rfl⟩⟩,
      hp.qvIrq⟩, rfl⟩
  · exact ⟨hp, rfl⟩

/-- A failed mailbox IRQ request changes nothing. -/
theorem mbxRequestIrq_of_ne {r : Int} (h : r ≠ 0) (s : Intfc) : mbxRequestIrq r s = (s, r) :=
  if_neg h

/-- A failed UIO IRQ request changes nothing. -/
theorem uioRequestIrq_of_ne {r : Int} (h : r ≠ 0) (s : Intfc) : uioRequestIrq r s = (s, r) :=
  if_neg h

/-- **How the second half of a reconfiguration ends**: the new scheme fails and nothing else
is done; the mailbox or the UIO IRQ request fails, and the new scheme is cleared once the IRQ
got before is freed; or the reopen of a running interface, if any, returns `opn`, and a
failure there frees both IRQs and clears the scheme. -/
theorem setupTcRebuild_cases (o : TcOutcome) (s : Intfc) :
    let s₁ := (initQueueingScheme o.scheme s).1
    let s₂ : Intfc := { s₁ with mbxIrq := true, uioIrq := true }
    ((initQueueingScheme o.scheme s).2 ≠ 0 ∧
        setupTcRebuild txDescSize rxDescSize o s = initQueueingScheme o.scheme s) ∨
      (o.mbxIrq ≠ 0 ∧ setupTcRebuild txDescSize rxDescSize o s = (clearQueueingScheme s₁, o.mbxIrq)) ∨
      (o.uioIrq ≠ 0 ∧ setupTcRebuild txDescSize rxDescSize o s =
        (clearQueueingScheme (mbxFreeIrq { s₁ with mbxIrq := true }), o.uioIrq)) ∨
      ∃ opn, opn = (if s₂.running then fm10kOpen txDescSize rxDescSize o.reopen s₂ else (s₂, 0)) ∧
        (opn.2 ≠ 0 ∧ setupTcRebuild txDescSize rxDescSize o s =
            (clearQueueingScheme (mbxFreeIrq (uioFreeIrq opn.1)), opn.2) ∨
          opn.2 = 0 ∧ setupTcRebuild txDescSize rxDescSize o s = (opn.1, 0)) := by
  intro s₁ s₂
  unfold setupTcRebuild
  dsimp only
  by_cases h₁ : (initQueueingScheme o.scheme s).2 ≠ 0
  · exact .inl ⟨h₁, if_pos h₁⟩
  rw [if_neg h₁]
  by_cases h₂ : o.mbxIrq ≠ 0
  · exact .inr (.inl ⟨h₂, by rw [mbxRequestIrq_of_ne h₂, if_pos h₂]⟩)
  rw [mbxRequestIrq, if_pos (not_not.1 h₂), if_neg (by simp)]
  by_cases h₃ : o.uioIrq ≠ 0
  · exact .inr (.inr (.inl ⟨h₃, by rw [uioRequestIrq_of_ne h₃, if_pos h₃]⟩))
  rw [uioRequestIrq, if_pos (not_not.1 h₃), if_neg (by simp)]
  refine .inr (.inr (.inr ⟨_, rfl, ?_⟩))
  by_cases h₄ : (if s₂.running then fm10kOpen txDescSize rxDescSize o.reopen s₂ else (s₂, 0)).2 ≠ 0
  · exact .inl ⟨h₄, if_pos h₄⟩
  · exact .inr ⟨not_not.1 h₄, if_neg h₄⟩

/-- The reopen that ends a reconfiguration, of a running interface only: it meets a zombie or
a closed interface, and leaves it ready when it succeeds, torn down when it fails. -/
theorem setupTcReopen_ready (o : OpenOutcome) {s : Intfc} {opn : Intfc × Int}
    (hopn : opn = if s.running then fm10kOpen txDescSize rxDescSize o s else (s, 0))
    (hp : s.Prepared) :
    Keeps s opn.1 ∧ opn.1.leaked = s.leaked ∧ (opn.2 = 0 → opn.1.Ready) ∧
      (opn.2 ≠ 0 → opn.1.RingsTornDown ∧ opn.1.running = true) := by
  subst hopn
  cases hr : s.running
  · exact ⟨Keeps.refl s, rfl, fun _ => hp.ready, fun h => absurd rfl h⟩
  have hz : s.zombie = true ∨ s.Closed := by
    cases hz : s.zombie
    · exact .inr ⟨hp.tornDown, hp.qvIrq hz, hz⟩
    · exact .inl rfl
  have ho := fm10kOpen_result txDescSize rxDescSize o hz hp.tornDown.noPartialSkb
  exact ⟨ho.keeps, (fm10kOpen_ringsOnly txDescSize rxDescSize o s).leaked,
    fun _ => Intfc.Ready.of_running (ho.running.trans hr) ho.skb,
    fun he => ⟨(ho.failed he).2.1, ho.running.trans hr⟩⟩

/-- **The second half of a reconfiguration** keeps the ledger, leaves the interface ready
and discards nothing, whatever its steps return: a failure clears the new scheme, whose rings
hold nothing, and the reopen of a running interface meets a zombie or a closed interface. -/
theorem setupTcRebuild_ready (o : TcOutcome) {s : Intfc} (hp : s.Prepared) :
    Keeps s (setupTcRebuild txDescSize rxDescSize o s).1 ∧
      (setupTcRebuild txDescSize rxDescSize o s).1.Ready ∧
      (setupTcRebuild txDescSize rxDescSize o s).1.leaked = s.leaked := by
  obtain ⟨hp₁, -⟩ := initQueueingScheme_prepared o.scheme hp
  have hk₁ := initQueueingScheme_keeps o.scheme hp.tornDown
  have hl₁ : (initQueueingScheme o.scheme s).1.leaked = s.leaked := by
    unfold initQueueingScheme
    split <;> rfl
  rcases setupTcRebuild_cases txDescSize rxDescSize o s with
    ⟨-, h⟩ | ⟨-, h⟩ | ⟨-, h⟩ | ⟨opn, hopn, ⟨h₄, h⟩ | ⟨h₅, h⟩⟩ <;> rw [h]
  · exact ⟨hk₁, hp₁.ready, hl₁⟩
  · exact ⟨hk₁.trans (clearQueueingScheme_keeps _), (Intfc.Prepared.of_clear hp₁.qvIrq).ready,
      (clearQueueingScheme_leaked hp₁.tornDown).trans hl₁⟩
  · exact ⟨hk₁.trans ((Keeps.of_eq (by rfl) (by rfl)).trans (clearQueueingScheme_keeps _)),
      Intfc.Prepared.ready (Intfc.Prepared.of_clear hp₁.qvIrq),
      (clearQueueingScheme_leaked ⟨hp₁.tornDown.tx, hp₁.tornDown.rx⟩).trans hl₁⟩
  -- the IRQ flags are all the requests set before the reopen
  all_goals
    obtain ⟨hk₄, hl₄, hs₄, hf₄⟩ := setupTcReopen_ready txDescSize rxDescSize o.reopen hopn
      ⟨⟨hp₁.tornDown.tx, hp₁.tornDown.rx⟩, hp₁.qvIrq⟩
  · obtain ⟨htd, hr⟩ := hf₄ h₄
    exact ⟨(hk₁.trans (Keeps.of_eq rfl rfl)).trans
        (hk₄.trans ((Keeps.of_eq (by rfl) (by rfl)).trans (clearQueueingScheme_keeps _))),
      Intfc.Ready.of_running hr (clearQueueingScheme_tornDown _).noPartialSkb,
      (clearQueueingScheme_leaked ⟨htd.tx, htd.rx⟩).trans (hl₄.trans hl₁)⟩
  · exact ⟨(hk₁.trans (Keeps.of_eq rfl rfl)).trans hk₄, hs₄ h₅, hl₄.trans hl₁⟩

/-- **How a reconfiguration goes**: its checks reject the number of traffic classes and
nothing is done, or it closes a running interface, frees the UIO and the mailbox IRQs, clears
the scheme and rebuilds. -/
theorem fm10kSetupTc_cases (tc : UInt8) (usage : Nat) (o : TcOutcome) (s : Intfc) :
    ((tc ≠ 0 ∧ s.macType ≠ .pf ∨ tc > 8) ∧
        fm10kSetupTc txDescSize rxDescSize tc usage o s = (s, -EINVAL)) ∨
      (¬(tc ≠ 0 ∧ s.macType ≠ .pf) ∧ ¬tc > 8 ∧
        fm10kSetupTc txDescSize rxDescSize tc usage o s = setupTcRebuild txDescSize rxDescSize o
          (clearQueueingScheme (mbxFreeIrq (uioFreeIrq
            (if s.running then (fm10kClose usage s).1 else s))))) := by
  unfold fm10kSetupTc
  by_cases hv : tc ≠ 0 ∧ s.macType ≠ .pf
  · exact .inl ⟨.inl hv, if_pos hv⟩
  by_cases ht : tc > 8
  · exact .inl ⟨.inr ht, by rw [if_neg hv, if_pos ht]⟩
  exact .inr ⟨hv, ht, by rw [if_neg hv, if_neg ht]⟩

/-- **A reconfiguration** keeps the ledger and readiness, with or without a ZC application:
what a ring still held when its scheme was cleared is logged, not lost from the ledger. -/
theorem fm10kSetupTc_ready (tc : UInt8) (usage : Nat) (o : TcOutcome) {s : Intfc}
    (hi : s.Ready) :
    Keeps s (fm10kSetupTc txDescSize rxDescSize tc usage o s).1 ∧
      (fm10kSetupTc txDescSize rxDescSize tc usage o s).1.Ready := by
  have h₁ : Keeps s (if s.running then (fm10kClose usage s).1 else s) ∧
      ((if s.running then (fm10kClose usage s).1 else s).zombie = false →
        (if s.running then (fm10kClose usage s).1 else s).qvIrq = false) := by
    cases hr : s.running
    · exact ⟨Keeps.refl s, fun hz => (hi.closed hr hz).2⟩
    · obtain ⟨hk, -, hc⟩ := fm10kClose_result usage hi.skb
      exact ⟨hk, fun hz => (hc hz).2⟩
  rcases fm10kSetupTc_cases txDescSize rxDescSize tc usage o s with ⟨-, h⟩ | ⟨-, -, h⟩ <;> rw [h]
  · exact ⟨Keeps.refl s, hi⟩
  generalize (if s.running then (fm10kClose usage s).1 else s) = s₁ at h₁ ⊢
  obtain ⟨hk, hr, -⟩ := setupTcRebuild_ready txDescSize rxDescSize o
    (Intfc.Prepared.of_clear (s := mbxFreeIrq (uioFreeIrq s₁)) h₁.2)
  exact ⟨h₁.1.trans ((Keeps.of_eq (by rfl) (by rfl)).trans
    ((clearQueueingScheme_keeps _).trans hk)), hr⟩

/-- Close logs nothing as discarded and leaves the mailbox and UIO IRQs alone. -/
theorem fm10kClose_frame (usage : Nat) (s : Intfc) :
    (fm10kClose usage s).1.leaked = s.leaked ∧ (fm10kClose usage s).1.mbxIrq = s.mbxIrq ∧
      (fm10kClose usage s).1.uioIrq = s.uioIrq := by
  obtain ⟨m, rs, mb, hd⟩ := fm10kDown_frame s
  unfold fm10kClose
  split
  · exact ⟨rfl, rfl, rfl⟩
  · rw [freeUdpPortInfo_eq, hd]
    exact ⟨rfl, rfl, rfl⟩

/-- **What a reconfiguration discards**: what the rings hold, when it gets past its checks
on a zombie interface or on a running one a ZC application holds; nothing otherwise. -/
theorem fm10kSetupTc_leaked (tc : UInt8) (usage : Nat) (o : TcOutcome) {s : Intfc}
    (hi : s.Ready) :
    (fm10kSetupTc txDescSize rxDescSize tc usage o s).1.leaked =
      s.leaked ++ if reconfigureDiscards tc usage s then s.ringsHeld else [] := by
  -- the rebuild logs exactly what the rings held when the scheme was cleared
  have key : ∀ s₁ : Intfc, (s₁.zombie = false → s₁.qvIrq = false) →
      (setupTcRebuild txDescSize rxDescSize o
        (clearQueueingScheme (mbxFreeIrq (uioFreeIrq s₁)))).1.leaked = s₁.leaked ++ s₁.ringsHeld :=
    fun s₁ hq => (setupTcRebuild_ready txDescSize rxDescSize o
      (Intfc.Prepared.of_clear (s := mbxFreeIrq (uioFreeIrq s₁)) hq)).2.2
  rcases fm10kSetupTc_cases txDescSize rxDescSize tc usage o s with ⟨hc, h⟩ | ⟨hv, ht, h⟩ <;> rw [h]
  · rcases hc with hc | hc <;> simp [hc, reconfigureDiscards]
  cases hr : s.running
  · simp only [Bool.false_eq_true, if_false]
    cases hz : s.zombie
    · -- a closed interface: its rings hold nothing
      have hc := hi.closed hr hz
      rw [key s fun _ => hc.2, hc.1.ringsHeld, if_neg (by simp [reconfigureDiscards, hr, hz])]
    · -- a zombie: its rings are discarded as they are
      rw [key s fun h => absurd (hz.symm.trans h) Bool.noConfusion,
        if_pos (by simp [reconfigureDiscards, hv, ht, hr, hz])]
  · simp only [if_true]
    rcases Nat.eq_zero_or_pos usage with rfl | hu
    · -- without ZC the close frees every ring first
      obtain ⟨htd, hq, -⟩ := fm10kClose_spec hi.skb
      rw [key _ fun _ => hq, htd.ringsHeld, (fm10kClose_frame 0 s).1,
        if_neg (by simp [reconfigureDiscards, hr])]
    · -- with ZC the close only marks a zombie, and the rings are discarded as they are
      rw [fm10kClose, if_pos hu, key _ fun h => absurd h Bool.noConfusion,
        if_pos (by simp [reconfigureDiscards, hv, ht, hr, hu])]
      rfl

/-- The second half of a reconfiguration keeps every receive ring on the table: the rings of
a new or cleared scheme point at none, and the IRQ requests and the reopen move no
pointer. -/
theorem setupTcRebuild_onTable (o : TcOutcome) {s : Intfc} (h : s.RingsOnTable) :
    (setupTcRebuild txDescSize rxDescSize o s).1.RingsOnTable := by
  have h₁ := initQueueingScheme_onTable o.scheme h
  rcases setupTcRebuild_cases txDescSize rxDescSize o s with
    ⟨-, h⟩ | ⟨-, h⟩ | ⟨-, h⟩ | ⟨opn, hopn, ⟨-, h⟩ | ⟨-, h⟩⟩ <;> rw [h]
  · exact h₁
  · exact clearQueueingScheme_onTable _
  · exact clearQueueingScheme_onTable _
  · exact clearQueueingScheme_onTable _
  · subst hopn
    split
    · exact h₁.of_route (fm10kOpen_route txDescSize rxDescSize o.reopen _)
    · exact h₁

/-- **`fm10k_setup_tc`** keeps every receive ring pointing at the interface's table. -/
theorem fm10kSetupTc_onTable (tc : UInt8) (usage : Nat) (o : TcOutcome) {s : Intfc}
    (h : s.RingsOnTable) : (fm10kSetupTc txDescSize rxDescSize tc usage o s).1.RingsOnTable := by
  rcases fm10kSetupTc_cases txDescSize rxDescSize tc usage o s with ⟨-, e⟩ | ⟨-, -, e⟩ <;> rw [e]
  · exact h
  · exact setupTcRebuild_onTable txDescSize rxDescSize o (clearQueueingScheme_onTable _)

/-- **The IRQs of a reconfiguration**: from both free, its second half holds the mailbox and
the UIO IRQs both when it returns 0, and neither when a step fails: `err_open` frees the UIO
IRQ and falls through `err_uio_irq`, which frees the mailbox one. -/
theorem setupTcRebuild_irqs (o : TcOutcome) {s : Intfc} (hm : s.mbxIrq = false)
    (hu : s.uioIrq = false) :
    (setupTcRebuild txDescSize rxDescSize o s).1.mbxIrq =
        decide ((setupTcRebuild txDescSize rxDescSize o s).2 = 0) ∧
      (setupTcRebuild txDescSize rxDescSize o s).1.uioIrq =
        decide ((setupTcRebuild txDescSize rxDescSize o s).2 = 0) := by
  have h₁ : (initQueueingScheme o.scheme s).1.mbxIrq = false ∧
      (initQueueingScheme o.scheme s).1.uioIrq = false := by
    unfold initQueueingScheme
    split <;> exact ⟨hm, hu⟩
  rcases setupTcRebuild_cases txDescSize rxDescSize o s with
    ⟨h, e⟩ | ⟨h, e⟩ | ⟨h, e⟩ | ⟨opn, hopn, ⟨h, e⟩ | ⟨-, e⟩⟩ <;> rw [e]
  · exact ⟨h₁.1.trans (decide_eq_false h).symm, h₁.2.trans (decide_eq_false h).symm⟩
  · exact ⟨h₁.1.trans (decide_eq_false h).symm, h₁.2.trans (decide_eq_false h).symm⟩
  · exact ⟨(decide_eq_false h).symm, h₁.2.trans (decide_eq_false h).symm⟩
  · exact ⟨(decide_eq_false h).symm, (decide_eq_false h).symm⟩
  · -- the reopen moves neither IRQ
    subst hopn
    split
    · exact ⟨(fm10kOpen_ringsOnly txDescSize rxDescSize o.reopen _).mbxIrq,
        (fm10kOpen_ringsOnly txDescSize rxDescSize o.reopen _).uioIrq⟩
    · exact ⟨rfl, rfl⟩

/-- **A reconfiguration keeps the mailbox and the UIO IRQs together**: a call its checks
reject leaves them alone, and one past them frees both before it requests them again. -/
theorem fm10kSetupTc_irqs (tc : UInt8) (usage : Nat) (o : TcOutcome) {s : Intfc}
    (h : s.mbxIrq = s.uioIrq) :
    (fm10kSetupTc txDescSize rxDescSize tc usage o s).1.mbxIrq =
      (fm10kSetupTc txDescSize rxDescSize tc usage o s).1.uioIrq := by
  rcases fm10kSetupTc_cases txDescSize rxDescSize tc usage o s with ⟨-, e⟩ | ⟨-, -, e⟩ <;> rw [e]
  · exact h
  generalize (if s.running then (fm10kClose usage s).1 else s) = s₁
  have hi := setupTcRebuild_irqs txDescSize rxDescSize o
    (s := clearQueueingScheme (mbxFreeIrq (uioFreeIrq s₁))) rfl rfl
  exact hi.1.trans hi.2.symm

end Lifecycle

/-! ### Every call -/

/-- The four legacy tunnel-port entry points are quiet when the call they wrap is. -/
theorem legacyTunnelPort_quiet {call : Intfc → UdpTunnelInfo → Intfc}
    (hc : ∀ s ti, Quiet s (call s ti)) (type : UdpTunnelType) (s : Intfc) (saFamily port : Nat) :
    Quiet s (legacyTunnelPort call type s saFamily port) :=
  hc s _

/-- `fm10k_tx_timeout` leaves the interface and the last result alone: it only requests a
reset or doubles the watchdog timeout. -/
theorem txTimeout_host (usage : Nat) (hang : Nat → Bool) (n : Netdev) :
    (txTimeout usage hang n).host = n.host := by
  unfold txTimeout
  split_ifs <;> rfl

section Steps

variable (txDescSize rxDescSize : Nat)

/-- **One call of the stack** keeps the ledger and readiness, whatever the ZC usage. -/
theorem stackStep_ready {h : Host} (hi : h.dev.Ready) :
    ∀ c : NdoCall, Keeps h.dev (stackStep txDescSize rxDescSize h c).dev ∧
      (stackStep txDescSize rxDescSize h c).dev.Ready
  | .ndoOpen o => by
    simp only [stackStep]
    cases hr : h.dev.running
    · simp only [Bool.false_eq_true, if_false]
      have hz : h.dev.zombie = true ∨ h.dev.Closed := by
        cases hz : h.dev.zombie
        · exact .inr ⟨(hi.closed hr hz).1, (hi.closed hr hz).2, hz⟩
        · exact .inl rfl
      have ho := fm10kOpen_result txDescSize rxDescSize o hz hi.skb
      refine ⟨ho.keeps.trans (Keeps.of_eq rfl rfl), ⟨ho.skb.tx, ho.skb.rx⟩, fun hrun _ => ?_⟩
      obtain ⟨-, htd, hq⟩ := ho.failed (by simpa using hrun)
      exact ⟨⟨htd.tx, htd.rx⟩, hq⟩
    · exact ⟨Keeps.refl _, hi⟩
  | .ndoStop usage => by
    simp only [stackStep]
    cases hr : h.dev.running
    · exact ⟨Keeps.refl _, hi⟩
    · obtain ⟨hk, hs, hc⟩ := fm10kClose_result usage hi.skb
      exact ⟨hk.trans (Keeps.of_eq rfl rfl), ⟨hs.tx, hs.rx⟩,
        fun _ hz => ⟨⟨(hc hz).1.tx, (hc hz).1.rx⟩, (hc hz).2⟩⟩
  | .ndoSetupTc tc usage o => fm10kSetupTc_ready txDescSize rxDescSize tc usage o hi

/-- **One call of the stack** keeps every receive ring on the table. -/
theorem stackStep_onTable {h : Host} (ht : h.dev.RingsOnTable) :
    ∀ c : NdoCall, (stackStep txDescSize rxDescSize h c).dev.RingsOnTable
  | .ndoOpen o => by
    simp only [stackStep]
    split
    · exact ht
    · exact ht.of_route (fm10kOpen_route txDescSize rxDescSize o h.dev)
  | .ndoStop usage => by
    simp only [stackStep]
    split
    · exact ht.of_route (fm10kClose_route usage h.dev)
    · exact ht
  | .ndoSetupTc tc usage o => fm10kSetupTc_onTable txDescSize rxDescSize tc usage o ht

/-- **What one call of the stack discards**: only a reconfiguration that meets a zombie
interface, or a running one a ZC application holds, and then what the rings hold. -/
theorem stackStep_leaked {h : Host} (hi : h.dev.Ready) :
    ∀ c : NdoCall, (stackStep txDescSize rxDescSize h c).dev.leaked =
      h.dev.leaked ++ if c.discards h.dev then h.dev.ringsHeld else []
  | .ndoOpen o => by
    simp only [stackStep, NdoCall.discards, Bool.false_eq_true, if_false, append_nil]
    split
    · rfl
    · exact (fm10kOpen_ringsOnly txDescSize rxDescSize o h.dev).leaked
  | .ndoStop usage => by
    simp only [stackStep, NdoCall.discards, Bool.false_eq_true, if_false, append_nil]
    split
    · exact (fm10kClose_frame usage h.dev).1
    · rfl
  | .ndoSetupTc tc usage o => fm10kSetupTc_leaked txDescSize rxDescSize tc usage o hi

/-- **What one call can do to the host**: leave the interface alone, with the last result of
an open or reconfiguration or a failure; make a quiet call on it; or be a call of the stack,
at the same ZC usage. -/
theorem driverStep_cases (n : Netdev) (c : DriverCall) :
    (∃ r, (r = n.host.ret ∨ r ≠ 0) ∧ c.discards n.host.dev = false ∧
        (driverStep txDescSize rxDescSize n c).host = ⟨n.host.dev, r⟩) ∨
      (∃ s', Quiet n.host.dev s' ∧ c.discards n.host.dev = false ∧
        (driverStep txDescSize rxDescSize n c).host = ⟨s', n.host.ret⟩) ∨
      ∃ c' : NdoCall, c'.usage = c.usage ∧ c'.discards n.host.dev = c.discards n.host.dev ∧
        (driverStep txDescSize rxDescSize n c).host = stackStep txDescSize rxDescSize n.host c' := by
  cases c with
  | ndo c => exact .inr (.inr ⟨c, rfl, rfl, rfl⟩)
  | setupTc mqprio tc usage o =>
    cases mqprio
    · exact .inl ⟨-EOPNOTSUPP, .inr (by decide), rfl, rfl⟩
    · exact .inr (.inr ⟨.ndoSetupTc tc usage o, rfl, rfl, rfl⟩)
  | changeMtu _ => exact .inl ⟨_, .inl rfl, rfl, rfl⟩
  | txTimeout usage hang => exact .inl ⟨_, .inl rfl, rfl, txTimeout_host usage hang n⟩
  | rx c => exact .inr (.inl ⟨_, rxStep_quiet _ c, rfl, rfl⟩)
  | tunnel c => exact .inr (.inl ⟨_, tunnelStep_quiet _ c, rfl, rfl⟩)
  | addVxlanPort saFamily port =>
    exact .inr (.inl ⟨_, legacyTunnelPort_quiet udpTunnelAdd_quiet .vxlan _ saFamily port, rfl, rfl⟩)
  | delVxlanPort saFamily port =>
    exact .inr (.inl ⟨_, legacyTunnelPort_quiet udpTunnelDel_quiet .vxlan _ saFamily port, rfl, rfl⟩)
  | addGenevePort saFamily port =>
    exact .inr (.inl ⟨_, legacyTunnelPort_quiet udpTunnelAdd_quiet .geneve _ saFamily port, rfl, rfl⟩)
  | delGenevePort saFamily port =>
    exact .inr (.inl ⟨_, legacyTunnelPort_quiet udpTunnelDel_quiet .geneve _ saFamily port, rfl, rfl⟩)
  | l2 c => exact .inr (.inl ⟨_, l2Step_quiet _ c, rfl, rfl⟩)
  | restoreRxState uc mc => exact .inr (.inl ⟨_, restoreRxState_quiet _ uc mc, rfl, rfl⟩)
  | resetRxState => exact .inr (.inl ⟨_, resetRxState_quiet _, rfl, rfl⟩)
  | setStationAddr sdev addr =>
    exact .inr (.inl ⟨{ n.host.dev with sdevAddr := Function.update n.host.dev.sdevAddr sdev addr },
      Quiet.of_eq rfl rfl rfl rfl, rfl, rfl⟩)

/-- **One call of the driver** keeps the ledger and readiness. -/
theorem driverStep_ready {n : Netdev} (hi : n.host.dev.Ready) (c : DriverCall) :
    Keeps n.host.dev (driverStep txDescSize rxDescSize n c).host.dev ∧
      (driverStep txDescSize rxDescSize n c).host.dev.Ready := by
  rcases driverStep_cases txDescSize rxDescSize n c with ⟨r, -, -, h⟩ | ⟨s', hq, -, h⟩ | ⟨c', -, -, h⟩ <;>
    rw [h]
  · exact ⟨Keeps.refl _, hi⟩
  · exact hi.quiet hq
  · exact stackStep_ready txDescSize rxDescSize hi c'

/-- Every run keeps the ledger and readiness. -/
theorem driverRun_ready {n : Netdev} (hi : n.host.dev.Ready) :
    ∀ cs, Keeps n.host.dev (driverRun txDescSize rxDescSize n cs).host.dev ∧
      (driverRun txDescSize rxDescSize n cs).host.dev.Ready
  | [] => ⟨Keeps.refl _, hi⟩
  | c :: cs => by
    obtain ⟨hk₁, hi₁⟩ := driverStep_ready txDescSize rxDescSize hi c
    obtain ⟨hk₂, hi₂⟩ := driverRun_ready hi₁ cs
    exact ⟨hk₁.trans hk₂, hi₂⟩

/-- A quiet call keeps the stack's invariant and discards nothing. -/
theorem HostInv.quiet {h : Host} (hi : HostInv txDescSize rxDescSize h) {s' : Intfc}
    (hq : Quiet h.dev s') : HostInv txDescSize rxDescSize ⟨s', h.ret⟩ ∧ s'.leaked = h.dev.leaked :=
  ⟨⟨hq.scheme.zombie.trans hi.zombie, hq.scheme.noPartialSkb hi.skb,
    fun hr => ⟨hq.scheme.tornDown (hi.closed (hq.scheme.running.symm.trans hr)).1,
      hq.scheme.qvIrq.trans (hi.closed (hq.scheme.running.symm.trans hr)).2⟩,
    fun hr h₀ => hq.scheme.setUp (hi.setUp (hq.scheme.running.symm.trans hr) h₀)⟩,
    hq.scheme.leaked⟩

/-- **Without ZC** every call of the driver keeps the stack's invariant and discards
nothing. -/
theorem driverStep_hostInv {n : Netdev} (hi : HostInv txDescSize rxDescSize n.host)
    (c : DriverCall) (hu : c.usage = 0) :
    HostInv txDescSize rxDescSize (driverStep txDescSize rxDescSize n c).host ∧
      (driverStep txDescSize rxDescSize n c).host.dev.leaked = n.host.dev.leaked := by
  rcases driverStep_cases txDescSize rxDescSize n c with ⟨r, hr, -, h⟩ | ⟨s', hq, -, h⟩ | ⟨c', hc, -, h⟩ <;>
    rw [h]
  · exact ⟨⟨hi.zombie, hi.skb, hi.closed,
      fun hrun h₀ => hi.setUp hrun (hr.elim (fun e => e.symm.trans h₀) (absurd h₀))⟩, rfl⟩
  · exact hi.quiet txDescSize rxDescSize hq
  · exact stackStep_inv hi c' (hc.trans hu)

/-- **Every call of the driver** keeps every receive ring on the table. -/
theorem driverStep_onTable {n : Netdev} (ht : n.host.dev.RingsOnTable) (c : DriverCall) :
    (driverStep txDescSize rxDescSize n c).host.dev.RingsOnTable := by
  rcases driverStep_cases txDescSize rxDescSize n c with ⟨r, -, -, h⟩ | ⟨s', hq, -, h⟩ | ⟨c', -, -, h⟩ <;>
    rw [h]
  · exact ht
  · exact hq.table ht
  · exact stackStep_onTable txDescSize rxDescSize ht c'

/-- Every run keeps every receive ring on the table. -/
theorem driverRun_onTable {n : Netdev} (ht : n.host.dev.RingsOnTable) :
    ∀ cs, (driverRun txDescSize rxDescSize n cs).host.dev.RingsOnTable
  | [] => ht
  | c :: cs => driverRun_onTable (driverStep_onTable txDescSize rxDescSize ht c) cs

/-- **One call of the stack** keeps the mailbox and the UIO IRQs together. -/
theorem stackStep_irqs {h : Host} (hp : h.dev.mbxIrq = h.dev.uioIrq) :
    ∀ c : NdoCall, (stackStep txDescSize rxDescSize h c).dev.mbxIrq =
      (stackStep txDescSize rxDescSize h c).dev.uioIrq
  | .ndoOpen o => by
    simp only [stackStep]
    split
    · exact hp
    · exact (fm10kOpen_ringsOnly txDescSize rxDescSize o h.dev).mbxIrq.trans
        (hp.trans (fm10kOpen_ringsOnly txDescSize rxDescSize o h.dev).uioIrq.symm)
  | .ndoStop usage => by
    simp only [stackStep]
    split
    · exact (fm10kClose_frame usage h.dev).2.1.trans (hp.trans (fm10kClose_frame usage h.dev).2.2.symm)
    · exact hp
  | .ndoSetupTc tc usage o => fm10kSetupTc_irqs txDescSize rxDescSize tc usage o hp

/-- **Every call of the driver** keeps the mailbox and the UIO IRQs together. -/
theorem driverStep_irqs {n : Netdev} (hp : n.host.dev.mbxIrq = n.host.dev.uioIrq)
    (c : DriverCall) :
    (driverStep txDescSize rxDescSize n c).host.dev.mbxIrq =
      (driverStep txDescSize rxDescSize n c).host.dev.uioIrq := by
  rcases driverStep_cases txDescSize rxDescSize n c with ⟨r, -, -, h⟩ | ⟨s', hq, -, h⟩ | ⟨c', -, -, h⟩ <;>
    rw [h]
  · exact hp
  · exact hq.scheme.mbxIrq.trans (hp.trans hq.scheme.uioIrq.symm)
  · exact stackStep_irqs txDescSize rxDescSize hp c'

/-- **What one call of the driver discards**: what the rings hold, at a reconfiguration that
meets a zombie interface or a running one a ZC application holds; nothing at any other
call. -/
theorem driverStep_leaked {n : Netdev} (hi : n.host.dev.Ready) (c : DriverCall) :
    (driverStep txDescSize rxDescSize n c).host.dev.leaked =
      n.host.dev.leaked ++ if c.discards n.host.dev then n.host.dev.ringsHeld else [] := by
  rcases driverStep_cases txDescSize rxDescSize n c with
    ⟨r, -, hd, h⟩ | ⟨s', hq, hd, h⟩ | ⟨c', -, hd, h⟩ <;> rw [h]
  · rw [hd, if_neg Bool.false_ne_true, append_nil]
  · rw [hd, if_neg Bool.false_ne_true, append_nil]
    exact hq.scheme.leaked
  · rw [← hd]
    exact stackStep_leaked txDescSize rxDescSize hi c'

/-- What a run discards while held: at each call that discards, what the rings held when the
call came. -/
def discardedBy (n : Netdev) : List DriverCall → List Nat
  | [] => []
  | c :: cs => (if c.discards n.host.dev then n.host.dev.ringsHeld else []) ++
      discardedBy (driverStep txDescSize rxDescSize n c) cs

/-- **Without ZC, every run keeps the stack's invariant** and discards nothing. -/
theorem driverRun_hostInv {n : Netdev} (hi : HostInv txDescSize rxDescSize n.host) :
    ∀ cs : List DriverCall, (∀ c ∈ cs, c.usage = 0) →
      HostInv txDescSize rxDescSize (driverRun txDescSize rxDescSize n cs).host ∧
        (driverRun txDescSize rxDescSize n cs).host.dev.leaked = n.host.dev.leaked
  | [], _ => ⟨hi, rfl⟩
  | c :: cs, hu => by
    obtain ⟨hi₁, hl₁⟩ := driverStep_hostInv txDescSize rxDescSize hi c (hu c (mem_cons_self c cs))
    obtain ⟨hi₂, hl₂⟩ := driverRun_hostInv hi₁ cs fun c' hc' => hu c' (mem_cons_of_mem c hc')
    exact ⟨hi₂, hl₂.trans hl₁⟩

end Steps

/-! ### From the probe -/

/-- The interface `alloc_etherdev_mq` hands to the probe routine, with an allocator that has
handed out and taken back nothing yet; `ok` is the environment's verdict on every attempt. -/
def probed (macType : MacType) (ok : Nat → Bool) : Intfc :=
  Intfc.zeroed macType ⟨0, ok, [], []⟩

/-- A probed interface has an empty allocator log. -/
theorem probed_mem (macType : MacType) (ok : Nat → Bool) :
    (probed macType ok).mem = ⟨0, ok, [], []⟩ := rfl

/-- A probed interface accounts for nothing. -/
theorem probed_accounted (macType : MacType) (ok : Nat → Bool) :
    (probed macType ok).accounted = [] := rfl

/-- A probed interface is ready for the stack. -/
theorem probed_ready (macType : MacType) (ok : Nat → Bool) : (probed macType ok).Ready :=
  ⟨⟨fun _ _ => rfl, fun _ _ => rfl⟩, fun _ _ =>
    ⟨⟨fun _ _ => Ring.fresh_tornDown _ _, fun _ _ => Ring.fresh_tornDown _ _⟩, rfl⟩⟩

/-- A probed interface owns what it accounts for. -/
theorem probed_owns (macType : MacType) (ok : Nat → Bool) :
    Owns (probed macType ok).mem (probed macType ok).accounted :=
  ⟨fun _ => by simp [probed_accounted, probed_mem, Mem.releasedPtrs],
    fun _ h => by simp [probed_accounted, probed_mem, Mem.releasedPtrs] at h⟩

/-- Every receive ring of a probed interface points at its table. -/
theorem probed_onTable (macType : MacType) (ok : Nat → Bool) : (probed macType ok).RingsOnTable :=
  fun _ hi => absurd hi (Nat.not_lt_zero _)

/-- From a state that has accounted for, handed out and taken back nothing, a kept ledger is
a conservation law. -/
theorem Keeps.conserves {s₀ s : Intfc} (hk : Keeps s₀ s) (ha : s₀.accounted = [])
    (hm : s₀.mem.allocated = [] ∧ s₀.mem.released = []) (p : Nat) :
    s.accounted.count p + s.mem.releasedPtrs.count p = s.mem.allocated.count p ∧
      s.accounted.count p + s.mem.releasedPtrs.count p ≤ 1 := by
  have ho : Owns s₀.mem s₀.accounted :=
    ⟨fun _ => by simp [ha, hm.2, Mem.releasedPtrs], fun _ h => by simp [ha, hm.2, Mem.releasedPtrs] at h⟩
  have hr : s₀.mem.releasedPtrs = [] := by rw [Mem.releasedPtrs, hm.2, map_nil]
  have hb := hk.balance p
  simp only [ha, hm.1, hr, count_nil] at hb
  exact ⟨by omega, (ho.of_ledger hk).once p⟩

section Main

variable (txDescSize rxDescSize : Nat)

/-- **Memory safety of the whole driver.** From any interface ready for the stack that owns
what it accounts for, along every sequence of calls of `fm10k_netdev_ops` and of the reset
path, with any outcome of every allocation and IRQ request and any ZC usage: the driver keeps
the ledger, still owns what it accounts for, and has given nothing back twice. -/
theorem driver_memory_safe (n : Netdev) (ho : Owns n.host.dev.mem n.host.dev.accounted)
    (hi : n.host.dev.Ready) (cs : List DriverCall) :
    Keeps n.host.dev (driverRun txDescSize rxDescSize n cs).host.dev ∧
      Owns (driverRun txDescSize rxDescSize n cs).host.dev.mem
        (driverRun txDescSize rxDescSize n cs).host.dev.accounted ∧
      (driverRun txDescSize rxDescSize n cs).host.dev.mem.releasedPtrs.Nodup :=
  have hk := (driverRun_ready txDescSize rxDescSize hi cs).1
  ⟨hk, ho.of_ledger hk, (ho.of_ledger hk).nodup_released⟩

/-- A probed PF whose every allocation succeeds, before any call. -/
def probedPf : Netdev :=
  ⟨⟨probed .pf fun _ => true, 0⟩, 1500, 5000, false⟩

/-- A run of the table: a reconfiguration to one queue of each kind, an open, a new base
address, a VLAN, a station, and a stop. -/
def probeCalls : List DriverCall :=
  [.setupTc true 0 0 ⟨⟨0, 1, 1, 1, 1, by decide, by decide⟩, 0, 0, ⟨0, 0, 0⟩⟩,
    .ndo (.ndoOpen ⟨0, 0, 0⟩), .rx (.setMac ⟨2, 0, 0, 0, 0, 1⟩),
    .rx (.updateVid 5 true [] []), .l2 (.add 7), .ndo (.ndoStop 0)]

/-- Memory safety along `probeCalls` from `probedPf`. -/
theorem driver_memory_safe_probedPf :
    Owns probedPf.host.dev.mem probedPf.host.dev.accounted ∧ probedPf.host.dev.Ready ∧
      Keeps probedPf.host.dev (driverRun 16 16 probedPf probeCalls).host.dev ∧
      Owns (driverRun 16 16 probedPf probeCalls).host.dev.mem
        (driverRun 16 16 probedPf probeCalls).host.dev.accounted ∧
      (driverRun 16 16 probedPf probeCalls).host.dev.mem.releasedPtrs.Nodup :=
  ⟨probed_owns _ _, probed_ready _ _,
    driver_memory_safe 16 16 probedPf (probed_owns _ _) (probed_ready _ _) probeCalls⟩

/-- **The mailbox and the UIO IRQs are held together.** From any interface that holds both
or neither, along every sequence of calls of `fm10k_netdev_ops` and of the reset path, with
any outcome of every allocation, IRQ request and reopen and any ZC usage: the driver holds
the mailbox IRQ exactly when it holds the UIO IRQ. `fm10k_setup_tc`, the only call that
frees and requests them, unwinds a failed UIO request or reopen through `err_uio_irq` and
`err_open`. -/
theorem driver_irqs_paired (n : Netdev) (hp : n.host.dev.mbxIrq = n.host.dev.uioIrq) :
    ∀ cs, (driverRun txDescSize rxDescSize n cs).host.dev.mbxIrq =
      (driverRun txDescSize rxDescSize n cs).host.dev.uioIrq
  | [] => hp
  | c :: cs => driver_irqs_paired _ (driverStep_irqs txDescSize rxDescSize hp c) cs

/-- The two IRQs stay paired along `probeCalls` from `probedPf`. -/
theorem driver_irqs_paired_probedPf :
    probedPf.host.dev.mbxIrq = probedPf.host.dev.uioIrq ∧
      (driverRun 16 16 probedPf probeCalls).host.dev.mbxIrq =
        (driverRun 16 16 probedPf probeCalls).host.dev.uioIrq :=
  ⟨rfl, driver_irqs_paired 16 16 probedPf rfl probeCalls⟩

/-- **No receive ring forwards through a freed table.** From any interface ready for the
stack that owns what it accounts for and has every receive ring on its table, along every
sequence of calls of `fm10k_netdev_ops` and of the reset path, with any outcome of every
allocation and IRQ request and any ZC usage: a receive ring of the scheme that points at a
forwarding table points at the interface's current one, and that table has not been given
back, although `fm10k_dfwd_add_station` and `fm10k_dfwd_del_station` free tables with
`kfree_rcu`. -/
theorem driver_rings_on_live_table (n : Netdev) (ho : Owns n.host.dev.mem n.host.dev.accounted)
    (hi : n.host.dev.Ready) (ht : n.host.dev.RingsOnTable) (cs : List DriverCall) :
    ∀ i < (driverRun txDescSize rxDescSize n cs).host.dev.numRxQueues, ∀ p,
      ((driverRun txDescSize rxDescSize n cs).host.dev.rxRing i).l2Accel = some p →
        (driverRun txDescSize rxDescSize n cs).host.dev.l2Accel = some p ∧
          p ∉ (driverRun txDescSize rxDescSize n cs).host.dev.mem.releasedPtrs :=
  fun _ hr _ hp => (driverRun_onTable txDescSize rxDescSize ht cs).live
    (ho.of_ledger (driverRun_ready txDescSize rxDescSize hi cs).1) hr hp

/-- Every receive ring points at the live table along `probeCalls` from `probedPf`. -/
theorem driver_rings_on_live_table_probedPf :
    Owns probedPf.host.dev.mem probedPf.host.dev.accounted ∧ probedPf.host.dev.Ready ∧
      probedPf.host.dev.RingsOnTable ∧
      ∀ i < (driverRun 16 16 probedPf probeCalls).host.dev.numRxQueues, ∀ p,
        ((driverRun 16 16 probedPf probeCalls).host.dev.rxRing i).l2Accel = some p →
          (driverRun 16 16 probedPf probeCalls).host.dev.l2Accel = some p ∧
            p ∉ (driverRun 16 16 probedPf probeCalls).host.dev.mem.releasedPtrs :=
  ⟨probed_owns _ _, probed_ready _ _, probed_onTable _ _,
    driver_rings_on_live_table 16 16 probedPf (probed_owns _ _) (probed_ready _ _)
      (probed_onTable _ _) probeCalls⟩

/-- **Exactly what the driver discards.** From any interface ready for the stack, along every
sequence of calls of `fm10k_netdev_ops` and of the reset path, with any outcome of every
allocation and IRQ request and any ZC usage: the log of what was discarded while held grows by
what the rings held at each reconfiguration that met a zombie interface or a running one a ZC
application held, and by nothing else. The second case outlives the application: once a
close under ZC has left a zombie, a reconfiguration with no ZC application still discards the
rings, and the next open takes the zombie shortcut without setting any ring up. -/
theorem driver_leaks_only_zc_reconfigurations (n : Netdev) (hi : n.host.dev.Ready)
    (cs : List DriverCall) :
    (driverRun txDescSize rxDescSize n cs).host.dev.leaked =
      n.host.dev.leaked ++ discardedBy txDescSize rxDescSize n cs := by
  induction cs generalizing n with
  | nil => exact (append_nil _).symm
  | cons c cs ih =>
    rw [driverRun_cons, ih _ (driverStep_ready txDescSize rxDescSize hi c).2,
      driverStep_leaked txDescSize rxDescSize hi c, discardedBy, append_assoc]

/-- What `probeCalls` discards from `probedPf`, read off the run. -/
theorem driver_leaks_only_zc_reconfigurations_probedPf :
    probedPf.host.dev.Ready ∧
      (driverRun 16 16 probedPf probeCalls).host.dev.leaked =
        probedPf.host.dev.leaked ++ discardedBy 16 16 probedPf probeCalls :=
  ⟨probed_ready _ _,
    driver_leaks_only_zc_reconfigurations 16 16 probedPf (probed_ready _ _) probeCalls⟩

/-- **Conservation of memory.** From the probed interface, along every sequence of calls,
with any outcome of every allocation and IRQ request and any ZC usage: every address is held
by the interface (a ring, a list, or the log of what was discarded while held) as many times
as it was handed out and not given back, and at most once in all. -/
theorem driver_conserves_memory (macType : MacType) (ok : Nat → Bool) (ret : Int)
    (mtu watchdogTimeo : Nat) (resetRequested : Bool) (cs : List DriverCall) (p : Nat) :
    let s := (driverRun txDescSize rxDescSize
      ⟨⟨probed macType ok, ret⟩, mtu, watchdogTimeo, resetRequested⟩ cs).host.dev
    s.accounted.count p + s.mem.releasedPtrs.count p = s.mem.allocated.count p ∧
      s.accounted.count p + s.mem.releasedPtrs.count p ≤ 1 := by
  exact (driverRun_ready txDescSize rxDescSize (n := ⟨⟨probed macType ok, ret⟩, mtu,
    watchdogTimeo, resetRequested⟩) (probed_ready macType ok) cs).1.conserves rfl ⟨rfl, rfl⟩ p

/-- The interface of a probed interface meets the stack's invariant. -/
theorem probed_hostInv (macType : MacType) (ok : Nat → Bool) (ret : Int) :
    HostInv txDescSize rxDescSize ⟨probed macType ok, ret⟩ :=
  ⟨rfl, (probed_ready macType ok).skb, fun hr => (probed_ready macType ok).closed hr rfl,
    fun h => absurd h Bool.false_ne_true⟩

/-- **Conservation of memory without ZC.** Along every sequence of calls with no ZC
application, nothing is ever discarded while held: every address is held by a ring or a
list of the interface as many times as it was handed out and not given back, and at most
once in all. -/
theorem driver_conserves_memory_without_zc (macType : MacType) (ok : Nat → Bool) (ret : Int)
    (mtu watchdogTimeo : Nat) (resetRequested : Bool) (cs : List DriverCall)
    (hu : ∀ c ∈ cs, c.usage = 0) (p : Nat) :
    let s := (driverRun txDescSize rxDescSize
      ⟨⟨probed macType ok, ret⟩, mtu, watchdogTimeo, resetRequested⟩ cs).host.dev
    s.leaked = [] ∧
      (s.ringsHeld ++ s.listsHeld).count p + s.mem.releasedPtrs.count p = s.mem.allocated.count p ∧
      (s.ringsHeld ++ s.listsHeld).count p + s.mem.releasedPtrs.count p ≤ 1 := by
  intro s
  have hl : s.leaked = [] :=
    (driverRun_hostInv txDescSize rxDescSize (probed_hostInv txDescSize rxDescSize macType ok ret)
      cs hu).2
  obtain ⟨h₁, h₂⟩ : s.accounted.count p + s.mem.releasedPtrs.count p = s.mem.allocated.count p ∧
      s.accounted.count p + s.mem.releasedPtrs.count p ≤ 1 :=
    (driverRun_ready txDescSize rxDescSize (n := ⟨⟨probed macType ok, ret⟩, mtu,
      watchdogTimeo, resetRequested⟩) (probed_ready macType ok) cs).1.conserves rfl ⟨rfl, rfl⟩ p
  rw [Intfc.accounted, hl, append_nil] at h₁ h₂
  exact ⟨hl, h₁, h₂⟩

/-- Without ZC, along `probeCalls` from `probedPf` every address is held as often as it was
handed out and not given back. -/
theorem driver_conserves_memory_without_zc_probedPf :
    (∀ c ∈ probeCalls, c.usage = 0) ∧
      (let s := (driverRun 16 16 ⟨⟨probed .pf fun _ => true, 0⟩, 1500, 5000, false⟩ probeCalls).host.dev
      s.leaked = [] ∧
        (s.ringsHeld ++ s.listsHeld).count 0 + s.mem.releasedPtrs.count 0 = s.mem.allocated.count 0 ∧
        (s.ringsHeld ++ s.listsHeld).count 0 + s.mem.releasedPtrs.count 0 ≤ 1) :=
  ⟨by decide, driver_conserves_memory_without_zc 16 16 .pf (fun _ => true) 0 1500 5000 false
    probeCalls (by decide) 0⟩

/-- **The rings across the whole table, without ZC.** From any state meeting the stack's
invariant, along every sequence of calls of `fm10k_netdev_ops` and of the reset path with no
ZC application: whenever the interface runs and the last open or reconfiguration returned
`0`, every ring is set up, and nothing was ever discarded while held. -/
theorem driver_rings_set_up_without_zc (n : Netdev) (hi : HostInv txDescSize rxDescSize n.host)
    (cs : List DriverCall) (hu : ∀ c ∈ cs, c.usage = 0) :
    ((driverRun txDescSize rxDescSize n cs).host.dev.running = true →
        (driverRun txDescSize rxDescSize n cs).host.ret = 0 →
        (driverRun txDescSize rxDescSize n cs).host.dev.RingsSetUp txDescSize rxDescSize) ∧
      (driverRun txDescSize rxDescSize n cs).host.dev.leaked = n.host.dev.leaked :=
  ⟨(driverRun_hostInv txDescSize rxDescSize hi cs hu).1.setUp,
    (driverRun_hostInv txDescSize rxDescSize hi cs hu).2⟩

/-- Without ZC, the rings are set up whenever `probedPf` runs along `probeCalls`. -/
theorem driver_rings_set_up_without_zc_probedPf :
    HostInv 16 16 probedPf.host ∧ (∀ c ∈ probeCalls, c.usage = 0) ∧
      ((driverRun 16 16 probedPf probeCalls).host.dev.running = true →
        (driverRun 16 16 probedPf probeCalls).host.ret = 0 →
        (driverRun 16 16 probedPf probeCalls).host.dev.RingsSetUp 16 16) ∧
      (driverRun 16 16 probedPf probeCalls).host.dev.leaked = probedPf.host.dev.leaked :=
  ⟨probed_hostInv 16 16 _ _ 0, by decide,
    driver_rings_set_up_without_zc 16 16 probedPf (probed_hostInv 16 16 _ _ 0) probeCalls
      (by decide)⟩

/-! ### The `net_device` fields -/

/-- The MTU in the range `fm10k_change_mtu` accepts, and the watchdog timeout below twice
`TX_TIMEO_LIMIT`. -/
structure Netdev.Bounded (n : Netdev) : Prop where
  mtu_ge : 68 ≤ n.mtu
  mtu_le : n.mtu ≤ FM10K_MAX_JUMBO_FRAME_SIZE
  watchdog_lt : n.watchdogTimeo < 2 * TX_TIMEO_LIMIT

/-- One call keeps the bounds and never shortens the watchdog timeout: only
`fm10k_change_mtu` writes the MTU, after its range check, and only a fake Tx hang the
watchdog timeout, doubling it below `TX_TIMEO_LIMIT`. -/
theorem driverStep_bounded {n : Netdev} (hb : n.Bounded) (c : DriverCall) :
    (driverStep txDescSize rxDescSize n c).Bounded ∧
      n.watchdogTimeo ≤ (driverStep txDescSize rxDescSize n c).watchdogTimeo := by
  cases c
  case changeMtu newMtu =>
    simp only [driverStep, changeMtu]
    split
    · exact ⟨⟨hb.mtu_ge, hb.mtu_le, hb.watchdog_lt⟩, le_rfl⟩
    · next h =>
      simp only [FM10K_MAX_JUMBO_FRAME_SIZE, not_or, not_lt, not_le] at h
      have e := Int.toNat_of_nonneg (by omega : 0 ≤ newMtu)
      show Netdev.Bounded { n with mtu := newMtu.toNat } ∧ n.watchdogTimeo ≤ n.watchdogTimeo
      exact ⟨⟨by dsimp only; omega, by simp only [FM10K_MAX_JUMBO_FRAME_SIZE]; omega,
        hb.watchdog_lt⟩, le_rfl⟩
  case txTimeout usage hang =>
    simp only [driverStep, txTimeout]
    split_ifs with h₁ h₂ h₃
    · exact ⟨hb, le_rfl⟩
    · exact ⟨⟨hb.mtu_ge, hb.mtu_le, hb.watchdog_lt⟩, le_rfl⟩
    · show Netdev.Bounded { n with watchdogTimeo := n.watchdogTimeo * 2 } ∧
        n.watchdogTimeo ≤ n.watchdogTimeo * 2
      simp only [TX_TIMEO_LIMIT] at h₃
      exact ⟨⟨hb.mtu_ge, hb.mtu_le, by simp only [TX_TIMEO_LIMIT]; omega⟩, by omega⟩
    · exact ⟨hb, le_rfl⟩
  all_goals exact ⟨⟨hb.mtu_ge, hb.mtu_le, hb.watchdog_lt⟩, le_rfl⟩

/-- **The `net_device` fields over a run.** From an MTU in range and a watchdog timeout below
twice `TX_TIMEO_LIMIT`, along every sequence of calls: the MTU stays in range, and the
watchdog timeout only grows and stays below twice `TX_TIMEO_LIMIT`. -/
theorem driverRun_netdev_bounds {n : Netdev} (hb : n.Bounded) :
    ∀ cs, (driverRun txDescSize rxDescSize n cs).Bounded ∧
      n.watchdogTimeo ≤ (driverRun txDescSize rxDescSize n cs).watchdogTimeo
  | [] => ⟨hb, le_rfl⟩
  | c :: cs =>
    have h₁ := driverStep_bounded txDescSize rxDescSize hb c
    have h₂ := driverRun_netdev_bounds h₁.1 cs
    ⟨h₂.1, h₁.2.trans h₂.2⟩

/-- The MTU and the watchdog timeout stay in bounds along `probeCalls` from `probedPf`. -/
theorem driverRun_netdev_bounds_probedPf :
    probedPf.Bounded ∧ (driverRun 16 16 probedPf probeCalls).Bounded ∧
      probedPf.watchdogTimeo ≤ (driverRun 16 16 probedPf probeCalls).watchdogTimeo :=
  have hb : probedPf.Bounded := ⟨by decide, by decide, by decide⟩
  ⟨hb, driverRun_netdev_bounds 16 16 hb probeCalls⟩

end Main

end Fm10k
