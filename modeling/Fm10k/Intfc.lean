import Fm10k.Ring

/-!
# The Interface

`struct fm10k_intfc` is the one object every entry point of `fm10k_netdev.c` receives. `Intfc`
holds the fields the modelled functions read and write, flat, together with the parts of the
`net_device`, of `struct fm10k_hw` and of the kernel they depend on:

* the queues: the rings and their counts, with the kernel allocator `mem`;
* the PF_RING ZC state (`zombie`) and the IRQs the driver holds;
* the address and VLAN state: the base address, the active-VLAN bitmap, the default VLAN,
  the logical port's GLORT range and multicast mode, and the queue of requests waiting for
  the switch manager (`macvlanRequests`);
* the forwarding-acceleration tables, each at its own address in `l2Tables`, with the
  interface's pointer `l2Accel` (each receive ring keeps its own copy in `Ring.l2Accel`);
* the UDP tunnel port lists and the tunnel registers.

Two fields are not in the C structure. `mbx` logs, in order, the calls the driver makes to
the switch manager's mailbox operations, so that statements about the GLORTs the driver
programs can be made. `leaked` logs what `fm10k_clear_queueing_scheme` discards while a ring
still holds it: memory nothing can give back any more.
-/

namespace Fm10k

/-- `hw->mac.type`. -/
inductive MacType
  | pf
  | vf
  deriving DecidableEq, Repr

/-- The bits of `dev->flags` the driver reads. -/
structure NetFlags where
  up : Bool
  promisc : Bool
  allmulti : Bool
  broadcast : Bool
  multicast : Bool
  deriving DecidableEq, Repr

/-- `FM10K_XCAST_MODE_*`, the multicast mode of a logical port. -/
inductive XcastMode
  | allmulti
  | multi
  | promisc
  | none
  deriving DecidableEq, Repr

/-- The payload of a `struct fm10k_macvlan_request`, by its `type`: a multicast or unicast
MAC request for `(glort, addr, vid)`, or a VLAN request for `vid` (which may carry a run
length above bit 16) on switch port `vsi`. -/
inductive MacvlanRequestBody
  | mcMac (addr : MacAddr) (glort : Nat) (vid : Nat)
  | ucMac (addr : MacAddr) (glort : Nat) (vid : Nat)
  | vlan (vid : Nat) (vsi : Nat)
  deriving DecidableEq, Repr

/-- `struct fm10k_macvlan_request`: its address (it is `kfree`d by that address), its
payload and its set/clear flag. -/
structure MacvlanRequest where
  ptr : Nat
  body : MacvlanRequestBody
  set : Bool
  deriving DecidableEq, Repr

/-- `struct fm10k_l2_accel`: the table of secondary interfaces, `size` slots of which
`count` are in use, and the first GLORT of the range it hands out. A slot holds the address
of the secondary (macvlan) `struct net_device`, `NULL` when free. -/
structure L2Accel where
  size : Nat
  count : Nat
  dglort : Nat
  macvlan : List (Option Nat)
  deriving DecidableEq, Repr

/-- `struct fm10k_udp_port`: an offloaded UDP tunnel port (big-endian) and its address
family, at its own address. -/
structure UdpPort where
  ptr : Nat
  port : Nat
  saFamily : Nat
  deriving DecidableEq, Repr

/-- One call the driver makes to a mailbox operation of the switch manager
(`hw->mac.ops.*`). -/
inductive MbxCall
  | updateXcastMode (glort : Nat) (mode : XcastMode)
  | updateLportState (glort : Nat) (count : Nat) (enable : Bool)
  | configureDglortMap (glort : Nat) (sharedL : Nat)
  deriving DecidableEq, Repr

/-- `struct fm10k_intfc` with the parts of its `net_device` and `fm10k_hw` the modelled
functions use, and `sdevAddr`, the `dev_addr` of the secondary `net_device` at each address:
the stack owns those devices, and a macvlan may change its address between the driver's
calls. -/
structure Intfc where
  numTxQueues : Nat
  numRxQueues : Nat
  txRing : Nat → Ring TxBuffer
  rxRing : Nat → Ring RxBuffer
  mem : Mem
  zombie : Bool
  running : Bool
  flags : NetFlags
  ies : Bool
  devAddr : MacAddr
  qvIrq : Bool
  mbxIrq : Bool
  uioIrq : Bool
  macType : MacType
  macAddr : MacAddr
  defaultVid : Nat
  vlanOverride : Bool
  dglortMap : Nat
  totalVfs : Nat
  glort : Nat
  glortCount : Nat
  activeVlans : Nat → Bool
  vid : Nat
  xcastMode : XcastMode
  down : Bool
  hostReady : Bool
  macvlanRequests : List MacvlanRequest
  l2Accel : Option Nat
  l2Tables : Nat → Option L2Accel
  sdevAddr : Nat → MacAddr
  vxlanPort : List UdpPort
  genevePort : List UdpPort
  tunnelCfgPort : Nat
  tunnelCfgNvgre : Nat
  tunnelCfgGeneve : Nat
  mbx : List MbxCall
  leaked : List Nat

namespace Intfc

/-- One allocation attempt of the kernel allocator, from the interface's view. -/
def alloc (s : Intfc) : Option Nat × Intfc :=
  (s.mem.alloc.1, { s with mem := s.mem.alloc.2 })

/-- `kfree`. -/
def kfree (s : Intfc) (p : Nat) : Intfc :=
  { s with mem := s.mem.release (.kfree p) }

/-- Log a call to the switch manager. -/
def callMbx (s : Intfc) (c : MbxCall) : Intfc :=
  { s with mbx := s.mbx ++ [c] }

/-- The interface as `alloc_etherdev_mq` hands it to the probe routine: its private area
zeroed (no queues, empty rings, every list empty, every flag clear, every secondary address
zero), with the MAC type of the function and the kernel allocator given. -/
def zeroed (macType : MacType) (m : Mem) : Intfc where
  numTxQueues := 0
  numRxQueues := 0
  txRing := fun _ => Ring.fresh 0 (by decide)
  rxRing := fun _ => Ring.fresh 0 (by decide)
  mem := m
  zombie := false
  running := false
  flags := ⟨false, false, false, false, false⟩
  ies := false
  devAddr := ⟨0, 0, 0, 0, 0, 0⟩
  qvIrq := false
  mbxIrq := false
  uioIrq := false
  macType := macType
  macAddr := ⟨0, 0, 0, 0, 0, 0⟩
  defaultVid := 0
  vlanOverride := false
  dglortMap := 0
  totalVfs := 0
  glort := 0
  glortCount := 0
  activeVlans := fun _ => false
  vid := 0
  xcastMode := .none
  down := false
  hostReady := false
  macvlanRequests := []
  l2Accel := none
  l2Tables := fun _ => none
  sdevAddr := fun _ => ⟨0, 0, 0, 0, 0, 0⟩
  vxlanPort := []
  genevePort := []
  tunnelCfgPort := 0
  tunnelCfgNvgre := 0
  tunnelCfgGeneve := 0
  mbx := []
  leaked := []

@[simp] theorem callMbx_mbx (s : Intfc) (c : MbxCall) : (s.callMbx c).mbx = s.mbx ++ [c] := rfl
@[simp] theorem callMbx_mem (s : Intfc) (c : MbxCall) : (s.callMbx c).mem = s.mem := rfl
@[simp] theorem callMbx_macvlanRequests (s : Intfc) (c : MbxCall) :
    (s.callMbx c).macvlanRequests = s.macvlanRequests := rfl
@[simp] theorem callMbx_defaultVid (s : Intfc) (c : MbxCall) :
    (s.callMbx c).defaultVid = s.defaultVid := rfl

end Intfc

/-- `fm10k_host_mbx_ready`: a VF may always use its mailbox, a PF once its host is ready. -/
def hostMbxReady (s : Intfc) : Bool :=
  s.macType == .vf || s.hostReady

/-- The number of significant bits of `x`, counting at most `k` of them. -/
def flsBits : Nat → Nat → Nat
  | 0, _ => 0
  | k + 1, x => if x = 0 then 0 else flsBits k (x / 2) + 1

/-- `fls` on a 32-bit word: the position of the highest set bit, counting from 1; `0` for
`0`. -/
def fls (x : Nat) : Nat :=
  flsBits 32 (x % 2 ^ 32)

end Fm10k
