import Fm10k.Intfc

/-!
# UDP Tunnel Ports

The PF offloads one VXLAN and one GENEVE UDP port at a time, but the stack may announce many.
The driver keeps every announced port in a list per tunnel type (`vxlan_port`,
`geneve_port`), moves a re-announced port to the tail, and programs the head of each list
into `FM10K_TUNNEL_CFG` and `FM10K_TUNNEL_CFG_GENEVE`.

The register `FM10K_TUNNEL_CFG` is modelled by its two fields: the VXLAN port (the low 16
bits, `tunnelCfgPort`) and the NVGRE ethertype above it (`tunnelCfgNvgre`). Ports are kept
big-endian, as the stack hands them over; `ntohs` is the byte swap of a little-endian host.

The abstract machine `AbsTunnel` is the specification: two move-to-back lists of keys
`(port, family)`, where adding an absent key consumes one allocation attempt and appends the
key only if the attempt succeeds.

## Main results

* `removeTunnelPort_keys`, `insertTunnelPort_keys`: the list operations on keys.
* `tunnelStep_refines`: one notification refines one abstract step and keeps the lists free
  of duplicate keys and the registers on the heads.
* `udp_tunnel_refines`: the same along every sequence of notifications.
* `freeUdpPortInfo_eq`: `fm10k_free_udp_port_info` frees and unlinks every VXLAN entry but
  only the head of the GENEVE list, whose loop takes its next entry from the VXLAN list;
  `free_udp_port_info_keeps_geneve`: so two GENEVE ports or more are left behind.
-/

namespace Fm10k

open List

/-- `UDP_TUNNEL_TYPE_*`: the tunnel types the driver knows, and any other. -/
inductive UdpTunnelType
  | vxlan
  | geneve
  | other (code : Nat)
  deriving DecidableEq, Repr

/-- `struct udp_tunnel_info`. -/
structure UdpTunnelInfo where
  type : UdpTunnelType
  port : Nat
  saFamily : Nat
  deriving DecidableEq, Repr

/-- `ntohs` on a little-endian host. -/
def ntohs (x : Nat) : Nat :=
  x % 256 * 256 + x / 256 % 256

/-- `ETH_P_TEB`, the ethertype of transparent Ethernet bridging. -/
def ETH_P_TEB : Nat := 0x6558

/-- The key an entry is found by: its port and family. -/
def UdpPort.key (p : UdpPort) : Nat × Nat := (p.port, p.saFamily)

/-- The key a notification names. -/
def UdpTunnelInfo.key (ti : UdpTunnelInfo) : Nat × Nat := (ti.port, ti.saFamily)

/-- The value a tunnel register takes from a port list: the host-order port of its head,
`0` for an empty list. -/
def headPort (ports : List UdpPort) : Nat :=
  match ports with
  | [] => 0
  | p :: _ => ntohs p.port

/-- `fm10k_restore_udp_port_info`: on a PF, program the head of each list. -/
def restoreUdpPortInfo (s : Intfc) : Intfc :=
  if s.macType ≠ .pf then s
  else { s with
    tunnelCfgPort := headPort s.vxlanPort
    tunnelCfgNvgre := ETH_P_TEB
    tunnelCfgGeneve := headPort s.genevePort }

/-- Restoring the tunnel ports writes the tunnel registers only. -/
theorem restoreUdpPortInfo_frame (s : Intfc) :
    ∃ a b c, restoreUdpPortInfo s =
      { s with tunnelCfgPort := a, tunnelCfgNvgre := b, tunnelCfgGeneve := c } := by
  unfold restoreUdpPortInfo
  split
  · exact ⟨_, _, _, rfl⟩
  · exact ⟨_, _, _, rfl⟩

/-- `fm10k_remove_tunnel_port`: unlink and return the first entry with the port and the
family of `ti`. -/
def removeTunnelPort : List UdpPort → UdpTunnelInfo → Option UdpPort × List UdpPort
  | [], _ => (none, [])
  | p :: ps, ti =>
    if p.port = ti.port ∧ p.saFamily = ti.saFamily then (some p, ps)
    else
      let (r, ps) := removeTunnelPort ps ti
      (r, p :: ps)

/-- `fm10k_insert_tunnel_port`: move an existing entry to the tail, or `kmalloc` a new
entry there; give up if the allocation fails. -/
def insertTunnelPort (m : Mem) (ports : List UdpPort) (ti : UdpTunnelInfo) :
    Mem × List UdpPort :=
  match removeTunnelPort ports ti with
  | (some p, ps) => (m, ps ++ [p])
  | (none, ps) =>
    match m.alloc with
    | (none, m) => (m, ps)
    | (some q, m) => (m, ps ++ [⟨q, ti.port, ti.saFamily⟩])

/-- `fm10k_udp_tunnel_add`. -/
def udpTunnelAdd (s : Intfc) (ti : UdpTunnelInfo) : Intfc :=
  if s.macType ≠ .pf then s
  else
    match ti.type with
    | .vxlan =>
      let (m, l) := insertTunnelPort s.mem s.vxlanPort ti
      restoreUdpPortInfo { s with mem := m, vxlanPort := l }
    | .geneve =>
      let (m, l) := insertTunnelPort s.mem s.genevePort ti
      restoreUdpPortInfo { s with mem := m, genevePort := l }
    | .other _ => s

/-- `kfree`, which ignores `NULL`. -/
def Intfc.kfreeOpt (s : Intfc) : Option UdpPort → Intfc
  | none => s
  | some p => s.kfree p.ptr

/-- `fm10k_udp_tunnel_del`. -/
def udpTunnelDel (s : Intfc) (ti : UdpTunnelInfo) : Intfc :=
  if s.macType ≠ .pf then s
  else
    match ti.type with
    | .vxlan =>
      let (p, l) := removeTunnelPort s.vxlanPort ti
      restoreUdpPortInfo ({ s with vxlanPort := l }.kfreeOpt p)
    | .geneve =>
      let (p, l) := removeTunnelPort s.genevePort ti
      restoreUdpPortInfo ({ s with genevePort := l }.kfreeOpt p)
    | .other _ => s

/-- The first loop of `fm10k_free_udp_port_info`: unlink and free the head of the VXLAN list
until it is empty. -/
def flushVxlanPorts : Mem → List UdpPort → Mem × List UdpPort
  | m, [] => (m, [])
  | m, p :: ps => flushVxlanPorts (m.release (.kfree p.ptr)) ps

/-- The second loop of `fm10k_free_udp_port_info`: unlink and free `port`, then take the
next `port` from the head of the *VXLAN* list, as the source does. `fuel` bounds the number
of iterations; every iteration unlinks an entry, so the number of entries suffices. -/
def freeGenevePorts : Nat → Intfc → Option UdpPort → Intfc
  | 0, s, _ => s
  | _ + 1, s, none => s
  | fuel + 1, s, some p =>
    let s := { s with vxlanPort := s.vxlanPort.erase p, genevePort := s.genevePort.erase p }
    let s := s.kfree p.ptr
    freeGenevePorts fuel s s.vxlanPort.head?

/-- `fm10k_free_udp_port_info`. -/
def freeUdpPortInfo (s : Intfc) : Intfc :=
  let (m, l) := flushVxlanPorts s.mem s.vxlanPort
  let s := { s with mem := m, vxlanPort := l }
  freeGenevePorts (s.vxlanPort.length + s.genevePort.length + 1) s s.genevePort.head?

/-! ### The list operations on keys -/

/-- **`fm10k_remove_tunnel_port`** erases the first entry with the key of `ti` and returns it, and
changes nothing when there is none. -/
theorem removeTunnelPort_keys (ti : UdpTunnelInfo) :
    ∀ ps : List UdpPort,
      (removeTunnelPort ps ti).2.map UdpPort.key = (ps.map UdpPort.key).erase ti.key ∧
      ((removeTunnelPort ps ti).1 = none ↔ ti.key ∉ ps.map UdpPort.key) ∧
      ((removeTunnelPort ps ti).1 = none → (removeTunnelPort ps ti).2 = ps) ∧
      ∀ p, (removeTunnelPort ps ti).1 = some p → p.key = ti.key
  | [] => by simp [removeTunnelPort]
  | p :: ps => by
    obtain ⟨ih₁, ih₂, ih₃, ih₄⟩ := removeTunnelPort_keys ti ps
    by_cases h : p.port = ti.port ∧ p.saFamily = ti.saFamily
    · have hk : p.key = ti.key := by simp [UdpPort.key, UdpTunnelInfo.key, h.1, h.2]
      simp [removeTunnelPort, h, hk, erase_cons]
    · have hk : p.key ≠ ti.key := by
        simpa [UdpPort.key, UdpTunnelInfo.key] using h
      have e : removeTunnelPort (p :: ps) ti =
          ((removeTunnelPort ps ti).1, p :: (removeTunnelPort ps ti).2) := by
        simp [removeTunnelPort, h]
      rw [e]
      exact ⟨by simp [ih₁, erase_cons, hk], by simp [ih₂, Ne.symm hk],
        fun h' => by simp [ih₃ h'], ih₄⟩

/-- The abstract **move-to-back** list: a present key moves to the back; an absent key takes
allocation attempt `next` and is appended only if that attempt succeeds. -/
def absAdd (ok : Nat → Bool) (next : Nat) (k : Nat × Nat) (l : List (Nat × Nat)) :
    Nat × List (Nat × Nat) :=
  if k ∈ l then (next, l.erase k ++ [k])
  else (next + 1, if ok next then l ++ [k] else l)

/-- The move-to-back list keeps its keys distinct. -/
theorem absAdd_nodup (ok : Nat → Bool) (next : Nat) (k : Nat × Nat) {l : List (Nat × Nat)}
    (h : l.Nodup) : (absAdd ok next k l).2.Nodup := by
  unfold absAdd
  split
  · exact h.erase k |>.append (nodup_singleton k) fun x hx hk => by
      simp at hk; subst hk; exact h.not_mem_erase hx
  · split
    · exact h.append (nodup_singleton k) fun x hx hk => by simp at hk; subst hk; contradiction
    · exact h

/-- `fm10k_insert_tunnel_port` is the abstract add on keys, attempt for attempt. -/
theorem insertTunnelPort_keys (m : Mem) (ps : List UdpPort) (ti : UdpTunnelInfo) :
    ((insertTunnelPort m ps ti).1.next, (insertTunnelPort m ps ti).2.map UdpPort.key) =
      absAdd m.ok m.next ti.key (ps.map UdpPort.key) ∧ (insertTunnelPort m ps ti).1.ok = m.ok := by
  obtain ⟨h₁, h₂, h₃, h₄⟩ := removeTunnelPort_keys ti ps
  have hnew : ∀ q, (⟨q, ti.port, ti.saFamily⟩ : UdpPort).key = ti.key := fun _ => rfl
  unfold insertTunnelPort
  rcases hr : removeTunnelPort ps ti with ⟨_ | p, ps'⟩ <;> simp only [hr] at h₁ h₂ h₃ h₄
  · have hk : ti.key ∉ ps.map UdpPort.key := h₂.1 trivial
    cases h₃ trivial
    rw [absAdd, if_neg hk]
    by_cases hok : m.ok m.next <;> simp [Mem.alloc, hok, hnew]
  · have hk : ti.key ∈ ps.map UdpPort.key := by simpa using h₂
    rw [absAdd, if_pos hk]
    simp [← h₁, h₄ p rfl]

/-! ### The abstract machine -/

/-- The abstract state of the tunnel-port lists: the number of the next allocation attempt
and the two move-to-back lists of keys. -/
structure AbsTunnel where
  next : Nat
  vxlan : List (Nat × Nat)
  geneve : List (Nat × Nat)
  deriving DecidableEq, Repr

/-- A notification from the stack. -/
inductive TunnelCall
  | add (ti : UdpTunnelInfo)
  | del (ti : UdpTunnelInfo)

/-- One notification, as the driver handles it. -/
def tunnelStep (s : Intfc) : TunnelCall → Intfc
  | .add ti => udpTunnelAdd s ti
  | .del ti => udpTunnelDel s ti

/-- One notification, as the specification describes it; other tunnel types are ignored. -/
def AbsTunnel.step (ok : Nat → Bool) (a : AbsTunnel) : TunnelCall → AbsTunnel
  | .add ti =>
    match ti.type with
    | .vxlan => let r := absAdd ok a.next ti.key a.vxlan; { a with next := r.1, vxlan := r.2 }
    | .geneve => let r := absAdd ok a.next ti.key a.geneve; { a with next := r.1, geneve := r.2 }
    | .other _ => a
  | .del ti =>
    match ti.type with
    | .vxlan => { a with vxlan := a.vxlan.erase ti.key }
    | .geneve => { a with geneve := a.geneve.erase ti.key }
    | .other _ => a

/-- What the specification sees of an interface. -/
def absTunnel (s : Intfc) : AbsTunnel :=
  ⟨s.mem.next, s.vxlanPort.map UdpPort.key, s.genevePort.map UdpPort.key⟩

/-- The tunnel invariant: no key twice in a list, and each register on its list's head. -/
structure TunnelInv (s : Intfc) : Prop where
  vxlan_nodup : (s.vxlanPort.map UdpPort.key).Nodup
  geneve_nodup : (s.genevePort.map UdpPort.key).Nodup
  cfg_port : s.tunnelCfgPort = headPort s.vxlanPort
  cfg_geneve : s.tunnelCfgGeneve = headPort s.genevePort

/-- **One notification refines one abstract step** and keeps the tunnel invariant. -/
theorem tunnelStep_refines {s : Intfc} (hpf : s.macType = .pf) (hi : TunnelInv s)
    (c : TunnelCall) :
    absTunnel (tunnelStep s c) = (absTunnel s).step s.mem.ok c ∧ TunnelInv (tunnelStep s c) ∧
      (tunnelStep s c).macType = .pf ∧ (tunnelStep s c).mem.ok = s.mem.ok := by
  rcases c with ti | ti <;> rcases hty : ti.type with _ | _ | code
  · obtain ⟨hk, hok⟩ := insertTunnelPort_keys s.mem s.vxlanPort ti
    have hn := absAdd_nodup s.mem.ok s.mem.next ti.key hi.vxlan_nodup
    simp only [Prod.ext_iff] at hk
    simp [tunnelStep, udpTunnelAdd, hpf, hty, restoreUdpPortInfo, absTunnel, AbsTunnel.step,
      hk.1, hk.2, hok]
    exact ⟨by rw [hk.2]; exact hn, hi.geneve_nodup, rfl, rfl⟩
  · obtain ⟨hk, hok⟩ := insertTunnelPort_keys s.mem s.genevePort ti
    have hn := absAdd_nodup s.mem.ok s.mem.next ti.key hi.geneve_nodup
    simp only [Prod.ext_iff] at hk
    simp [tunnelStep, udpTunnelAdd, hpf, hty, restoreUdpPortInfo, absTunnel, AbsTunnel.step,
      hk.1, hk.2, hok]
    exact ⟨hi.vxlan_nodup, by rw [hk.2]; exact hn, rfl, rfl⟩
  · simp [tunnelStep, udpTunnelAdd, hpf, hty, AbsTunnel.step, hi]
  · obtain ⟨hk, -⟩ := removeTunnelPort_keys ti s.vxlanPort
    have hn : ((removeTunnelPort s.vxlanPort ti).2.map UdpPort.key).Nodup := by
      rw [hk]; exact hi.vxlan_nodup.erase _
    cases hp : (removeTunnelPort s.vxlanPort ti).1 <;>
      simp [tunnelStep, udpTunnelDel, hpf, hty, restoreUdpPortInfo, absTunnel,
        AbsTunnel.step, hp, hk, Intfc.kfreeOpt, Intfc.kfree] <;>
      exact ⟨hn, hi.geneve_nodup, rfl, rfl⟩
  · obtain ⟨hk, -⟩ := removeTunnelPort_keys ti s.genevePort
    have hn : ((removeTunnelPort s.genevePort ti).2.map UdpPort.key).Nodup := by
      rw [hk]; exact hi.geneve_nodup.erase _
    cases hp : (removeTunnelPort s.genevePort ti).1 <;>
      simp [tunnelStep, udpTunnelDel, hpf, hty, restoreUdpPortInfo, absTunnel,
        AbsTunnel.step, hp, hk, Intfc.kfreeOpt, Intfc.kfree] <;>
      exact ⟨hi.vxlan_nodup, hn, rfl, rfl⟩
  · simp [tunnelStep, udpTunnelDel, hpf, hty, AbsTunnel.step, hi]

/-- A sequence of notifications, as the driver handles them. -/
def tunnelRun (s : Intfc) (cs : List TunnelCall) : Intfc :=
  cs.foldl tunnelStep s

/-- **The tunnel-port lists refine the abstract move-to-back lists** along every sequence of
notifications, with any allocation outcomes: the lists' keys are those of the abstract
machine, no key occurs twice, and both registers hold the heads. -/
theorem udp_tunnel_refines (s : Intfc) (hpf : s.macType = .pf) (hi : TunnelInv s)
    (cs : List TunnelCall) :
    absTunnel (tunnelRun s cs) = cs.foldl (AbsTunnel.step s.mem.ok) (absTunnel s) ∧
      TunnelInv (tunnelRun s cs) := by
  induction cs generalizing s with
  | nil => exact ⟨rfl, hi⟩
  | cons c cs ih =>
    obtain ⟨ha, hi', hpf', hok⟩ := tunnelStep_refines hpf hi c
    have := ih (tunnelStep s c) hpf' hi'
    rw [hok, ha] at this
    exact this

/-- The refinement on a freshly probed PF whose allocator fails its second attempt: a VXLAN
port added twice, a GENEVE port whose entry cannot be allocated, and the VXLAN port
deleted. -/
theorem udp_tunnel_refines_probe :
    let s := Intfc.zeroed .pf ⟨0, fun n => n != 1, [], []⟩
    let vx : UdpTunnelInfo := ⟨.vxlan, 0xB512, 2⟩
    let cs := [.add vx, .add vx, .add ⟨.geneve, 0xC117, 2⟩, .del vx]
    s.macType = .pf ∧ TunnelInv s ∧
      absTunnel (tunnelRun s cs) = cs.foldl (AbsTunnel.step s.mem.ok) (absTunnel s) ∧
      TunnelInv (tunnelRun s cs) :=
  ⟨rfl, ⟨by decide, by decide, rfl, rfl⟩,
    udp_tunnel_refines _ rfl ⟨by decide, by decide, rfl, rfl⟩ _⟩

/-! ### Teardown -/

/-- The first loop of `fm10k_free_udp_port_info` frees the VXLAN entries in list order and
empties the list. -/
theorem flushVxlanPorts_eq : ∀ (m : Mem) (ps : List UdpPort),
    flushVxlanPorts m ps = ({ m with released := m.released ++ ps.map fun p => .kfree p.ptr }, [])
  | m, [] => by simp [flushVxlanPorts]
  | m, p :: ps => by
    rw [flushVxlanPorts, flushVxlanPorts_eq]
    simp [Mem.release]

/-- The second loop after the first: it frees the head of the GENEVE list, then takes the
next entry from the VXLAN list, which is empty, and stops. -/
theorem freeGenevePorts_of_vxlan_nil {s : Intfc} (h : s.vxlanPort = []) (fuel : Nat)
    (p : UdpPort) :
    freeGenevePorts (fuel + 1) s (some p) =
      ({ s with genevePort := s.genevePort.erase p }).kfree p.ptr := by
  cases fuel <;> simp [freeGenevePorts, h, Intfc.kfree]

/-- What `fm10k_free_udp_port_info` does: the VXLAN list emptied with each entry freed, the
head of the GENEVE list freed and unlinked, and nothing else. -/
theorem freeUdpPortInfo_eq (s : Intfc) :
    freeUdpPortInfo s = { s with
      mem := { s.mem with
        released := s.mem.released ++ (s.vxlanPort ++ s.genevePort.take 1).map fun p => .kfree p.ptr }
      vxlanPort := []
      genevePort := s.genevePort.tail } := by
  unfold freeUdpPortInfo
  rw [flushVxlanPorts_eq]
  dsimp only
  cases hg : s.genevePort with
  | nil => simp [freeGenevePorts]
  | cons p ps =>
    rw [List.head?_cons, show ([] : List UdpPort).length + (p :: ps).length + 1 = ps.length + 1 + 1
      by simp, freeGenevePorts_of_vxlan_nil rfl]
    simp [Intfc.kfree, Mem.release]

/-- **`fm10k_free_udp_port_info` leaves GENEVE ports behind.** Its second loop takes the next
entry from the head of the VXLAN list, which the first loop emptied, so it stops after one
entry: with two or more GENEVE ports, the list is not emptied and every entry after the first
is never freed. -/
theorem free_udp_port_info_keeps_geneve (s : Intfc) (h : 2 ≤ s.genevePort.length) :
    (freeUdpPortInfo s).vxlanPort = [] ∧ (freeUdpPortInfo s).genevePort = s.genevePort.tail ∧
      (freeUdpPortInfo s).genevePort ≠ [] ∧
      (freeUdpPortInfo s).mem.released =
        s.mem.released ++ (s.vxlanPort ++ s.genevePort.take 1).map fun p => .kfree p.ptr := by
  rw [freeUdpPortInfo_eq]
  refine ⟨rfl, rfl, fun he => ?_, rfl⟩
  have := congrArg List.length he
  rw [List.length_tail] at this
  simp at this
  omega

/-- A PF with no VXLAN port and two GENEVE ports. -/
def twoGenevePf : Intfc :=
  { Intfc.zeroed .pf ⟨2, fun _ => true, [0, 1], []⟩ with
    genevePort := [⟨0, 0xC117, 2⟩, ⟨1, 0xC217, 2⟩] }

/-- `fm10k_free_udp_port_info` on `twoGenevePf` frees the first GENEVE entry and keeps the second.
-/
theorem free_udp_port_info_keeps_geneve_twoGenevePf :
    2 ≤ twoGenevePf.genevePort.length ∧
      (freeUdpPortInfo twoGenevePf).vxlanPort = [] ∧
      (freeUdpPortInfo twoGenevePf).genevePort = twoGenevePf.genevePort.tail ∧
      (freeUdpPortInfo twoGenevePf).genevePort ≠ [] ∧
      (freeUdpPortInfo twoGenevePf).mem.released = twoGenevePf.mem.released ++
        (twoGenevePf.vxlanPort ++ twoGenevePf.genevePort.take 1).map fun p => .kfree p.ptr :=
  ⟨by decide, free_udp_port_info_keeps_geneve _ (by decide)⟩

end Fm10k
