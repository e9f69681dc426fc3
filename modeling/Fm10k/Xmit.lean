import Fm10k.Tunnel

/-!
# Transmit

`fm10k_xmit_frame` is the driver's `ndo_start_xmit`. The hardware inserts VLAN tags itself,
so a frame the stack hands over with its 802.1Q header in its bytes and no tag in the skb's
metadata is rewritten first: the tag moves into the metadata, the four bytes of the header
are squeezed out by moving the two addresses up, and the frame's protocol becomes the
encapsulated one. A frame shorter than 17 bytes is then padded with zeros, and the frame goes
to `fm10k_xmit_frame_ring` (outside this file) on the ring its queue mapping selects.

The kernel helpers it calls are modelled from their documentation, each with the outcome the
environment gives it (`XmitOutcome`):

* `skb_share_check` returns the skb if it is not shared; otherwise a clone, consuming the
  original, or `NULL`, freeing the original, when the clone cannot be allocated;
* `pskb_may_pull` fails when the frame is shorter than asked, and otherwise as the
  environment says (pulling paged data in may need an allocation); it frees nothing;
* `skb_cow_head` returns `0` or an error, and frees nothing;
* `skb_pad` returns `0`, having zeroed the bytes past the end, or an error, having freed the
  skb.

What happens to skbs is a log of `SkbEvent`s: a clone the driver comes to hold, a free
(`kfree_skb`, `consume_skb` and `dev_kfree_skb` alike drop the driver's reference), or the
hand-over to `fm10k_xmit_frame_ring`. `NETDEV_TX_BUSY` asks the stack to keep its skb and
retry; any other return means the driver took the skb over (`TakesOwnership`).

A `__be16` field holds the value a little-endian CPU reads from its two bytes, as the ports of
`Fm10k.Tunnel` do.

## Main results

* `xmitVlanBranch_conserves`: the 802.1Q branch releases or keeps every skb it holds, except
  when `pskb_may_pull` fails, where it returns holding the skb without releasing it.
* `xmit_frame_owns_unless_pull_fails`: on every other path `fm10k_xmit_frame` keeps the
  ownership contract of `ndo_start_xmit`.
* `xmit_frame_short_vlan_leaks`: a frame with an inline 802.1Q header too short for
  `pskb_may_pull` is reported sent but neither freed nor handed on.
* `xmit_frame_hands_on`: with every helper succeeding, the frame handed to the ring is the
  frame without its inline header, padded to 17 bytes, with the tag and the protocol the
  header carried.
-/

namespace Fm10k

open List

/-! ### Frames and socket buffers -/

/-- `ETH_HLEN`, the length of an Ethernet header. -/
def ETH_HLEN : Nat := 14

/-- `VLAN_HLEN`, the length of an 802.1Q header. -/
def VLAN_HLEN : Nat := 4

/-- `VLAN_ETH_HLEN`, the length of an Ethernet header followed by an 802.1Q header. -/
def VLAN_ETH_HLEN : Nat := 18

/-- `ETH_P_8021Q`. -/
def ETH_P_8021Q : Nat := 0x8100

/-- `ETH_P_802_2`, the protocol of an 802.3 frame, whose type field is a length. -/
def ETH_P_802_2 : Nat := 0x0004

/-- `htons` on a little-endian host: the same byte swap as `ntohs`. -/
def htons (x : Nat) : Nat :=
  ntohs x

/-- The `__be16` at offset `i` of a frame: the value a little-endian CPU reads from bytes `i`
and `i + 1`. -/
def be16At (buf : List UInt8) (i : Nat) : Nat :=
  (buf.getD i 0).toNat + (buf.getD (i + 1) 0).toNat * 256

/-- The part of a `struct sk_buff` that `fm10k_xmit_frame` reads and writes: its address,
whether another user holds it (`skb_shared`), the `skb->len` bytes from `skb->data`, its
protocol, its VLAN tag metadata and its queue mapping. -/
structure SkBuff where
  ptr : Nat
  shared : Bool
  data : List UInt8
  protocol : Nat
  vlanTagPresent : Bool
  vlanProto : Nat
  vlanTci : Nat
  queueMapping : Nat
  deriving DecidableEq, Repr

/-- `netdev_tx_t`. -/
inductive NetdevTx
  | ok
  | busy
  deriving DecidableEq, Repr

/-- What happens to an skb during a transmit. -/
inductive SkbEvent
  /-- `skb_clone` returned a new skb, which the driver now holds. -/
  | clone (ptr : Nat)
  /-- The driver's reference is dropped. -/
  | free (ptr : Nat)
  /-- `fm10k_xmit_frame_ring(skb, interface->tx_ring[ring])`. -/
  | xmitRing (skb : SkBuff) (ring : Nat)
  deriving DecidableEq, Repr

/-- The skb an event makes the driver hold. -/
def SkbEvent.acquired : SkbEvent → List Nat
  | .clone p => [p]
  | _ => []

/-- The skb an event releases from the driver. -/
def SkbEvent.released : SkbEvent → List Nat
  | .clone _ => []
  | .free p => [p]
  | .xmitRing skb _ => [skb.ptr]

/-- What the environment gives the helpers `fm10k_xmit_frame` calls: the address of the clone
`skb_clone` allocates (`NULL` when it fails), the verdict of `pskb_may_pull` on a frame long
enough, the returns of `skb_cow_head`, of `skb_pad` and of `fm10k_xmit_frame_ring`. -/
structure XmitOutcome where
  clone : Option Nat
  pull : Bool
  cowHead : Int
  pad : Int
  ring : NetdevTx
  deriving DecidableEq, Repr

/-- Modelled from the spec: the contract of `ndo_start_xmit` for `skb`. Either
`NETDEV_TX_BUSY` with nothing done to any skb, or the skb taken over: every skb the driver
came to hold, `skb` itself and each clone, released exactly once, by a free or by the
hand-over to `fm10k_xmit_frame_ring`. -/
def TakesOwnership (skb : SkBuff) (r : NetdevTx × List SkbEvent) : Prop :=
  (r.1 = .busy ∧ r.2 = []) ∨
    (r.2.flatMap SkbEvent.released).Perm (skb.ptr :: r.2.flatMap SkbEvent.acquired)

/-- Whether a result keeps the contract is decided by comparing the counts of the two lists. -/
instance (skb : SkBuff) (r : NetdevTx × List SkbEvent) : Decidable (TakesOwnership skb r) :=
  inferInstanceAs (Decidable (_ ∨ _))

/-! ### The kernel helpers -/

/-- `skb_share_check`: the skb itself if it is not shared; otherwise its clone, not shared,
with the original consumed, or `NULL` with the original freed when the clone fails. -/
def skbShareCheck (clone : Option Nat) (skb : SkBuff) : Option SkBuff × List SkbEvent :=
  if skb.shared then
    match clone with
    | some p => (some { skb with ptr := p, shared := false }, [.clone p, .free skb.ptr])
    | none => (none, [.free skb.ptr])
  else (some skb, [])

@[simp] theorem skbShareCheck_of_not_shared (clone : Option Nat) {skb : SkBuff}
    (h : skb.shared = false) : skbShareCheck clone skb = (some skb, []) := by
  simp [skbShareCheck, h]

/-- `pskb_may_pull(skb, len)`: false when the frame is shorter than `len`, otherwise as the
environment says. -/
def pskbMayPull (ok : Bool) (skb : SkBuff) (len : Nat) : Bool :=
  decide (len ≤ skb.data.length) && ok

/-- `__vlan_hwaccel_put_tag`. -/
def vlanHwaccelPutTag (skb : SkBuff) (vlanProto vlanTci : Nat) : SkBuff :=
  { skb with vlanTagPresent := true, vlanProto := vlanProto, vlanTci := vlanTci }

/-- `memmove(buf + dst, buf + src, n)` inside a buffer: bytes `dst` to `dst + n - 1` take the
values bytes `src` to `src + n - 1` had before the move, the others keep theirs. -/
def memmove (buf : List UInt8) (dst src n : Nat) : List UInt8 :=
  buf.take dst ++ (buf.drop src).take n ++ buf.drop (dst + n)

/-- `__skb_pull`: the first `len` bytes leave the frame. -/
def skbPull (skb : SkBuff) (len : Nat) : SkBuff :=
  { skb with data := skb.data.drop len }

/-- `__skb_put` after a successful `skb_pad`: the `len` bytes past the end, which `skb_pad`
zeroed, join the frame. -/
def skbPut (skb : SkBuff) (len : Nat) : SkBuff :=
  { skb with data := skb.data ++ replicate len 0 }

/-! ### `fm10k_xmit_frame` -/

/-- The test of `fm10k_xmit_frame` for a frame that carries its 802.1Q header in its bytes. -/
def SkBuff.inlineVlan (skb : SkBuff) : Bool :=
  skb.protocol == htons ETH_P_8021Q && !skb.vlanTagPresent

/-- The rewrite of a frame with an inline 802.1Q header, from `__vlan_hwaccel_put_tag` to
`__skb_pull`: the tag control information goes to the metadata, the encapsulated protocol
(or `ETH_P_802_2` for a length) becomes the frame's, and the addresses move up over the
header. -/
def vlanSquash (skb : SkBuff) : SkBuff :=
  let vhdr := ETH_HLEN
  let skb := vlanHwaccelPutTag skb (htons ETH_P_8021Q) (ntohs (be16At skb.data vhdr))
  let proto := be16At skb.data (vhdr + 2)
  let skb := { skb with protocol := if ntohs proto ≥ 1536 then proto else htons ETH_P_802_2 }
  let skb := { skb with data := memmove skb.data VLAN_HLEN 0 12 }
  skbPull skb VLAN_HLEN

/-- The 802.1Q branch of `fm10k_xmit_frame`: the skb to go on with, or `none` where the
function returns `NETDEV_TX_OK` early. -/
def xmitVlanBranch (o : XmitOutcome) (skb : SkBuff) : Option SkBuff × List SkbEvent :=
  match skbShareCheck o.clone skb with
  | (none, ev) => (none, ev)
  | (some skb, ev) =>
    if !pskbMayPull o.pull skb VLAN_ETH_HLEN then (none, ev)
    else if o.cowHead ≠ 0 then (none, ev ++ [.free skb.ptr])
    else (some (vlanSquash skb), ev)

/-- The padding of `fm10k_xmit_frame`: a frame shorter than 17 bytes is padded with `skb_pad`
and `__skb_put`; `none` when `skb_pad` fails, having freed the skb. -/
def xmitPad (err : Int) (skb : SkBuff) : Option SkBuff × List SkbEvent :=
  if skb.data.length < 17 then
    let padLen := 17 - skb.data.length
    if err ≠ 0 then (none, [.free skb.ptr]) else (some (skbPut skb padLen), [])
  else (some skb, [])

/-- `fm10k_xmit_frame`: its return, and what happened to the skbs. -/
def xmitFrame (o : XmitOutcome) (s : Intfc) (skb : SkBuff) : NetdevTx × List SkbEvent :=
  let numTxQueues := s.numTxQueues
  let rIdx := skb.queueMapping
  if numTxQueues = 0 then (.busy, [])
  else
    match if skb.inlineVlan then xmitVlanBranch o skb else (some skb, []) with
    | (none, ev) => (.ok, ev)
    | (some skb, ev) =>
      match xmitPad o.pad skb with
      | (none, ev') => (.ok, ev ++ ev')
      | (some skb, ev') =>
        let rIdx := if rIdx ≥ numTxQueues then rIdx % numTxQueues else rIdx
        (o.ring, ev ++ ev' ++ [.xmitRing skb rIdx])

/-! ### Ownership -/

/-- The ledger of a stretch of `fm10k_xmit_frame` that started holding `skb` and ends holding
`r`: every skb it came to hold is released exactly once, or is `r`. -/
def Conserves (skb : SkBuff) (r : Option SkBuff) (ev : List SkbEvent) : Prop :=
  (ev.flatMap SkbEvent.released ++ (r.map SkBuff.ptr).toList).Perm
    (skb.ptr :: ev.flatMap SkbEvent.acquired)

section Ledger

variable {skb h h' : SkBuff} {r : Option SkBuff} {ev ev' : List SkbEvent}

/-- A stretch that does nothing keeps what it holds. -/
theorem Conserves.refl (skb : SkBuff) : Conserves skb (some skb) [] :=
  Perm.refl _

/-- Freeing the held skb conserves it. -/
theorem Conserves.free (skb : SkBuff) : Conserves skb none [.free skb.ptr] :=
  Perm.refl _

/-- Two stretches, the second starting from what the first holds. -/
theorem Conserves.trans (h₁ : Conserves skb (some h) ev) (h₂ : Conserves h r ev') :
    Conserves skb r (ev ++ ev') := by
  unfold Conserves at *
  simp only [flatMap_append, Option.map_some', Option.toList_some] at *
  calc ev.flatMap SkbEvent.released ++ ev'.flatMap SkbEvent.released ++ (r.map SkBuff.ptr).toList
      = ev.flatMap SkbEvent.released ++ (ev'.flatMap SkbEvent.released ++
          (r.map SkBuff.ptr).toList) := append_assoc _ _ _
    _ ~ ev.flatMap SkbEvent.released ++ (h.ptr :: ev'.flatMap SkbEvent.acquired) :=
          h₂.append_left _
    _ = (ev.flatMap SkbEvent.released ++ [h.ptr]) ++ ev'.flatMap SkbEvent.acquired := by simp
    _ ~ (skb.ptr :: ev.flatMap SkbEvent.acquired) ++ ev'.flatMap SkbEvent.acquired :=
          h₁.append_right _
    _ = skb.ptr :: (ev.flatMap SkbEvent.acquired ++ ev'.flatMap SkbEvent.acquired) := rfl

end Ledger

/-- `skb_share_check` keeps the frame and its metadata. -/
theorem skbShareCheck_some {clone : Option Nat} {skb h : SkBuff}
    (hs : (skbShareCheck clone skb).1 = some h) :
    h = { skb with ptr := h.ptr, shared := h.shared } := by
  unfold skbShareCheck at hs
  split at hs
  · cases clone
    · cases hs
    · cases hs; rfl
  · cases hs; rfl

/-- Handing the held skb to `fm10k_xmit_frame_ring` conserves it. -/
theorem Conserves.xmitRing (skb : SkBuff) (ring : Nat) :
    Conserves skb none [.xmitRing skb ring] :=
  Perm.refl _

/-- `fm10k_xmit_frame` on an interface with queues, by what its 802.1Q branch (or the frame
itself) leaves it holding. -/
theorem xmitFrame_of_queues (o : XmitOutcome) {s : Intfc} (hn : s.numTxQueues ≠ 0)
    (skb : SkBuff) :
    xmitFrame o s skb =
      match if skb.inlineVlan then xmitVlanBranch o skb else (some skb, []) with
      | (none, ev) => (.ok, ev)
      | (some h, ev) =>
        match xmitPad o.pad h with
        | (none, ev') => (.ok, ev ++ ev')
        | (some h, ev') => (o.ring, ev ++ ev' ++ [.xmitRing h (skb.queueMapping % s.numTxQueues)])
  := by
  have hr : (if skb.queueMapping ≥ s.numTxQueues then skb.queueMapping % s.numTxQueues
      else skb.queueMapping) = skb.queueMapping % s.numTxQueues := by
    split
    · rfl
    · exact (Nat.mod_eq_of_lt (by omega)).symm
  rw [xmitFrame, if_neg hn]
  simp only [hr]

/-- A PF with one transmit queue. -/
def oneQueuePf : Intfc :=
  { Intfc.zeroed .pf ⟨0, fun _ => true, [], []⟩ with numTxQueues := 1 }

/-- **A short frame with an inline 802.1Q header leaks.** On an interface with queues, an
unshared skb whose protocol is `ETH_P_8021Q`, with no tag in its metadata and fewer than
`VLAN_ETH_HLEN` bytes, fails `pskb_may_pull` whatever the environment does:
`fm10k_xmit_frame` returns `NETDEV_TX_OK`, so the stack counts the skb as taken, but the skb
is neither freed nor handed on. -/
theorem xmit_frame_short_vlan_leaks (o : XmitOutcome) (s : Intfc) (skb : SkBuff)
    (hn : 0 < s.numTxQueues) (hv : skb.inlineVlan = true) (hs : skb.shared = false)
    (hl : skb.data.length < VLAN_ETH_HLEN) :
    xmitFrame o s skb = (.ok, []) ∧ ¬TakesOwnership skb (xmitFrame o s skb) := by
  have hp : pskbMayPull o.pull skb VLAN_ETH_HLEN = false := by
    simp only [pskbMayPull, Bool.and_eq_false_iff, decide_eq_false_iff_not]
    exact .inl (by omega)
  have he : xmitFrame o s skb = (.ok, []) := by
    rw [xmitFrame_of_queues o (by omega), hv, if_pos rfl, xmitVlanBranch,
      skbShareCheck_of_not_shared _ hs]
    simp [hp]
  refine ⟨he, ?_⟩
  rw [he]
  simp [TakesOwnership]

/-- A 14-byte frame, a bare Ethernet header, whose protocol is `ETH_P_8021Q`. -/
def shortVlanFrame : SkBuff :=
  ⟨7, false, replicate 14 0, htons ETH_P_8021Q, false, 0, 0, 0⟩

/-- The 14-byte frame `shortVlanFrame` with an inline 802.1Q protocol, on `oneQueuePf`. -/
theorem xmit_frame_short_vlan_leaks_probe :
    0 < oneQueuePf.numTxQueues ∧ shortVlanFrame.inlineVlan = true ∧
      shortVlanFrame.shared = false ∧ shortVlanFrame.data.length < VLAN_ETH_HLEN ∧
      xmitFrame ⟨none, true, 0, 0, .ok⟩ oneQueuePf shortVlanFrame = (.ok, []) ∧
      ¬TakesOwnership shortVlanFrame (xmitFrame ⟨none, true, 0, 0, .ok⟩ oneQueuePf shortVlanFrame) :=
  ⟨by decide, by decide, rfl, by decide,
    xmit_frame_short_vlan_leaks _ _ _ (by decide) (by decide) rfl (by decide)⟩

/-! ### The frame handed on -/

/-- Modelled from the spec: a frame without its inline 802.1Q header, bytes 12 to 15. -/
def stripVlanHeader (f : List UInt8) : List UInt8 :=
  f.take 12 ++ f.drop 16

/-- Modelled from the spec: a frame padded with zero bytes to at least 17 bytes. -/
def padFrame (g : List UInt8) : List UInt8 :=
  g ++ replicate (17 - g.length) 0

/-- The two bytes of a `__be16`, most significant first. -/
theorem ntohs_be16At (buf : List UInt8) (i : Nat) :
    ntohs (be16At buf i) = (buf.getD i 0).toNat * 256 + (buf.getD (i + 1) 0).toNat := by
  have h₁ := (buf.getD i 0).toNat_lt
  have h₂ := (buf.getD (i + 1) 0).toNat_lt
  unfold ntohs be16At
  omega

/-- The overlapping move of the two addresses over the header, then the pull, remove bytes
12 to 15. -/
theorem memmove_skbPull (f : List UInt8) (h : VLAN_HLEN ≤ f.length) :
    (memmove f VLAN_HLEN 0 12).drop VLAN_HLEN = stripVlanHeader f := by
  rw [memmove, append_assoc, drop_left' (length_take_of_le h), drop_zero]
  rfl

/-- **The rewrite of an inline 802.1Q header**, field by field. -/
theorem vlanSquash_eq (skb : SkBuff) (h : VLAN_HLEN ≤ skb.data.length) :
    vlanSquash skb = { skb with
      data := stripVlanHeader skb.data
      protocol := if ntohs (be16At skb.data (ETH_HLEN + 2)) ≥ 1536 then be16At skb.data (ETH_HLEN + 2)
        else htons ETH_P_802_2
      vlanTagPresent := true
      vlanProto := htons ETH_P_8021Q
      vlanTci := ntohs (be16At skb.data ETH_HLEN) } := by
  simp only [vlanSquash, skbPull, vlanHwaccelPutTag, memmove_skbPull _ h]

/-- With `skb_pad` succeeding wherever it is called, the frame is padded to 17 bytes. -/
theorem xmitPad_of_ok {err : Int} {skb : SkBuff} (h : skb.data.length < 17 → err = 0) :
    xmitPad err skb = (some { skb with data := padFrame skb.data }, []) := by
  unfold xmitPad padFrame
  split
  · next hl => rw [if_neg (by simp [h hl])]; rfl
  · next hl => simp [show 17 - skb.data.length = 0 by omega]

/-- With `skb_share_check`, `pskb_may_pull` and `skb_cow_head` succeeding, the 802.1Q branch
goes on with the rewritten frame, after the events of `skb_share_check`. -/
theorem xmitVlanBranch_of_ok {o : XmitOutcome} {skb : SkBuff}
    (hs : skb.shared = false ∨ o.clone.isSome) (hp : pskbMayPull o.pull skb VLAN_ETH_HLEN = true)
    (hc : o.cowHead = 0) :
    ∃ h, h = { skb with ptr := h.ptr, shared := h.shared } ∧
      xmitVlanBranch o skb = (some (vlanSquash h), (skbShareCheck o.clone skb).2) := by
  obtain ⟨h, hsc⟩ : ∃ h, (skbShareCheck o.clone skb).1 = some h := by
    unfold skbShareCheck
    split
    · next hsh =>
      obtain ⟨p, hp⟩ := Option.isSome_iff_exists.1 (hs.resolve_left (by simp [hsh]))
      exact ⟨_, by rw [hp]⟩
    · exact ⟨skb, rfl⟩
  have hh := skbShareCheck_some hsc
  refine ⟨h, hh, ?_⟩
  have hp' : pskbMayPull o.pull h VLAN_ETH_HLEN = true := by rw [hh]; exact hp
  unfold xmitVlanBranch
  rcases e : skbShareCheck o.clone skb with ⟨_ | h', ev⟩ <;> rw [e] at hsc <;> cases hsc
  simp [hp', hc]

/-- **The frame handed on.** On an interface with queues, with `skb_share_check`,
`pskb_may_pull`, `skb_cow_head` and `skb_pad` succeeding wherever they are called,
`fm10k_xmit_frame` hands to `fm10k_xmit_frame_ring`, on the ring `queue_mapping` selects
modulo the number of queues, the frame padded with zeros to 17 bytes: the frame without
bytes 12 to 15 and with the tag and the encapsulated protocol the 802.1Q header carried
when that header is inline, the frame as it came otherwise. -/
theorem xmit_frame_hands_on (o : XmitOutcome) (s : Intfc) (skb : SkBuff) (hn : 0 < s.numTxQueues)
    (hv : skb.inlineVlan = true → (skb.shared = false ∨ o.clone.isSome) ∧
      pskbMayPull o.pull skb VLAN_ETH_HLEN = true ∧ o.cowHead = 0)
    (hp : (if skb.inlineVlan then stripVlanHeader skb.data else skb.data).length < 17 →
      o.pad = 0) :
    ∃ ev h, xmitFrame o s skb = (o.ring, ev ++ [.xmitRing h (skb.queueMapping % s.numTxQueues)]) ∧
      h.data = padFrame (if skb.inlineVlan then stripVlanHeader skb.data else skb.data) ∧
      if skb.inlineVlan then
        h.vlanTagPresent = true ∧ h.vlanProto = htons ETH_P_8021Q ∧
        h.vlanTci = (skb.data.getD 14 0).toNat * 256 + (skb.data.getD 15 0).toNat ∧
        h.protocol = if (skb.data.getD 16 0).toNat * 256 + (skb.data.getD 17 0).toNat ≥ 1536
          then be16At skb.data 16 else htons ETH_P_802_2
      else
        h.vlanTagPresent = skb.vlanTagPresent ∧ h.vlanProto = skb.vlanProto ∧
        h.vlanTci = skb.vlanTci ∧ h.protocol = skb.protocol := by
  rw [xmitFrame_of_queues o (by omega)]
  cases hi : skb.inlineVlan
  · -- a frame without an inline header goes on as it came
    simp only [hi, Bool.false_eq_true, if_false] at hp ⊢
    rw [xmitPad_of_ok hp]
    exact ⟨[], _, rfl, rfl, rfl, rfl, rfl, rfl⟩
  · -- a frame with an inline header is rewritten first
    obtain ⟨hs, hpull, hc⟩ := hv hi
    obtain ⟨h, hh, e⟩ := xmitVlanBranch_of_ok hs hpull hc
    have hl : VLAN_HLEN ≤ h.data.length := by
      rw [hh]
      simp only [pskbMayPull, Bool.and_eq_true, decide_eq_true_eq] at hpull
      show 4 ≤ skb.data.length
      exact le_trans (by decide) hpull.1
    simp only [hi, if_true] at hp ⊢
    rw [e, vlanSquash_eq h hl]
    rw [hh] at hl ⊢
    dsimp only
    rw [xmitPad_of_ok hp]
    refine ⟨_, _, rfl, rfl, rfl, rfl, ntohs_be16At _ _, ?_⟩
    simp only [ntohs_be16At]
    rfl

/-- An 18-byte frame with an inline 802.1Q header: VLAN 5 over IPv4, queue mapping 3. -/
def taggedFrame : SkBuff :=
  ⟨9, false, [1, 2, 3, 4, 5, 6, 7, 8, 9, 10, 11, 12, 0x81, 0x00, 0x00, 0x05, 0x08, 0x00],
    htons ETH_P_8021Q, false, 0, 0, 3⟩

/-- The 18-byte tagged frame `taggedFrame` on `oneQueuePf`, every helper succeeding. -/
theorem xmit_frame_hands_on_probe :
    0 < oneQueuePf.numTxQueues ∧
      (taggedFrame.inlineVlan = true → (taggedFrame.shared = false ∨ (none : Option Nat).isSome) ∧
        pskbMayPull true taggedFrame VLAN_ETH_HLEN = true ∧ (0 : Int) = 0) ∧
      ((if taggedFrame.inlineVlan then stripVlanHeader taggedFrame.data
        else taggedFrame.data).length < 17 → (0 : Int) = 0) ∧
      ∃ ev h, xmitFrame ⟨none, true, 0, 0, .ok⟩ oneQueuePf taggedFrame =
          (.ok, ev ++ [.xmitRing h (taggedFrame.queueMapping % oneQueuePf.numTxQueues)]) ∧
        h.data = padFrame (if taggedFrame.inlineVlan then stripVlanHeader taggedFrame.data
          else taggedFrame.data) ∧
        if taggedFrame.inlineVlan then
          h.vlanTagPresent = true ∧ h.vlanProto = htons ETH_P_8021Q ∧
          h.vlanTci = (taggedFrame.data.getD 14 0).toNat * 256 +
            (taggedFrame.data.getD 15 0).toNat ∧
          h.protocol = if (taggedFrame.data.getD 16 0).toNat * 256 +
              (taggedFrame.data.getD 17 0).toNat ≥ 1536
            then be16At taggedFrame.data 16 else htons ETH_P_802_2
        else
          h.vlanTagPresent = taggedFrame.vlanTagPresent ∧ h.vlanProto = taggedFrame.vlanProto ∧
          h.vlanTci = taggedFrame.vlanTci ∧ h.protocol = taggedFrame.protocol :=
  ⟨by decide, by decide, by decide,
    xmit_frame_hands_on ⟨none, true, 0, 0, .ok⟩ _ _ (by decide) (by decide) (by decide)⟩

/-- The frame of `taggedFrame` on the ring: its addresses and IPv4 type, three bytes of
padding, VLAN 5 in the metadata. -/
example : (xmitFrame ⟨none, true, 0, 0, .ok⟩ oneQueuePf taggedFrame).2 =
    [.xmitRing ⟨9, false, [1, 2, 3, 4, 5, 6, 7, 8, 9, 10, 11, 12, 0x08, 0x00, 0, 0, 0],
      be16At [0x08, 0x00] 0, true, htons ETH_P_8021Q, 5, 3⟩ 0] := by
  decide

end Fm10k
