import Fm10k.MacvlanQueue

/-!
# The Switch's Tables

Modelled from the spec: the switch manager is outside the driver. It takes the requests of
`interface->macvlan_requests` in queue order and programs two tables from them:

* the VLAN table, one entry per VLAN id: a VLAN request with value `x` and flag `set` sets the
  ids `x mod 2^16` to `x mod 2^16 + x div 2^16` to `set` (the high half of the value is the
  length of the run after the first id, `FM10K_VLAN_LENGTH_SHIFT`);
* the MAC table, a set of `(glort, address, vid)` entries: a MAC request adds its entry when
  `set` and removes it otherwise.

Each table is a fold of one request at a time over the views of the requests
(`MacvlanRequest.view`), so what a stretch of driver calls does to a table follows from what
it `Emits`.

## Main results

* `vlanTable_of_noVlan`, `macTable_of_noMac`: requests of the other kind leave a table alone.
* `vlanApply_single`, `vlanApply_range`: what one VLAN request does to the VLAN table.
* `macTable_perVid`: what requests for one address on a list of VLANs do to the MAC table.
-/

namespace Fm10k

open List

/-- Whether a payload is a VLAN request. -/
def MacvlanRequestBody.isVlan : MacvlanRequestBody → Bool
  | .vlan _ _ => true
  | _ => false

/-! ### The VLAN table -/

/-- One request applied to the VLAN table. -/
def vlanApply (t : Nat → Bool) : MacvlanRequestBody × Bool → Nat → Bool
  | (.vlan x _, flag) => fun v => if x % 2 ^ 16 ≤ v ∧ v ≤ x % 2 ^ 16 + x / 2 ^ 16 then flag else t v
  | _ => t

/-- The VLAN table after the requests `L`, in order, from the table `t`. -/
def vlanTable (t : Nat → Bool) (L : List (MacvlanRequestBody × Bool)) : Nat → Bool :=
  L.foldl vlanApply t

@[simp] theorem vlanTable_nil (t : Nat → Bool) : vlanTable t [] = t := rfl

@[simp] theorem vlanTable_cons (t : Nat → Bool) (b : MacvlanRequestBody × Bool)
    (L : List (MacvlanRequestBody × Bool)) : vlanTable t (b :: L) = vlanTable (vlanApply t b) L :=
  rfl

@[simp] theorem vlanTable_append (t : Nat → Bool) (L₁ L₂ : List (MacvlanRequestBody × Bool)) :
    vlanTable t (L₁ ++ L₂) = vlanTable (vlanTable t L₁) L₂ :=
  foldl_append _ _ _ _

/-- A request covering a run: the entries from `start` to `start + len` take its flag. -/
theorem vlanApply_range (t : Nat → Bool) {start len : Nat} (h : start < 2 ^ 16) (vsi : Nat)
    (set : Bool) :
    vlanApply t (.vlan (start + len * 2 ^ 16) vsi, set) =
      fun v => if start ≤ v ∧ v ≤ start + len then set else t v := by
  have h₁ : (start + len * 2 ^ 16) % 2 ^ 16 = start := by omega
  have h₂ : (start + len * 2 ^ 16) / 2 ^ 16 = len := by omega
  simp only [vlanApply, h₁, h₂]

/-- A request for one id below `2^16` sets that entry only. -/
theorem vlanApply_single (t : Nat → Bool) {v : Nat} (h : v < 2 ^ 16) (vsi : Nat) (set : Bool) :
    vlanApply t (.vlan v vsi, set) = fun w => if w = v then set else t w := by
  have := @vlanApply_range t v 0 h vsi set
  simp only [Nat.zero_mul, Nat.add_zero] at this
  rw [this]
  funext w
  by_cases hw : w = v
  · simp [hw]
  · rw [if_neg hw, if_neg (by omega)]

/-- A MAC request leaves the VLAN table alone. -/
@[simp] theorem vlanApply_macRequestBody (t : Nat → Bool) (glort : Nat) (addr : MacAddr)
    (vid : Nat) (set : Bool) : vlanApply t (macRequestBody glort addr vid, set) = t := by
  rcases macRequestBody_cases glort addr vid with h | h <;> rw [h] <;> rfl

/-- Requests that are not VLAN requests leave the switch's VLAN table alone. -/
theorem vlanTable_of_noVlan (t : Nat → Bool) {L : List (MacvlanRequestBody × Bool)}
    (h : ∀ b ∈ L, b.1.isVlan = false) : vlanTable t L = t := by
  induction L generalizing t with
  | nil => rfl
  | cons b L ih =>
    obtain ⟨body, set⟩ := b
    cases body with
    | vlan => cases h _ (mem_cons_self _ _)
    | mcMac | ucMac => exact ih t fun b hb => h b (mem_cons_of_mem _ hb)

/-! ### The MAC table -/

/-- One request applied to the MAC table. -/
def macApply (t : Nat → MacAddr → Nat → Bool) :
    MacvlanRequestBody × Bool → Nat → MacAddr → Nat → Bool
  | (.mcMac a g v, flag) | (.ucMac a g v, flag) =>
    fun g' a' v' => if g' = g ∧ a' = a ∧ v' = v then flag else t g' a' v'
  | _ => t

/-- The MAC table after the requests `L`, in order, from the table `t`. -/
def macTable (t : Nat → MacAddr → Nat → Bool) (L : List (MacvlanRequestBody × Bool)) :
    Nat → MacAddr → Nat → Bool :=
  L.foldl macApply t

@[simp] theorem macTable_nil (t : Nat → MacAddr → Nat → Bool) : macTable t [] = t := rfl

@[simp] theorem macTable_cons (t : Nat → MacAddr → Nat → Bool) (b : MacvlanRequestBody × Bool)
    (L : List (MacvlanRequestBody × Bool)) : macTable t (b :: L) = macTable (macApply t b) L :=
  rfl

@[simp] theorem macTable_append (t : Nat → MacAddr → Nat → Bool)
    (L₁ L₂ : List (MacvlanRequestBody × Bool)) :
    macTable t (L₁ ++ L₂) = macTable (macTable t L₁) L₂ :=
  foldl_append _ _ _ _

/-- A MAC payload the driver builds sets or clears exactly its entry. -/
theorem macApply_macRequestBody (t : Nat → MacAddr → Nat → Bool) (glort : Nat) (addr : MacAddr)
    (vid : Nat) (set : Bool) :
    macApply t (macRequestBody glort addr vid, set) = fun g a v =>
      if g = glort % 2 ^ 16 ∧ a = addr ∧ v = vid % 2 ^ 16 then set else t g a v := by
  rcases macRequestBody_cases glort addr vid with h | h <;> rw [h] <;> rfl

/-- VLAN requests leave the switch's MAC table alone. -/
theorem macTable_of_noMac (t : Nat → MacAddr → Nat → Bool) {L : List (MacvlanRequestBody × Bool)}
    (h : ∀ b ∈ L, b.1.isVlan = true) : macTable t L = t := by
  induction L generalizing t with
  | nil => rfl
  | cons b L ih =>
    obtain ⟨body, set⟩ := b
    cases body with
    | vlan => exact ih t fun b hb => h b (mem_cons_of_mem _ hb)
    | mcMac | ucMac => cases h _ (mem_cons_self _ _)

/-- Requests for one address on each id of `ids`, each after some VLAN requests `pre v`, set
or clear the entries of the address on those ids. -/
theorem macTable_perVid (t : Nat → MacAddr → Nat → Bool) (glort : Nat) (addr : MacAddr)
    (set : Bool) (pre : Nat → List (MacvlanRequestBody × Bool))
    (hpre : ∀ v, ∀ b ∈ pre v, b.1.isVlan = true) :
    ∀ ids : List Nat, (∀ v ∈ ids, v < 2 ^ 16) →
      macTable t (ids.flatMap fun v => pre v ++ [(macRequestBody glort addr v, set)]) =
        fun g a v => if g = glort % 2 ^ 16 ∧ a = addr ∧ v ∈ ids then set else t g a v
  | [], _ => by funext g a v; simp
  | v :: vs, h => by
    rw [flatMap_cons, macTable_append, macTable_append, macTable_of_noMac _ (hpre v),
      macTable_cons, macTable_nil, macApply_macRequestBody,
      macTable_perVid _ glort addr set pre hpre vs fun w hw => h w (mem_cons_of_mem _ hw),
      Nat.mod_eq_of_lt (h v (mem_cons_self _ _))]
    funext g a w
    by_cases hg : g = glort % 2 ^ 16 ∧ a = addr
    · by_cases hw : w = v <;> simp [hg, hw]
    · have hn : ∀ {P : Prop}, ¬(g = glort % 2 ^ 16 ∧ a = addr ∧ P) := fun h => hg ⟨h.1, h.2.1⟩
      rw [if_neg hn, if_neg hn, if_neg hn]

/-! ### The tables after a stretch of calls -/

/-- A stretch of calls applies the requests it emits to the VLAN table. -/
theorem Emits.vlanTable {s s' : Intfc} {L : List (MacvlanRequestBody × Bool)} {M : List MbxCall}
    (h : Emits s s' L M) (t : Nat → Bool) :
    Fm10k.vlanTable t (s'.macvlanRequests.map MacvlanRequest.view) =
      Fm10k.vlanTable (Fm10k.vlanTable t (s.macvlanRequests.map MacvlanRequest.view)) L := by
  obtain ⟨Δ, hr, hv⟩ := h.requests
  rw [hr, map_append, hv, vlanTable_append]

/-- A stretch of calls applies the requests it emits to the MAC table. -/
theorem Emits.macTable {s s' : Intfc} {L : List (MacvlanRequestBody × Bool)} {M : List MbxCall}
    (h : Emits s s' L M) (t : Nat → MacAddr → Nat → Bool) :
    Fm10k.macTable t (s'.macvlanRequests.map MacvlanRequest.view) =
      Fm10k.macTable (Fm10k.macTable t (s.macvlanRequests.map MacvlanRequest.view)) L := by
  obtain ⟨Δ, hr, hv⟩ := h.requests
  rw [hr, map_append, hv, macTable_append]

end Fm10k
