import Mathlib

/-!
Payloads whose length follows from declared counts: a header, then groups of
fixed-width entries, each group as long as its count says. A decoder that
computes the length in `w`-bit arithmetic agrees with the counts exactly when the
length it computes does not wrap; then every index that lies inside a declared
group lies inside the payload.
-/

namespace VkRelay.Lib

/-- A signed count read as an unsigned `w`-bit number. -/
def wrapped (w : Nat) (count : Int) : Nat :=
  (count % 2 ^ w).toNat

theorem wrapped_eq_self {w : Nat} {count : Int} (hnonneg : 0 ≤ count) (hlt : count < 2 ^ w) :
    (wrapped w count : Int) = count := by
  have hmod : count % 2 ^ w = count := Int.emod_eq_of_lt hnonneg hlt
  rw [wrapped, hmod]
  exact Int.toNat_of_nonneg hnonneg

/-- A negative count reads as a number in the upper half. -/
theorem le_wrapped_of_neg {w : Nat} {count : Int} (hneg : count < 0) (hle : -2 ^ w ≤ 2 * count) :
    2 ^ w ≤ 2 * wrapped w count := by
  have hpos : (0 : Int) < 2 ^ w := by positivity
  have hmod : count % 2 ^ w = count + 2 ^ w := by
    rw [← Int.add_emod_right]
    exact Int.emod_eq_of_lt (by omega) (by omega)
  have hcast : ((2 ^ w : Nat) : Int) = 2 ^ w := by push_cast; rfl
  rw [wrapped, hmod]
  omega

/-- A payload: its length, the header, and for each group the declared count and
the width of an entry. -/
structure Arity where
  length : Nat
  header : Nat
  groups : List (Int × Nat)

namespace Arity

def spans (groups : List (Int × Nat)) : Int :=
  (groups.map fun group => group.1 * (group.2 : Int)).sum

def implied (a : Arity) : Int :=
  a.header + spans a.groups

/-- The length the counts imply once they are read as unsigned numbers. -/
def demand (w : Nat) (a : Arity) : Nat :=
  a.header + (a.groups.map fun group => wrapped w group.1 * group.2).sum

/-- No count is negative and the payload has the implied length. -/
def Matches (a : Arity) : Prop :=
  (∀ group ∈ a.groups, 0 ≤ group.1) ∧ (a.length : Int) = a.implied

/-- The index of component `k` of some entry of some group. -/
def Derives (a : Arity) (index : Nat) : Prop :=
  ∃ before group after i k, a.groups = before ++ group :: after ∧ (i : Int) < group.1 ∧
    k < group.2 ∧ (index : Int) =
      a.header + spans before + i * group.2 + k

/-- The count of a group is a `w`-bit number: an unsigned one, or a signed one
whose entries are more than one word wide. -/
def InWord (w : Nat) (group : Int × Nat) : Prop :=
  (0 ≤ group.1 ∧ group.1 < 2 ^ w) ∨ (2 ≤ group.2 ∧ -2 ^ w ≤ 2 * group.1 ∧ group.1 < 2 ^ w)

variable {w : Nat} {a : Arity}

theorem demand_eq_implied (hword : ∀ group ∈ a.groups, InWord w group)
    (hnonneg : ∀ group ∈ a.groups, 0 ≤ group.1) : (a.demand w : Int) = a.implied := by
  have hsum : (((a.groups.map fun group => wrapped w group.1 * group.2).sum : Nat) : Int) =
      spans a.groups := by
    rw [Nat.cast_list_sum, List.map_map, spans]
    congr 1
    apply List.map_congr_left
    intro group hgroup
    have hlt : group.1 < 2 ^ w := by
      rcases hword group hgroup with hword | hword
      · exact hword.2
      · exact hword.2.2
    simp [wrapped_eq_self (hnonneg group hgroup) hlt]
  simp only [demand, implied, Nat.cast_add, hsum]

/-- A negative count alone makes the demand reach the word size. -/
theorem nonneg_of_demand_lt (hword : ∀ group ∈ a.groups, InWord w group)
    (hfits : a.demand w < 2 ^ w) : ∀ group ∈ a.groups, 0 ≤ group.1 := by
  intro group hgroup
  by_contra hneg
  rcases hword group hgroup with ⟨hnonneg, -⟩ | ⟨hwidth, hlow, -⟩
  · exact hneg hnonneg
  · have hhalf := le_wrapped_of_neg (by omega) hlow
    have hone : wrapped w group.1 * group.2 ≤
        (a.groups.map fun group => wrapped w group.1 * group.2).sum :=
      List.single_le_sum (fun _ _ => Nat.zero_le _) _ (List.mem_map_of_mem hgroup)
    have htwo : 2 * wrapped w group.1 ≤ wrapped w group.1 * group.2 := by
      rw [Nat.mul_comm 2]
      exact Nat.mul_le_mul_left _ hwidth
    have hle : a.demand w ≥ 2 ^ w := by
      unfold demand
      omega
    omega

/-- A length computed in `w`-bit arithmetic is the implied one exactly when it
does not wrap. -/
theorem matches_iff_demand_lt (hword : ∀ group ∈ a.groups, InWord w group)
    (hlength : a.length = a.demand w % 2 ^ w) : a.Matches ↔ a.demand w < 2 ^ w := by
  constructor
  · rintro ⟨hnonneg, himplied⟩
    have hdemand := demand_eq_implied hword hnonneg
    have hself : a.demand w = a.demand w % 2 ^ w := by omega
    rw [hself]
    exact Nat.mod_lt _ (by positivity)
  · intro hfits
    have hnonneg := nonneg_of_demand_lt hword hfits
    rw [Nat.mod_eq_of_lt hfits] at hlength
    exact ⟨hnonneg, by rw [hlength, demand_eq_implied hword hnonneg]⟩

/-- A length compared with a quotient is the implied one exactly when no count is
negative. -/
theorem matches_iff_nonneg (hword : ∀ group ∈ a.groups, InWord w group)
    (hlength : a.length = a.demand w) : a.Matches ↔ ∀ group ∈ a.groups, 0 ≤ group.1 :=
  ⟨And.left, fun hnonneg => ⟨hnonneg, by rw [hlength, demand_eq_implied hword hnonneg]⟩⟩

/-- In a payload that matches its counts no derived index falls outside. -/
theorem Matches.index_lt (hmatches : a.Matches) {index : Nat} (hderives : a.Derives index) :
    index < a.length := by
  obtain ⟨hnonneg, hlength⟩ := hmatches
  obtain ⟨before, group, after, i, k, hgroups, hi, hk, hindex⟩ := hderives
  have hafter : 0 ≤ spans after := by
    apply List.sum_nonneg
    intro term hterm
    obtain ⟨other, hother, rfl⟩ := List.mem_map.mp hterm
    have := hnonneg other (by rw [hgroups]; simp [hother])
    positivity
  have hentry : ((i : Int) + 1) * group.2 ≤ group.1 * group.2 :=
    mul_le_mul_of_nonneg_right (by omega) (by omega)
  have himplied : a.implied = a.header + (spans before + (group.1 * group.2 + spans after)) := by
    simp [implied, spans, hgroups]
  rw [himplied] at hlength
  have hsplit : ((i : Int) + 1) * group.2 = i * group.2 + group.2 := by ring
  omega

end Arity

end VkRelay.Lib
