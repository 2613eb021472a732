import Mathlib

/-!
Finite tables keyed by natural numbers and iterated in ascending key order.
`Table` is the standard library's extensional tree map; this module only adds
the few facts about updating every entry in place that the library leaves to
its users.
-/

namespace VkRelay.Lib

/-- An ordered table. Two tables with the same entries are equal. -/
abbrev Table (α : Type*) := Std.ExtTreeMap Nat α compare

/-- A filter that keeps each element's key keeps the order of the keys. -/
theorem map_filterMap_sublist {α β κ : Type*} {keep : α → Option β} {key : β → κ} {source : α → κ}
    (hkey : ∀ x y, keep x = some y → key y = source x) (xs : List α) :
    ((xs.filterMap keep).map key).Sublist (xs.map source) := by
  induction xs with
  | nil => simp
  | cons x rest ih =>
    cases hkeep : keep x with
    | none => simpa [hkeep] using ih.cons (source x)
    | some y => simpa [hkeep, hkey x y hkeep] using ih.cons_cons (source x)

namespace Table

variable {α β : Type*}

variable (table : Table α) (key other : Nat)

@[simp] theorem getElem?_insert_eq (value : α) :
    (table.insert key value)[other]? = if key = other then some value else table[other]? := by
  simp [Std.ExtTreeMap.getElem?_insert]

@[simp] theorem getElem?_erase_eq :
    (table.erase key)[other]? = if key = other then none else table[other]? := by
  simp [Std.ExtTreeMap.getElem?_erase]

@[simp] theorem getElem?_modify_eq (change : α → α) : (table.modify key change)[other]? =
      if key = other then table[other]?.map change else table[other]? := by
  rw [Std.ExtTreeMap.getElem?_modify]
  by_cases hkey : key = other
  · simp [hkey]
  · simp [hkey]

theorem isSome_modify (change : α → α) :
    ((table.modify key change)[other]?).isSome = (table[other]?).isSome := by
  rw [getElem?_modify_eq]
  split
  · exact Option.isSome_map
  · rfl

@[simp] theorem getElem?_filter_eq (keep : α → Bool) :
    (table.filter fun _ value => keep value)[key]? = (table[key]?).filter keep := by
  rw [Std.ExtTreeMap.getElem?_filter]
  cases table[key]? <;> simp [Option.pfilter, Option.filter]

variable {table key other}

/-- What is found after an insertion is the new entry or an old one. -/
theorem insert_cases {value found : α} (hfound : (table.insert key value)[other]? = some found) :
    (key = other ∧ value = found) ∨ table[other]? = some found := by
  rw [getElem?_insert_eq] at hfound
  split_ifs at hfound with hkey
  · exact .inl ⟨hkey, Option.some.inj hfound⟩
  · exact .inr hfound

theorem of_erase {found : α} (hfound : (table.erase key)[other]? = some found) :
    table[other]? = some found := by
  rw [getElem?_erase_eq, Option.ite_none_left_eq_some] at hfound
  exact hfound.2

theorem of_filter {keep : α → Bool} {found : α}
    (hfound : (table.filter fun _ value => keep value)[key]? = some found) :
    table[key]? = some found := by
  rw [getElem?_filter_eq, Option.filter_eq_some_iff] at hfound
  exact hfound.1

variable (table)

theorem ext_lookup {first second : Table α} (hsame : ∀ key : Nat, first[key]? = second[key]?) :
    first = second :=
  Std.ExtTreeMap.ext_getElem? hsame

theorem mem_toList_iff (key : Nat) (value : α) :
    (key, value) ∈ table.toList ↔ table[key]? = some value :=
  Std.ExtTreeMap.mem_toList_iff_getElem?_eq_some

theorem nodup_keys_toList : (table.toList.map Prod.fst).Nodup := by
  have hdistinct := Std.ExtTreeMap.distinct_keys_toList (t := table)
  rw [List.Nodup, List.pairwise_map]
  exact hdistinct.imp fun hne heq => hne (by simp [heq])

end Table

end VkRelay.Lib
