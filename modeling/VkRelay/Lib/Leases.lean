import VkRelay.Lib.Table

/-!
Items kept for as long as somebody holds a lease on them. A table maps handles to items,
each with its leases; giving up a lease takes it off every item and drops the items that
lose their last one. The number of leases is a sum over the table, so a counter can be
kept beside it.
-/

namespace VkRelay.Lib

namespace Table

variable {α : Type*} {table : Table α} {key : Nat} {value : α}

theorem nodup_toList (table : Table α) : table.toList.Nodup :=
  List.Nodup.of_map Prod.fst (nodup_keys_toList table)

theorem toList_insert_perm (value : α) (hnew : table[key]? = none) :
    (table.insert key value).toList.Perm ((key, value) :: table.toList) := by
  have hfresh : (key, value) ∉ table.toList := by
    rw [mem_toList_iff, hnew]
    simp
  rw [List.perm_ext_iff_of_nodup (nodup_toList _) (List.nodup_cons.mpr ⟨hfresh, nodup_toList _⟩)]
  rintro ⟨other, item⟩
  rw [List.mem_cons, mem_toList_iff, mem_toList_iff, getElem?_insert_eq, Prod.mk.injEq]
  split
  next hsame =>
      subst hsame
      simp [hnew, eq_comm]
  next hother => simp [Ne.symm hother]

theorem toList_erase_perm (hfound : table[key]? = some value) :
    table.toList.Perm ((key, value) :: (table.erase key).toList) := by
  have hback : (table.erase key).insert key value = table := by
    apply ext_lookup
    intro other
    by_cases hsame : key = other
    · simp [← hsame, hfound]
    · simp [hsame]
  have hnew : (table.erase key)[key]? = none := by simp
  simpa only [hback] using toList_insert_perm value hnew

def total (table : Table α) (weight : α → Nat) : Nat :=
  (table.toList.map fun entry => weight entry.2).sum

variable {weight : α → Nat}

theorem total_insert (value : α) (hnew : table[key]? = none) :
    total (table.insert key value) weight = weight value + table.total weight := by
  rw [total, ((toList_insert_perm value hnew).map _).sum_nat]
  rfl

theorem total_erase (hfound : table[key]? = some value) :
    table.total weight = weight value + total (table.erase key) weight := by
  rw [total, ((toList_erase_perm hfound).map _).sum_nat]
  rfl

/-- An entry that weighs nothing goes without a difference. -/
theorem total_erase_of_zero (hzero : ∀ value, table[key]? = some value → weight value = 0) :
    total (table.erase key) weight = table.total weight := by
  cases hfound : table[key]? with
  | none =>
    congr 1
    apply ext_lookup
    intro other
    rw [getElem?_erase_eq]
    split
    next hsame => rw [← hsame, hfound]
    next => rfl
  | some value => rw [total_erase hfound, hzero value hfound, Nat.zero_add]

theorem total_erase_le (table : Table α) (key : Nat) :
    total (table.erase key) weight ≤ table.total weight := by
  cases hfound : table[key]? with
  | none => exact (total_erase_of_zero (by simp [hfound])).le
  | some value =>
    rw [total_erase hfound]
    exact Nat.le_add_left _ _

/-- A weight that only some entries have, summed over those. -/
theorem total_ite (table : Table α) (keep : α → Prop) [DecidablePred keep] (weight : α → Nat) :
    (table.total fun value => if keep value then weight value else 0) =
      ((table.toList.filter fun entry => keep entry.2).map fun entry => weight entry.2).sum := by
  rw [total]
  induction table.toList with
  | nil => rfl
  | cons entry entries ih =>
    rw [List.map_cons, List.sum_cons, ih]
    by_cases hkeep : keep entry.2 <;> simp [hkeep]

variable {β : Type*}

theorem getElem?_foldl_erase (entries : List (Nat × β)) (table : Table α) (other : Nat) :
    (entries.foldl (fun t entry => t.erase entry.1) table)[other]? =
      if other ∈ entries.map Prod.fst then none else table[other]? := by
  induction entries generalizing table with
  | nil => simp
  | cons entry entries ih =>
    rw [List.foldl_cons, ih, getElem?_erase_eq, List.map_cons]
    by_cases hsame : entry.1 = other
    · simp [hsame]
    · have hother : (other = entry.1) = False := eq_false (Ne.symm hsame)
      simp only [List.mem_cons, hother, false_or, if_neg hsame]

theorem getElem?_foldl_insertIfNew (value : β → α) {other : Nat} (entries : List (Nat × β))
    (table : Table α) (hother : other ∉ entries.map Prod.fst) :
    (entries.foldl (fun t entry => t.insertIfNew entry.1 (value entry.2)) table)[other]? =
      table[other]? := by
  induction entries generalizing table with
  | nil => rfl
  | cons entry entries ih =>
    rw [List.map_cons, List.mem_cons, not_or] at hother
    rw [List.foldl_cons, ih _ hother.2, Std.ExtTreeMap.getElem?_insertIfNew, if_neg]
    rintro ⟨hsame, -⟩
    exact hother.1 (Std.compare_eq_iff_eq.mp hsame).symm

/-- Entries that are added under free keys and taken out again leave no trace. -/
theorem foldl_erase_insertIfNew (value : β → α) (entries : List (Nat × β)) (table : Table α)
    (hfree : ∀ entry ∈ entries, table[entry.1]? = none) :
    entries.foldl (fun t entry => t.erase entry.1)
      (entries.foldl (fun t entry => t.insertIfNew entry.1 (value entry.2)) table) = table := by
  refine ext_lookup fun other => ?_
  rw [getElem?_foldl_erase]
  split
  next hmem =>
    obtain ⟨entry, hentry, rfl⟩ := List.mem_map.mp hmem
    exact (hfree entry hentry).symm
  next hother => exact getElem?_foldl_insertIfNew value entries table hother

end Table

/-! ## Leases -/

/-- How the leases on an item are read, and the item without one of them. -/
structure LeaseField (κ α : Type*) [BEq κ] where
  leases : α → List κ
  without : κ → α → α
  leases_without : ∀ key item, leases (without key item) = (leases item).erase key

namespace LeaseField

variable {κ α : Type*} [BEq κ] (F : LeaseField κ α)

def HeldAt (table : Table α) (h : Nat) (key : κ) : Prop :=
  ∃ item : α, table[h]? = some item ∧ key ∈ F.leases item

def Held (table : Table α) (key : κ) : Prop :=
  ∃ (h : Nat) (item : α), table[h]? = some item ∧ key ∈ F.leases item

/-- Every item is held by somebody, and by nobody twice. -/
structure Sound (table : Table α) : Prop where
  held : ∀ (h : Nat) (item : α), table[h]? = some item → F.leases item ≠ []
  nodup : ∀ (h : Nat) (item : α), table[h]? = some item → (F.leases item).Nodup

def count (table : Table α) : Nat := table.total fun item => (F.leases item).length

variable {F} {table : Table α} {key : κ}

@[simp] theorem count_empty : F.count (∅ : Table α) = 0 := rfl

theorem Sound.empty : F.Sound (∅ : Table α) where
  held h item hitem := by simp at hitem
  nodup h item hitem := by simp at hitem

theorem not_held_empty (key : κ) : ¬F.Held (∅ : Table α) key := by
  rintro ⟨h, item, hitem, -⟩
  simp at hitem

/-- A table in which nobody holds anything is empty. -/
theorem Sound.eq_empty (hsound : F.Sound table) (hfree : ∀ key, ¬F.Held table key) : table = ∅ := by
  apply Table.ext_lookup
  intro h
  cases hitem : table[h]? with
  | none => simp
  | some item =>
    obtain ⟨key, hkey⟩ := List.exists_mem_of_ne_nil _ (hsound.held h item hitem)
    exact absurd ⟨h, item, hitem, hkey⟩ (hfree key)

variable {h : Nat}

theorem count_insert (hnew : table[h]? = none) (item : α) :
    F.count (table.insert h item) = (F.leases item).length + F.count table :=
  Table.total_insert item hnew

theorem Sound.insert (hsound : F.Sound table) {item : α} (hheld : F.leases item ≠ [])
    (hnodup : (F.leases item).Nodup) (h : Nat) : F.Sound (table.insert h item) := by
  constructor
  · intro other value hvalue
    rcases Table.insert_cases hvalue with ⟨-, rfl⟩ | hvalue
    · exact hheld
    · exact hsound.held other value hvalue
  · intro other value hvalue
    rcases Table.insert_cases hvalue with ⟨-, rfl⟩ | hvalue
    · exact hnodup
    · exact hsound.nodup other value hvalue

theorem Held.of_insert {item : α} (hheld : F.Held (table.insert h item) key) :
    F.Held table key ∨ key ∈ F.leases item := by
  obtain ⟨other, value, hvalue, hmem⟩ := hheld
  rcases Table.insert_cases hvalue with ⟨-, rfl⟩ | hvalue
  · exact .inr hmem
  · exact .inl ⟨other, value, hvalue, hmem⟩

variable [LawfulBEq κ]

variable (F) in
/-- The items that lose their last lease with the key. -/
def lost (table : Table α) (key : κ) : List (Nat × α) :=
  table.toList.filter fun entry => key ∈ F.leases entry.2 ∧ (F.leases entry.2).erase key = []

variable (F) in
def release (table : Table α) (key : κ) : Table α :=
  (F.lost table key).foldl (fun t entry => t.erase entry.1) (table.map fun _ => F.without key)

theorem mem_lost : h ∈ (F.lost table key).map Prod.fst ↔
    ∃ item, table[h]? = some item ∧ key ∈ F.leases item ∧ (F.leases item).erase key = [] := by
  simp only [lost, List.mem_map, List.mem_filter, decide_eq_true_eq, Prod.exists]
  constructor
  · rintro ⟨h, item, ⟨hlisted, hlast⟩, rfl⟩
    exact ⟨item, (Table.mem_toList_iff _ _ _).mp hlisted, hlast⟩
  · rintro ⟨item, hfound, hlast⟩
    exact ⟨h, item, ⟨(Table.mem_toList_iff _ _ _).mpr hfound, hlast⟩, rfl⟩

theorem getElem?_release {next : α} : (F.release table key)[h]? = some next ↔
    ∃ item, table[h]? = some item ∧ F.without key item = next ∧
      ¬(key ∈ F.leases item ∧ (F.leases item).erase key = []) := by
  rw [release, Table.getElem?_foldl_erase, Option.ite_none_left_eq_some, mem_lost,
    Std.ExtTreeMap.getElem?_map, Option.map_eq_some_iff]
  constructor
  · rintro ⟨hnot, item, hfound, hnext⟩
    exact ⟨item, hfound, hnext, fun hlast => hnot ⟨item, hfound, hlast⟩⟩
  · rintro ⟨item, hfound, hnext, hlast⟩
    refine ⟨?_, item, hfound, hnext⟩
    rintro ⟨same, hsame, hlost⟩
    obtain rfl : item = same := Option.some.inj (hfound.symm.trans hsame)
    exact hlast hlost

theorem Sound.release (hsound : F.Sound table) (key : κ) : F.Sound (F.release table key) := by
  constructor
  · intro h next hnext hnone
    obtain ⟨item, hfound, rfl, hlast⟩ := getElem?_release.mp hnext
    rw [F.leases_without] at hnone
    by_cases hmem : key ∈ F.leases item
    · exact hlast ⟨hmem, hnone⟩
    · rw [List.erase_of_not_mem hmem] at hnone
      exact hsound.held h item hfound hnone
  · intro h next hnext
    obtain ⟨item, hfound, rfl, -⟩ := getElem?_release.mp hnext
    rw [F.leases_without]
    exact (hsound.nodup h item hfound).erase key

/-- Only the key given up is no longer held. -/
theorem heldAt_release_iff (hsound : F.Sound table) {h : Nat} {other : κ} :
    F.HeldAt (F.release table key) h other ↔ F.HeldAt table h other ∧ other ≠ key := by
  constructor
  · rintro ⟨next, hnext, hmem⟩
    obtain ⟨item, hfound, rfl, -⟩ := getElem?_release.mp hnext
    rw [F.leases_without, (hsound.nodup h item hfound).mem_erase_iff] at hmem
    exact ⟨⟨item, hfound, hmem.2⟩, hmem.1⟩
  · rintro ⟨⟨item, hfound, hmem⟩, hne⟩
    have hstays : other ∈ (F.leases item).erase key := (List.mem_erase_of_ne hne).mpr hmem
    refine ⟨F.without key item, getElem?_release.mpr ⟨item, hfound, rfl, ?_⟩, ?_⟩
    · rintro ⟨-, hnone⟩
      rw [hnone] at hstays
      cases hstays
    · rwa [F.leases_without]

/-- The count falls by the number of items that were held under the key. -/
theorem count_release : F.count (F.release table key) +
    table.toList.countP (fun entry => key ∈ F.leases entry.2) = F.count table := by
  have hdropped : ∀ (entries : List (Nat × α)) (t : Table α),
      (∀ entry ∈ entries, ∀ item, t[entry.1]? = some item → F.leases item = []) →
      F.count (entries.foldl (fun t entry => t.erase entry.1) t) = F.count t := by
    intro entries
    induction entries with
    | nil => exact fun _ _ => rfl
    | cons entry entries ih =>
      intro t hempty
      rw [List.foldl_cons, ih]
      · apply Table.total_erase_of_zero
        intro item hitem
        exact List.length_eq_zero_iff.mpr (hempty entry List.mem_cons_self item hitem)
      · intro other hother item hitem
        exact hempty other (List.mem_cons_of_mem _ hother) item (Table.of_erase hitem)
  rw [release, hdropped]
  · rw [count, count, Table.total, Table.total, Std.ExtTreeMap.toList_map, List.map_map]
    induction table.toList with
    | nil => rfl
    | cons entry entries ih =>
      rw [List.map_cons, List.map_cons, List.sum_cons, List.sum_cons, List.countP_cons, ← ih]
      simp only [Function.comp, F.leases_without]
      by_cases hmem : key ∈ F.leases entry.2
      · have hpos := List.length_pos_of_mem hmem
        rw [List.length_erase_of_mem hmem]
        simp only [hmem, decide_true, if_true]
        omega
      · rw [List.erase_of_not_mem hmem]
        simp only [hmem, decide_false, Bool.false_eq_true, if_false]
        omega
  · intro entry hentry item hitem
    obtain ⟨hlisted, hlast⟩ := List.mem_filter.mp hentry
    rw [Std.ExtTreeMap.getElem?_map, (Table.mem_toList_iff _ _ _).mp hlisted] at hitem
    obtain rfl := Option.some.inj hitem
    rw [F.leases_without]
    exact (of_decide_eq_true hlast).2

end LeaseField

end VkRelay.Lib
