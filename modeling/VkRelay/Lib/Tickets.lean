import VkRelay.Lib.Table

/-!
Tickets drawn from a counter. Every entry of a table carries a number that was
either never drawn (zero) or drawn from a counter that only goes up, and no two
entries carry the same drawn number. An entry that enters with the next number,
keeps its own or gives it up leaves this so, and so does dropping entries.
-/

namespace VkRelay.Lib

namespace Table

variable {α : Type*}

/-- A number read off the entry under a key; zero where there is none. -/
def read (table : Table α) (field : α → Nat) (key : Nat) : Nat :=
  ((table[key]?).map field).getD 0

variable (table : Table α) (field : α → Nat)

theorem read_of_some {key : Nat} {value : α} (hfound : table[key]? = some value) :
    table.read field key = field value := by
  rw [read, hfound, Option.map_some, Option.getD_some]

theorem read_of_none {key : Nat} (hnone : table[key]? = none) : table.read field key = 0 := by
  rw [read, hnone]
  rfl

theorem exists_of_read_ne_zero {key : Nat} (hne : table.read field key ≠ 0) :
    ∃ value, table[key]? = some value := by
  cases hfound : table[key]? with
  | none => exact absurd (read_of_none table field hfound) hne
  | some value => exact ⟨value, rfl⟩

theorem read_insert (key : Nat) (value : α) : Table.read (table.insert key value) field =
      Function.update (table.read field) key (field value) := by
  funext other
  by_cases hkey : other = key
  · simp [read, hkey]
  · simp [read, hkey, Ne.symm hkey]

theorem read_insert_kept {key : Nat} {old value : α} (hold : table[key]? = some old)
    (hkept : field old = field value) :
    Table.read (table.insert key value) field = table.read field := by
  rw [read_insert, ← hkept, ← read_of_some table field hold, Function.update_eq_self]

theorem read_erase (key : Nat) :
    Table.read (table.erase key) field = Function.update (table.read field) key 0 := by
  funext other
  by_cases hkey : other = key
  · simp [read, hkey]
  · simp [read, hkey, Ne.symm hkey]

theorem read_filter (keep : α → Bool) (key : Nat) :
    Table.read (table.filter fun _ value => keep value) field key =
      if (table[key]?).all keep then table.read field key else 0 := by
  rw [read, getElem?_filter_eq, read]
  cases hfound : table[key]? with
  | none => simp
  | some value => by_cases hkeep : keep value <;> simp [Option.filter, hkeep]

end Table

section Drawn

variable {α : Type*} (ticket : α → Nat)

/-- The tickets of a table are bounded by the counter and, unless zero, distinct. -/
structure Drawn (table : Table α) (counter : Nat) : Prop where
  le : ∀ {key : Nat} {value : α}, table[key]? = some value → ticket value ≤ counter
  inj : ∀ {key other : Nat} {value second : α}, table[key]? = some value →
    table[other]? = some second → ticket value = ticket second → ticket value ≠ 0 → key = other

namespace Drawn

variable {ticket} {table : Table α} {counter : Nat}

theorem empty : Drawn ticket (∅ : Table α) 0 := ⟨by simp, by simp⟩

/-- An entry that takes the next number. -/
theorem insert_next (hdrawn : Drawn ticket table counter) (key : Nat) {value : α}
    (hnext : ticket value = counter + 1) :
    Drawn ticket (table.insert key value) (counter + 1) := by
  have hold : ∀ {other : Nat} {second : α}, table[other]? = some second →
      ticket second ≠ ticket value := by
    intro other second hfound heq
    have := hdrawn.le hfound
    omega
  refine ⟨fun {k v} hfound => ?_, fun {k l v w} hv hw heq hne => ?_⟩
  · rcases Table.insert_cases hfound with ⟨-, rfl⟩ | hfound
    · exact hnext.le
    · exact (hdrawn.le hfound).trans (Nat.le_succ counter)
  · rcases Table.insert_cases hv with ⟨rfl, rfl⟩ | hv
    · rcases Table.insert_cases hw with ⟨rfl, -⟩ | hw
      · rfl
      · exact absurd heq.symm (hold hw)
    · rcases Table.insert_cases hw with ⟨-, rfl⟩ | hw
      · exact absurd heq (hold hv)
      · exact hdrawn.inj hv hw heq hne

theorem insert_kept (hdrawn : Drawn ticket table counter) {key : Nat} {value : α}
    (hkept : (∃ old, table[key]? = some old ∧ ticket old = ticket value) ∨ ticket value = 0) :
    Drawn ticket (table.insert key value) counter := by
  have hwas : ∀ {other : Nat} {second : α}, (table.insert key value)[other]? = some second →
      ticket second ≠ 0 → ∃ first, table[other]? = some first ∧ ticket first = ticket second := by
    intro other second hfound hne
    rcases Table.insert_cases hfound with ⟨rfl, rfl⟩ | hfound
    · exact hkept.resolve_right hne
    · exact ⟨second, hfound, rfl⟩
  refine ⟨fun {k v} hfound => ?_, fun {k l v w} hv hw heq hne => ?_⟩
  · by_cases hzero : ticket v = 0
    · omega
    · obtain ⟨first, hfirst, hticket⟩ := hwas hfound hzero
      exact hticket ▸ hdrawn.le hfirst
  · obtain ⟨first, hfirst, hticket⟩ := hwas hv hne
    obtain ⟨second, hsecond, hother⟩ := hwas hw (heq ▸ hne)
    exact hdrawn.inj hfirst hsecond (by omega) (by omega)

theorem of_subset (hdrawn : Drawn ticket table counter) {smaller : Table α}
    (hsub : ∀ {key : Nat} {value : α}, smaller[key]? = some value → table[key]? = some value) :
    Drawn ticket smaller counter :=
  ⟨fun hfound => hdrawn.le (hsub hfound), fun hv hw => hdrawn.inj (hsub hv) (hsub hw)⟩

theorem erase (hdrawn : Drawn ticket table counter) (key : Nat) :
    Drawn ticket (table.erase key) counter :=
  hdrawn.of_subset Table.of_erase

/-- Two keys read the same number only when they are one, or read zero. -/
theorem read_inj (hdrawn : Drawn ticket table counter) {key other : Nat}
    (heq : table.read ticket key = table.read ticket other) (hne : table.read ticket key ≠ 0) :
    key = other := by
  obtain ⟨v, hv⟩ := Table.exists_of_read_ne_zero table ticket hne
  obtain ⟨w, hw⟩ := Table.exists_of_read_ne_zero table ticket (heq ▸ hne)
  rw [Table.read_of_some table ticket hv, Table.read_of_some table ticket hw] at heq
  rw [Table.read_of_some table ticket hv] at hne
  exact hdrawn.inj hv hw heq hne

theorem read_le (hdrawn : Drawn ticket table counter) (key : Nat) :
    table.read ticket key ≤ counter := by
  cases hfound : table[key]? with
  | none =>
    rw [Table.read, hfound]
    exact Nat.zero_le _
  | some value =>
    rw [Table.read_of_some table ticket hfound]
    exact hdrawn.le hfound

theorem filter (hdrawn : Drawn ticket table counter) (keep : α → Bool) :
    Drawn ticket (table.filter fun _ value => keep value) counter :=
  hdrawn.of_subset Table.of_filter

end Drawn

end Drawn

end VkRelay.Lib
