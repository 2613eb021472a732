import VkRelay.Lib.Machine
import VkRelay.Lib.Table

/-!
Validation as a sequence of rejections. A request handler looks handles up,
refuses the first thing it dislikes and names the reason; these are the pieces
such handlers are written from, each with the condition under which it lets the
request through. The simp set turns an accepted handler into the conjunction of
its conditions.
-/

namespace VkRelay.Lib

variable {α : Type}

def rejectIf (p : Prop) [Decidable p] (reason : String) : Except String Unit :=
  if p then .error reason else .ok ()

@[simp] theorem rejectIf_eq_ok {p : Prop} [Decidable p] {reason : String} {u : Unit} :
    rejectIf p reason = .ok u ↔ ¬p := by
  by_cases hp : p <;> simp [rejectIf, hp]

def find (table : Table α) (handle : Nat) (reason : String) : Except String α :=
  match table[handle]? with
  | some value => .ok value
  | none => .error reason

@[simp] theorem find_eq_ok {table : Table α} {handle : Nat} {reason : String} {value : α} :
    find table handle reason = .ok value ↔ table[handle]? = some value := by
  cases hfind : table[handle]? <;> simp [find, hfind]

/-- Look a handle up and refuse one whose object belongs to another owner. -/
def findOn (owner : α → Nat) (table : Table α) (handle device : Nat) (reason : String) :
    Except String α := do
  let value ← find table handle reason
  rejectIf (owner value ≠ device) reason
  return value

@[simp] theorem findOn_eq_ok {owner : α → Nat} {table : Table α} {handle device : Nat}
    {reason : String} {value : α} :
    findOn owner table handle device reason = .ok value ↔
      table[handle]? = some value ∧ owner value = device := by
  simp only [findOn, except_bind_eq_ok, find_eq_ok, rejectIf_eq_ok, ne_eq, not_not, pure,
    Except.pure, Except.ok.injEq]
  constructor
  · rintro ⟨found, hfound, -, howner, rfl⟩
    exact ⟨hfound, howner⟩
  · rintro ⟨hfound, howner⟩
    exact ⟨value, hfound, (), howner, rfl⟩

def checkAll (items : List α) (check : α → Except String Unit) : Except String Unit :=
  match items with
  | [] => .ok ()
  | item :: rest => do
    check item
    checkAll rest check

@[simp] theorem checkAll_eq_ok {items : List α} {check : α → Except String Unit} {u : Unit} :
    checkAll items check = .ok u ↔ ∀ item ∈ items, check item = .ok () := by
  induction items with
  | nil => simp [checkAll]
  | cons item rest ih =>
    simp only [checkAll, except_bind_eq_ok, ih, List.forall_mem_cons]
    constructor
    · rintro ⟨_, hitem, hrest⟩
      exact ⟨hitem, hrest⟩
    · rintro ⟨hitem, hrest⟩
      exact ⟨(), hitem, hrest⟩

/-- The reason of a read past the end of a payload, which has no defined result. -/
def outOfRangeRead : String := "read past the end of the payload"

/-- Check the first `count` items; a list that is too short is read past its end. -/
def checkFirst : List α → Nat → (α → Except String Unit) → Except String Unit
  | _, 0, _ => .ok ()
  | [], _ + 1, _ => .error outOfRangeRead
  | item :: rest, count + 1, check => do
    check item
    checkFirst rest count check

@[simp] theorem checkFirst_eq_ok {items : List α} {count : Nat} {check : α → Except String Unit}
    {u : Unit} : checkFirst items count check = .ok u ↔
      count ≤ items.length ∧ ∀ item ∈ items.take count, check item = .ok () := by
  induction items generalizing count with
  | nil =>
    cases count with
    | zero => simp [checkFirst]
    | succ count => simp [checkFirst]
  | cons item rest ih =>
    cases count with
    | zero => simp [checkFirst]
    | succ count =>
      simp only [checkFirst, except_bind_eq_ok, ih, List.length_cons, List.take_succ_cons,
        List.forall_mem_cons, Nat.add_le_add_iff_right]
      constructor
      · rintro ⟨_, hitem, hlength, hrest⟩
        exact ⟨hlength, hitem, hrest⟩
      · rintro ⟨hlength, hitem, hrest⟩
        exact ⟨(), hitem, hlength, hrest⟩

/-- The rules that turn an accepted handler into the conditions it has checked. -/
theorem accept_rules : ((∀ {ε α β : Type} {x : Except ε α} {f : α → Except ε β} {result : β},
      x >>= f = .ok result ↔ ∃ value, x = .ok value ∧ f value = .ok result) ∧
    (∀ {ε α : Type} {a b : α}, (pure a : Except ε α) = .ok b ↔ a = b) ∧
    ∀ {ε α : Type} {a b : α}, (Except.ok a : Except ε α) = .ok b ↔ a = b) ∧
    (∀ {p : Prop} [Decidable p] {reason : String} {u : Unit}, rejectIf p reason = .ok u ↔ ¬p) ∧
    (∀ {α : Type} {table : Table α} {handle : Nat} {reason : String} {value : α},
      find table handle reason = .ok value ↔ table[handle]? = some value) ∧
    (∀ {α : Type} {owner : α → Nat} {table : Table α} {handle device : Nat} {reason : String}
      {value : α}, findOn owner table handle device reason = .ok value ↔
        table[handle]? = some value ∧ owner value = device) ∧
    (∀ {α : Type} {items : List α} {check : α → Except String Unit} {u : Unit},
      checkAll items check = .ok u ↔ ∀ item ∈ items, check item = .ok ()) ∧
    ∀ {α : Type} {items : List α} {count : Nat} {check : α → Except String Unit} {u : Unit},
      checkFirst items count check = .ok u ↔
        count ≤ items.length ∧ ∀ item ∈ items.take count, check item = .ok () :=
  ⟨ok_rules, rejectIf_eq_ok, find_eq_ok, findOn_eq_ok, checkAll_eq_ok, checkFirst_eq_ok⟩

/-! ## Results of accepted requests -/

/-- What the request is answered with, if it is let through, has the property. -/
def Yields (result : Except String α) (P : α → Prop) : Prop :=
  ∀ value, result = .ok value → P value

namespace Yields

variable {β : Type} {P : α → Prop}

theorem bind {first : Except String β} {rest : β → Except String α}
    (hrest : ∀ value, Yields (rest value) P) : Yields (first >>= rest) P := by
  intro value hok
  obtain ⟨mid, -, hok⟩ := except_bind_eq_ok.mp hok
  exact hrest mid value hok

/-- A request that is let through past a refusal does not meet the refused condition. -/
theorem refused {p : Prop} [Decidable p] {reason : String} {rest : Unit → Except String α} :
    Yields (rejectIf p reason >>= rest) fun _ => ¬p := by
  intro value hok
  obtain ⟨mid, hmid, -⟩ := except_bind_eq_ok.mp hok
  exact rejectIf_eq_ok.mp hmid

theorem error {reason : String} : Yields (.error reason) P :=
  fun _ hok => nomatch hok

theorem ok {value : α} (hvalue : P value) : Yields (.ok value) P := by
  rintro other ⟨⟩
  exact hvalue

end Yields

end VkRelay.Lib
