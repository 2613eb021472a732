import Mathlib

/-!
Grouping a list of natural numbers into runs of consecutive values. A run is a
pair of its first and last value; grouping only merges an element into the run
right before it, so writing the runs out again gives the list back, whatever
the list is. For a strictly ascending list the runs are its maximal intervals.
-/

namespace VkRelay.Lib

/-- Two members of a pairwise related list are equal or related one way. -/
theorem eq_or_rel_of_pairwise {α : Type*} {R : α → α → Prop} {xs : List α}
    (hpairwise : xs.Pairwise R) {x y : α} (hx : x ∈ xs) (hy : y ∈ xs) :
    x = y ∨ R x y ∨ R y x := by
  induction hpairwise with
  | nil => simp at hx
  | cons hhead _ ih =>
    rcases List.mem_cons.mp hx with rfl | hrest_x
    · rcases List.mem_cons.mp hy with rfl | hrest_y
      · exact .inl rfl
      · exact .inr (.inl (hhead y hrest_y))
    · rcases List.mem_cons.mp hy with rfl | hrest_y
      · exact .inr (.inr (hhead x hrest_x))
      · exact ih hrest_x hrest_y

/-- A non-empty interval of consecutive values. -/
structure Run where
  lo : Nat
  hi : Nat
  lo_le_hi : lo ≤ hi
deriving DecidableEq

namespace Run

def single (i : Nat) : Run := ⟨i, i, le_rfl⟩

def values (run : Run) : List Nat :=
  List.range' run.lo (run.hi + 1 - run.lo)

theorem mem_values (run : Run) (i : Nat) : i ∈ run.values ↔ run.lo ≤ i ∧ i ≤ run.hi := by
  have hle := run.lo_le_hi
  simp only [values, List.mem_range'_1]
  omega

@[simp] theorem values_single (i : Nat) : (single i).values = [i] := by
  simp [values, single]

def extend (run : Run) : Run := ⟨run.lo, run.hi + 1, run.lo_le_hi.trans (Nat.le_succ _)⟩

theorem values_extend (run : Run) : run.extend.values = run.values ++ [run.hi + 1] := by
  have hle := run.lo_le_hi
  have hcount : run.hi + 1 + 1 - run.lo = (run.hi + 1 - run.lo) + 1 := by omega
  have hlast : run.lo + (run.hi + 1 - run.lo) = run.hi + 1 := by omega
  simp only [values, extend, hcount, List.range'_1_concat, hlast]

end Run

/-- Add a value to runs held last run first. -/
def pushRun (runs : List Run) (i : Nat) : List Run :=
  match runs with
  | [] => [.single i]
  | back :: rest => if i = back.hi + 1 then back.extend :: rest else .single i :: back :: rest

def runsOf (values : List Nat) : List Run :=
  (values.foldl pushRun []).reverse

theorem pushRun_values (runs : List Run) (i : Nat) :
    (pushRun runs i).reverse.flatMap Run.values = runs.reverse.flatMap Run.values ++ [i] := by
  cases runs with
  | nil => simp [pushRun]
  | cons back rest =>
    by_cases hnext : i = back.hi + 1
    · simp [pushRun, hnext, Run.values_extend]
    · simp [pushRun, hnext]

variable (values : List Nat)

theorem runsOf_values : (runsOf values).flatMap Run.values = values := by
  have hfold : ∀ (rest : List Nat) (runs : List Run),
      ((rest.foldl pushRun runs).reverse).flatMap Run.values =
        runs.reverse.flatMap Run.values ++ rest := by
    intro rest
    induction rest with
    | nil => intro runs; simp
    | cons i rest ih =>
      intro runs
      rw [List.foldl_cons, ih, pushRun_values, List.append_assoc, List.singleton_append]
  simpa [runsOf] using hfold values []

/-- The runs stand apart in ascending order exactly when the list is strictly
ascending. -/
theorem runsOf_pairwise_iff : (runsOf values).Pairwise (fun first second => first.hi < second.lo) ↔
      values.Pairwise (· < ·) := by
  have hexpand : values.Pairwise (· < ·) ↔
      ((runsOf values).flatMap Run.values).Pairwise (· < ·) := by
    rw [runsOf_values]
  rw [hexpand, List.pairwise_flatMap]
  constructor
  · intro hruns
    refine ⟨fun run _ => List.pairwise_lt_range' .., hruns.imp fun hlt i hi j hj => ?_⟩
    rw [Run.mem_values] at hi hj
    omega
  · rintro ⟨-, hvalues⟩
    refine hvalues.imp fun {first second} hlt => ?_
    exact hlt first.hi ((first.mem_values _).mpr ⟨first.lo_le_hi, le_rfl⟩)
      second.lo ((second.mem_values _).mpr ⟨le_rfl, second.lo_le_hi⟩)

theorem exists_run_of_mem {values : List Nat} {run : Run} (hrun : run ∈ runsOf values) {i : Nat}
    (hlow : run.lo ≤ i) (hhigh : i ≤ run.hi) : i ∈ values := by
  rw [← runsOf_values values]
  exact List.mem_flatMap.mpr ⟨run, hrun, (run.mem_values i).mpr ⟨hlow, hhigh⟩⟩

end VkRelay.Lib
