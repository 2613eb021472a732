import Mathlib

/-!
Runs of a step function that may be disabled, and the facts about fallible
calls that steps are taken apart with. A run is defined when every
operation is enabled in the state it is applied to; an invariant of the steps is
an invariant of the runs.
-/

namespace VkRelay.Lib

/-- A sequence of fallible calls succeeds when each of them does. -/
theorem except_bind_eq_ok {ε α β : Type} {x : Except ε α} {f : α → Except ε β} {result : β} :
    x >>= f = .ok result ↔ ∃ value, x = .ok value ∧ f value = .ok result := by
  constructor
  · intro hok
    cases x with
    | error e => cases hok
    | ok value => exact ⟨value, rfl, hok⟩
  · rintro ⟨value, rfl, hok⟩
    exact hok

/-- The rules that turn a chain of calls that succeeded into what each of them returned. They
are one theorem to be one entry of a simp set. -/
theorem ok_rules : (∀ {ε α β : Type} {x : Except ε α} {f : α → Except ε β} {result : β},
      x >>= f = .ok result ↔ ∃ value, x = .ok value ∧ f value = .ok result) ∧
    (∀ {ε α : Type} {a b : α}, (pure a : Except ε α) = .ok b ↔ a = b) ∧
    ∀ {ε α : Type} {a b : α}, (Except.ok a : Except ε α) = .ok b ↔ a = b :=
  ⟨except_bind_eq_ok, by simp [pure, Except.pure], by simp⟩

theorem ite_error_eq_ok {ε α : Type} {p : Prop} [Decidable p] {e : ε} {x : Except ε α} {a : α} :
    (if p then .error e else x) = .ok a ↔ ¬p ∧ x = .ok a := by
  by_cases hp : p <;> simp [hp]

variable {σ α : Type*}

/-- A preorder that every step of a loop lies in relates its start and its end. -/
theorem foldl_related {R : σ → σ → Prop} (hrefl : ∀ s, R s s)
    (htrans : ∀ {s t u}, R s t → R t u → R s u) {f : σ → α → σ} (hstep : ∀ s a, R s (f s a))
    (items : List α) (s : σ) : R s (items.foldl f s) := by
  induction items generalizing s with
  | nil => exact hrefl s
  | cons a items ih => exact htrans (hstep s a) (ih (f s a))

variable (step : σ → α → Option σ)

def run (s : σ) (ops : List α) : Option σ :=
  ops.foldlM step s

@[simp] theorem run_nil (s : σ) : run step s [] = some s := rfl

theorem run_cons (s : σ) (op : α) (ops : List α) :
    run step s (op :: ops) = (step s op).bind fun next => run step next ops := by
  simp [run, List.foldlM_cons]

theorem run_append (s : σ) (first second : List α) :
    run step s (first ++ second) = (run step s first).bind fun mid => run step mid second := by
  simp [run, List.foldlM_append]

variable {step}

/-- A run through an operation: up to it, the operation itself, and what follows. -/
theorem run_append_cons {s last : σ} {before after : List α} {op : α} :
    run step s (before ++ op :: after) = some last ↔ ∃ mid next, run step s before = some mid ∧
      step mid op = some next ∧ run step next after = some last := by
  simp only [run_append, run_cons, Option.bind_eq_some_iff]
  constructor
  · rintro ⟨mid, hmid, next, hnext, hlast⟩
    exact ⟨mid, next, hmid, hnext, hlast⟩
  · rintro ⟨mid, next, hmid, hnext, hlast⟩
    exact ⟨mid, hmid, next, hnext, hlast⟩

variable {P : σ → Prop} {C : σ → α → Prop}

/-- Every operation meets the condition in the state it is applied to. -/
def Along (step : σ → α → Option σ) (C : σ → α → Prop) : σ → List α → Prop
  | _, [] => True
  | s, op :: ops => C s op ∧ ∀ next, step s op = some next → Along step C next ops

theorem Along.cons {s next : σ} {op : α} {ops : List α} (hop : C s op)
    (hstep : step s op = some next) (hrest : Along step C next ops) : Along step C s (op :: ops) :=
  ⟨hop, fun other hother => by rwa [← Option.some.inj (hstep.symm.trans hother)]⟩

theorem Along.of_forall {s : σ} {ops : List α} (hops : ∀ op ∈ ops, ∀ s, C s op) :
    Along step C s ops := by
  induction ops generalizing s with
  | nil => trivial
  | cons op ops ih =>
    obtain ⟨hop, hrest⟩ := List.forall_mem_cons.mp hops
    exact ⟨hop s, fun _ _ => ih hrest⟩

/-- What every step that meets a condition preserves, every run along it preserves. -/
theorem run_invariant_along (hstep : ∀ s op next, P s → C s op → step s op = some next → P next)
    {s last : σ} (hstart : P s) {ops : List α} (halong : Along step C s ops)
    (hrun : run step s ops = some last) : P last := by
  induction ops generalizing s with
  | nil =>
    cases hrun
    exact hstart
  | cons op ops ih =>
    rw [run_cons] at hrun
    obtain ⟨next, hnext, hrest⟩ := Option.bind_eq_some_iff.mp hrun
    obtain ⟨hop, hlater⟩ := halong
    exact ih (hstep s op next hstart hop hnext) (hlater next hnext) hrest

theorem run_invariant (hstep : ∀ s op next, P s → step s op = some next → P next) {s last : σ}
    (hstart : P s) {ops : List α} (hrun : run step s ops = some last) : P last :=
  run_invariant_along (C := fun _ _ => True) (fun s op next hs _ => hstep s op next hs) hstart
    (.of_forall fun _ _ _ => trivial) hrun

end VkRelay.Lib
