import Mathlib

/-!
Runs that keep a log. Each step of a machine emits events; the history of a run is the state it
ends in together with everything emitted on the way. Claims about what happened earlier are
claims about the log, and an invariant may relate the log to the state.
-/

namespace VkRelay.Lib

structure History (σ ε : Type*) where
  state : σ
  log : List ε := []

namespace History

variable {σ ε α : Type*} (step : σ → α → σ × List ε)

def next (h : History σ ε) (op : α) : History σ ε :=
  ⟨(step h.state op).1, h.log ++ (step h.state op).2⟩

def of (s : σ) (ops : List α) : History σ ε :=
  ops.foldl (next step) ⟨s, []⟩

@[simp] theorem of_nil (s : σ) : of step s [] = ⟨s, []⟩ := rfl

theorem of_concat (s : σ) (ops : List α) (op : α) :
    of step s (ops ++ [op]) = (of step s ops).next step op := by
  simp [of]

variable {P : History σ ε → Prop}

theorem invariant (hstep : ∀ h op, P h → P (h.next step op)) {s : σ} (hstart : P ⟨s, []⟩)
    (ops : List α) : P (of step s ops) :=
  List.foldlRecOn ops _ hstart fun h hh op _ => hstep h op hh

/-- An invariant that a step keeps when it is allowed where it is taken holds all along a run
whose steps are allowed. -/
theorem invariant_of_allowed {allowed : History σ ε → α → Prop}
    (hstep : ∀ h op, P h → allowed h op → P (h.next step op)) {s : σ} (hstart : P ⟨s, []⟩)
    {ops : List α}
    (hallowed : ∀ before op after, ops = before ++ op :: after → allowed (of step s before) op)
    (before after : List α) (hops : ops = before ++ after) : P (of step s before) := by
  induction before using List.reverseRecOn generalizing after with
  | nil => exact hstart
  | append_singleton before op ih =>
    have hsplit : ops = before ++ op :: after := by rw [hops, List.append_assoc]; rfl
    rw [of_concat]
    exact hstep _ _ (ih (op :: after) hsplit) (hallowed before op after hsplit)

end History

end VkRelay.Lib
