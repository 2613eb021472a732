import Mathlib

/-!
Runs of a total step function. A property holds in every state of a run exactly when
every step meets a condition, as soon as one step keeps the property exactly under the
condition. Last, loops that keep the first element of an order.
-/

namespace VkRelay.Lib

variable {σ τ α : Type*}

/-- The condition holds of every operation in the state it is applied to. -/
def AlongFold (f : σ → α → σ) (C : σ → α → Prop) : σ → List α → Prop
  | _, [] => True
  | s, op :: ops => C s op ∧ AlongFold f C (f s op) ops

variable {f : σ → α → σ} {P : σ → Prop} {C : σ → α → Prop}

theorem AlongFold.of_forall (hall : ∀ s op, C s op) (s : σ) (ops : List α) :
    AlongFold f C s ops := by
  induction ops generalizing s with
  | nil => trivial
  | cons op ops ih => exact ⟨hall s op, ih _⟩

/-- A view of the states follows a reference model through every state of a run exactly when
each step does, where a step does so exactly under a condition on the state before it. -/
theorem follows_iff {g : τ → α → τ} {view : σ → τ} {P : σ → Prop} {C : σ → α → Prop}
    (hinv : ∀ s op, P s → P (f s op))
    (hstep : ∀ s op, P s → (view (f s op) = g (view s) op ↔ C s op)) {s : σ} (hstart : P s)
    (ops : List α) :
    (∀ before after, ops = before ++ after → view (before.foldl f s) = before.foldl g (view s)) ↔
      AlongFold f C s ops := by
  induction ops generalizing s with
  | nil =>
    refine iff_of_true ?_ trivial
    intro before after hsplit
    rw [(List.append_eq_nil_iff.mp hsplit.symm).1]
    rfl
  | cons op ops ih =>
    rw [AlongFold, ← hstep s op hstart, ← ih (hinv s op hstart)]
    constructor
    · intro hall
      have hfirst : view (f s op) = g (view s) op := hall [op] ops rfl
      refine ⟨hfirst, fun before after hsplit => ?_⟩
      have hlater := hall (op :: before) after (by rw [hsplit, List.cons_append])
      rwa [List.foldl_cons, List.foldl_cons, ← hfirst] at hlater
    · rintro ⟨hfirst, hlater⟩ before after hsplit
      cases before with
      | nil => rfl
      | cons first before =>
        obtain ⟨rfl, hrest⟩ := List.cons.inj hsplit
        rw [List.foldl_cons, List.foldl_cons, ← hfirst]
        exact hlater before after hrest

/-- A property of the states and a property of the steps hold through a run exactly when every
step meets a condition, where a step keeps the one and has the other exactly under it. -/
theorem holds_along_iff {E C : σ → α → Prop}
    (hstep : ∀ s op, P s → (P (f s op) ∧ E s op ↔ C s op)) {s : σ} (hstart : P s) (ops : List α) :
    (∀ before after, ops = before ++ after → P (before.foldl f s)) ∧ AlongFold f E s ops ↔
      AlongFold f C s ops := by
  induction ops generalizing s with
  | nil =>
    refine iff_of_true ⟨fun before after hsplit => ?_, trivial⟩ trivial
    rw [(List.append_eq_nil_iff.mp hsplit.symm).1]
    exact hstart
  | cons op ops ih =>
    rw [AlongFold, AlongFold, ← hstep s op hstart]
    constructor
    · rintro ⟨hall, heffect, hlater⟩
      have hnext : P (f s op) := hall [op] ops rfl
      refine ⟨⟨hnext, heffect⟩, (ih hnext).mp ⟨fun before after hsplit => ?_, hlater⟩⟩
      exact hall (op :: before) after (by rw [hsplit, List.cons_append])
    · rintro ⟨⟨hnext, heffect⟩, hrest⟩
      obtain ⟨hall, hlater⟩ := (ih hnext).mpr hrest
      refine ⟨fun before after hsplit => ?_, heffect, hlater⟩
      cases before with
      | nil => exact hstart
      | cons first before =>
        obtain ⟨rfl, hsame⟩ := List.cons.inj hsplit
        exact hall before after hsame

/-- The same for a property of the states alone. -/
theorem invariant_along_iff (hstep : ∀ s op, P s → (P (f s op) ↔ C s op)) {s : σ} (hstart : P s)
    (ops : List α) :
    (∀ before after, ops = before ++ after → P (before.foldl f s)) ↔ AlongFold f C s ops := by
  have hboth : ∀ s op, P s → (P (f s op) ∧ True ↔ C s op) := fun s op hs =>
    (and_iff_left trivial).trans (hstep s op hs)
  rw [← holds_along_iff hboth hstart, and_iff_left (AlongFold.of_forall (fun _ _ => trivial) s ops)]

/-! ## Choice of the first element -/

/-- The first element comes before the second by its key, or by a further rule when the keys
are equal. -/
def Ahead {β : Type*} [LT β] (key : α → β) (next : α → α → Prop) (x y : α) : Prop :=
  key x < key y ∨ key x = key y ∧ next x y

section Ahead

variable {β : Type*} [LinearOrder β] {key : α → β} {next : α → α → Prop}

theorem Ahead.irrefl (hirrefl : ∀ x, ¬next x x) (x : α) : ¬Ahead key next x x := by
  rintro (hlt | ⟨-, hnext⟩)
  · exact lt_irrefl _ hlt
  · exact hirrefl x hnext

theorem Ahead.trans (htrans : ∀ x y z, next x y → next y z → next x z) (x y z : α)
    (hxy : Ahead key next x y) (hyz : Ahead key next y z) : Ahead key next x z := by
  rcases hxy with hlt | ⟨hkey, hxy⟩
  · rcases hyz with hlt' | ⟨hkey', -⟩
    · exact .inl (hlt.trans hlt')
    · exact .inl (hkey' ▸ hlt)
  · rcases hyz with hlt' | ⟨hkey', hyz⟩
    · exact .inl (hkey ▸ hlt')
    · exact .inr ⟨hkey.trans hkey', htrans x y z hxy hyz⟩

/-- Elements neither of which comes before the other are left to the further rule. -/
theorem Ahead.undecided {x y : α} (hxy : ¬Ahead key next x y) (hyx : ¬Ahead key next y x) :
    ¬next x y ∧ ¬next y x := by
  have hkey : key x = key y := le_antisymm (not_lt.mp fun hlt => hyx (.inl hlt))
    (not_lt.mp fun hlt => hxy (.inl hlt))
  exact ⟨fun hnext => hxy (.inr ⟨hkey, hnext⟩), fun hnext => hyx (.inr ⟨hkey.symm, hnext⟩)⟩

end Ahead

/-- A loop that takes an admitted element when it has none, or when it comes before the one it
has, ends with an admitted element that no other comes before, or without one. -/
theorem foldl_first {β : Type*} (step : Option α × β → α → Option α × β) (key : α → β)
    (init : β) (admits : α → Prop) (before : α → α → Prop) (hirrefl : ∀ x, ¬before x x)
    (htrans : ∀ x y z, before x y → before y z → before x z)
    (hnone : ∀ x, admits x ∧ step (none, init) x = (some x, key x) ∨
      ¬admits x ∧ step (none, init) x = (none, init))
    (hsome : ∀ x y, admits x → (admits y ∧ before y x) ∧ step (some x, key x) y = (some y, key y) ∨
      ¬(admits y ∧ before y x) ∧ step (some x, key x) y = (some x, key x)) (xs : List α) :
    (xs.foldl step (none, init) = (none, init) ∧ ∀ x ∈ xs, ¬admits x) ∨
      ∃ x ∈ xs, xs.foldl step (none, init) = (some x, key x) ∧ admits x ∧
        ∀ y ∈ xs, admits y → ¬before y x := by
  induction xs using List.reverseRecOn with
  | nil => exact .inl ⟨rfl, by simp⟩
  | append_singleton xs last ih =>
    rw [List.foldl_append, List.foldl_cons, List.foldl_nil]
    simp only [List.mem_append, List.mem_singleton, or_imp, forall_and, forall_eq]
    rcases ih with ⟨hfold, hall⟩ | ⟨best, hbest, hfold, hadmits, hall⟩
    · rw [hfold]
      rcases hnone last with ⟨hlast, hstep⟩ | ⟨hlast, hstep⟩
      · exact .inr ⟨last, .inr rfl, hstep, hlast, fun y hy hin => absurd hin (hall y hy),
          fun _ => hirrefl last⟩
      · exact .inl ⟨hstep, hall, hlast⟩
    · rw [hfold]
      rcases hsome best last hadmits with ⟨⟨hlast, hbefore⟩, hstep⟩ | ⟨hnot, hstep⟩
      · refine .inr ⟨last, .inr rfl, hstep, hlast, fun y hy hin hover => ?_, fun _ => hirrefl last⟩
        exact hall y hy hin (htrans y last best hover hbefore)
      · exact .inr ⟨best, .inl hbest, hstep, hadmits, hall, fun hin hover => hnot ⟨hin, hover⟩⟩

end VkRelay.Lib
