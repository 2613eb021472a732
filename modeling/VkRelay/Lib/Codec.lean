import Mathlib

/-!
Parsers that read values off the front of a string, and the words of a format. A
string is framed for a parser when the parser takes exactly that string off
whatever follows it, or refuses it whatever follows, and fails on every shorter
piece of it. Framed strings compose under sequencing, so a format that is written
field by field is read back field by field, and no encoding is a proper prefix of
another one that is accepted.
-/

namespace VkRelay.Lib

variable {β α γ : Type}

/-- Read a value off the front of a string; `none` is a failed read. -/
abbrev Parser (β α : Type) := StateT (List β) Option α

namespace Parser

def fail : Parser β α := fun _ => none

def need (n : Nat) : Parser β Unit :=
  fun input => if input.length < n then none else some ((), input)

def times (p : Parser β α) : Nat → Parser β (List α)
  | 0 => pure []
  | n + 1 => do
    let a ← p
    let rest ← times p n
    pure (a :: rest)

end Parser

/-- The word is decided by its own symbols: taken off with the verdict's value, or
refused, whatever follows; and nothing shorter is accepted. -/
structure Framed (word : List β) (p : Parser β α) (verdict : Option α) : Prop where
  whole : ∀ rest, p.run (word ++ rest) = verdict.map fun a => (a, rest)
  part : ∀ seen missing, word = seen ++ missing → missing ≠ [] → p.run seen = none

namespace Framed

variable {word first second : List β} {p : Parser β α} {f : α → Parser β γ}

theorem pure (a : α) : Framed ([] : List β) (pure a : Parser β α) (some a) where
  whole _ := rfl
  part seen missing hword hmissing := by
    exact absurd (List.append_eq_nil_iff.mp hword.symm).2 hmissing

theorem fail (word : List β) : Framed word (Parser.fail : Parser β α) none where
  whole _ := rfl
  part _ _ _ _ := rfl

variable {verdict : Option α}

/-- One word after another, the second read by what the first one said. -/
theorem bind {outcome : α → Option γ} (hfirst : Framed first p verdict)
    (hsecond : ∀ a, verdict = some a → Framed second (f a) (outcome a)) :
    Framed (first ++ second) (p >>= f) (verdict.bind outcome) where
  whole rest := by
    rw [StateT.run_bind, List.append_assoc, hfirst.whole]
    cases hverdict : verdict with
    | none => rfl
    | some a => exact (hsecond a hverdict).whole rest
  part seen missing hword hmissing := by
    rw [StateT.run_bind]
    -- The cut falls into the second word, or into the first one.
    have hlate : ∀ tail, seen = first ++ tail → second = tail ++ missing →
        (p.run seen >>= fun r => (f r.1).run r.2) = none := by
      rintro tail rfl hsplit
      rw [hfirst.whole]
      cases hverdict : verdict with
      | none => rfl
      | some a => exact (hsecond a hverdict).part tail missing hsplit hmissing
    rcases List.append_eq_append_iff.mp hword with ⟨tail, hseen, hsplit⟩ | ⟨tail, hsplit, hrest⟩
    · exact hlate tail hseen hsplit
    · by_cases htail : tail = []
      · subst htail
        refine hlate [] ?_ ?_
        · rw [List.append_nil] at hsplit ⊢
          exact hsplit.symm
        · simpa using hrest.symm
      · rw [hfirst.part seen tail hsplit htail]
        rfl

/-- One word after another, the first one accepted. -/
theorem seq {a : α} {outcome : Option γ} (hfirst : Framed first p (some a))
    (hsecond : Framed second (f a) outcome) : Framed (first ++ second) (p >>= f) outcome := by
  have hbind : Framed (first ++ second) (p >>= f) ((some a).bind fun _ => outcome) := by
    refine hfirst.bind fun b hb => ?_
    cases hb
    exact hsecond
  exact hbind

/-- After a refused word nothing else is read. -/
theorem refused (hfirst : Framed first p none) : Framed (first ++ second) (p >>= f) none := by
  have hbind : Framed (first ++ second) (p >>= f) ((none : Option α).bind fun _ => none) :=
    hfirst.bind fun a ha => by cases ha
  exact hbind

theorem map (hword : Framed word p verdict) (g : α → γ) :
    Framed word (g <$> p) (verdict.map g) := by
  have hbind : Framed (word ++ []) (p >>= fun a => Pure.pure (g a))
      (verdict.bind fun a => some (g a)) := hword.bind fun a _ => Framed.pure (g a)
  rw [List.append_nil, bind_pure_comp] at hbind
  rw [Option.map_eq_bind]
  exact hbind

/-- A look ahead that the word itself satisfies changes nothing. -/
theorem need {n : Nat} (hn : n ≤ word.length) (hword : Framed word p verdict) :
    Framed word (do Parser.need n; p) verdict where
  whole rest := by
    have hlong : ¬ (word ++ rest).length < n := by
      rw [List.length_append]
      omega
    rw [StateT.run_bind]
    simp only [Parser.need, StateT.run, hlong, if_false]
    exact hword.whole rest
  part seen missing hsplit hmissing := by
    rw [StateT.run_bind]
    by_cases hshort : seen.length < n
    · simp [Parser.need, StateT.run, hshort]
    · simp only [Parser.need, StateT.run, hshort, if_false]
      exact hword.part seen missing hsplit hmissing

end Framed

theorem framed_times {δ : Type} {p : Parser β α} {put : δ → List β} {verdict : δ → Option α}
    (items : List δ) (hitems : ∀ item ∈ items, Framed (put item) p (verdict item)) :
    Framed (items.flatMap put) (p.times items.length) (items.mapM verdict) := by
  induction items with
  | nil => exact Framed.pure []
  | cons item rest ih =>
    have hrest := ih fun other hother => hitems other (List.mem_cons_of_mem _ hother)
    rw [List.flatMap_cons, List.length_cons, List.mapM_cons]
    refine (hitems item List.mem_cons_self).bind fun a _ => ?_
    have hmap := hrest.map (a :: ·)
    rw [Option.map_eq_bind, ← bind_pure_comp] at hmap
    exact hmap

/-- A refused word after accepted ones refuses the whole list. -/
theorem framed_times_refused {δ : Type} {p : Parser β α} {put : δ → List β}
    {verdict : δ → Option α} {bad : List β} (hbad : Framed bad p none) (items : List δ)
    (hitems : ∀ item ∈ items, Framed (put item) p (verdict item)) {n : Nat}
    (hn : items.length < n) : Framed (items.flatMap put ++ bad) (p.times n) none := by
  induction items generalizing n with
  | nil =>
    obtain ⟨n, rfl⟩ := Nat.exists_eq_add_of_lt hn
    have hrefused : Framed (bad ++ []) (p.times (0 + n + 1)) none := hbad.refused
    rwa [List.append_nil] at hrefused
  | cons item rest ih =>
    obtain ⟨n, rfl⟩ := Nat.exists_eq_succ_of_ne_zero (Nat.ne_zero_of_lt hn)
    have hrest := ih (fun other hother => hitems other (List.mem_cons_of_mem _ hother))
      (Nat.lt_of_succ_lt_succ hn)
    have hbind : Framed (put item ++ (rest.flatMap put ++ bad)) (p.times (n + 1))
        ((verdict item).bind fun _ => none) := by
      refine (hitems item List.mem_cons_self).bind fun a _ => ?_
      have hrefused : Framed (rest.flatMap put ++ bad ++ [])
          (do let others ← p.times n; Pure.pure (a :: others)) none := hrest.refused
      rwa [List.append_nil] at hrefused
    have hnone : ((verdict item).bind fun _ => none) = (none : Option (List α)) := by
      cases verdict item <;> rfl
    rw [List.flatMap_cons, List.append_assoc]
    rwa [hnone] at hbind

/-- What the parser takes, at least so many symbols, is all that its result depends on. -/
def Takes (n : Nat) (p : Parser β α) : Prop :=
  ∀ input a rest, p.run input = some (a, rest) →
    ∃ word, input = word ++ rest ∧ n ≤ word.length ∧
      ∀ other, p.run (word ++ other) = some (a, other)

namespace Takes

variable {m n : Nat} {p : Parser β α} {f : α → Parser β γ}

theorem pure (a : α) : Takes 0 (pure a : Parser β α) := by
  rintro input _ _ ⟨⟩
  exact ⟨[], rfl, le_rfl, fun _ => rfl⟩

theorem fail : Takes n (Parser.fail : Parser β α) := by
  rintro input _ _ ⟨⟩

theorem weaken (hp : Takes m p) (hle : n ≤ m) : Takes n p := by
  intro input a rest hrun
  obtain ⟨word, hinput, hlength, hword⟩ := hp input a rest hrun
  exact ⟨word, hinput, hle.trans hlength, hword⟩

theorem bind (hp : Takes m p) (hf : ∀ a, Takes n (f a)) : Takes (m + n) (p >>= f) := by
  intro input c rest hrun
  rw [StateT.run_bind] at hrun
  obtain ⟨⟨a, middle⟩, hfirst, hsecond⟩ := Option.bind_eq_some_iff.mp hrun
  obtain ⟨first, rfl, hm, hword⟩ := hp input a middle hfirst
  obtain ⟨second, rfl, hn, htail⟩ := hf a middle c rest hsecond
  refine ⟨first ++ second, (List.append_assoc ..).symm, ?_, fun other => ?_⟩
  · rw [List.length_append]
    omega
  · rw [StateT.run_bind, List.append_assoc, hword]
    exact htail other

theorem map (hp : Takes n p) (g : α → γ) : Takes n (g <$> p) := by
  have hbind := hp.bind fun a => Takes.pure (g a)
  rwa [bind_pure_comp, Nat.add_zero] at hbind

theorem times (hp : Takes n p) (count : Nat) : Takes (count * n) (p.times count) := by
  induction count with
  | zero =>
    rw [Nat.zero_mul]
    exact Takes.pure []
  | succ count ih =>
    rw [Nat.succ_mul, Nat.add_comm]
    exact hp.bind fun a => (ih.bind fun rest => Takes.pure (a :: rest))

/-- A look ahead over no more than what is taken. -/
theorem need (hp : Takes n p) (hle : m ≤ n) : Takes n (do Parser.need m; p) := by
  intro input a rest hrun
  have hneed : ∀ s : List β, ¬ s.length < m →
      (do Parser.need m; p : Parser β α).run s = p.run s := by
    intro s hlong
    rw [StateT.run_bind]
    simp [Parser.need, StateT.run, hlong]
  have hlong : ¬ input.length < m := by
    intro hshort
    rw [StateT.run_bind] at hrun
    simp [Parser.need, StateT.run, hshort] at hrun
  rw [hneed input hlong] at hrun
  obtain ⟨word, hinput, hlength, hword⟩ := hp input a rest hrun
  refine ⟨word, hinput, hlength, fun other => ?_⟩
  rw [hneed _ (by rw [List.length_append]; omega)]
  exact hword other

end Takes

/-- A list that is read is a row of words, each of which reads as one item. -/
theorem Takes.words_of_times {n : Nat} {p : Parser β α} (hp : Takes n p) {count : Nat}
    {input rest : List β} {items : List α} (hrun : (p.times count).run input = some (items, rest)) :
    ∃ words : List (List β), input = words.flatten ++ rest ∧
      List.Forall₂ (fun word item => p.run word = some (item, [])) words items := by
  induction count generalizing input items with
  | zero =>
    cases hrun
    exact ⟨[], rfl, .nil⟩
  | succ count ih =>
    rw [Parser.times, StateT.run_bind] at hrun
    obtain ⟨⟨a, middle⟩, hfirst, hrest⟩ := Option.bind_eq_some_iff.mp hrun
    rw [StateT.run_bind] at hrest
    obtain ⟨⟨others, last⟩, htimes, hpure⟩ := Option.bind_eq_some_iff.mp hrest
    cases hpure
    obtain ⟨word, rfl, -, hword⟩ := hp input a middle hfirst
    obtain ⟨words, rfl, hwords⟩ := ih htimes
    refine ⟨word :: words, ?_, .cons ?_ hwords⟩
    · rw [List.flatten_cons, List.append_assoc]
    · simpa using hword []

end VkRelay.Lib
