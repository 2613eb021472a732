import VkRelay.Lib.Machine

/-!
Brackets that do not nest. Items of a stream may open or close a bracket of some
kind; a scanner that remembers only which bracket is open accepts a stream when
every opening finds none open and every closing finds its own kind open. What it
accepts is then said about positions: which bracket an item lies in, and that
openings and closings pair up.
-/

namespace VkRelay.Lib

inductive Mark (κ : Type) where
  | opens (kind : κ)
  | closes (kind : κ)
  | neither
  deriving DecidableEq

variable {α κ : Type}

/-- The last mark of a stream opens a bracket of the kind. -/
def Inside (mark : α → Mark κ) (before : List α) (kind : κ) : Prop :=
  ∃ front x inner, before = front ++ x :: inner ∧ mark x = .opens kind ∧
    ∀ z ∈ inner, mark z = .neither

def Outside (mark : α → Mark κ) (before : List α) : Prop :=
  ∀ kind, ¬Inside mark before kind

/-- An opening, its closing and what stands before, between and after them. -/
structure Interval (mark : α → Mark κ) (items before : List α) (first : α) (inner : List α)
    (last : α) (after : List α) : Prop where
  split : items = before ++ first :: (inner ++ last :: after)
  pair : ∃ kind, mark first = .opens kind ∧ mark last = .closes kind
  between : ∀ z ∈ inner, mark z = .neither

/-- Openings and closings alternate, kind by kind, and every opening is closed. -/
structure Bracketed (mark : α → Mark κ) (items : List α) : Prop where
  opened : ∀ before x after kind, items = before ++ x :: after → mark x = .opens kind →
    Outside mark before ∧ ∃ inner y rest, after = inner ++ y :: rest ∧ mark y = .closes kind ∧
      ∀ z ∈ inner, mark z = .neither
  closed : ∀ before x after kind, items = before ++ x :: after → mark x = .closes kind →
    Inside mark before kind

variable {mark : α → Mark κ}

theorem Inside.append_neither {before more : List α} {kind : κ} (hinside : Inside mark before kind)
    (hmore : ∀ z ∈ more, mark z = .neither) : Inside mark (before ++ more) kind := by
  obtain ⟨front, x, inner, rfl, hx, hinner⟩ := hinside
  refine ⟨front, x, inner ++ more, by simp, hx, fun z hz => ?_⟩
  rcases List.mem_append.mp hz with hz | hz
  · exact hinner z hz
  · exact hmore z hz

/-- Where the last item of a stream falls when the stream is split at another item. -/
theorem concat_eq_append_cons {before front inner : List α} {x y : α}
    (hsplit : before ++ [x] = front ++ y :: inner) :
    x = y ∧ inner = [] ∨ ∃ init, inner = init ++ [x] ∧ before = front ++ y :: init := by
  rcases List.eq_nil_or_concat inner with rfl | ⟨init, z, rfl⟩
  · obtain ⟨-, hlast⟩ := List.append_inj' hsplit rfl
    exact .inl ⟨by simpa using hlast, rfl⟩
  · have hshift : front ++ y :: (init ++ [z]) = (front ++ y :: init) ++ [z] := by simp
    rw [List.concat_eq_append, hshift] at hsplit
    obtain ⟨hsame, hlast⟩ := List.append_inj' hsplit rfl
    obtain rfl : x = z := by simpa using hlast
    exact .inr ⟨init, List.concat_eq_append, hsame⟩

/-- A stream whose last item is a mark is inside exactly what that mark opens. -/
theorem inside_concat {before : List α} {x : α} {kind : κ} (hx : mark x ≠ .neither) :
    Inside mark (before ++ [x]) kind ↔ mark x = .opens kind := by
  constructor
  · rintro ⟨front, y, inner, hsplit, hy, hinner⟩
    rcases concat_eq_append_cons hsplit with ⟨rfl, -⟩ | ⟨init, rfl, -⟩
    · exact hy
    · exact absurd (hinner x (by simp)) hx
  · exact fun hopens => ⟨before, x, [], rfl, hopens, by simp⟩

theorem inside_concat_neither {before : List α} {x : α} {kind : κ} (hx : mark x = .neither) :
    Inside mark (before ++ [x]) kind ↔ Inside mark before kind := by
  constructor
  · rintro ⟨front, y, inner, hsplit, hy, hinner⟩
    rcases concat_eq_append_cons hsplit with ⟨rfl, -⟩ | ⟨init, rfl, rfl⟩
    · rw [hx] at hy
      cases hy
    · exact ⟨front, y, init, rfl, hy, fun w hw => hinner w (by simp [hw])⟩
  · exact fun hinside => hinside.append_neither (by simpa using hx)

variable [DecidableEq κ]

def advance : Mark κ → Option κ → Option (Option κ)
  | .opens kind, none => some (some kind)
  | .opens _, some _ => none
  | .closes kind, some current => if kind = current then some none else none
  | .closes _, none => none
  | .neither, current => some current

def scan (mark : α → Mark κ) (current : Option κ) (items : List α) : Option (Option κ) :=
  run (fun state x => advance (mark x) state) current items

variable {current : Option κ}

@[simp] theorem scan_nil : scan mark current [] = some current := rfl

theorem scan_cons (x : α) (rest : List α) : scan mark current (x :: rest) =
      (advance (mark x) current).bind fun next => scan mark next rest :=
  run_cons _ _ _ _

theorem scan_append (first second : List α) : scan mark current (first ++ second) =
      (scan mark current first).bind fun next => scan mark next second :=
  run_append _ _ _ _

/-- A machine that keeps track of a bracket scans what it runs through. -/
theorem scan_of_run {σ : Type} {step : σ → α → Option σ} {view : σ → Option κ}
    {items : List α} (hstep : ∀ x ∈ items, ∀ s next, step s x = some next →
      advance (mark x) (view s) = some (view next))
    {s last : σ} (hrun : run step s items = some last) :
    scan mark (view s) items = some (view last) := by
  induction items generalizing s with
  | nil =>
    cases hrun
    rfl
  | cons x items ih =>
    rw [run_cons] at hrun
    obtain ⟨next, hnext, hrest⟩ := Option.bind_eq_some_iff.mp hrun
    rw [scan_cons, hstep x List.mem_cons_self s next hnext]
    exact ih (fun y hy => hstep y (List.mem_cons_of_mem x hy)) hrest

theorem scan_inside {before : List α} {last : Option κ}
    (hscan : scan mark none before = some last) (kind : κ) :
    Inside mark before kind ↔ last = some kind := by
  induction before using List.reverseRecOn generalizing last kind with
  | nil =>
    cases hscan
    simp [Inside]
  | append_singleton before x ih =>
    rw [scan_append] at hscan
    obtain ⟨mid, hmid, hx⟩ := Option.bind_eq_some_iff.mp hscan
    simp only [scan_cons, scan_nil, Option.bind_fun_some] at hx
    cases hmark : mark x with
    | neither =>
      rw [hmark] at hx
      cases hx
      rw [inside_concat_neither hmark]
      exact ih hmid kind
    | opens opened =>
      rw [inside_concat (by simp [hmark]), hmark]
      rw [hmark] at hx
      cases mid with
      | some _ => cases hx
      | none =>
        cases hx
        simp
    | closes closed =>
      rw [inside_concat (by simp [hmark]), hmark]
      rw [hmark] at hx
      cases mid with
      | none => cases hx
      | some open' =>
        simp only [advance] at hx
        split_ifs at hx
        cases hx
        simp

theorem scan_outside {before : List α} (hscan : scan mark none before = some none) :
    Outside mark before := fun kind hinside => by
  simpa using (scan_inside hscan kind).mp hinside

/-- A stream that leaves an open bracket closed has a first mark, which closes it. -/
theorem exists_close {kind : κ} {items : List α}
    (hscan : scan mark (some kind) items = some none) :
    ∃ inner y rest, items = inner ++ y :: rest ∧ mark y = .closes kind ∧
      ∀ z ∈ inner, mark z = .neither := by
  induction items with
  | nil => cases hscan
  | cons x items ih =>
    rw [scan_cons] at hscan
    obtain ⟨mid, hmid, hrest⟩ := Option.bind_eq_some_iff.mp hscan
    cases hmark : mark x with
    | neither =>
      rw [hmark] at hmid
      cases hmid
      obtain ⟨inner, y, rest, rfl, hy, hinner⟩ := ih hrest
      refine ⟨x :: inner, y, rest, rfl, hy, fun z hz => ?_⟩
      rcases List.mem_cons.mp hz with rfl | hz
      · exact hmark
      · exact hinner z hz
    | opens opened =>
      rw [hmark] at hmid
      cases hmid
    | closes closed =>
      rw [hmark] at hmid
      simp only [advance] at hmid
      split_ifs at hmid with hkind
      exact ⟨[], x, items, rfl, hkind ▸ hmark, by simp⟩

theorem bracketed_of_scan {items : List α} (hscan : scan mark none items = some none) :
    Bracketed mark items := by
  constructor
  · rintro before x after kind rfl hx
    obtain ⟨mid, next, hmid, hnext, hrest⟩ := run_append_cons.mp hscan
    rw [hx] at hnext
    cases mid with
    | some _ => cases hnext
    | none =>
      cases hnext
      exact ⟨scan_outside hmid, exists_close hrest⟩
  · rintro before x after kind rfl hx
    obtain ⟨mid, next, hmid, hnext, -⟩ := run_append_cons.mp hscan
    rw [hx] at hnext
    cases mid with
    | none => cases hnext
    | some open' =>
      simp only [advance] at hnext
      split_ifs at hnext with hkind
      exact (scan_inside hmid kind).mpr (by rw [hkind])

end VkRelay.Lib
