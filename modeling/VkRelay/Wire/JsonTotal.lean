import VkRelay.Wire.Json

/-!
The parser's fuel is enough for every text: a document is parsed or rejected with
one of the source's errors, never cut short by the model. Every parser consumes
at least one byte when it succeeds, and twice the remaining length pays for the
recursion.
-/

namespace VkRelay.Json

variable {α β : Type} {n m : Nat} {c : Cursor}

/-- The parse does not run out of fuel, and leaves fewer than `n` bytes. -/
def Below (n : Nat) : Except Failure (α × Cursor) → Prop
  | .ok (_, c) => c.rest.length < n
  | .error (.error _) => True
  | .error .outOfFuel => False

variable {r : Except Failure (α × Cursor)}

theorem Below.mono (hr : Below n r) (hnm : n ≤ m) : Below m r := by
  match r, hr with
  | .ok (_, _), hr => exact lt_of_lt_of_le hr hnm
  | .error (.error _), _ => trivial

theorem Below.bind {f : α × Cursor → Except Failure (β × Cursor)} (hr : Below n r)
    (hf : ∀ x c, c.rest.length < n → Below m (f (x, c))) : Below m (r >>= f) := by
  match r, hr with
  | .ok (x, c), hr => exact hf x c hr
  | .error (.error _), _ => trivial

theorem below_ok {x : α} (hc : c.rest.length < n) :
    Below n (.ok (x, c) : Except Failure (α × Cursor)) := hc

variable (c)

theorem below_next : Below c.rest.length (next c) := by
  obtain ⟨pos, rest⟩ := c
  cases rest with
  | nil => trivial
  | cons byte rest => exact Nat.lt_succ_self rest.length

theorem below_expect (byte : UInt8) (c : Cursor) : Below c.rest.length (expect byte c) := by
  refine (below_next c).bind fun got c' hc' => ?_
  dsimp only
  split_ifs
  · trivial
  · exact hc'

theorem length_advance_le (k : Nat) : (advance c k).rest.length ≤ c.rest.length := by
  simp [advance]

theorem length_skipWs_le : (skipWs c).rest.length ≤ c.rest.length :=
  length_advance_le c _

theorem below_parseHexDigits (count value : Nat) (c : Cursor) :
    Below (c.rest.length + 1) (parseHexDigits count value c) := by
  induction count generalizing value c with
  | zero => exact Nat.lt_succ_self c.rest.length
  | succ count ih =>
    refine (below_next c).bind fun byte c' hc' => ?_
    dsimp only
    split
    · exact (ih _ c').mono (by omega)
    · trivial

theorem below_parseUnicodeEscape : Below (c.rest.length + 1) (parseUnicodeEscape c) := by
  refine (below_parseHexDigits 4 0 c).bind fun cp c₁ hc₁ => ?_
  dsimp only
  split_ifs
  · refine (below_next c₁).bind fun first c₂ hc₂ => ?_
    dsimp only
    split_ifs
    · trivial
    refine (below_next c₂).bind fun second c₃ hc₃ => ?_
    dsimp only
    split_ifs
    · trivial
    refine (below_parseHexDigits 4 0 c₃).bind fun low c₄ hc₄ => ?_
    dsimp only
    split_ifs
    · trivial
    · exact below_ok (by omega)
  · exact hc₁

theorem below_parseEscape : Below c.rest.length (parseEscape c) := by
  refine (below_next c).bind fun e c' hc' => ?_
  dsimp only
  split_ifs
  all_goals first
    | exact hc'
    | exact (below_parseUnicodeEscape c').mono hc'
    | trivial

theorem below_parseStringBody (fuel : Nat) (out : Bytes) (c : Cursor)
    (hfuel : c.rest.length < fuel) : Below c.rest.length (parseStringBody fuel out c) := by
  induction fuel generalizing out c with
  | zero => omega
  | succ fuel ih =>
    refine (below_next c).bind fun byte c₁ hc₁ => ?_
    dsimp only
    split_ifs
    · exact hc₁
    · refine (below_parseEscape c₁).bind fun bytes c₂ hc₂ => ?_
      exact (ih _ c₂ (by omega)).mono (by omega)
    · exact (ih _ c₁ (by omega)).mono (by omega)

theorem below_parseString : Below c.rest.length (parseString c) := by
  refine (below_expect 0x22 c).bind fun _ c' hc' => ?_
  exact (below_parseStringBody _ [] c' (Nat.lt_succ_self _)).mono (by omega)

/-- `d` is reached from `c` by skipping bytes. -/
def Skips (c d : Cursor) : Prop := ∃ k, d = advance c k

theorem Skips.trans {c d e : Cursor} : Skips c d → Skips d e → Skips c e := by
  rintro ⟨j, rfl⟩ ⟨k, rfl⟩
  exact ⟨j + k, by simp [advance, Nat.add_assoc]⟩

theorem skips_digits : Skips c (skipDigits c) := ⟨_, rfl⟩

theorem skips_sign : Skips c (skipSign c) := by
  unfold skipSign
  split_ifs
  · exact ⟨1, rfl⟩
  · exact ⟨0, rfl⟩

theorem skips_fraction : Skips c (skipFraction c) := by
  unfold skipFraction
  split_ifs
  · exact Skips.trans ⟨1, rfl⟩ (skips_digits _)
  · exact ⟨0, rfl⟩

theorem skips_exponent : Skips c (skipExponent c) := by
  unfold skipExponent
  dsimp only
  split_ifs
  · exact Skips.trans ⟨2, by simp [advance]⟩ (skips_digits _)
  · exact Skips.trans ⟨1, rfl⟩ (skips_digits _)
  · exact ⟨0, rfl⟩

/-- A number's token is not empty, so that it is skipped. -/
theorem below_parseNumber : Below c.rest.length (parseNumber c) := by
  obtain ⟨k, hstop⟩ := (((skips_sign c).trans (skips_digits _)).trans (skips_fraction _)).trans
    (skips_exponent _)
  unfold parseNumber
  dsimp only
  rw [hstop]
  split_ifs with htoken
  · trivial
  · split
    · simp only [advance, Nat.add_sub_cancel_left, not_or, List.take_eq_nil_iff] at htoken
      have hpos := List.length_pos_iff.mpr htoken.1.2
      simp only [Below, advance, List.length_drop]
      omega
    · trivial

/-- A literal that was recognised is consumed. -/
theorem length_advance_lt {c : Cursor} {literal : Bytes}
    (hliteral : literal.isPrefixOf c.rest = true) (hpos : 0 < literal.length) :
    (advance c literal.length).rest.length < c.rest.length := by
  have hle := (List.isPrefixOf_iff_prefix.mp hliteral).length_le
  simp only [advance, List.length_drop]
  omega

theorem below_parseBool : Below c.rest.length (parseBool c) := by
  unfold parseBool
  split_ifs with htrue hfalse
  · exact length_advance_lt htrue (by decide)
  · exact length_advance_lt hfalse (by decide)
  · trivial

theorem below_parseNull : Below c.rest.length (parseNull c) := by
  unfold parseNull
  split_ifs with hnull
  · exact length_advance_lt hnull (by decide)
  · trivial

/-- What stands inside begins behind the opening byte. -/
theorem below_parseContainer {opening closing : UInt8} {make : List α → Value}
    {inside : Cursor → Except Failure (List α × Cursor)}
    (hinside : ∀ c' : Cursor, c'.rest.length < c.rest.length →
      Below c'.rest.length (inside c')) :
    Below c.rest.length (parseContainer opening closing make inside c) := by
  refine (below_expect opening c).bind fun _ c₁ hc₁ => ?_
  have hskip := length_skipWs_le c₁
  dsimp only
  split_ifs
  · exact below_ok ((length_advance_le _ 1).trans_lt (by omega))
  · exact (hinside (skipWs c₁) (by omega)).bind fun contents c₂ hc₂ =>
      below_ok (by dsimp only; omega)

/-- Twice the remaining length pays for a value, and one more for a list. -/
structure Enough (fuel : Nat) : Prop where
  value : ∀ c : Cursor, 2 * c.rest.length + 1 ≤ fuel → Below c.rest.length (parseValue fuel c)
  members : ∀ c : Cursor, 2 * c.rest.length + 2 ≤ fuel → Below c.rest.length (parseMembers fuel c)
  items : ∀ c : Cursor, 2 * c.rest.length + 2 ≤ fuel → Below c.rest.length (parseItems fuel c)

section Step

variable {c} {fuel : Nat} (ih : Enough fuel)
include ih

theorem below_parseItems_step (hfuel : 2 * c.rest.length + 2 ≤ fuel + 1) :
    Below c.rest.length (parseItems (fuel + 1) c) := by
  refine (ih.value c (by omega)).bind fun v c₁ hc₁ => ?_
  have hskip := length_skipWs_le c₁
  refine (below_next (skipWs c₁)).bind fun byte c₂ hc₂ => ?_
  dsimp only
  split_ifs
  · exact (ih.items c₂ (by omega)).bind fun items c₃ hc₃ => below_ok (by dsimp only; omega)
  · exact below_ok (by omega)
  · trivial

theorem below_parseMembers_step (hfuel : 2 * c.rest.length + 2 ≤ fuel + 1) :
    Below c.rest.length (parseMembers (fuel + 1) c) := by
  have hskip := length_skipWs_le c
  unfold parseMembers
  dsimp only
  split_ifs
  · trivial
  refine (below_parseString (skipWs c)).bind fun key c₁ hc₁ => ?_
  have hskip₁ := length_skipWs_le c₁
  refine (below_expect 0x3a (skipWs c₁)).bind fun _ c₂ hc₂ => ?_
  refine (ih.value c₂ (by omega)).bind fun v c₃ hc₃ => ?_
  have hskip₃ := length_skipWs_le c₃
  refine (below_next (skipWs c₃)).bind fun byte c₄ hc₄ => ?_
  dsimp only
  split_ifs
  · exact (ih.members c₄ (by omega)).bind fun members c₅ hc₅ => below_ok (by dsimp only; omega)
  · exact below_ok (by omega)
  · trivial

theorem below_parseValue_step (hfuel : 2 * c.rest.length + 1 ≤ fuel + 1) :
    Below c.rest.length (parseValue (fuel + 1) c) := by
  have hskip := length_skipWs_le c
  unfold parseValue
  dsimp only
  split_ifs
  · exact (below_parseContainer _ fun c₁ hc₁ => ih.members c₁ (by omega)).mono hskip
  · exact (below_parseContainer _ fun c₁ hc₁ => ih.items c₁ (by omega)).mono hskip
  · exact (below_parseString (skipWs c)).bind fun text c₁ hc₁ => below_ok (by dsimp only; omega)
  · exact (below_parseBool (skipWs c)).mono hskip
  · exact (below_parseNull (skipWs c)).mono hskip
  · exact (below_parseNumber (skipWs c)).mono hskip
  · trivial

end Step

theorem enough (fuel : Nat) : Enough fuel := by
  induction fuel with
  | zero => constructor <;> intros <;> omega
  | succ fuel ih =>
    exact ⟨fun _ => below_parseValue_step ih, fun _ => below_parseMembers_step ih,
      fun _ => below_parseItems_step ih⟩

/-- Every text is parsed, or rejected with an error of the source. -/
theorem parseDocument_ne_outOfFuel (text : Bytes) : parseDocument text ≠ .error .outOfFuel := by
  have hskip : (skipWs ⟨0, text⟩).rest.length ≤ text.length := length_skipWs_le _
  have hvalue := (enough (parseFuel text.length)).value (skipWs ⟨0, text⟩)
    (by rw [parseFuel]; omega)
  intro hfailed
  simp only [parseDocument, bind, Except.bind] at hfailed
  match hresult : parseValue (parseFuel text.length) (skipWs ⟨0, text⟩), hvalue with
  | .ok (v, c), _ =>
    simp only [hresult] at hfailed
    split_ifs at hfailed
    cases hfailed
  | .error (.error message), _ =>
    simp [hresult] at hfailed

end VkRelay.Json
