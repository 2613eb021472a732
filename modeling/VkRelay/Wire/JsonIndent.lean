import VkRelay.Wire.JsonRoundTrip

/-!
The printer with the machine arithmetic of its indentation. `dump_to` multiplies
the indent by the depth in a 32-bit `int` on entry to every value, scalars
included, and converts the product to a string length. Once the product leaves
the `int` range the length is absurd and the printer throws. Where it stays
inside, the text is the one of `dump` and parses back.
-/

namespace VkRelay.Json

/-- The string of `product` blanks: the product is an `int`, and a negative one
converts to a length no string has. -/
def spaces (product : Nat) : Option Bytes :=
  if product % 2 ^ 32 < 2 ^ 31 then some (List.replicate (product % 2 ^ 32) 0x20) else none

/-- `pad` and `pad_close`. -/
def pads (indent depth : Nat) : Option (Bytes × Bytes) :=
  if 0 < indent then do
    let pad ← spaces (indent * (depth + 1))
    let padClose ← spaces (indent * depth)
    some (pad, padClose)
  else some ([], [])

mutual

/-- `dump_to` as the source computes it; `none` where it throws. -/
def dumpTo32 (indent depth : Nat) : Value → Option Bytes
  | .null => do
    let _ ← pads indent depth
    some (ascii "null")
  | .bool b => do
    let _ ← pads indent depth
    some (if b then ascii "true" else ascii "false")
  | .number value => do
    let _ ← pads indent depth
    some (dumpNumber value)
  | .nonFinite negative nan => do
    let _ ← pads indent depth
    some (dumpNonFinite negative nan)
  | .string text => do
    let _ ← pads indent depth
    some (escapeString text)
  | .array items => do
    let (pad, padClose) ← pads indent depth
    if items.isEmpty then some [0x5b, 0x5d]
    else
      let lines ← dumpItems32 indent depth pad items
      some ([0x5b] ++ newline indent ++ lines ++ padClose ++ [0x5d])
  | .object members => do
    let (pad, padClose) ← pads indent depth
    if members.isEmpty then some [0x7b, 0x7d]
    else
      let lines ← dumpMembers32 indent depth pad members
      some ([0x7b] ++ newline indent ++ lines ++ padClose ++ [0x7d])

def dumpItems32 (indent depth : Nat) (pad : Bytes) : List Value → Option Bytes
  | [] => some []
  | item :: rest => do
    let text ← dumpTo32 indent (depth + 1) item
    let lines ← dumpItems32 indent depth pad rest
    some (pad ++ text ++ separator rest ++ newline indent ++ lines)

def dumpMembers32 (indent depth : Nat) (pad : Bytes) : List (Bytes × Value) → Option Bytes
  | [] => some []
  | (key, v) :: rest => do
    let text ← dumpTo32 indent (depth + 1) v
    let lines ← dumpMembers32 indent depth pad rest
    some (pad ++ escapeString key ++ colon indent ++ text ++ separator rest ++ newline indent ++
      lines)

end

/-- `dump` at a non-negative `int` indent. -/
def dump32 (v : Value) (indent : Fin (2 ^ 31)) : Option Bytes :=
  dumpTo32 indent 0 v

mutual

/-- How many containers stand around the deepest value. -/
def Value.height : Value → Nat
  | .null | .bool _ | .number _ | .nonFinite _ _ | .string _ => 0
  | .array items => itemsHeight items
  | .object members => membersHeight members

def itemsHeight : List Value → Nat
  | [] => 0
  | item :: rest => max (item.height + 1) (itemsHeight rest)

def membersHeight : List (Bytes × Value) → Nat
  | [] => 0
  | (_, v) :: rest => max (v.height + 1) (membersHeight rest)

end

section Pads

variable {indent depth : Nat}

theorem spaces_of_lt {product : Nat} (hproduct : product < 2 ^ 31) :
    spaces product = some (List.replicate product 0x20) := by
  rw [spaces, Nat.mod_eq_of_lt (by omega), if_pos hproduct]

/-- A value at a depth whose closing pad fits: one more indent either still fits,
or makes the product negative. -/
theorem pads_eq (hindent : indent < 2 ^ 31) (hclose : indent * depth < 2 ^ 31) : pads indent depth =
      if indent * (depth + 1) < 2 ^ 31 then
        some (padding indent (depth + 1), padding indent depth)
      else none := by
  rcases Nat.eq_zero_or_pos indent with rfl | hpos
  · simp [pads, padding]
  · rw [pads, if_pos hpos, spaces_of_lt hclose]
    split
    · next hfits =>
        rw [spaces_of_lt hfits]
        rfl
    · next hover =>
        have hnegative : ¬ indent * (depth + 1) % 2 ^ 32 < 2 ^ 31 := by
          rw [Nat.mul_succ] at hover ⊢
          rw [Nat.mod_eq_of_lt (by omega)]
          exact hover
        rw [spaces, if_neg hnegative]
        rfl

/-- The deepest pad of a value that is printed at the depth. -/
def PadsFit (indent depth height : Nat) : Prop :=
  indent * (depth + height + 1) < 2 ^ 31

instance (indent depth height : Nat) : Decidable (PadsFit indent depth height) :=
  inferInstanceAs (Decidable (_ < _))

theorem pads_bind {α : Type} (hindent : indent < 2 ^ 31) (hclose : indent * depth < 2 ^ 31)
    (rest : Bytes × Bytes → Option α) :
    (pads indent depth >>= rest) =
      if PadsFit indent depth 0 then rest (padding indent (depth + 1), padding indent depth)
      else none := by
  rw [pads_eq hindent hclose]
  by_cases hfit : PadsFit indent depth 0
  · rw [if_pos hfit, if_pos (show indent * (depth + 1) < 2 ^ 31 from hfit)]
    rfl
  · rw [if_neg hfit, if_neg (show ¬ indent * (depth + 1) < 2 ^ 31 from hfit)]
    rfl

theorem PadsFit.mono {height lower : Nat} (hfit : PadsFit indent depth height)
    (hle : lower ≤ height) : PadsFit indent depth lower :=
  lt_of_le_of_lt (Nat.mul_le_mul_left _ (by omega)) hfit

theorem padsFit_max (first second : Nat) : PadsFit indent depth (max first second) ↔
      PadsFit indent depth first ∧ PadsFit indent depth second := by
  constructor
  · intro hfit
    exact ⟨hfit.mono (le_max_left _ _), hfit.mono (le_max_right _ _)⟩
  · rintro ⟨hfirst, hsecond⟩
    rcases max_choice first second with hmax | hmax <;> rwa [hmax]

theorem padsFit_succ (height : Nat) :
    PadsFit indent (depth + 1) height ↔ PadsFit indent depth (height + 1) := by
  rw [PadsFit, PadsFit, show depth + 1 + height + 1 = depth + (height + 1) + 1 by omega]

end Pads

section Exact

mutual

theorem dumpTo32_eq {indent : Nat} (hindent : indent < 2 ^ 31) :
    ∀ (v : Value) (depth : Nat), indent * depth < 2 ^ 31 → dumpTo32 indent depth v =
        if PadsFit indent depth v.height then some (dumpTo indent depth v) else none
  | .null, depth, hclose => by rw [dumpTo32, pads_bind hindent hclose, Value.height, dumpTo]
  | .bool b, depth, hclose => by rw [dumpTo32, pads_bind hindent hclose, Value.height, dumpTo]
  | .number value, depth, hclose => by
    rw [dumpTo32, pads_bind hindent hclose, Value.height, dumpTo]
  | .nonFinite negative nan, depth, hclose => by
    rw [dumpTo32, pads_bind hindent hclose, Value.height, dumpTo]
  | .string text, depth, hclose => by
    rw [dumpTo32, pads_bind hindent hclose, Value.height, dumpTo]
  | .array [], depth, hclose => by
    rw [dumpTo32, pads_bind hindent hclose, Value.height, itemsHeight, dumpTo]
    rfl
  | .array (item :: rest), depth, hclose => by
    rw [dumpTo32, pads_bind hindent hclose, Value.height]
    split
    · next hfit =>
        simp only [List.isEmpty_cons, Bool.false_eq_true, if_false,
          dumpItems32_eq hindent (item :: rest) depth hfit]
        split <;> rfl
    · next hover => rw [if_neg fun hfit => hover (hfit.mono (Nat.zero_le _))]
  | .object [], depth, hclose => by
    rw [dumpTo32, pads_bind hindent hclose, Value.height, membersHeight, dumpTo]
    rfl
  | .object (member :: rest), depth, hclose => by
    rw [dumpTo32, pads_bind hindent hclose, Value.height]
    split
    · next hfit =>
        simp only [List.isEmpty_cons, Bool.false_eq_true, if_false,
          dumpMembers32_eq hindent (member :: rest) depth hfit]
        split <;> rfl
    · next hover => rw [if_neg fun hfit => hover (hfit.mono (Nat.zero_le _))]

theorem dumpItems32_eq {indent : Nat} (hindent : indent < 2 ^ 31) :
    ∀ (items : List Value) (depth : Nat), indent * (depth + 1) < 2 ^ 31 →
      dumpItems32 indent depth (padding indent (depth + 1)) items =
        if PadsFit indent depth (itemsHeight items) then some (dumpItems indent depth items)
        else none
  | [], depth, hpad => by
    have hfit : PadsFit indent depth 0 := hpad
    rw [dumpItems32, dumpItems, itemsHeight, if_pos hfit]
  | item :: rest, depth, hpad => by
    rw [dumpItems32, dumpTo32_eq hindent item (depth + 1) hpad,
      dumpItems32_eq hindent rest depth hpad]
    simp only [itemsHeight, padsFit_max, padsFit_succ, dumpItems]
    split_ifs <;> simp_all

theorem dumpMembers32_eq {indent : Nat} (hindent : indent < 2 ^ 31) :
    ∀ (members : List (Bytes × Value)) (depth : Nat), indent * (depth + 1) < 2 ^ 31 →
      dumpMembers32 indent depth (padding indent (depth + 1)) members =
        if PadsFit indent depth (membersHeight members) then
          some (dumpMembers indent depth members)
        else none
  | [], depth, hpad => by
    have hfit : PadsFit indent depth 0 := hpad
    rw [dumpMembers32, dumpMembers, membersHeight, if_pos hfit]
  | (key, v) :: rest, depth, hpad => by
    rw [dumpMembers32, dumpTo32_eq hindent v (depth + 1) hpad,
      dumpMembers32_eq hindent rest depth hpad]
    simp only [membersHeight, padsFit_max, padsFit_succ, dumpMembers]
    split_ifs <;> simp_all

end

theorem dump32_eq (v : Value) (indent : Fin (2 ^ 31)) : dump32 v indent =
      if (indent : Nat) * (v.height + 1) < 2 ^ 31 then some (dump v indent) else none := by
  rw [dump32, dumpTo32_eq indent.isLt v 0 (by simp), dump]
  simp only [PadsFit, Nat.zero_add]

/-- At the indent 0 of the wire the printer never throws. -/
theorem dump32_zero (v : Value) : dump32 v 0 = some (dump v 0) := by
  rw [dump32_eq]
  exact if_pos (by simp)

end Exact

/-- A printable value survives printing and parsing exactly when the widest pad
of its text is an `int`; past that the printer throws. -/
theorem dump32_parses_back_iff {v : Value} (hv : Printable v) (indent : Fin (2 ^ 31)) :
    (∃ text, dump32 v indent = some text ∧ parseDocument text = .ok v) ↔
      (indent : Nat) * (v.height + 1) < 2 ^ 31 := by
  rw [dump32_eq]
  constructor
  · rintro ⟨text, htext, -⟩
    by_contra hover
    rw [if_neg hover] at htext
    cases htext
  · intro hfit
    exact ⟨dump v indent, if_pos hfit, parseDocument_dump hv indent⟩

theorem nested_keys_parse_back :
    ∃ text, dump32 (.object [([0x61], .array [.number (-7 : ℤ)]), ([0x61], .string [0xff, 0x00])])
        ⟨2, by decide⟩ = some text ∧
      parseDocument text =
        .ok (.object [([0x61], .array [.number (-7 : ℤ)]), ([0x61], .string [0xff, 0x00])]) := by
  refine (dump32_parses_back_iff (.object _ ?_) _).mpr (by decide)
  have harray : Printable (.array [.number (-7 : ℤ)]) :=
    .array _ (by simpa using Printable.number (-7) (by decide))
  simpa using ⟨harray, Printable.string _⟩

/-- One `null` in an array at an indent of 2^30: the scalar's own pad is already
outside `int`. -/
theorem wide_indent_throws : dump32 (.array [.null]) ⟨2 ^ 30, by decide⟩ = none := by
  rw [dump32_eq]
  exact if_neg (by decide)

/-- The text of a value of doubles, at any indent, is read as that value, or refused when one of
its numbers is infinite, a NaN or subnormal. -/
theorem doubles_parse_back {v : Value} (hv : Representable v) {indent : Fin (2 ^ 31)} {text : Bytes}
    (htext : dump32 v indent = some text) : Plain v ∧ parseDocument text = .ok v ∨
      ¬ Plain v ∧ (parseDocument text).toOption = none := by
  rw [dump32_eq, Option.ite_none_right_eq_some, Option.some_inj] at htext
  have hread := toOption_parseDocument_dump v indent
  rw [htext.2] at hread
  rcases hv.plain_or_refused with hplain | hnone
  · exact .inl ⟨hplain, toOption_eq_some_iff.mp (hread.trans hplain.reparse_eq)⟩
  · exact .inr ⟨fun hplain => by simp [hplain.reparse_eq] at hnone, hread.trans hnone⟩

theorem half_parses_back : parseDocument (ascii "0.5") = .ok (.number (1 / 2)) := by
  have hhalf : IsPlainNumber (1 / 2) :=
    .inr ⟨2 ^ 52, -53, ⟨by decide, by decide, by decide, by decide⟩, by norm_num⟩
  have htext : dump32 (.number (1 / 2)) 0 = some (ascii "0.5") := by decide +kernel
  exact ((doubles_parse_back (.plain _ hhalf) htext).resolve_right (·.1 (.number _ hhalf))).2

end VkRelay.Json
