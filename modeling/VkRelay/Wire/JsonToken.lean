import VkRelay.Wire.Json

/-!
How the parser scans what the serializer prints: blanks, escaped strings and number
tokens. A number token is an optional sign, digits, and optionally a fraction and an
exponent; every number the serializer prints is one, and the parser takes exactly
its bytes.
-/

namespace VkRelay.Json

open VkRelay.Lib

/-- The text does not start with a byte of the class. -/
def NotAhead (p : UInt8 → Bool) (text : Bytes) : Prop :=
  ∀ c ∈ text.head?, p c = false

/-- A byte that could continue a number. -/
def continuesNumber (c : UInt8) : Bool :=
  isDigit c || c = 0x2e || c = 0x65 || c = 0x45

def Blank (text : Bytes) : Prop := ∀ c ∈ text, isSpace c = true

section Scanning

variable {p : UInt8 → Bool} {pos : Nat}

theorem takeWhile_append_stop {front rest : Bytes} (hfront : ∀ c ∈ front, p c = true)
    (hrest : NotAhead p rest) : (front ++ rest).takeWhile p = front := by
  rw [List.takeWhile_append_of_pos hfront]
  cases rest with
  | nil => simp
  | cons c rest =>
    have hc : p c = false := hrest c (by simp)
    simp [hc]

theorem advance_append (front rest : Bytes) :
    advance ⟨pos, front ++ rest⟩ front.length = ⟨pos + front.length, rest⟩ := by
  simp [advance]

theorem skipWs_append {ws rest : Bytes} (hws : Blank ws) (hrest : NotAhead isSpace rest) :
    skipWs ⟨pos, ws ++ rest⟩ = ⟨pos + ws.length, rest⟩ := by
  rw [skipWs, takeWhile_append_stop hws hrest, advance_append]

theorem skipWs_stop {rest : Bytes} (hrest : NotAhead isSpace rest) :
    skipWs ⟨pos, rest⟩ = ⟨pos, rest⟩ :=
  skipWs_append (fun _ hc => absurd hc List.not_mem_nil) hrest

theorem skipDigits_append {digits rest : Bytes} (hdigits : ∀ c ∈ digits, isDigit c = true)
    (hrest : NotAhead isDigit rest) :
    skipDigits ⟨pos, digits ++ rest⟩ = ⟨pos + digits.length, rest⟩ := by
  rw [skipDigits, takeWhile_append_stop hdigits hrest, advance_append]

end Scanning

section Strings

variable {pos : Nat}

theorem hexValue_hexDigit : ∀ d < 16, hexValue (hexDigit d) = some d := by
  decide

theorem escapeByte_ne_nil (c : UInt8) : escapeByte c ≠ [] := by
  unfold escapeByte
  split_ifs <;> simp

/-- The four-digit escape of a control byte reads back as that byte. -/
theorem parseUnicodeEscape_control {c : UInt8} (hc : c < 0x20) (rest : Bytes) : parseUnicodeEscape
        ⟨pos, [0x30, 0x30, hexDigit (c.toNat / 16), hexDigit (c.toNat % 16)] ++ rest⟩ =
      .ok ([c], ⟨pos + 4, rest⟩) := by
  have hlt : c.toNat < 32 := hc
  have hzero : hexValue 0x30 = some 0 := by decide
  have hhigh := hexValue_hexDigit (c.toNat / 16) (by omega)
  have hlow := hexValue_hexDigit (c.toNat % 16) (by omega)
  have hvalue : c.toNat / 16 * 16 + c.toNat % 16 = c.toNat := by omega
  have hread : parseHex4
      ⟨pos, [0x30, 0x30, hexDigit (c.toNat / 16), hexDigit (c.toNat % 16)] ++ rest⟩ =
      .ok (c.toNat, ⟨pos + 4, rest⟩) := by
    simp [parseHex4, parseHexDigits, hzero, hhigh, hlow, hvalue, bind, Except.bind]
  have hplain : ¬(0xd800 ≤ c.toNat ∧ c.toNat ≤ 0xdbff) := by omega
  have hascii : c.toNat ≤ 0x7f := by omega
  simp only [parseUnicodeEscape, hread, hplain, encodeUtf8, hascii, bind, Except.bind, if_true,
    if_false, UInt8.ofNat_toNat]

/-- One turn of the string loop reads one escaped byte. -/
theorem parseStringBody_escapeByte (fuel : Nat) (out : Bytes) (c : UInt8) (rest : Bytes) :
    parseStringBody (fuel + 1) out ⟨pos, escapeByte c ++ rest⟩ =
      parseStringBody fuel (out ++ [c]) ⟨pos + (escapeByte c).length, rest⟩ := by
  unfold escapeByte
  split_ifs with h1 h2 h3 h4 h5 h6 h7 hcontrol
  all_goals try subst c
  all_goals try rfl
  · simp only [parseStringBody, List.cons_append, next_cons, bind, Except.bind]
    have hread := @parseUnicodeEscape_control (pos + 1 + 1) c hcontrol rest
    simp only [List.cons_append, List.nil_append] at hread
    simp [parseEscape, hread, bind, Except.bind]
  · simp [parseStringBody, h1, h2, bind, Except.bind]

theorem parseStringBody_escaped (text : Bytes) (fuel : Nat) (out rest : Bytes)
    (hfuel : text.length < fuel) :
    parseStringBody fuel out ⟨pos, text.flatMap escapeByte ++ 0x22 :: rest⟩ =
      .ok (out ++ text, ⟨pos + (text.flatMap escapeByte).length + 1, rest⟩) := by
  induction text generalizing pos fuel out with
  | nil =>
    obtain ⟨fuel, rfl⟩ := Nat.exists_eq_add_one_of_ne_zero (by omega : fuel ≠ 0)
    simp [parseStringBody, bind, Except.bind]
  | cons c text ih =>
    obtain ⟨fuel, rfl⟩ := Nat.exists_eq_add_one_of_ne_zero (by omega : fuel ≠ 0)
    rw [List.length_cons] at hfuel
    rw [List.flatMap_cons, List.append_assoc, parseStringBody_escapeByte,
      ih fuel (out ++ [c]) (by omega)]
    simp [Nat.add_assoc]

theorem length_le_escaped (text : Bytes) : text.length ≤ (text.flatMap escapeByte).length := by
  induction text with
  | nil => simp
  | cons c text ih =>
    have hone := List.length_pos_of_ne_nil (escapeByte_ne_nil c)
    simp only [List.flatMap_cons, List.length_append, List.length_cons]
    omega

theorem parseString_escapeString (text rest : Bytes) :
    parseString ⟨pos, escapeString text ++ rest⟩ =
      .ok (text, ⟨pos + (escapeString text).length, rest⟩) := by
  have hlength := length_le_escaped text
  simp only [parseString, escapeString, List.cons_append, List.nil_append, List.append_assoc,
    expect_cons, bind, Except.bind]
  have hfuel : text.length < (text.flatMap escapeByte ++ 0x22 :: rest).length + 1 := by
    rw [List.length_append]
    omega
  rw [parseStringBody_escaped text _ [] rest hfuel]
  simp only [List.nil_append, List.length_cons, List.length_append, List.length_nil]
  congr 3
  omega

end Strings

section Tokens

structure NumberText where
  negative : Bool := false
  whole : Bytes
  fraction : Option Bytes := none
  exponent : Option (UInt8 × Bytes) := none
  whole_ne_nil : whole ≠ []
  whole_digits : ∀ c ∈ whole, isDigit c = true
  fraction_digits : ∀ c ∈ fraction.getD [], isDigit c = true
  exponent_sign : ∀ p ∈ exponent, p.1 = 0x2b ∨ p.1 = 0x2d
  exponent_digits : ∀ p ∈ exponent, ∀ c ∈ p.2, isDigit c = true

namespace NumberText

def signText (t : NumberText) : Bytes := if t.negative then [0x2d] else []

def pointText (t : NumberText) : Bytes :=
  match t.fraction with
  | none => []
  | some digits => 0x2e :: digits

def powerText (t : NumberText) : Bytes :=
  match t.exponent with
  | none => []
  | some (sign, digits) => 0x65 :: sign :: digits

def text (t : NumberText) : Bytes := t.signText ++ (t.whole ++ (t.pointText ++ t.powerText))

variable (t : NumberText) {pos : Nat} {rest : Bytes}

def power : ℤ := readExponent t.powerText

def magnitude : ℚ :=
  digitsValue 0 (t.whole ++ t.fraction.getD []) * (10 : ℚ) ^ (t.power - (t.fraction.getD []).length)

theorem notAhead_isDigit {rest : Bytes} (hrest : NotAhead continuesNumber rest) :
    NotAhead isDigit rest := by
  intro c hc
  have hstop := hrest c hc
  simp only [continuesNumber, Bool.or_eq_false_iff] at hstop
  exact hstop.1.1.1

theorem notAhead_power (hrest : NotAhead isDigit rest) :
    NotAhead isDigit (t.powerText ++ rest) := by
  cases h : t.exponent with
  | none => simpa [powerText, h] using hrest
  | some part => simp [powerText, h, NotAhead, isDigit]

theorem notAhead_point (hrest : NotAhead isDigit rest) :
    NotAhead isDigit (t.pointText ++ (t.powerText ++ rest)) := by
  cases h : t.fraction with
  | none => simpa [pointText, h] using t.notAhead_power hrest
  | some digits => simp [pointText, h, NotAhead, isDigit]

theorem whole_head : ∃ c digits, t.whole = c :: digits ∧ c ≠ 0x2d := by
  obtain ⟨c, digits, hwhole⟩ := List.exists_cons_of_ne_nil t.whole_ne_nil
  refine ⟨c, digits, hwhole, ?_⟩
  rintro rfl
  exact absurd (t.whole_digits 0x2d (by simp [hwhole])) (by decide)

theorem skipSign_text (more : Bytes) : skipSign ⟨pos, t.signText ++ (t.whole ++ more)⟩ =
      ⟨pos + t.signText.length, t.whole ++ more⟩ := by
  cases h : t.negative with
  | true => simp [skipSign, signText, h, advance]
  | false =>
    obtain ⟨c, digits, hwhole, hc⟩ := t.whole_head
    simp [skipSign, signText, h, hwhole, hc]

theorem peek_stop (hrest : NotAhead continuesNumber rest) :
    peek ⟨pos, rest⟩ ≠ 0x2e ∧ peek ⟨pos, rest⟩ ≠ 0x65 ∧ peek ⟨pos, rest⟩ ≠ 0x45 := by
  cases rest with
  | nil => simp [peek]
  | cons c rest =>
    have hc := hrest c (by simp)
    simp only [continuesNumber, Bool.or_eq_false_iff, decide_eq_false_iff_not] at hc
    exact ⟨hc.1.1.2, hc.1.2, hc.2⟩

theorem skipFraction_text (hrest : NotAhead continuesNumber rest) :
    skipFraction ⟨pos, t.pointText ++ (t.powerText ++ rest)⟩ =
      ⟨pos + t.pointText.length, t.powerText ++ rest⟩ := by
  have hdigits := t.notAhead_power (notAhead_isDigit hrest)
  cases h : t.fraction with
  | none =>
    have hpoint : peek ⟨pos, t.powerText ++ rest⟩ ≠ 0x2e := by
      cases hpower : t.exponent with
      | none => simpa [powerText, hpower] using (peek_stop hrest).1
      | some part => simp [powerText, hpower]
    simp [skipFraction, pointText, h, hpoint]
  | some digits =>
    have hfraction : ∀ c ∈ digits, isDigit c = true := by simpa [h] using t.fraction_digits
    simp [skipFraction, pointText, h, advance, skipDigits_append hfraction hdigits]
    omega

theorem skipExponent_text (hrest : NotAhead continuesNumber rest) :
    skipExponent ⟨pos, t.powerText ++ rest⟩ = ⟨pos + t.powerText.length, rest⟩ := by
  cases h : t.exponent with
  | none =>
    obtain ⟨-, hlower, hupper⟩ := @peek_stop pos rest hrest
    simp [skipExponent, powerText, h, hlower, hupper]
  | some part =>
    obtain ⟨sign, digits⟩ := part
    have hsign : sign = 0x2b ∨ sign = 0x2d := t.exponent_sign (sign, digits) h
    have hdigits := t.exponent_digits (sign, digits) h
    have hskip := @skipDigits_append (pos + 1 + 1) digits rest hdigits (notAhead_isDigit hrest)
    simp only [skipExponent, powerText, h, List.cons_append, peek_cons, true_or, if_true, advance,
      List.drop_succ_cons, List.drop_zero, hsign, hskip, List.length_cons]
    congr 1
    omega

/-- The scan of a number takes exactly the token. -/
theorem scan_text (hrest : NotAhead continuesNumber rest) :
    skipExponent (skipFraction (skipDigits (skipSign ⟨pos, t.text ++ rest⟩))) =
      ⟨pos + t.text.length, rest⟩ := by
  have hdigits := t.notAhead_point (notAhead_isDigit hrest)
  have htext : t.text ++ rest =
      t.signText ++ (t.whole ++ (t.pointText ++ (t.powerText ++ rest))) := by
    simp [text]
  rw [htext, skipSign_text, skipDigits_append t.whole_digits hdigits, skipFraction_text t hrest,
    skipExponent_text t hrest, text]
  simp [Nat.add_assoc]

theorem text_ne (t : NumberText) : t.text ≠ [] ∧ t.text ≠ [0x2d] := by
  obtain ⟨c, digits, hwhole, hc⟩ := t.whole_head
  cases h : t.negative <;> simp [text, signText, h, hwhole, hc]

theorem text_head (t : NumberText) :
    ∃ c tail, t.text = c :: tail ∧ (c = 0x2d ∨ isDigit c = true) := by
  obtain ⟨c, digits, hwhole⟩ := List.exists_cons_of_ne_nil t.whole_ne_nil
  cases h : t.negative with
  | true => exact ⟨0x2d, _, by simp [text, signText, h]; rfl, Or.inl rfl⟩
  | false =>
    refine ⟨c, digits ++ (t.pointText ++ t.powerText), by simp [text, signText, h, hwhole], ?_⟩
    exact Or.inr (t.whole_digits c (by simp [hwhole]))

/-- A token is parsed as the double nearest to it, if there is no range error. -/
theorem parseNumber_text (hrest : NotAhead continuesNumber rest) :
    parseNumber ⟨pos, t.text ++ rest⟩ = match stod t.text with
      | some value => .ok (.number value, ⟨pos + t.text.length, rest⟩)
      | none => .error (.error "stod") := by
  obtain ⟨hne, hsign⟩ := t.text_ne
  cases hstod : stod t.text <;>
    simp only [parseNumber, t.scan_text hrest, Nat.add_sub_cancel_left, List.take_left', hne, hsign,
      or_self, if_false, hstod]

theorem stod_text : stod t.text =
      (roundDouble t.magnitude).map fun value => if t.negative then -value else value := by
  have hstop : NotAhead isDigit ([] : Bytes) := by simp [NotAhead]
  have hhead : t.text.head? = some 0x2d ↔ t.negative = true := by
    obtain ⟨c, digits, hwhole, hc⟩ := t.whole_head
    cases h : t.negative <;> simp [text, signText, h, hwhole, hc]
  have hdigits : (if t.negative = true then t.text.drop 1 else t.text) =
      t.whole ++ (t.pointText ++ t.powerText) := by
    cases h : t.negative <;> simp [text, signText, h]
  have hwhole : (t.whole ++ (t.pointText ++ t.powerText)).takeWhile isDigit = t.whole := by
    have hpoint := t.notAhead_point hstop
    rw [List.append_nil] at hpoint
    exact takeWhile_append_stop t.whole_digits hpoint
  have hpower : NotAhead isDigit t.powerText := by
    simpa using t.notAhead_power hstop
  simp only [stod, hhead, hdigits, hwhole, List.drop_left]
  cases h : t.fraction with
  | none =>
    have hpoint : t.powerText.head? ≠ some 0x2e := by
      cases hexponent : t.exponent <;> simp [powerText, hexponent]
    simp [magnitude, power, pointText, h, hpoint, t.whole_ne_nil]
  | some fraction =>
    have hfraction : ∀ c ∈ fraction, isDigit c = true := by simpa [h] using t.fraction_digits
    have htake := takeWhile_append_stop hfraction hpower
    have hdrop : (0x2e :: (fraction ++ t.powerText)).drop (1 + fraction.length) = t.powerText := by
      rw [Nat.add_comm, List.drop_succ_cons, List.drop_left]
    simp [magnitude, power, pointText, h, htake, hdrop, t.whole_ne_nil]

end NumberText

def integerToken (n : ℤ) : NumberText where
  negative := decide (n < 0)
  whole := decimal n.natAbs
  whole_ne_nil := decimal_ne_nil n.natAbs
  whole_digits _ := isDigit_of_mem_decimal
  fraction_digits := by simp
  exponent_sign := by simp
  exponent_digits := by simp

theorem text_integerToken (n : ℤ) : (integerToken n).text = dumpInteger n := by
  by_cases h : n < 0 <;> simp [integerToken, NumberText.text, NumberText.signText,
    NumberText.pointText, NumberText.powerText, dumpInteger, h]

variable {t : NumberText} {digits : Bytes}

theorem isDigit_of_mem_stripZeros (hdigits : ∀ c ∈ digits, isDigit c = true) :
    ∀ c ∈ stripZeros digits, isDigit c = true := by
  intro c hc
  rw [stripZeros, List.mem_reverse] at hc
  exact hdigits c (List.mem_reverse.mp (List.dropWhile_subset _ hc))

/-- A fraction without digits has no point either. -/
def fractionOf (digits : Bytes) : Option Bytes := if digits = [] then none else some digits

theorem getD_fractionOf (digits : Bytes) : (fractionOf digits).getD [] = digits := by
  by_cases h : digits = [] <;> simp [fractionOf, h]

/-- The significant digits and the decimal exponent that `%.17g` prints. -/
def significant (magnitude : ℚ) : Nat × ℤ :=
  let guess := decimalExponent magnitude 700 0
  let scaled := roundHalfEven (magnitude / (10 : ℚ) ^ (guess - 16))
  if scaled.natAbs = 10 ^ 17 then (10 ^ 16, guess + 1) else (scaled.natAbs, guess)

/-- The token of the digits `d` with a point behind the first one and `n` more. -/
def pointToken (d n : Nat) : NumberText where
  whole := (decimal d).take (n + 1)
  fraction := fractionOf (stripZeros ((decimal d).drop (n + 1)))
  whole_ne_nil := by simp [decimal_ne_nil]
  whole_digits c hc := isDigit_of_mem_decimal (List.mem_of_mem_take hc)
  fraction_digits := by
    rw [getD_fractionOf]
    exact isDigit_of_mem_stripZeros fun c hc => isDigit_of_mem_decimal (List.mem_of_mem_drop hc)
  exponent_sign := by simp
  exponent_digits := by simp

/-- The token of the digits `d` with the first one at the power `e`. -/
def g17Token (d : Nat) (e : ℤ) : NumberText :=
  if e < -4 ∨ 17 ≤ e then
    { pointToken d 0 with
      exponent := some (if e < 0 then 0x2d else 0x2b,
        if e.natAbs < 10 then 0x30 :: decimal e.natAbs else decimal e.natAbs)
      exponent_sign := by
        rintro p ⟨⟩
        split <;> simp
      exponent_digits := by
        rintro p ⟨⟩ c hc
        dsimp only at hc
        split at hc
        · rcases List.mem_cons.mp hc with rfl | hc
          · decide
          · exact isDigit_of_mem_decimal hc
        · exact isDigit_of_mem_decimal hc }
  else if e < 0 then
    { whole := [0x30]
      fraction := some (List.replicate (e.natAbs - 1) 0x30 ++ stripZeros (decimal d))
      whole_ne_nil := by simp
      whole_digits := by simp [isDigit]
      fraction_digits := by
        intro c hc
        rcases List.mem_append.mp hc with hc | hc
        · rw [List.eq_of_mem_replicate hc]
          decide
        · exact isDigit_of_mem_stripZeros (fun _ => isDigit_of_mem_decimal) c hc
      exponent_sign := by simp
      exponent_digits := by simp }
  else pointToken d e.natAbs

theorem text_with_fraction (hsign : t.negative = false)
    (hfraction : t.fraction = fractionOf digits) :
    t.text = t.whole ++ ((if digits = [] then [] else 0x2e :: digits) ++ t.powerText) := by
  by_cases h : digits = [] <;> simp [NumberText.text, NumberText.signText, NumberText.pointText,
    hsign, hfraction, fractionOf, h]

theorem formatG17_eq {magnitude : ℚ} (hne : magnitude ≠ 0) :
    formatG17 magnitude = (g17Token (significant magnitude).1 (significant magnitude).2).text := by
  rw [formatG17, if_neg hne, significant]
  generalize decimalExponent magnitude 700 0 = guess
  simp only
  generalize (roundHalfEven (magnitude / (10 : ℚ) ^ (guess - 16))).natAbs = scaled
  rw [apply_ite Prod.fst, apply_ite Prod.snd]
  generalize (if scaled = 10 ^ 17 then 10 ^ 16 else scaled) = d
  generalize (if scaled = 10 ^ 17 then guess + 1 else guess) = e
  unfold g17Token
  by_cases hfar : e < -4 ∨ 17 ≤ e
  · rw [if_pos hfar, if_pos hfar, text_with_fraction rfl rfl]
    simp [pointToken, NumberText.powerText]
  · rw [if_neg hfar, if_neg hfar]
    by_cases hneg : e < 0
    · rw [if_pos hneg, if_pos hneg]
      simp [NumberText.text, NumberText.signText, NumberText.pointText, NumberText.powerText]
    · rw [if_neg hneg, if_neg hneg, text_with_fraction rfl rfl]
      simp [pointToken, NumberText.powerText]

theorem negative_g17Token (d : Nat) (e : ℤ) : (g17Token d e).negative = false := by
  unfold g17Token
  split_ifs <;> rfl

def NumberText.minus (t : NumberText) : NumberText := { t with negative := true }

theorem NumberText.text_minus (hsign : t.negative = false) : t.minus.text = 0x2d :: t.text := by
  simp [minus, text, signText, hsign, pointText, powerText]

def numberToken (value : ℚ) : NumberText :=
  if value.den = 1 ∧ |value| < 10 ^ 15 then integerToken value.num
  else if value < 0 then (g17Token (significant (-value)).1 (significant (-value)).2).minus
  else g17Token (significant value).1 (significant value).2

theorem dumpNumber_eq (value : ℚ) : dumpNumber value = (numberToken value).text := by
  rw [dumpNumber, numberToken]
  by_cases hwhole : value.den = 1 ∧ |value| < 10 ^ 15
  · rw [if_pos hwhole, if_pos hwhole, text_integerToken]
  · have hne : value ≠ 0 := by
      rintro rfl
      exact hwhole (by simp)
    rw [if_neg hwhole, if_neg hwhole]
    by_cases hneg : value < 0
    · rw [if_pos hneg, if_pos hneg, formatG17_eq (neg_ne_zero.mpr hne),
        NumberText.text_minus (negative_g17Token _ _)]
    · rw [if_neg hneg, if_neg hneg, formatG17_eq hne]

end Tokens

end VkRelay.Json
