import VkRelay.Wire.JsonToken

/-!
The doubles that survive printing and parsing. `%.17g` prints the nearest number of
seventeen digits, which is nearer to a normal double than half the distance to its
neighbours, so `stod` gives the double back. A subnormal double is never a number of
seventeen digits, and `stod` reports a range error for it.
-/

namespace VkRelay.Json

open VkRelay.Lib

section Rounding

theorem abs_roundHalfEven_sub_le (x : ℚ) : |(roundHalfEven x : ℚ) - x| ≤ 1 / 2 := by
  have hle : (x.floor : ℚ) ≤ x := Rat.floor_le x
  have hlt : x < x.floor + 1 := by exact_mod_cast Rat.lt_floor_add_one x
  rw [abs_le, roundHalfEven]
  split_ifs <;> push_cast <;> constructor <;> linarith

variable {x : ℚ} {n : ℤ}

theorem roundHalfEven_of_near (hnear : |x - n| < 1 / 2) : roundHalfEven x = n := by
  have hround := abs_roundHalfEven_sub_le x
  have hclose : |((roundHalfEven x - n : ℤ) : ℚ)| < 1 := by
    push_cast
    calc |(roundHalfEven x : ℚ) - n| ≤ |(roundHalfEven x : ℚ) - x| + |x - n| := abs_sub_le _ _ _
      _ < 1 := by linarith
  have hzero : roundHalfEven x - n = 0 := by
    rw [← Int.abs_lt_one_iff]
    exact_mod_cast hclose
  omega

/-- Rounding does not cross a whole number. -/
theorem le_roundHalfEven (hle : (n : ℚ) ≤ x) : n ≤ roundHalfEven x := by
  have hround := (abs_le.mp (abs_roundHalfEven_sub_le x)).1
  have hlt : ((n - 1 : ℤ) : ℚ) < roundHalfEven x := by
    push_cast
    linarith
  have := Int.cast_lt.mp hlt
  omega

theorem roundHalfEven_le (hle : x ≤ n) : roundHalfEven x ≤ n := by
  have hround := (abs_le.mp (abs_roundHalfEven_sub_le x)).2
  have hlt : (roundHalfEven x : ℚ) < ((n + 1 : ℤ) : ℚ) := by
    push_cast
    linarith
  have := Int.cast_lt.mp hlt
  omega

theorem roundToUnit_of_near {y : ℚ} {n e : ℤ} (hnear : |y - n * (2 : ℚ) ^ e| < (2 : ℚ) ^ e / 2) :
    roundToUnit y e = n * (2 : ℚ) ^ e := by
  have hunit : (0 : ℚ) < (2 : ℚ) ^ e := zpow_pos two_pos e
  have hscaled : |y / (2 : ℚ) ^ e - n| < 1 / 2 := by
    have heq : y / (2 : ℚ) ^ e - n = (y - n * (2 : ℚ) ^ e) / (2 : ℚ) ^ e := by
      field_simp
    rw [heq, abs_div, abs_of_pos hunit, div_lt_iff₀ hunit]
    linarith
  rw [roundToUnit, roundHalfEven_of_near hscaled]

/-- The binary exponent brackets the magnitude. -/
theorem binaryExponent_spec {q : ℚ} (hq : 0 < q) :
    (2 : ℚ) ^ binaryExponent q ≤ q ∧ q < (2 : ℚ) ^ (binaryExponent q + 1) := by
  have hnum : q.num.natAbs ≠ 0 := by
    have hpos := Rat.num_pos.mpr hq
    omega
  have hden : (0 : ℚ) < q.den := by exact_mod_cast q.den_pos
  have hq_eq : q * q.den = q.num.natAbs := by
    have hcast : ((q.num.natAbs : ℤ) : ℚ) = q.num := by
      rw [Int.natAbs_of_nonneg (Rat.num_pos.mpr hq).le]
    rw [Rat.mul_den_eq_num, ← hcast]
    rfl
  set a := q.num.natAbs.log2 with ha
  set b := q.den.log2 with hb
  have hnum_low : (2 : ℚ) ^ (a : ℤ) ≤ q * q.den := by
    rw [hq_eq]
    exact_mod_cast Nat.log2_self_le hnum
  have hnum_high : q * q.den < (2 : ℚ) ^ ((a : ℤ) + 1) := by
    rw [hq_eq]
    exact_mod_cast Nat.lt_log2_self
  have hden_low : (2 : ℚ) ^ (b : ℤ) ≤ q.den := by exact_mod_cast Nat.log2_self_le q.den_ne_zero
  have hden_high : (q.den : ℚ) < (2 : ℚ) ^ ((b : ℤ) + 1) := by exact_mod_cast Nat.lt_log2_self
  have hbelow : (2 : ℚ) ^ ((a : ℤ) - b - 1) < q := by
    refine lt_of_mul_lt_mul_right ?_ hden.le
    calc (2 : ℚ) ^ ((a : ℤ) - b - 1) * q.den
      _ < (2 : ℚ) ^ ((a : ℤ) - b - 1) * (2 : ℚ) ^ ((b : ℤ) + 1) := by gcongr
      _ = (2 : ℚ) ^ (a : ℤ) := by
        rw [← zpow_add₀ two_ne_zero]
        congr 1
        ring
      _ ≤ q * q.den := hnum_low
  have habove : q < (2 : ℚ) ^ ((a : ℤ) - b + 1) := by
    refine lt_of_mul_lt_mul_right ?_ (zpow_pos two_pos (b : ℤ)).le
    calc q * (2 : ℚ) ^ (b : ℤ) ≤ q * q.den := by gcongr
      _ < (2 : ℚ) ^ ((a : ℤ) + 1) := hnum_high
      _ = (2 : ℚ) ^ ((a : ℤ) - b + 1) * (2 : ℚ) ^ (b : ℤ) := by
        rw [← zpow_add₀ two_ne_zero]
        congr 1
        ring
  rw [binaryExponent]
  split_ifs with hguess
  · exact ⟨hguess, habove⟩
  · refine ⟨hbelow.le, ?_⟩
    rw [sub_add_cancel]
    exact not_le.mp hguess

theorem exponent_unique {b q : ℚ} (hb : 1 < b) {e f : ℤ} (he : b ^ e ≤ q ∧ q < b ^ (e + 1))
    (hf : b ^ f ≤ q ∧ q < b ^ (f + 1)) : e = f := by
  have h1 : e < f + 1 := (zpow_lt_zpow_iff_right₀ hb).mp (lt_of_le_of_lt he.1 hf.2)
  have h2 : f < e + 1 := (zpow_lt_zpow_iff_right₀ hb).mp (lt_of_le_of_lt hf.1 he.2)
  omega

end Rounding

section Digits

/-- The search for the decimal exponent ends at the exponent that brackets. -/
theorem decimalExponent_eq {x : ℚ} {e : ℤ} (he : (10 : ℚ) ^ e ≤ x ∧ x < (10 : ℚ) ^ (e + 1))
    (fuel : Nat) {start : ℤ} (hfuel : (e - start).natAbs ≤ fuel) :
    decimalExponent x fuel start = e := by
  have hten : (1 : ℚ) < 10 := by norm_num
  induction fuel generalizing start with
  | zero =>
    rw [decimalExponent]
    omega
  | succ fuel ih =>
    rw [decimalExponent]
    by_cases hup : (10 : ℚ) ^ (start + 1) ≤ x
    · have hlt : start + 1 < e + 1 :=
        (zpow_lt_zpow_iff_right₀ hten).mp (lt_of_le_of_lt hup he.2)
      rw [if_pos hup]
      exact ih (by omega)
    · rw [if_neg hup]
      have hle : e < start + 1 :=
        (zpow_lt_zpow_iff_right₀ hten).mp (lt_of_le_of_lt he.1 (not_le.mp hup))
      by_cases hdown : x < (10 : ℚ) ^ start
      · have hlt : e < start := (zpow_lt_zpow_iff_right₀ hten).mp (lt_of_le_of_lt he.1 hdown)
        rw [if_pos hdown]
        exact ih (by omega)
      · have hge : start < e + 1 :=
          (zpow_lt_zpow_iff_right₀ hten).mp (lt_of_le_of_lt (not_lt.mp hdown) he.2)
        rw [if_neg hdown]
        omega

/-- Seventeen digits are within half a unit of the last one. -/
theorem significant_spec {x : ℚ} (hlow : (10 : ℚ) ^ (-700 : ℤ) ≤ x)
    (hhigh : x < (10 : ℚ) ^ (700 : ℤ)) :
    10 ^ 16 ≤ (significant x).1 ∧ (significant x).1 < 10 ^ 17 ∧
      |(significant x).1 * (10 : ℚ) ^ ((significant x).2 - 16) - x| ≤ x / (2 * 10 ^ 16) := by
  have hpos : 0 < x := lt_of_lt_of_le (zpow_pos (by norm_num) _) hlow
  obtain ⟨g, hg⟩ : ∃ g : ℤ, (10 : ℚ) ^ g ≤ x ∧ x < (10 : ℚ) ^ (g + 1) :=
    exists_mem_Ico_zpow hpos (by norm_num)
  have hten : (1 : ℚ) < 10 := by norm_num
  have hg_low : -700 < g + 1 := (zpow_lt_zpow_iff_right₀ hten).mp (lt_of_le_of_lt hlow hg.2)
  have hg_high : g < 700 := (zpow_lt_zpow_iff_right₀ hten).mp (lt_of_le_of_lt hg.1 hhigh)
  have hguess : decimalExponent x 700 0 = g := decimalExponent_eq hg 700 (by omega)
  have hunit : (0 : ℚ) < (10 : ℚ) ^ (g - 16) := zpow_pos (by norm_num) _
  have hscale : (10 : ℚ) ^ g = 10 ^ 16 * (10 : ℚ) ^ (g - 16) := by
    rw [zpow_sub₀ (by norm_num)]
    field_simp
  have hnext : (10 : ℚ) ^ (g + 1) = 10 ^ 17 * (10 : ℚ) ^ (g - 16) := by
    rw [zpow_add_one₀ (by norm_num), hscale]
    ring
  have hscaled_low : (10 : ℚ) ^ 16 ≤ x / (10 : ℚ) ^ (g - 16) := by
    rw [le_div_iff₀ hunit, ← hscale]
    exact hg.1
  have hscaled_high : x / (10 : ℚ) ^ (g - 16) < (10 : ℚ) ^ 17 := by
    rw [div_lt_iff₀ hunit, ← hnext]
    exact hg.2
  have hround := abs_roundHalfEven_sub_le (x / (10 : ℚ) ^ (g - 16))
  obtain ⟨n, hn⟩ : ∃ n, n = roundHalfEven (x / (10 : ℚ) ^ (g - 16)) := ⟨_, rfl⟩
  have hn_low : 10 ^ 16 ≤ n := by
    rw [hn]
    exact le_roundHalfEven (by exact_mod_cast hscaled_low)
  have hn_high : n ≤ 10 ^ 17 := by
    rw [hn]
    exact roundHalfEven_le (by exact_mod_cast hscaled_high.le)
  rw [← hn] at hround
  have hcast : ((n.natAbs : ℕ) : ℚ) = n := by
    rw [Nat.cast_natAbs, abs_of_nonneg (by omega)]
  have herror : |n * (10 : ℚ) ^ (g - 16) - x| ≤ x / (2 * 10 ^ 16) := by
    have hproduct : n * (10 : ℚ) ^ (g - 16) - x =
        (n - x / (10 : ℚ) ^ (g - 16)) * (10 : ℚ) ^ (g - 16) := by
      field_simp
    calc |n * (10 : ℚ) ^ (g - 16) - x|
      _ = |n - x / (10 : ℚ) ^ (g - 16)| * (10 : ℚ) ^ (g - 16) := by
        rw [hproduct, abs_mul, abs_of_pos hunit]
      _ ≤ 1 / 2 * (10 : ℚ) ^ (g - 16) := by gcongr
      _ ≤ x / (2 * 10 ^ 16) := by
        rw [le_div_iff₀ (by norm_num)]
        have := hg.1
        rw [hscale] at this
        linarith
  -- Digits that round up to the next power of ten move the exponent.
  by_cases hcarry : n.natAbs = 10 ^ 17
  · have hdigits : significant x = (10 ^ 16, g + 1) := by
      simp only [significant, hguess, ← hn, hcarry, if_true]
    rw [hdigits]
    refine ⟨le_rfl, by norm_num, ?_⟩
    have hsame : ((10 ^ 16 : ℕ) : ℚ) * (10 : ℚ) ^ (g + 1 - 16) = n * (10 : ℚ) ^ (g - 16) := by
      rw [← hcast, hcarry, show g + 1 - 16 = g - 16 + 1 by ring, zpow_add_one₀ (by norm_num)]
      push_cast
      ring
    rw [hsame]
    exact herror
  · have hdigits : significant x = (n.natAbs, g) := by
      simp only [significant, hguess, ← hn, hcarry, if_false]
    rw [hdigits]
    refine ⟨by omega, by omega, ?_⟩
    rw [hcast]
    exact herror

variable {d : Nat} (start : Nat)

theorem digitsValue_append (front back : Bytes) :
    digitsValue start (front ++ back) = digitsValue (digitsValue start front) back :=
  List.foldl_append

theorem digitsValue_zeros (start k : Nat) :
    digitsValue start (List.replicate k 0x30) = start * 10 ^ k := by
  induction k generalizing start with
  | zero => simp [digitsValue]
  | succ k ih =>
    have hstep : digitsValue start (List.replicate (k + 1) 0x30) =
        digitsValue (start * 10) (List.replicate k 0x30) := rfl
    rw [hstep, ih, pow_succ]
    ring

theorem stripZeros_append (digits : Bytes) :
    ∃ k, digits = stripZeros digits ++ List.replicate k 0x30 := by
  have hsplit := List.takeWhile_append_dropWhile (p := fun c : UInt8 => decide (c = 0x30))
    (l := digits.reverse)
  have hzeros : digits.reverse.takeWhile (fun c => decide (c = 0x30)) =
      List.replicate (digits.reverse.takeWhile fun c => decide (c = 0x30)).length 0x30 :=
    List.eq_replicate_of_mem fun c hc => by simpa using List.mem_takeWhile_imp hc
  refine ⟨(digits.reverse.takeWhile fun c => decide (c = 0x30)).length, ?_⟩
  rw [hzeros] at hsplit
  have hreverse := congrArg List.reverse hsplit
  rw [List.reverse_append, List.reverse_reverse, List.reverse_replicate] at hreverse
  exact hreverse.symm

/-- Stripping zeros keeps the number a fraction denotes. -/
theorem digitsValue_stripZeros (digits : Bytes) (p : ℤ) :
    (digitsValue start (stripZeros digits) : ℚ) * (10 : ℚ) ^ (p - (stripZeros digits).length) =
      digitsValue start digits * (10 : ℚ) ^ (p - digits.length) := by
  obtain ⟨k, hk⟩ := stripZeros_append digits
  have hvalue : digitsValue start digits = digitsValue start (stripZeros digits) * 10 ^ k := by
    conv_lhs => rw [hk]
    rw [digitsValue_append, digitsValue_zeros]
  have hlength : digits.length = (stripZeros digits).length + k := by
    conv_lhs => rw [hk]
    rw [List.length_append, List.length_replicate]
  rw [hvalue, hlength]
  push_cast
  rw [mul_assoc, ← zpow_natCast, ← zpow_add₀ (by norm_num)]
  congr 2
  ring

theorem digitsValue_lt {digits : Bytes} (hdigits : ∀ c ∈ digits, isDigit c = true) (start : Nat) :
    digitsValue start digits < (start + 1) * 10 ^ digits.length := by
  induction digits generalizing start with
  | nil => simp [digitsValue]
  | cons c digits ih =>
    have hc : c.toNat ≤ 0x39 := by
      have hdigit := hdigits c List.mem_cons_self
      rw [isDigit, decide_eq_true_iff] at hdigit
      exact hdigit.2
    have hstep : digitsValue start (c :: digits) =
        digitsValue (start * 10 + (c.toNat - 0x30)) digits := rfl
    have hrest := ih (fun b hb => hdigits b (List.mem_cons_of_mem _ hb))
      (start * 10 + (c.toNat - 0x30))
    calc digitsValue start (c :: digits)
      _ < (start * 10 + (c.toNat - 0x30) + 1) * 10 ^ digits.length := by rw [hstep]; exact hrest
      _ ≤ (start + 1) * 10 * 10 ^ digits.length := by
        gcongr
        omega
      _ = (start + 1) * 10 ^ (c :: digits).length := by
        rw [List.length_cons, pow_succ]
        ring

theorem length_decimal_eq (hlow : 10 ^ 16 ≤ d) (hhigh : d < 10 ^ 17) : (decimal d).length = 17 := by
  have hle : (decimal d).length ≤ 16 + 1 := length_decimal_le hhigh
  by_contra hne
  have hlt := digitsValue_lt (fun _ => isDigit_of_mem_decimal (n := d)) 0
  rw [digitsValue_decimal, Nat.zero_add, Nat.one_mul] at hlt
  have hpow : 10 ^ (decimal d).length ≤ 10 ^ 16 := Nat.pow_le_pow_right (by decide) (by omega)
  omega

/-- The digits behind the first `n`, without their trailing zeros, as a fraction. -/
theorem digitsValue_split (hlength : (decimal d).length = 17) (n : Nat) (p : ℤ) :
    (digitsValue 0 ((decimal d).take n ++ stripZeros ((decimal d).drop n)) : ℚ) *
        (10 : ℚ) ^ (p - (stripZeros ((decimal d).drop n)).length) =
      d * (10 : ℚ) ^ (p - (17 - n : ℕ)) := by
  rw [digitsValue_append, digitsValue_stripZeros, ← digitsValue_append, List.take_append_drop,
    digitsValue_decimal, List.length_drop, hlength]

/-- The printed exponent is read back. -/
theorem readExponent_power (e : ℤ) : readExponent (0x65 :: (if e < 0 then 0x2d else 0x2b) ::
      (if e.natAbs < 10 then 0x30 :: decimal e.natAbs else decimal e.natAbs)) = e := by
  have hdigits : digitsValue 0 (if e.natAbs < 10 then 0x30 :: decimal e.natAbs
      else decimal e.natAbs) = e.natAbs := by
    split_ifs
    · exact digitsValue_decimal e.natAbs
    · exact digitsValue_decimal e.natAbs
  by_cases hneg : e < 0
  · rw [if_pos hneg]
    simp only [readExponent, hdigits]
    omega
  · rw [if_neg hneg]
    simp only [readExponent, hdigits]
    omega

theorem magnitude_with_fraction {t : NumberText} {digits : Bytes}
    (hfraction : t.fraction = fractionOf digits) :
    t.magnitude = digitsValue 0 (t.whole ++ digits) * (10 : ℚ) ^ (t.power - digits.length) := by
  rw [NumberText.magnitude, hfraction, getD_fractionOf]

/-- The token of seventeen digits denotes them at their power of ten. -/
theorem magnitude_g17Token (hlow : 10 ^ 16 ≤ d) (hhigh : d < 10 ^ 17) (e : ℤ) :
    (g17Token d e).magnitude = d * (10 : ℚ) ^ (e - 16) := by
  have hlength := length_decimal_eq hlow hhigh
  unfold g17Token
  by_cases hfar : e < -4 ∨ 17 ≤ e
  · rw [if_pos hfar, magnitude_with_fraction rfl]
    simp only [pointToken]
    rw [digitsValue_split hlength]
    simp only [NumberText.power, NumberText.powerText, readExponent_power]
    rfl
  · rw [if_neg hfar]
    by_cases hneg : e < 0
    · have hzeros : digitsValue 0 ([0x30] ++ (List.replicate (e.natAbs - 1) 0x30 ++
          stripZeros (decimal d))) = digitsValue 0 (stripZeros (decimal d)) := by
        rw [digitsValue_append, digitsValue_append, digitsValue_zeros]
        simp [digitsValue]
      have hpower : readExponent [] = 0 := rfl
      rw [if_pos hneg, NumberText.magnitude]
      simp only [Option.getD_some, hzeros, NumberText.power, NumberText.powerText, hpower,
        List.length_append, List.length_replicate]
      have hstrip := digitsValue_stripZeros 0 (decimal d) (e + 1)
      rw [digitsValue_decimal, hlength] at hstrip
      have hleft : (0 : ℤ) - ((e.natAbs - 1 + (stripZeros (decimal d)).length : ℕ) : ℤ) =
          e + 1 - (stripZeros (decimal d)).length := by omega
      have hright : e - 16 = e + 1 - (17 : ℕ) := by omega
      rw [hleft, hright, hstrip]
    · have hpower : readExponent [] = 0 := rfl
      rw [if_neg hneg, magnitude_with_fraction rfl, pointToken, digitsValue_split hlength]
      simp only [NumberText.power, NumberText.powerText, hpower]
      congr 2
      omega

end Digits

section Doubles

/-- A magnitude that is a normal double: a significand of 53 bits at a scale. -/
structure IsNormal (m : Nat) (k : ℤ) : Prop where
  low : 2 ^ 52 ≤ m
  high : m < 2 ^ 53
  scale_low : -1074 ≤ k
  scale_high : k ≤ 971

namespace IsNormal

variable {m : Nat} {k : ℤ}

theorem two_pow_le (hx : IsNormal m k) : (2 : ℚ) ^ (52 + k) ≤ m * (2 : ℚ) ^ k := by
  rw [zpow_add₀ two_ne_zero]
  gcongr
  exact_mod_cast hx.low

theorem lt_two_pow (hx : IsNormal m k) : (m + 1) * (2 : ℚ) ^ k ≤ (2 : ℚ) ^ (53 + k) := by
  rw [zpow_add₀ two_ne_zero]
  gcongr
  exact_mod_cast hx.high

theorem min_le (hx : IsNormal m k) : (2 : ℚ) ^ (-1022 : ℤ) ≤ m * (2 : ℚ) ^ k :=
  le_trans (zpow_le_zpow_right₀ one_le_two (by have := hx.scale_low; omega)) hx.two_pow_le

theorem lt_max (hx : IsNormal m k) : m * (2 : ℚ) ^ k < (2 : ℚ) ^ (1024 : ℤ) := by
  have hpos : (0 : ℚ) < (2 : ℚ) ^ k := zpow_pos two_pos k
  calc m * (2 : ℚ) ^ k < (m + 1) * (2 : ℚ) ^ k := by linarith
    _ ≤ (2 : ℚ) ^ (53 + k) := hx.lt_two_pow
    _ ≤ (2 : ℚ) ^ (1024 : ℤ) :=
      zpow_le_zpow_right₀ one_le_two (by have := hx.scale_high; omega)

/-- Where rounding at both units of the C library gives the double, so does `stod`. -/
theorem roundDouble_eq (hx : IsNormal m k) {y : ℚ} (hy : y ≠ 0)
    (hunit : roundToUnit y (binaryExponent y - 52) = m * (2 : ℚ) ^ k)
    (hclamped : roundToUnit y (max (binaryExponent y - 52) (-1074)) = m * (2 : ℚ) ^ k) :
    roundDouble y = some (m * (2 : ℚ) ^ k) := by
  rw [roundDouble, if_neg hy]
  simp only [hunit, hclamped, not_le.mpr hx.lt_max, not_lt.mpr hx.min_le, false_and, if_false]

end IsNormal

variable {m : Nat}

/-- What lies nearer to a normal double than to its neighbours rounds to it. Below a
power of two the neighbour is only half as far. -/
theorem roundDouble_of_near {k : ℤ} (hx : IsNormal m k) {y : ℚ}
    (hnear : |y - m * (2 : ℚ) ^ k| < (2 : ℚ) ^ k / 2)
    (hpower : m = 2 ^ 52 → |y - m * (2 : ℚ) ^ k| < (2 : ℚ) ^ k / 4) :
    roundDouble y = some (m * (2 : ℚ) ^ k) := by
  have hunit : (0 : ℚ) < (2 : ℚ) ^ k := zpow_pos two_pos k
  have hlow := hx.two_pow_le
  have hhigh := hx.lt_two_pow
  obtain ⟨hbelow, habove⟩ := abs_lt.mp hnear
  by_cases hbinade : (2 : ℚ) ^ (52 + k) ≤ y
  · -- The magnitude is in the binade of the double.
    have hy : 0 < y := lt_of_lt_of_le (zpow_pos two_pos _) hbinade
    have htop : y < (2 : ℚ) ^ (52 + k + 1) := by
      rw [show 52 + k + 1 = 53 + k by ring]
      linarith
    have he : binaryExponent y = 52 + k :=
      exponent_unique one_lt_two (binaryExponent_spec hy) ⟨hbinade, htop⟩
    have hscale : binaryExponent y - 52 = k := by omega
    have hround : roundToUnit y k = (m : ℤ) * (2 : ℚ) ^ k :=
      roundToUnit_of_near (by exact_mod_cast hnear)
    refine hx.roundDouble_eq hy.ne' ?_ ?_
    · rw [hscale, hround]
      rfl
    · rw [hscale, max_eq_left hx.scale_low, hround]
      rfl
  · -- Below it the double is a power of two, and the unit is half as large.
    rw [not_le] at hbinade
    have hm : m = 2 ^ 52 := by
      by_contra hne
      have hnext : (2 : ℚ) ^ 52 + 1 ≤ m := by
        exact_mod_cast Nat.succ_le_of_lt (lt_of_le_of_ne hx.low (Ne.symm hne))
      have hpow : (2 : ℚ) ^ (52 + k) = (2 : ℚ) ^ 52 * (2 : ℚ) ^ k := by
        rw [zpow_add₀ two_ne_zero]
        norm_cast
      nlinarith
    have hclose := hpower hm
    have hhalf : (2 : ℚ) ^ k = 2 * (2 : ℚ) ^ (k - 1) := by
      rw [zpow_sub_one₀ two_ne_zero]
      ring
    have hdouble : (m : ℚ) * (2 : ℚ) ^ k = ((2 ^ 53 : ℤ) : ℚ) * (2 : ℚ) ^ (k - 1) := by
      rw [hhalf, hm]
      push_cast
      ring
    have hbottom : (2 : ℚ) ^ (51 + k) ≤ y := by
      have hpow : (2 : ℚ) ^ (51 + k) = (2 : ℚ) ^ 51 * (2 : ℚ) ^ k := by
        rw [zpow_add₀ two_ne_zero]
        norm_cast
      have hx_eq : (m : ℚ) * (2 : ℚ) ^ k = (2 : ℚ) ^ 52 * (2 : ℚ) ^ k := by
        rw [hm]
        push_cast
        rfl
      linarith
    have hy : 0 < y := lt_of_lt_of_le (zpow_pos two_pos _) hbottom
    have he : binaryExponent y = 51 + k := by
      refine exponent_unique one_lt_two (binaryExponent_spec hy) ⟨hbottom, ?_⟩
      rw [show 51 + k + 1 = 52 + k by ring]
      exact hbinade
    have hscale : binaryExponent y - 52 = k - 1 := by omega
    have hround : roundToUnit y (k - 1) = m * (2 : ℚ) ^ k := by
      rw [hdouble] at hclose ⊢
      refine roundToUnit_of_near (lt_of_lt_of_le hclose ?_)
      linarith
    refine hx.roundDouble_eq hy.ne' ?_ ?_
    · rw [hscale, hround]
    · rw [hscale]
      by_cases hclamp : -1074 ≤ k - 1
      · rw [max_eq_left hclamp, hround]
      · have hk : k = -1074 := by
          have := hx.scale_low
          omega
        have hwhole : roundToUnit y k = (m : ℤ) * (2 : ℚ) ^ k :=
          roundToUnit_of_near (by exact_mod_cast hnear)
        rw [max_eq_right (by omega), ← hk, hwhole]
        rfl

/-- A subnormal double: a multiple of the smallest one, below the normal ones. -/
structure IsSubnormal (m : Nat) : Prop where
  pos : 0 < m
  high : m < 2 ^ 52

/-- What seventeen digits say of a magnitude. -/
structure Approximates (y x : ℚ) : Prop where
  error : |y - x| ≤ x / (2 * 10 ^ 16)
  digits : ∃ (d : Nat) (e : ℤ), 10 ^ 16 ≤ d ∧ d < 10 ^ 17 ∧ y = d * (10 : ℚ) ^ (e - 16)

theorem approximates_g17Token {x : ℚ} (hlow : (10 : ℚ) ^ (-700 : ℤ) ≤ x)
    (hhigh : x < (10 : ℚ) ^ (700 : ℤ)) :
    Approximates (g17Token (significant x).1 (significant x).2).magnitude x := by
  obtain ⟨hd_low, hd_high, herror⟩ := significant_spec hlow hhigh
  have hmagnitude := magnitude_g17Token hd_low hd_high (significant x).2
  exact ⟨by rw [hmagnitude]; exact herror, _, _, hd_low, hd_high, hmagnitude⟩

theorem NumberText.magnitude_minus (t : NumberText) : t.minus.magnitude = t.magnitude := rfl

theorem magnitude_integerToken {value : ℚ} (hwhole : value.den = 1) :
    (integerToken value.num).magnitude = |value| := by
  have hvalue : (value.num : ℚ) = value := Rat.coe_int_num_of_den_eq_one hwhole
  have hpower : (integerToken value.num).power = 0 := rfl
  have hfraction : (integerToken value.num).fraction = none := rfl
  have hdigits : (integerToken value.num).whole = decimal value.num.natAbs := rfl
  rw [NumberText.magnitude, hpower, hfraction, hdigits, Option.getD_none, List.append_nil,
    digitsValue_decimal, Nat.cast_natAbs, Int.cast_abs, hvalue]
  simp

/-- The token of a number denotes a whole number exactly, and any other one to
seventeen digits. -/
theorem magnitude_numberToken {value : ℚ} (hlow : (10 : ℚ) ^ (-700 : ℤ) ≤ |value|)
    (hhigh : |value| < (10 : ℚ) ^ (700 : ℤ)) :
    (value.den = 1 ∧ (numberToken value).magnitude = |value|) ∨
      Approximates (numberToken value).magnitude |value| := by
  rw [numberToken]
  by_cases hwhole : value.den = 1 ∧ |value| < 10 ^ 15
  · rw [if_pos hwhole]
    exact .inl ⟨hwhole.1, magnitude_integerToken hwhole.1⟩
  · rw [if_neg hwhole]
    by_cases hneg : value < 0
    · rw [if_pos hneg, NumberText.magnitude_minus]
      rw [abs_of_neg hneg] at hlow hhigh ⊢
      exact .inr (approximates_g17Token hlow hhigh)
    · rw [if_neg hneg]
      rw [abs_of_nonneg (not_lt.mp hneg)] at hlow hhigh ⊢
      exact .inr (approximates_g17Token hlow hhigh)

theorem negative_numberToken (value : ℚ) : (numberToken value).negative = decide (value < 0) := by
  rw [numberToken]
  by_cases hwhole : value.den = 1 ∧ |value| < 10 ^ 15
  · rw [if_pos hwhole]
    simp [integerToken]
  · rw [if_neg hwhole]
    by_cases hneg : value < 0
    · rw [if_pos hneg, decide_eq_true hneg]
      rfl
    · rw [if_neg hneg, decide_eq_false hneg, negative_g17Token]

/-- `stod` of a printed number, by the magnitude of its token. -/
theorem stod_dumpNumber (value : ℚ) :
    stod (dumpNumber value) = (roundDouble (numberToken value).magnitude).map fun rounded =>
      if value < 0 then -rounded else rounded := by
  rw [dumpNumber_eq, NumberText.stod_text, negative_numberToken]
  simp only [decide_eq_true_eq]

theorem roundDouble_normal {k : ℤ} (hx : IsNormal m k) {y : ℚ}
    (herror : |y - m * (2 : ℚ) ^ k| ≤ m * (2 : ℚ) ^ k / (2 * 10 ^ 16)) :
    roundDouble y = some (m * (2 : ℚ) ^ k) := by
  have hunit : (0 : ℚ) < (2 : ℚ) ^ k := zpow_pos two_pos k
  have hhigh : (m : ℚ) < 2 ^ 53 := by exact_mod_cast hx.high
  refine roundDouble_of_near hx (lt_of_le_of_lt herror ?_) fun hpower => lt_of_le_of_lt herror ?_
  · rw [div_lt_div_iff₀ (by norm_num) (by norm_num)]
    nlinarith
  · rw [hpower, div_lt_div_iff₀ (by norm_num) (by norm_num)]
    push_cast
    nlinarith

/-- Seventeen digits far behind the point are no binary fraction. -/
theorem digits_not_dyadic {d N g h : Nat} {n : ℤ} (hpos : 0 < d) (hhigh : d < 10 ^ 17)
    (hN : 25 ≤ N) : (d : ℤ) * 2 ^ h ≠ n * 2 ^ g * 10 ^ N := by
  intro heq
  have hdvd : (5 : ℤ) ^ N ∣ d * 2 ^ h := by
    rw [heq, show (10 : ℤ) = 5 * 2 by norm_num, mul_pow]
    exact Dvd.intro_left (n * 2 ^ g * 2 ^ N) (by ring)
  have hcoprime : IsCoprime ((5 : ℤ) ^ N) (2 ^ h) := by
    refine IsCoprime.pow ?_
    exact ⟨1, -2, by norm_num⟩
  have hle : (5 : ℤ) ^ N ≤ d :=
    Int.le_of_dvd (by exact_mod_cast hpos) (hcoprime.dvd_of_dvd_mul_right hdvd)
  have hlarge : (5 : ℤ) ^ 25 ≤ 5 ^ N := pow_le_pow_right₀ (by norm_num) hN
  have hnumbers : (10 : ℤ) ^ 17 < 5 ^ 25 := by norm_num
  have hsmall : (d : ℤ) < 10 ^ 17 := by exact_mod_cast hhigh
  omega

theorem roundToUnit_le (y : ℚ) (e : ℤ) : roundToUnit y e ≤ y + (2 : ℚ) ^ e / 2 := by
  have hunit : (0 : ℚ) < (2 : ℚ) ^ e := zpow_pos two_pos e
  have hround := (abs_le.mp (abs_roundHalfEven_sub_le (y / (2 : ℚ) ^ e))).2
  rw [roundToUnit]
  calc (roundHalfEven (y / (2 : ℚ) ^ e) : ℚ) * (2 : ℚ) ^ e
    _ ≤ (y / (2 : ℚ) ^ e + 1 / 2) * (2 : ℚ) ^ e := by
      gcongr
      linarith
    _ = y + (2 : ℚ) ^ e / 2 := by field_simp

/-- Digits of a tiny number are not on the grid of the doubles. -/
theorem roundToUnit_ne_digits {d : Nat} {e f : ℤ} (hlow : 10 ^ 16 ≤ d) (hhigh : d < 10 ^ 17)
    (htiny : d * (10 : ℚ) ^ (e - 16) < (2 : ℚ) ^ (-1022 : ℤ)) (hf : -1074 ≤ f) :
    roundToUnit (d * (10 : ℚ) ^ (e - 16)) f ≠ d * (10 : ℚ) ^ (e - 16) := by
  have hten : (10 : ℚ) ≠ 0 := by norm_num
  have hexponent : e < -307 := by
    have hd : (10 : ℚ) ^ 16 ≤ d := by exact_mod_cast hlow
    have hpower : (10 : ℚ) ^ e = 10 ^ 16 * (10 : ℚ) ^ (e - 16) := by
      rw [zpow_sub₀ hten]
      field_simp
    have hbound : (2 : ℚ) ^ (-1022 : ℤ) ≤ (10 : ℚ) ^ (-307 : ℤ) := by
      have hnumbers : (10 : ℚ) ^ 307 ≤ 2 ^ 1022 := by
        exact_mod_cast (by decide +kernel : 10 ^ 307 ≤ 2 ^ 1022)
      rw [zpow_neg, zpow_neg]
      exact inv_anti₀ (by positivity) hnumbers
    have hlt : (10 : ℚ) ^ e < (10 : ℚ) ^ (-307 : ℤ) := by
      calc (10 : ℚ) ^ e ≤ d * (10 : ℚ) ^ (e - 16) := by
            rw [hpower]
            gcongr
        _ < (10 : ℚ) ^ (-307 : ℤ) := lt_of_lt_of_le htiny hbound
    exact (zpow_lt_zpow_iff_right₀ (by norm_num)).mp hlt
  obtain ⟨N, hN⟩ : ∃ N : Nat, (N : ℤ) = 16 - e := ⟨(16 - e).toNat, by omega⟩
  obtain ⟨h, hh⟩ : ∃ h : Nat, (h : ℤ) = 1074 := ⟨1074, rfl⟩
  obtain ⟨g, hg⟩ : ∃ g : Nat, (g : ℤ) = f + h := ⟨(f + h).toNat, by omega⟩
  intro heq
  rw [roundToUnit] at heq
  generalize roundHalfEven (d * (10 : ℚ) ^ (e - 16) / (2 : ℚ) ^ f) = n at heq
  have hscaled : (d : ℚ) * 2 ^ h = n * 2 ^ g * 10 ^ N := by
    have hdigits : (d : ℚ) = d * (10 : ℚ) ^ (e - 16) * (10 : ℚ) ^ N := by
      rw [mul_assoc, ← zpow_natCast, ← zpow_add₀ hten, hN]
      simp
    have hgrid : (2 : ℚ) ^ f * 2 ^ h = 2 ^ g := by
      rw [← zpow_natCast, ← zpow_natCast, ← zpow_add₀ two_ne_zero, hg]
    rw [hdigits, ← heq, ← hgrid]
    ring
  have hwhole : (d : ℤ) * 2 ^ h = n * 2 ^ g * 10 ^ N := by exact_mod_cast hscaled
  have hN_large : 25 ≤ N := by omega
  exact digits_not_dyadic (by omega) hhigh hN_large hwhole

/-- The C library reports a range error for the digits of a subnormal double. -/
theorem roundDouble_subnormal (hx : IsSubnormal m) {y : ℚ}
    (happrox : Approximates y (m * (2 : ℚ) ^ (-1074 : ℤ))) : roundDouble y = none := by
  obtain ⟨u, hu⟩ : ∃ u, u = (2 : ℚ) ^ (-1074 : ℤ) := ⟨_, rfl⟩
  have hunit : 0 < u := by
    rw [hu]
    exact zpow_pos two_pos _
  have hnormal : (2 : ℚ) ^ (-1022 : ℤ) = 2 ^ 52 * u := by
    rw [hu, show (-1022 : ℤ) = 52 + -1074 by norm_num, zpow_add₀ two_ne_zero]
    norm_cast
  have hlow : (1 : ℚ) ≤ m := by exact_mod_cast hx.pos
  have hhigh : (m : ℚ) + 1 ≤ 2 ^ 52 := by exact_mod_cast hx.high
  obtain ⟨herror, d, e, hd_low, hd_high, hy_digits⟩ := happrox
  rw [← hu] at herror
  have hsmall : m * u / (2 * 10 ^ 16) ≤ u / 4 := by
    rw [div_le_div_iff₀ (by norm_num) (by norm_num)]
    nlinarith
  obtain ⟨hbelow, habove⟩ := abs_le.mp (herror.trans hsmall)
  have hpos : 0 < y := by nlinarith
  have htiny : y + 3 / 4 * u ≤ (2 : ℚ) ^ (-1022 : ℤ) := by
    rw [hnormal]
    nlinarith
  have hexponent : binaryExponent y < -1022 := by
    refine (zpow_lt_zpow_iff_right₀ (one_lt_two (α := ℚ))).mp ?_
    exact lt_of_le_of_lt (binaryExponent_spec hpos).1 (by linarith)
  have hround : roundToUnit y (binaryExponent y - 52) < (2 : ℚ) ^ (-1022 : ℤ) := by
    have hfine : (2 : ℚ) ^ (binaryExponent y - 52) ≤ u := by
      rw [hu]
      exact zpow_le_zpow_right₀ one_le_two (by omega)
    have hle := roundToUnit_le y (binaryExponent y - 52)
    linarith
  have hinexact : roundToUnit y (max (binaryExponent y - 52) (-1074)) ≠ y := by
    rw [hy_digits] at htiny ⊢
    exact roundToUnit_ne_digits hd_low hd_high (by linarith) (le_max_right _ _)
  rw [roundDouble, if_neg hpos.ne']
  simp only [hround, hinexact, ne_eq, not_false_eq_true, and_self, if_true, ite_self]

end Doubles

section Printed

variable {value : ℚ} {m : Nat}

/-- The doubles are within the range in which the decimal exponent is found. -/
theorem decimal_range {x : ℚ} (hlow : (2 : ℚ) ^ (-1074 : ℤ) ≤ x)
    (hhigh : x < (2 : ℚ) ^ (1024 : ℤ)) :
    (10 : ℚ) ^ (-700 : ℤ) ≤ x ∧ x < (10 : ℚ) ^ (700 : ℤ) := by
  have hsmall : (2 : ℚ) ^ 1074 ≤ 10 ^ 700 := by
    exact_mod_cast (by decide +kernel : 2 ^ 1074 ≤ 10 ^ 700)
  have hlarge : (2 : ℚ) ^ 1024 ≤ 10 ^ 700 := by
    exact_mod_cast (by decide +kernel : 2 ^ 1024 ≤ 10 ^ 700)
  constructor
  · refine le_trans ?_ hlow
    rw [zpow_neg, zpow_neg]
    exact inv_anti₀ (by positivity) hsmall
  · exact lt_of_lt_of_le hhigh hlarge

theorem stod_dumpNumber_zero : stod (dumpNumber 0) = some 0 := by
  have hmagnitude : (numberToken 0).magnitude = 0 := by
    have hwhole : (numberToken 0) = integerToken (0 : ℚ).num := if_pos (by simp)
    rw [hwhole, magnitude_integerToken rfl, abs_zero]
  rw [stod_dumpNumber, hmagnitude, roundDouble, if_pos rfl]
  simp

/-- A normal double is printed and parsed as itself. -/
theorem stod_dumpNumber_normal {k : ℤ} (hx : IsNormal m k) (hvalue : |value| = m * (2 : ℚ) ^ k) :
    stod (dumpNumber value) = some value := by
  obtain ⟨hlow, hhigh⟩ : (10 : ℚ) ^ (-700 : ℤ) ≤ |value| ∧ |value| < (10 : ℚ) ^ (700 : ℤ) := by
    rw [hvalue]
    exact decimal_range (le_trans (zpow_le_zpow_right₀ one_le_two (by decide)) hx.min_le) hx.lt_max
  have herror : abs ((numberToken value).magnitude - |value|) ≤ |value| / (2 * 10 ^ 16) := by
    rcases magnitude_numberToken hlow hhigh with ⟨-, hexact⟩ | happrox
    · rw [hexact, sub_self, abs_zero]
      positivity
    · exact happrox.error
  rw [hvalue] at herror
  rw [stod_dumpNumber, roundDouble_normal hx herror, ← hvalue, Option.map_some]
  by_cases hneg : value < 0
  · rw [if_pos hneg, abs_of_neg hneg, neg_neg]
  · rw [if_neg hneg, abs_of_nonneg (not_lt.mp hneg)]

/-- A subnormal double is printed, and refused by the parser. -/
theorem stod_dumpNumber_subnormal (hx : IsSubnormal m)
    (hvalue : |value| = m * (2 : ℚ) ^ (-1074 : ℤ)) : stod (dumpNumber value) = none := by
  have hunit : (0 : ℚ) < (2 : ℚ) ^ (-1074 : ℤ) := zpow_pos two_pos _
  have hone : (1 : ℚ) ≤ m := by exact_mod_cast hx.pos
  have hm : (m : ℚ) < 2 ^ 52 := by exact_mod_cast hx.high
  have htiny : |value| < 1 := by
    have hpower : (2 : ℚ) ^ 52 * (2 : ℚ) ^ (-1074 : ℤ) = (2 : ℚ) ^ (-1022 : ℤ) := by
      rw [show (-1022 : ℤ) = 52 + -1074 by norm_num, zpow_add₀ two_ne_zero]
      norm_cast
    calc |value| = m * (2 : ℚ) ^ (-1074 : ℤ) := hvalue
      _ < 2 ^ 52 * (2 : ℚ) ^ (-1074 : ℤ) := by gcongr
      _ = (2 : ℚ) ^ (-1022 : ℤ) := hpower
      _ < 1 := zpow_lt_one_of_neg₀ one_lt_two (by decide)
  obtain ⟨hlow, hhigh⟩ : (10 : ℚ) ^ (-700 : ℤ) ≤ |value| ∧ |value| < (10 : ℚ) ^ (700 : ℤ) := by
    refine decimal_range ?_ (lt_of_lt_of_le htiny (one_le_zpow₀ one_le_two (by decide)))
    rw [hvalue]
    nlinarith
  rcases magnitude_numberToken hlow hhigh with ⟨hwhole, -⟩ | happrox
  · -- A whole number below one is zero.
    have hint : (value.num : ℚ) = value := Rat.coe_int_num_of_den_eq_one hwhole
    have habs : |value.num| < 1 := by
      rw [← hint] at htiny
      exact_mod_cast htiny
    have hpos : 0 < |value| := by
      rw [hvalue]
      positivity
    rw [← hint, Int.abs_lt_one_iff.mp habs] at hpos
    simp at hpos
  · rw [hvalue] at happrox
    rw [stod_dumpNumber, roundDouble_subnormal hx happrox]
    rfl

/-- The whole numbers of 53 bits are doubles. -/
theorem exists_isNormal {n : Nat} (hpos : n ≠ 0) (hn : n < 2 ^ 53) :
    ∃ m k, IsNormal m k ∧ (n : ℚ) = m * (2 : ℚ) ^ k := by
  have hlog : n.log2 ≤ 52 := Nat.lt_succ_iff.mp ((Nat.log2_lt hpos).mpr hn)
  obtain ⟨shift, hshift⟩ : ∃ shift, shift + n.log2 = 52 := ⟨_, Nat.sub_add_cancel hlog⟩
  refine ⟨n * 2 ^ shift, -shift, ⟨?_, ?_, by omega, by omega⟩, ?_⟩
  · calc 2 ^ 52 = 2 ^ n.log2 * 2 ^ shift := by rw [← pow_add, Nat.add_comm, hshift]
      _ ≤ n * 2 ^ shift := Nat.mul_le_mul_right _ (Nat.log2_self_le hpos)
  · calc n * 2 ^ shift < 2 ^ (n.log2 + 1) * 2 ^ shift :=
          Nat.mul_lt_mul_of_pos_right Nat.lt_log2_self (Nat.two_pow_pos shift)
      _ = 2 ^ 53 := by rw [← pow_add]; congr 1; omega
  · push_cast
    rw [zpow_neg, zpow_natCast, mul_assoc, mul_inv_cancel₀ (pow_ne_zero _ two_ne_zero), mul_one]

theorem roundDouble_natCast {n : Nat} (hn : n < 2 ^ 53) : roundDouble n = some (n : ℚ) := by
  rcases eq_or_ne n 0 with rfl | hpos
  · simp [roundDouble]
  · obtain ⟨m, k, hnormal, heq⟩ := exists_isNormal hpos hn
    rw [heq]
    refine roundDouble_normal hnormal ?_
    rw [sub_self, abs_zero]
    positivity

theorem stod_dumpNumber_intCast {n : ℤ} (hn : n.natAbs < 2 ^ 53) :
    stod (dumpNumber n) = some (n : ℚ) := by
  rcases eq_or_ne n.natAbs 0 with hzero | hpos
  · rw [Int.natAbs_eq_zero.mp hzero]
    exact stod_dumpNumber_zero
  · obtain ⟨m, k, hnormal, heq⟩ := exists_isNormal hpos hn
    refine stod_dumpNumber_normal hnormal ?_
    rw [← heq, Nat.cast_natAbs, Int.cast_abs]

end Printed

end VkRelay.Json
