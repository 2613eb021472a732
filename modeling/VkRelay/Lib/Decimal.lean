import Mathlib

/-!
Decimal text of natural numbers as ASCII bytes, most significant digit first.
Reading the printed digits back gives the number, and a number below a power of
ten has at most that many digits.
-/

namespace VkRelay.Lib

def isDigit (c : UInt8) : Bool := decide (0x30 ≤ c.toNat ∧ c.toNat ≤ 0x39)

def digitByte (d : Nat) : UInt8 := UInt8.ofNat (0x30 + d)

/-- Print `n` in front of `tail`; `fuel` bounds the number of digits. -/
def decimalOnto : Nat → Nat → List UInt8 → List UInt8
  | 0, _, tail => tail
  | fuel + 1, n, tail =>
    if n < 10 then digitByte n :: tail
    else decimalOnto fuel (n / 10) (digitByte (n % 10) :: tail)

def decimal (n : Nat) : List UInt8 :=
  decimalOnto (n + 1) n []

def digitsValue (start : Nat) (text : List UInt8) : Nat :=
  text.foldl (fun value c => value * 10 + (c.toNat - 0x30)) start

theorem digitByte_toNat {d : Nat} (hd : d < 10) : (digitByte d).toNat = 0x30 + d := by
  simp only [digitByte, UInt8.toNat_ofNat']
  omega

theorem isDigit_digitByte {d : Nat} (hd : d < 10) : isDigit (digitByte d) = true := by
  rw [isDigit, digitByte_toNat hd, decide_eq_true_iff]
  omega

/-- What one print adds in front of its tail. -/
private theorem decimalOnto_spec (fuel n : Nat) (hfuel : n < fuel) (tail : List UInt8) :
    ∃ digits, decimalOnto fuel n tail = digits ++ tail ∧ digits ≠ [] ∧
      (∀ c ∈ digits, isDigit c = true) ∧ digitsValue 0 digits = n ∧
      ∀ k, n < 10 ^ (k + 1) → digits.length ≤ k + 1 := by
  induction fuel generalizing n tail with
  | zero => omega
  | succ fuel ih =>
    by_cases hsmall : n < 10
    · refine ⟨[digitByte n], by simp [decimalOnto, hsmall], by simp, ?_, ?_, ?_⟩
      · simpa using isDigit_digitByte hsmall
      · simp only [digitsValue, List.foldl_cons, List.foldl_nil, digitByte_toNat hsmall]
        omega
      · intro k _
        simp
    · obtain ⟨digits, htext, hne, hdigits, hvalue, hlength⟩ :=
        ih (n / 10) (by omega) (digitByte (n % 10) :: tail)
      have hlast : n % 10 < 10 := Nat.mod_lt n (by decide)
      refine ⟨digits ++ [digitByte (n % 10)], ?_, by simp, ?_, ?_, ?_⟩
      · simp [decimalOnto, hsmall, htext]
      · intro c hc
        rcases List.mem_append.mp hc with hc | hc
        · exact hdigits c hc
        · rw [List.mem_singleton.mp hc]
          exact isDigit_digitByte hlast
      · have hstep : digitsValue 0 (digits ++ [digitByte (n % 10)]) =
            digitsValue 0 digits * 10 + ((digitByte (n % 10)).toNat - 0x30) := by
          simp [digitsValue]
        rw [hstep, hvalue, digitByte_toNat hlast]
        omega
      · intro k hk
        rw [List.length_append, List.length_singleton]
        cases k with
        | zero => omega
        | succ k =>
          have hshort := hlength k (by rw [pow_succ] at hk; omega)
          omega

theorem decimal_ne_nil (n : Nat) : decimal n ≠ [] := by
  obtain ⟨digits, htext, hne, -⟩ := decimalOnto_spec (n + 1) n (Nat.lt_succ_self n) []
  rw [decimal, htext, List.append_nil]
  exact hne

theorem isDigit_of_mem_decimal {n : Nat} {c : UInt8} (hc : c ∈ decimal n) : isDigit c = true := by
  obtain ⟨digits, htext, -, hdigits, -⟩ := decimalOnto_spec (n + 1) n (Nat.lt_succ_self n) []
  rw [decimal, htext, List.append_nil] at hc
  exact hdigits c hc

/-- Reading the printed digits back gives the number. -/
theorem digitsValue_decimal (n : Nat) : digitsValue 0 (decimal n) = n := by
  obtain ⟨digits, htext, -, -, hvalue, -⟩ := decimalOnto_spec (n + 1) n (Nat.lt_succ_self n) []
  rw [decimal, htext, List.append_nil, hvalue]

theorem length_decimal_le {n k : Nat} (hn : n < 10 ^ (k + 1)) : (decimal n).length ≤ k + 1 := by
  obtain ⟨digits, htext, -, -, -, hlength⟩ := decimalOnto_spec (n + 1) n (Nat.lt_succ_self n) []
  rw [decimal, htext, List.append_nil]
  exact hlength k hn

end VkRelay.Lib
