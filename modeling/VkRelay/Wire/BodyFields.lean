import VkRelay.Wire.Record

/-!
The fields of a JSON body: how doubles, machine integers, handles and blobs are put
into a value, and the total readers that take them out again, a missing or malformed
field falling back to a default.
-/

namespace VkRelay.Wire

open VkRelay.Lib VkRelay.Json

namespace Double

section Parts

variable (d : Double)

def negative : Bool := d.bits.toNat / 2 ^ 63 = 1

def exponent : Nat := d.bits.toNat / 2 ^ 52 % 2 ^ 11

def fraction : Nat := d.bits.toNat % 2 ^ 52

/-- The magnitude of a finite double. -/
def magnitude : ℚ :=
  if d.exponent = 0 then d.fraction * (2 : ℚ) ^ (-1074 : ℤ)
  else ((2 ^ 52 + d.fraction : Nat) : ℚ) * (2 : ℚ) ^ ((d.exponent : ℤ) - 1075)

/-- `json::Value(double)`. -/
def value : Value :=
  if d.exponent = 2047 then .nonFinite d.negative (d.fraction ≠ 0)
  else .number (if d.negative then -d.magnitude else d.magnitude)

/-- Zero or normal: neither infinite nor a NaN nor subnormal. -/
def Readable : Prop := d.exponent ≠ 2047 ∧ (d.exponent = 0 → d.fraction = 0)

instance : Decidable d.Readable := inferInstanceAs (Decidable (_ ∧ _))

end Parts

/-- The double of a rational that is one. -/
def ofRat (q : ℚ) : Double :=
  if q = 0 then ⟨0⟩
  else
    let e := max (binaryExponent |q|) (-1022)
    let significand := (|q| / (2 : ℚ) ^ (e - 52)).floor.toNat
    -- The significand's leading bit adds one to the exponent field of a normal double.
    ⟨UInt64.ofNat ((if q < 0 then 2 ^ 63 else 0) + (e + 1022).toNat * 2 ^ 52 + significand)⟩

variable {d : Double}

theorem abs_signed_magnitude :
    |if d.negative then -d.magnitude else d.magnitude| = d.magnitude := by
  have hnonneg : 0 ≤ d.magnitude := by
    rw [magnitude]
    split_ifs <;> positivity
  split_ifs
  · rw [abs_neg, abs_of_nonneg hnonneg]
  · exact abs_of_nonneg hnonneg

theorem fraction_lt : d.fraction < 2 ^ 52 := Nat.mod_lt _ (by decide)

theorem exponent_lt : d.exponent < 2 ^ 11 := Nat.mod_lt _ (by decide)

theorem reparse_value (hread : d.Readable) : reparse d.value = some d.value := by
  obtain ⟨hfinite, hzero⟩ := hread
  have habs := @abs_signed_magnitude d
  have hfraction := @fraction_lt d
  have hexponent := @exponent_lt d
  rw [value, if_neg hfinite, reparse]
  by_cases hsmall : d.exponent = 0
  · have hmagnitude : d.magnitude = 0 := by simp [magnitude, hsmall, hzero hsmall]
    simp [hmagnitude, stod_dumpNumber_zero]
  · rw [magnitude, if_neg hsmall] at habs
    have hnormal : IsNormal (2 ^ 52 + d.fraction) ((d.exponent : ℤ) - 1075) :=
      ⟨by omega, by omega, by omega, by omega⟩
    rw [magnitude, if_neg hsmall, stod_dumpNumber_normal hnormal habs, Option.map_some]

/-- The text of an infinity, a NaN or a subnormal double is not read. -/
theorem reparse_value_eq_none (hread : ¬ d.Readable) : reparse d.value = none := by
  rw [value]
  by_cases hfinite : d.exponent = 2047
  · rw [if_pos hfinite, reparse]
  · rw [Readable, not_and, Classical.not_imp] at hread
    obtain ⟨hsmall, hfraction⟩ := hread hfinite
    have habs := @abs_signed_magnitude d
    rw [magnitude, if_pos hsmall] at habs
    rw [if_neg hfinite, reparse, magnitude, if_pos hsmall,
      stod_dumpNumber_subnormal ⟨Nat.pos_of_ne_zero hfraction, fraction_lt⟩ habs, Option.map_none]

end Double

namespace Record

section Put

/-- `static_cast<double>` of a whole number. -/
def doubleOfInt (n : ℤ) : ℚ :=
  let magnitude := (roundDouble n.natAbs).getD 0
  if n < 0 then -magnitude else magnitude

/-- `json::Value(int)`. -/
def ofInt (v : Int32) : Value := .number (doubleOfInt v.toInt)

/-- `json::Value(long long)`. -/
def ofI64 (v : Int64) : Value := .number (doubleOfInt v.toInt)

def ofHandle (v : UInt64) : Value := handleValue v.toNat

def handleArray (handles : List UInt64) : Value := .array (handles.map ofHandle)

def toHex (bytes : Bytes) : Bytes :=
  bytes.flatMap fun c => [hexDigit (c.toNat / 16), hexDigit (c.toNat % 16)]

end Put

section Get

def hexNibble (c : UInt8) : Option Nat :=
  if 0x30 ≤ c ∧ c ≤ 0x39 then some (c.toNat - 0x30)
  else if 0x61 ≤ c ∧ c ≤ 0x66 then some (c.toNat - 0x61 + 10)
  else if 0x41 ≤ c ∧ c ≤ 0x46 then some (c.toNat - 0x41 + 10)
  else none

/-- The loop over the pairs of nibbles; `none` on a malformed one. -/
def fromHexPairs : Bytes → Option Bytes
  | hi :: lo :: rest => do
    let hi ← hexNibble hi
    let lo ← hexNibble lo
    let rest ← fromHexPairs rest
    some (UInt8.ofNat (hi * 16 + lo) :: rest)
  | _ => some []

def fromHex (hex : Bytes) : Bytes :=
  if hex.length % 2 ≠ 0 then [] else (fromHexPairs hex).getD []

/-- `static_cast<long long>` of a double; not defined outside the 64-bit range. -/
def truncI64 (q : ℚ) : Int64 :=
  let n := if q < 0 then -(-q).floor else q.floor
  if -2 ^ 63 ≤ n ∧ n < 2 ^ 63 then Int64.ofInt n else Int64.minValue

def i64Of : Value → Int64
  | .number q => truncI64 q
  | _ => 0

def numberOf : Value → Double
  | .number q => .ofRat q
  | _ => ⟨0⟩

def u64Of (v : Value) : UInt64 := UInt64.ofNat (handleOf v)

def itemsOf : Value → List Value
  | .array items => items
  | _ => []

variable (obj : Value) (key : String)

def getInt32 (fallback : Int) : Int32 := Int32.ofInt (getIntField obj (ascii key) fallback)

def getInt64 (fallback : Int) : Int64 := Int64.ofInt (getI64Field obj (ascii key) fallback)

/-- Read wide; what is missing or out of `[0, INT_MAX]` becomes -1. -/
def getIndex : Int32 :=
  let v := getI64Field obj (ascii key) (-1)
  if 0 ≤ v ∧ v ≤ 2 ^ 31 - 1 then Int32.ofInt v else -1

def getString : Bytes :=
  match obj.find (ascii key) with
  | some (.string text) => text
  | _ => []

/-- `get_number` with the fallback 0.0. -/
def getNumber : Double := ((obj.find (ascii key)).map numberOf).getD ⟨0⟩

def getHandle64 : UInt64 := UInt64.ofNat (getHandle obj (ascii key))

def getItems : List Value := ((obj.find (ascii key)).map itemsOf).getD []

def getHandleArray : List UInt64 := (getItems obj key).map u64Of

def getHexBlob : Bytes :=
  match obj.find (ascii key) with
  | some (.string hex) => fromHex hex
  | _ => []

end Get

section Whole

variable (v : Int32) {n : ℤ}

theorem doubleOfInt_eq (hn : n.natAbs < 2 ^ 53) : doubleOfInt n = n := by
  simp only [doubleOfInt, roundDouble_natCast hn, Option.getD_some]
  have habs : (n.natAbs : ℚ) = |(n : ℚ)| := by rw [Nat.cast_natAbs, Int.cast_abs]
  by_cases hneg : n < 0
  · rw [if_pos hneg, habs, abs_of_neg (by exact_mod_cast hneg), neg_neg]
  · rw [if_neg hneg, habs, abs_of_nonneg (by exact_mod_cast not_lt.mp hneg)]

theorem natAbs_toInt_lt : v.toInt.natAbs < 2 ^ 53 := by
  have hlow := v.le_toInt
  have hhigh := v.toInt_lt
  omega

theorem ofInt_eq : ofInt v = .number v.toInt := by
  rw [ofInt, doubleOfInt_eq (natAbs_toInt_lt v)]

def Small (v : Int64) : Prop := v.toInt.natAbs < 10 ^ 15

instance (v : Int64) : Decidable (Small v) := inferInstanceAs (Decidable (_ < _))

theorem Small.lt {v : Int64} (hv : Small v) : v.toInt.natAbs < 2 ^ 53 :=
  lt_trans (show v.toInt.natAbs < 10 ^ 15 from hv) (by decide)

theorem small_toInt64 : Small v.toInt64 := by
  have hlow := v.le_toInt
  have hhigh := v.toInt_lt
  rw [Small, Int32.toInt_toInt64]
  omega

theorem ofI64_eq {v : Int64} (hv : Small v) : ofI64 v = .number v.toInt := by
  rw [ofI64, doubleOfInt_eq hv.lt]

theorem i64Value_intCast (hn : n.natAbs < 2 ^ 53) : i64Value (.number n) = some n := by
  have hlow : (-2 ^ 63 : ℚ) ≤ n := by exact_mod_cast (by omega : -2 ^ 63 ≤ n)
  have hhigh : (n : ℚ) < 2 ^ 63 := by exact_mod_cast (by omega : n < 2 ^ 63)
  simp [i64Value, hlow, hhigh]

theorem reparse_intCast (hn : n.natAbs < 2 ^ 53) : reparse (.number n) = some (.number n) := by
  rw [reparse, stod_dumpNumber_intCast hn, Option.map_some]

end Whole

/-! What the writers put into a body is reparsed as it is. -/

section Reparsed

theorem reparse_ofInt (v : Int32) : reparse (ofInt v) = some (ofInt v) := by
  rw [ofInt_eq, reparse_intCast (natAbs_toInt_lt v)]

theorem reparse_ofI64 {v : Int64} (hv : Small v) : reparse (ofI64 v) = some (ofI64 v) := by
  rw [ofI64_eq hv, reparse_intCast hv.lt]

theorem reparse_ofHandle (v : UInt64) : reparse (ofHandle v) = some (ofHandle v) := rfl

theorem reparse_array {items : List Value} (hitems : ∀ v ∈ items, reparse v = some v) :
    reparse (.array items) = some (.array items) := by
  rw [reparse, reparseItems_eq_self hitems, Option.map_some]

theorem reparse_object {members : List (Bytes × Value)}
    (hmembers : ∀ m ∈ members, reparse m.2 = some m.2) :
    reparse (.object members) = some (.object members) := by
  rw [reparse, reparseMembers_eq_self hmembers, Option.map_some]

theorem reparse_arrayMap {α : Type} {put : α → Value} {xs : List α}
    (hput : ∀ x ∈ xs, reparse (put x) = some (put x)) :
    reparse (.array (xs.map put)) = some (.array (xs.map put)) :=
  reparse_array (List.forall_mem_map.mpr hput)

theorem reparse_handleArray (handles : List UInt64) :
    reparse (handleArray handles) = some (handleArray handles) :=
  reparse_arrayMap fun v _ => reparse_ofHandle v

end Reparsed

/-! The readers give back what the writers put. -/

section ReadBack

theorem u64Of_ofHandle (v : UInt64) : u64Of (ofHandle v) = v := by
  rw [u64Of, ofHandle, handleOf_handleValue v.toNat_lt, UInt64.ofNat_toNat]

theorem i64Of_ofI64 {v : Int64} (hv : Small v) : i64Of (ofI64 v) = v := by
  have htrunc : (if (v.toInt : ℚ) < 0 then -(-(v.toInt : ℚ)).floor else (v.toInt : ℚ).floor) =
      v.toInt := by
    rw [← Int.cast_neg, Rat.floor_intCast, Rat.floor_intCast, neg_neg, ite_self]
  rw [ofI64_eq hv, i64Of, truncI64]
  have hlt := hv.lt
  simp only [htrunc]
  rw [if_pos (by omega), Int64.ofInt_toInt]

theorem fromHexPairs_toHex (bytes : Bytes) : fromHexPairs (toHex bytes) = some bytes := by
  have hnibble : ∀ n < 16, hexNibble (hexDigit n) = some n := by decide
  induction bytes with
  | nil => rfl
  | cons c bytes ih =>
    have hbyte : c.toNat < 256 := c.toNat_lt
    have hjoin : c.toNat / 16 * 16 + c.toNat % 16 = c.toNat := by omega
    have hcons : toHex (c :: bytes) =
        hexDigit (c.toNat / 16) :: hexDigit (c.toNat % 16) :: toHex bytes := rfl
    simp only [hcons, fromHexPairs, hnibble _ (show c.toNat / 16 < 16 by omega),
      hnibble _ (show c.toNat % 16 < 16 by omega), ih, Option.bind_eq_bind, Option.bind_some,
      hjoin, UInt8.ofNat_toNat]

theorem fromHex_toHex (bytes : Bytes) : fromHex (toHex bytes) = bytes := by
  have heven : (toHex bytes).length = 2 * bytes.length := by
    simp [toHex]
    omega
  rw [fromHex, if_neg (by omega), fromHexPairs_toHex, Option.getD_some]

variable {obj : Value} {key : String}

theorem getHandle64_eq {v : UInt64} (hfind : obj.find (ascii key) = some (ofHandle v)) :
    getHandle64 obj key = v := by
  rw [getHandle64, getHandle, hfind]
  exact u64Of_ofHandle v

theorem getInt32_eq {v : Int32} (fallback : Int) (hfind : obj.find (ascii key) = some (ofInt v)) :
    getInt32 obj key fallback = v := by
  have hlow := v.le_toInt
  have hhigh := v.toInt_lt
  have hint : asInt (v.toInt : ℚ) = v.toInt := by
    rw [asInt, Rat.num_intCast, if_pos (by omega)]
  have hread : getIntField obj (ascii key) fallback = v.toInt := by
    simp only [getIntField, hfind, ofInt_eq, Rat.den_intCast, if_true, hint]
    exact Int.bmod_eq_of_le (by omega) (by omega)
  rw [getInt32, hread, Int32.ofInt_toInt]

theorem getInt64_eq {v : Int64} (hv : Small v) (fallback : Int)
    (hfind : obj.find (ascii key) = some (ofI64 v)) : getInt64 obj key fallback = v := by
  rw [getInt64, getI64Field, hfind, ofI64_eq hv, Option.bind_some, i64Value_intCast hv.lt,
    Option.getD_some, Int64.ofInt_toInt]

theorem getIndex_eq {v : Int32} (hv : 0 ≤ v ∨ v = -1)
    (hfind : obj.find (ascii key) = some (ofInt v)) : getIndex obj key = v := by
  have hhigh := v.toInt_lt
  have hread : getI64Field obj (ascii key) (-1) = v.toInt := by
    rw [getI64Field, hfind, ofInt_eq, Option.bind_some, i64Value_intCast (natAbs_toInt_lt v),
      Option.getD_some]
  rw [getIndex, hread]
  rcases hv with hv | rfl
  · have hnonneg : 0 ≤ v.toInt := Int32.le_iff_toInt_le.mp hv
    rw [if_pos (by omega), Int32.ofInt_toInt]
  · rfl

theorem getString_eq {text : Bytes} (hfind : obj.find (ascii key) = some (.string text)) :
    getString obj key = text := by
  rw [getString, hfind]

theorem getBoolField_eq {b : Bool} (hfind : obj.find (ascii key) = some (.bool b)) :
    getBoolField obj (ascii key) = b := by
  rw [getBoolField, hfind]

theorem getItems_eq {items : List Value} (hfind : obj.find (ascii key) = some (.array items)) :
    getItems obj key = items := by
  rw [getItems, hfind]
  rfl

theorem getHandleArray_eq {handles : List UInt64}
    (hfind : obj.find (ascii key) = some (handleArray handles)) :
    getHandleArray obj key = handles := by
  rw [getHandleArray, getItems_eq hfind, List.map_map]
  exact List.map_id'' u64Of_ofHandle handles

theorem getHexBlob_eq {bytes : Bytes}
    (hfind : obj.find (ascii key) = some (.string (toHex bytes))) : getHexBlob obj key = bytes := by
  rw [getHexBlob, hfind]
  exact fromHex_toHex bytes

end ReadBack

end Record

end VkRelay.Wire
