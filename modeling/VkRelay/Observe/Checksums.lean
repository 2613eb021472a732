import VkRelay.Wire.Json

/-!
The two checksums of a PNG file as the encoder computes them, against what they are defined to
be: Adler-32 as two sums of unbounded integers, which the encoder reduces only every 5552 bytes,
and CRC-32 as a remainder of polynomials over two elements, which the encoder keeps reflected in a
32-bit word.
-/

namespace VkRelay.Observe

open VkRelay.Json Polynomial

/-! ## As computed -/

def crcShift (crc : UInt32) : UInt32 :=
  if crc &&& 1 ≠ 0 then (crc >>> 1) ^^^ 0xEDB88320 else crc >>> 1

def crcByte (crc : UInt32) (byte : UInt8) : UInt32 := crcShift^[8] (crc ^^^ byte.toUInt32)

def crc32 (data : Bytes) : UInt32 := data.foldl crcByte 0xFFFFFFFF ^^^ 0xFFFFFFFF

def adlerByte (sums : UInt32 × UInt32) (byte : UInt8) : UInt32 × UInt32 :=
  let a := sums.1 + byte.toUInt32
  (a, sums.2 + a)

/-- The sums are reduced after every run. -/
def adlerRuns (sums : UInt32 × UInt32) (data : Bytes) : UInt32 × UInt32 :=
  if data = [] then sums
  else
    let run := (data.take 5552).foldl adlerByte sums
    adlerRuns (run.1 % 65521, run.2 % 65521) (data.drop 5552)
termination_by data.length
decreasing_by
  have := List.length_pos_iff.mpr ‹_›
  simp only [List.length_drop]
  omega

def adler32 (data : Bytes) : UInt32 :=
  let sums := adlerRuns (1, 0) data
  (sums.2 <<< 16) ||| sums.1

/-! ## Adler-32 -/

/-- The running sum of the bytes and the sum of its values, from the two given. -/
def adlerSums (sums : Nat × Nat) (data : Bytes) : Nat × Nat :=
  data.foldl (fun sums byte => (sums.1 + byte.toNat, sums.2 + (sums.1 + byte.toNat))) sums

def adlerValue (data : Bytes) : Nat :=
  (adlerSums (1, 0) data).2 % 65521 * 65536 + (adlerSums (1, 0) data).1 % 65521

theorem adlerSums_eq (a b : Nat) (data : Bytes) :
    adlerSums (a, b) data = (a + (adlerSums (0, 0) data).1,
      b + data.length * a + (adlerSums (0, 0) data).2) := by
  induction data generalizing a b with
  | nil => simp [adlerSums]
  | cons byte data ih =>
    have hcons : ∀ a b, adlerSums (a, b) (byte :: data) =
      adlerSums (a + byte.toNat, b + (a + byte.toNat)) data := fun _ _ => rfl
    rw [hcons, hcons, ih, ih (0 + byte.toNat)]
    simp only [List.length_cons, Prod.mk.injEq]
    constructor <;> ring

variable (crc : UInt32) (data : Bytes)

theorem adlerSums_le : (adlerSums (0, 0) data).1 ≤ data.length * 255 ∧
      2 * (adlerSums (0, 0) data).2 ≤ data.length * (data.length + 1) * 255 := by
  induction data with
  | nil => simp [adlerSums]
  | cons byte data ih =>
    have hbyte : byte.toNat ≤ 255 := Nat.le_of_lt_succ byte.toNat_lt
    have hmul : data.length * byte.toNat ≤ data.length * 255 := Nat.mul_le_mul_left _ hbyte
    have hcons : adlerSums (0, 0) (byte :: data) =
      adlerSums (0 + byte.toNat, 0 + (0 + byte.toNat)) data := rfl
    have hsquare : (data.length + 1) * (data.length + 1 + 1) * 255 =
        data.length * (data.length + 1) * 255 + 2 * (data.length * 255) + 2 * 255 := by ring
    rw [hcons, adlerSums_eq, List.length_cons, hsquare]
    simp only [zero_add]
    omega

variable {sums : UInt32 × UInt32}

/-- A run whose sum stays below the word is computed exactly. -/
theorem foldl_adlerByte {data : Bytes}
    (hfits : (adlerSums (sums.1.toNat, sums.2.toNat) data).2 < 2 ^ 32)
    (hfirst : (adlerSums (sums.1.toNat, sums.2.toNat) data).1 < 2 ^ 32) :
    ((data.foldl adlerByte sums).1.toNat, (data.foldl adlerByte sums).2.toNat) =
      adlerSums (sums.1.toNat, sums.2.toNat) data := by
  induction data generalizing sums with
  | nil => rfl
  | cons byte data ih =>
    have hcons : adlerSums (sums.1.toNat, sums.2.toNat) (byte :: data) =
      adlerSums (sums.1.toNat + byte.toNat, sums.2.toNat + (sums.1.toNat + byte.toNat)) data :=
      rfl
    rw [hcons, adlerSums_eq] at hfits hfirst
    have hnext : ((adlerByte sums byte).1.toNat, (adlerByte sums byte).2.toNat) =
        (sums.1.toNat + byte.toNat, sums.2.toNat + (sums.1.toNat + byte.toNat)) := by
      simp only [adlerByte, UInt32.toNat_add, UInt8.toNat_toUInt32, Prod.mk.injEq] at *
      omega
    rw [hcons, ← hnext, List.foldl_cons]
    refine ih ?_ ?_ <;> rw [hnext, adlerSums_eq]
    · exact hfits
    · exact hfirst

theorem adlerSums_append (sums : Nat × Nat) (front back : Bytes) :
    adlerSums sums (front ++ back) = adlerSums (adlerSums sums front) back :=
  List.foldl_append

theorem adlerSums_mod (a b : Nat) (data : Bytes) :
    (adlerSums (a % 65521, b % 65521) data).1 % 65521 = (adlerSums (a, b) data).1 % 65521 ∧
      (adlerSums (a % 65521, b % 65521) data).2 % 65521 = (adlerSums (a, b) data).2 % 65521 := by
  rw [adlerSums_eq, adlerSums_eq a]
  constructor
  · simp [Nat.add_mod]
  · simp [Nat.add_mod, Nat.mul_mod]

/-- The reduction put off over a run of 5552 bytes never wraps a word. -/
theorem adlerRuns_eq (data : Bytes) (ha : sums.1.toNat < 65521) (hb : sums.2.toNat < 65521) :
    (adlerRuns sums data).1.toNat = (adlerSums (sums.1.toNat, sums.2.toNat) data).1 % 65521 ∧
      (adlerRuns sums data).2.toNat = (adlerSums (sums.1.toNat, sums.2.toNat) data).2 % 65521 := by
  fun_induction adlerRuns sums data with
  | case1 sums =>
    exact ⟨(Nat.mod_eq_of_lt ha).symm, (Nat.mod_eq_of_lt hb).symm⟩
  | case2 sums data hdata run ih =>
    have hlength : (data.take 5552).length ≤ 5552 := by simp
    obtain ⟨hfirst, hsecond⟩ := adlerSums_le (data.take 5552)
    have hproduct : (data.take 5552).length * sums.1.toNat ≤ 5552 * 65520 :=
      Nat.mul_le_mul hlength (Nat.le_of_lt_succ ha)
    have hsquare : (data.take 5552).length * ((data.take 5552).length + 1) ≤ 5552 * 5553 :=
      Nat.mul_le_mul hlength (Nat.succ_le_succ hlength)
    have hrun : (run.1.toNat, run.2.toNat) =
        adlerSums (sums.1.toNat, sums.2.toNat) (data.take 5552) := by
      apply foldl_adlerByte <;> rw [adlerSums_eq] <;> simp only <;> omega
    have hmod : ∀ v : UInt32, (v % 65521).toNat = v.toNat % 65521 := fun v => by
      rw [UInt32.toNat_mod]
      rfl
    have hlt : ∀ v : UInt32, (v % 65521).toNat < 65521 := fun v => by
      rw [hmod]
      exact Nat.mod_lt _ (by decide)
    obtain ⟨ihFirst, ihSecond⟩ := ih (hlt _) (hlt _)
    have hsplit : adlerSums (sums.1.toNat, sums.2.toNat) data =
        adlerSums (run.1.toNat, run.2.toNat) (data.drop 5552) := by
      rw [hrun, ← adlerSums_append, List.take_append_drop]
    rw [ihFirst, ihSecond, hsplit, hmod, hmod]
    exact adlerSums_mod _ _ _

theorem adler32_eq : (adler32 data).toNat = adlerValue data := by
  obtain ⟨hfirst, hsecond⟩ : (adlerRuns (1, 0) data).1.toNat = (adlerSums (1, 0) data).1 % 65521 ∧
        (adlerRuns (1, 0) data).2.toNat = (adlerSums (1, 0) data).2 % 65521 :=
    adlerRuns_eq data (by decide) (by decide)
  have hlow : (adlerRuns (1, 0) data).1.toNat < 65521 := by
    rw [hfirst]
    exact Nat.mod_lt _ (by decide)
  have hhigh : (adlerRuns (1, 0) data).2.toNat < 65521 := by
    rw [hsecond]
    exact Nat.mod_lt _ (by decide)
  simp only [adler32, adlerValue, UInt32.toNat_or, UInt32.toNat_shiftLeft, ← hfirst, ← hsecond]
  rw [show (16 : UInt32).toNat % 32 = 16 from rfl, Nat.shiftLeft_eq, Nat.mod_eq_of_lt (by omega),
    ← Nat.shiftLeft_eq, ← Nat.shiftLeft_add_eq_or_of_lt (by omega), Nat.shiftLeft_eq]

/-! ## CRC-32 -/

/-- The polynomial a word holds: its lowest bit is the coefficient of the highest power. -/
noncomputable def poly (v : BitVec 32) : (ZMod 2)[X] :=
  ∑ i ∈ Finset.range 32, if v.getLsbD i then X ^ (31 - i) else 0

noncomputable def generator : (ZMod 2)[X] :=
  X ^ 32 + X ^ 26 + X ^ 23 + X ^ 22 + X ^ 16 + X ^ 12 + X ^ 11 + X ^ 10 + X ^ 8 + X ^ 7 + X ^ 5 +
    X ^ 4 + X ^ 2 + X + 1

/-- A byte as a polynomial: its lowest bit comes first. -/
noncomputable def bytePoly (byte : UInt8) : (ZMod 2)[X] :=
  ∑ i ∈ Finset.range 8, if byte.toBitVec.getLsbD i then X ^ (7 - i) else 0

/-- The bytes of a message, the first with the highest powers. -/
noncomputable def message (data : Bytes) : (ZMod 2)[X] :=
  data.foldl (fun m byte => X ^ 8 * m + bytePoly byte) 0

/-- The checksum by its definition: its complement is the remainder of the message, whose first 32
bits are complemented, by the generator. A word holds no polynomial of degree 32 or above. -/
def IsCrc32 (data : Bytes) (crc : UInt32) : Prop :=
  generator ∣ poly (~~~crc).toBitVec -
    (X ^ (8 * data.length) * poly (BitVec.allOnes 32) + X ^ 32 * message data)

theorem poly_xor (v w : BitVec 32) : poly (v ^^^ w) = poly v + poly w := by
  rw [poly, poly, poly, ← Finset.sum_add_distrib]
  refine Finset.sum_congr rfl fun i _ => ?_
  rw [BitVec.getLsbD_xor]
  cases v.getLsbD i <;> cases w.getLsbD i <;> simp [CharTwo.add_self_eq_zero]

theorem X_mul_poly (v : BitVec 32) :
    X * poly v = poly (v >>> 1) + if v.getLsbD 0 then X ^ 32 else 0 := by
  have htop : (v >>> 1).getLsbD 31 = false := by simp
  have hshift : poly (v >>> 1) =
      ∑ i ∈ Finset.range 31, if v.getLsbD (i + 1) then X ^ (31 - i) else 0 := by
    rw [poly, Finset.sum_range_succ, htop, if_neg Bool.false_ne_true, add_zero]
    refine Finset.sum_congr rfl fun i _ => ?_
    rw [BitVec.getLsbD_ushiftRight, add_comm 1 i]
  rw [poly, Finset.sum_range_succ', mul_add, Finset.mul_sum, hshift, mul_ite, mul_zero, ← pow_succ']
  refine congrArg₂ _ (Finset.sum_congr rfl fun i hi => ?_) rfl
  have hpower : 31 - i = 31 - (i + 1) + 1 := by
    have := Finset.mem_range.mp hi
    omega
  rw [mul_ite, mul_zero, hpower, pow_succ']

theorem poly_reflected : poly 0xEDB88320 + X ^ 32 = generator := by
  have hbits : (Finset.range 32).filter (fun i => (0xEDB88320 : BitVec 32).getLsbD i = true) =
      {5, 8, 9, 15, 19, 20, 21, 23, 24, 26, 27, 29, 30, 31} := by decide
  rw [poly, ← Finset.sum_filter, hbits]
  simp only [Finset.sum_insert, Finset.mem_insert, Finset.mem_singleton, Finset.sum_singleton,
    Nat.reduceEqDiff, or_self, not_false_eq_true, Nat.reduceSub, pow_zero,
    pow_one, generator]
  abel

/-- A shift multiplies by the indeterminate, up to the generator. -/
theorem generator_dvd_shift : generator ∣ poly (crcShift crc).toBitVec - X * poly crc.toBitVec := by
  have hlow : crc &&& 1 ≠ 0 ↔ crc.toBitVec.getLsbD 0 = true := by
    have hand : (crc &&& 1).toBitVec = (BitVec.ofBool (crc.toBitVec.getLsbD 0)).setWidth 32 := by
      rw [UInt32.toBitVec_and]
      exact BitVec.and_one_eq_setWidth_ofBool_getLsbD
    rw [ne_eq, ← UInt32.toBitVec_inj, hand]
    cases crc.toBitVec.getLsbD 0 <;> decide
  have hshift : (crc >>> 1).toBitVec = crc.toBitVec >>> 1 := rfl
  rw [X_mul_poly, crcShift]
  simp only [hlow]
  split_ifs
  · rw [UInt32.toBitVec_xor, poly_xor, hshift, add_sub_add_left_eq_sub, CharTwo.sub_eq_add]
    exact dvd_of_eq poly_reflected.symm
  · simp [hshift]

theorem generator_dvd_shifts (k : Nat) :
    generator ∣ poly (crcShift^[k] crc).toBitVec - X ^ k * poly crc.toBitVec := by
  induction k with
  | zero => simp
  | succ k ih =>
    rw [Function.iterate_succ_apply']
    have hstep := (generator_dvd_shift (crcShift^[k] crc)).add (ih.mul_left X)
    rwa [mul_sub, sub_add_sub_cancel, ← mul_assoc, ← pow_succ'] at hstep

theorem poly_byte (byte : UInt8) : poly byte.toUInt32.toBitVec = X ^ 24 * bytePoly byte := by
  have hbit : ∀ i, byte.toUInt32.toBitVec.getLsbD i = byte.toBitVec.getLsbD i := fun i => by
    simpa using fun hi => lt_trans (BitVec.lt_of_getLsbD hi) (by decide)
  rw [poly, bytePoly, Finset.mul_sum]
  simp only [hbit]
  rw [← Finset.sum_subset (Finset.range_mono (show 8 ≤ 32 by decide))]
  · refine Finset.sum_congr rfl fun i hi => ?_
    have hpower : 31 - i = 24 + (7 - i) := by
      have := Finset.mem_range.mp hi
      omega
    rw [mul_ite, mul_zero, hpower, pow_add]
  · intro i _ hi
    rw [BitVec.getLsbD_of_ge _ _ (by simpa using hi), if_neg Bool.false_ne_true]

/-- The register after some bytes is the remainder of what it held and of the bytes. -/
theorem generator_dvd_register : generator ∣ poly (data.foldl crcByte crc).toBitVec -
      (X ^ (8 * data.length) * poly crc.toBitVec + X ^ 32 * message data) := by
  induction data using List.reverseRecOn with
  | nil => simp [message]
  | append_singleton data byte ih =>
    have hmessage : message (data ++ [byte]) = X ^ 8 * message data + bytePoly byte := by
      simp [message]
    have hstep := generator_dvd_shifts (data.foldl crcByte crc ^^^ byte.toUInt32) 8
    rw [UInt32.toBitVec_xor, poly_xor, poly_byte] at hstep
    rw [List.foldl_concat, hmessage, List.length_append, List.length_singleton]
    convert hstep.add (ih.mul_left (X ^ 8)) using 1
    rw [crcByte]
    ring

theorem isCrc32_crc32 : IsCrc32 data (crc32 data) := by
  have hword : ~~~crc32 data = data.foldl crcByte 0xFFFFFFFF := by
    rw [← UInt32.toBitVec_inj, crc32, UInt32.toBitVec_not, UInt32.toBitVec_xor]
    exact (congrArg _ BitVec.xor_allOnes).trans BitVec.not_not
  rw [IsCrc32, hword]
  exact generator_dvd_register 0xFFFFFFFF data

end VkRelay.Observe
