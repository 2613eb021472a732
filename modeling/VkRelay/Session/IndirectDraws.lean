import VkRelay.Session.Command

/-!
Admission of indirect draws. The validators work on 64-bit words and refuse a range before an
operation on it could wrap, so their verdict is the one of unbounded arithmetic: the limits
and the alignment hold, and what every draw reads ends inside the buffer.
-/

namespace VkRelay.Session

open VkRelay.Lib

def IndirectBufferState.Usable (buffer : IndirectBufferState) : Prop :=
  buffer.live = true ∧ buffer.bound = true ∧ buffer.hasIndirectUsage = true

def IsUint32 (value : Int) : Prop := 0 ≤ value ∧ value < 2 ^ 32

/-- The parameters that each of the draws reads end inside the buffer. -/
def DrawsInside (size offset : Nat) (count stride : Int) (commandSize : Nat) : Prop :=
  ∀ draw : Nat, (draw : Int) < count → (offset : Int) + draw * stride + commandSize ≤ size

theorem outsideUint32_eq_false {value : Int} : outsideUint32 value = false ↔ IsUint32 value := by
  simp only [outsideUint32, IsUint32, Bool.or_eq_false_iff, decide_eq_false_iff_not]
  omega

variable {size offset commandSize : Nat} {buffer : IndirectBufferState}

theorem indirectBufferOk_eq_ok {live bound usage : String} {value : Unit} :
    indirectBufferOk buffer live bound usage = .ok value ↔ buffer.Usable := by
  simp [indirectBufferOk, IndirectBufferState.Usable, except_bind_eq_ok]

/-- Each step is checked before it is carried out: the range is accepted exactly when it ends
inside the buffer. -/
theorem indirectRangeOk_eq_ok {size offset : Nat} (hsize : size < 2 ^ 64)
    (hoffset : offset < 2 ^ 64) (repeats stride commandSize : Nat) (overflow range : String) :
    indirectRangeOk size offset repeats stride commandSize overflow range = .ok () ↔
      offset + repeats * stride + commandSize ≤ size := by
  have hrepeats : ¬(repeats ≠ 0 ∧ stride > (2 ^ 64 - 1 - offset) / repeats) ↔
      offset + repeats * stride < 2 ^ 64 := by
    rcases Nat.eq_zero_or_pos repeats with rfl | hpos
    · simpa using hoffset
    · have hfits : stride ≤ (2 ^ 64 - 1 - offset) / repeats ↔
          stride * repeats ≤ 2 ^ 64 - 1 - offset := Nat.le_div_iff_mul_le hpos
      rw [Nat.mul_comm] at hfits
      omega
  simp only [indirectRangeOk, accept_rules, hrepeats]
  constructor
  · rintro ⟨_, hlast, _, hsum, hend⟩
    rw [Nat.mod_eq_of_lt hlast] at hsum hend
    rw [Nat.mod_eq_of_lt (by omega)] at hend
    omega
  · intro hend
    have hlast : offset + repeats * stride < 2 ^ 64 := by omega
    refine ⟨(), hlast, (), ?_, ?_⟩
    · rw [Nat.mod_eq_of_lt hlast]
      omega
    · rw [Nat.mod_eq_of_lt hlast, Nat.mod_eq_of_lt (by omega)]
      omega

/-- The last draw reads furthest. -/
theorem drawsInside_iff {count stride : Int} (hcount : 0 < count) (hstride : 0 ≤ stride) :
    DrawsInside size offset count stride commandSize ↔
      offset + (count.toNat - 1) * stride.toNat + commandSize ≤ size := by
  obtain ⟨n, rfl⟩ := Int.eq_ofNat_of_zero_le hcount.le
  obtain ⟨step, rfl⟩ := Int.eq_ofNat_of_zero_le hstride
  constructor
  · intro hinside
    have hlast := hinside (n - 1) (by omega)
    exact_mod_cast hlast
  · intro hlast draw hdraw
    have hstep : draw * step ≤ (n - 1) * step := Nat.mul_le_mul_right step (by omega)
    have hdraw : offset + draw * step + commandSize ≤ size := by
      simp only [Int.toNat_natCast] at hlast
      omega
    exact_mod_cast hdraw

theorem drawsInside_of_none (stride : Int) : DrawsInside size offset 0 stride commandSize := by
  intro draw hdraw
  omega

theorem coreIndirectDrawOk_eq_ok {offset commandSize : Nat} {count stride : Int} {multi : Bool}
    (hsize : buffer.size < 2 ^ 64) (hoffset : offset < 2 ^ 64) :
    coreIndirectDrawOk buffer offset count stride commandSize multi = .ok () ↔
      buffer.Usable ∧ IsUint32 count ∧ IsUint32 stride ∧ (1 < count → multi = true) ∧
        offset % 4 = 0 ∧ (1 < count → stride % 4 = 0 ∧ (commandSize : Int) ≤ stride) ∧
        DrawsInside buffer.size offset count stride commandSize := by
  by_cases hnone : count = 0
  · subst hnone
    simp [coreIndirectDrawOk, except_bind_eq_ok, indirectBufferOk_eq_ok, outsideUint32_eq_false,
      drawsInside_of_none]
  · simp only [coreIndirectDrawOk, indirectBufferOk_eq_ok, accept_rules, Bool.not_eq_true,
      outsideUint32_eq_false, if_neg hnone, exists_const, indirectRangeOk_eq_ok hsize hoffset]
    refine and_congr_right fun _ => and_congr_right fun hcount => and_congr_right fun hstride => ?_
    have hpositive : 0 < count := lt_of_le_of_ne hcount.1 (Ne.symm hnone)
    have hmulti : ¬(count > 1 ∧ (!multi) = true) ↔ (1 < count → multi = true) := by
      cases multi <;> simp
    have hsteps : ¬(count > 1 ∧ (stride.toNat % 4 ≠ 0 ∨ stride.toNat < commandSize)) ↔
        (1 < count → stride % 4 = 0 ∧ (commandSize : Int) ≤ stride) := by
      have hnonneg := hstride.1
      omega
    rw [drawsInside_iff hpositive hstride.1, hmulti, hsteps, Decidable.not_not]

theorem coreIndirectCountDrawOk_eq_ok {enabled : Bool} {buffer countBuffer : IndirectBufferState}
    {offset countOffset commandSize : Nat} {count stride : Int} (hsize : buffer.size < 2 ^ 64)
    (hoffset : offset < 2 ^ 64) :
    coreIndirectCountDrawOk enabled buffer countBuffer offset countOffset count stride
        commandSize = .ok () ↔
      enabled = true ∧ buffer.Usable ∧ countBuffer.Usable ∧ offset % 4 = 0 ∧
        countOffset % 4 = 0 ∧ countOffset + 4 ≤ countBuffer.size ∧ IsUint32 count ∧
        IsUint32 stride ∧ stride % 4 = 0 ∧ (commandSize : Int) ≤ stride ∧
        DrawsInside buffer.size offset count stride commandSize := by
  have hslot : ¬(countOffset > countBuffer.size ∨ 4 > countBuffer.size - countOffset) ↔
      countOffset + 4 ≤ countBuffer.size := by
    omega
  have hrange : IsUint32 count → IsUint32 stride → ((if count = 0 then .ok ()
        else indirectRangeOk buffer.size offset (count.toNat - 1) stride.toNat commandSize
          "indirect-count draw range overflows" "indirect-count draw range exceeds the buffer") =
        Except.ok () ↔ DrawsInside buffer.size offset count stride commandSize) := by
    intro hcount hstride
    by_cases hnone : count = 0
    · subst hnone
      simp [drawsInside_of_none]
    · have hpositive : 0 < count := lt_of_le_of_ne hcount.1 (Ne.symm hnone)
      rw [if_neg hnone, drawsInside_iff hpositive hstride.1, indirectRangeOk_eq_ok hsize hoffset]
  simp only [coreIndirectCountDrawOk, indirectBufferOk_eq_ok, accept_rules,
    Bool.not_eq_true, outsideUint32_eq_false, exists_const, hslot, Bool.not_eq_eq_eq_not,
    Decidable.not_not, Bool.not_true, Bool.not_eq_false]
  constructor
  · rintro ⟨henabled, hbuffer, hcounter, haligned, hcounted, hinside, hcount, hstride, hsteps,
      hdraws⟩
    have hnonneg := hstride.1
    exact ⟨henabled, hbuffer, hcounter, haligned, hcounted, hinside, hcount, hstride, by omega,
      by omega, (hrange hcount hstride).mp hdraws⟩
  · rintro ⟨henabled, hbuffer, hcounter, haligned, hcounted, hinside, hcount, hstride, hmultiple,
      hlarge, hdraws⟩
    have hnonneg := hstride.1
    exact ⟨henabled, hbuffer, hcounter, haligned, hcounted, hinside, hcount, hstride, by omega,
      (hrange hcount hstride).mpr hdraws⟩

/-- Both validators decide as unbounded arithmetic does, for every offset and size of 64 bits. -/
theorem indirect_admission_exact (buffer countBuffer : IndirectBufferState)
    (size offset countOffset : UInt64) (count stride : Int) (commandSize : Nat)
    (enabled : Bool) :
    (coreIndirectDrawOk { buffer with size := size.toNat } offset.toNat count stride commandSize
        enabled = .ok () ↔
      buffer.Usable ∧ IsUint32 count ∧ IsUint32 stride ∧ (1 < count → enabled = true) ∧
        offset.toNat % 4 = 0 ∧ (1 < count → stride % 4 = 0 ∧ (commandSize : Int) ≤ stride) ∧
        DrawsInside size.toNat offset.toNat count stride commandSize) ∧
    (coreIndirectCountDrawOk enabled { buffer with size := size.toNat } countBuffer offset.toNat
        countOffset.toNat count stride commandSize = .ok () ↔
      enabled = true ∧ buffer.Usable ∧ countBuffer.Usable ∧ offset.toNat % 4 = 0 ∧
        countOffset.toNat % 4 = 0 ∧ countOffset.toNat + 4 ≤ countBuffer.size ∧ IsUint32 count ∧
        IsUint32 stride ∧ stride % 4 = 0 ∧ (commandSize : Int) ≤ stride ∧
        DrawsInside size.toNat offset.toNat count stride commandSize) :=
  ⟨coreIndirectDrawOk_eq_ok size.toNat_lt offset.toNat_lt,
    coreIndirectCountDrawOk_eq_ok size.toNat_lt offset.toNat_lt⟩

end VkRelay.Session
