import VkRelay.Lib.Scatter

/-!
Rasters in flat buffers. A buffer holds rows of one pitch, one after the other; copying a
rectangle into it is one copy for each row. What the buffer holds afterwards is read by row and
column: inside the rectangle the rows that were copied, elsewhere what was there.
-/

namespace VkRelay.Lib

variable {β : Type*}

def blitRows (pitch left top : Nat) (rows : Nat → List β) (count : Nat) (buf : List β) : List β :=
  (List.range count).foldl (fun buf row => blit buf ((top + row) * pitch + left) (rows row)) buf

variable (pitch left top : Nat) (rows : Nat → List β)

variable (count : Nat) (buf : List β)

@[simp] theorem blitRows_zero : blitRows pitch left top rows 0 buf = buf := rfl

theorem blitRows_succ : blitRows pitch left top rows (count + 1) buf =
      blit (blitRows pitch left top rows count buf) ((top + count) * pitch + left)
        (rows count) := by
  rw [blitRows, List.range_succ, List.foldl_append]
  rfl

@[simp] theorem length_blitRows : (blitRows pitch left top rows count buf).length = buf.length := by
  induction count with
  | zero => rfl
  | succ count ih => rw [blitRows_succ, length_blit, ih]

/-- A position lies in a row that is copied exactly when its row and its column do. -/
theorem row_block_iff {pitch left width y x row : Nat} (hx : x < pitch)
    (hwidth : left + width ≤ pitch) :
    (row * pitch + left ≤ y * pitch + x ∧ y * pitch + x < row * pitch + left + width) ↔
      row = y ∧ left ≤ x ∧ x < left + width := by
  constructor
  · rintro ⟨hlow, hhigh⟩
    have hle : row ≤ y := by
      by_contra hlt
      have hnext : (y + 1) * pitch ≤ row * pitch := Nat.mul_le_mul_right _ (by omega)
      rw [Nat.succ_mul] at hnext
      omega
    have hge : y ≤ row := by
      by_contra hlt
      have hnext : (row + 1) * pitch ≤ y * pitch := Nat.mul_le_mul_right _ (by omega)
      rw [Nat.succ_mul] at hnext
      omega
    obtain rfl : row = y := Nat.le_antisymm hle hge
    exact ⟨rfl, by omega, by omega⟩
  · rintro ⟨rfl, hlow, hhigh⟩
    omega

theorem blitRows_getElem? {pitch left width count : Nat} (top : Nat) {rows : Nat → List β}
    {buf : List β} (hwidth : left + width ≤ pitch)
    (hrows : ∀ row < count, (rows row).length = width) {y x : Nat} (hx : x < pitch)
    (hfits : y * pitch + x < buf.length) :
    (blitRows pitch left top rows count buf)[y * pitch + x]? =
      if top ≤ y ∧ y < top + count ∧ left ≤ x ∧ x < left + width
      then (rows (y - top))[x - left]? else buf[y * pitch + x]? := by
  induction count with
  | zero =>
    rw [blitRows_zero, if_neg]
    omega
  | succ count ih =>
    have hbefore := ih fun row hrow => hrows row (by omega)
    have hlast := hrows count (by omega)
    have hblock := @row_block_iff pitch left width y x (top + count) hx hwidth
    rw [blitRows_succ]
    by_cases hinside : top + count = y ∧ left ≤ x ∧ x < left + width
    · obtain ⟨hlow, hhigh⟩ := hblock.mpr hinside
      obtain ⟨rfl, hleft, hright⟩ := hinside
      rw [blit_getElem?_inside _ _ _ _ hlow (by rwa [hlast]) (by rwa [length_blitRows]),
        if_pos ⟨by omega, by omega, hleft, hright⟩]
      rw [Nat.add_sub_cancel_left, Nat.add_sub_add_left]
    · rw [blit_getElem?_outside, hbefore]
      · congr 1
        rw [eq_iff_iff]
        constructor
        · rintro ⟨htop, hcount, hcolumn⟩
          exact ⟨htop, by omega, hcolumn⟩
        · rintro ⟨htop, hcount, hcolumn⟩
          refine ⟨htop, ?_, hcolumn⟩
          by_contra hend
          exact hinside ⟨by omega, hcolumn⟩
      · rw [hlast]
        by_contra hin
        exact hinside (hblock.mp (by omega))

end VkRelay.Lib
