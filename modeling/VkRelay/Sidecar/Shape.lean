import VkRelay.Lib.Raster

/-!
The shape mask of a captured frame. A window's bounding region comes as a list of
rectangles in window coordinates; every pixel outside of it is painted opaque black.
The rectangles are clipped to the frame and marked in a scratch buffer, and the total
area marked may not exceed the frame's.

A frame is no larger than the address space. A null frame has no bytes, so it fails the
test of the length; clipping is done in 64 bits, where 32-bit operands do not overflow.
-/

namespace VkRelay.Sidecar

open VkRelay.Lib

structure ChromeShapeRect where
  x : Int := 0
  y : Int := 0
  width : Nat := 0
  height : Nat := 0
deriving DecidableEq

structure ChromeFrame where
  bgra : List UInt8
  addressable : bgra.length < 2 ^ 64

namespace ChromeShapeRect

def Contains (r : ChromeShapeRect) (x y : Int) : Prop :=
  r.x ≤ x ∧ x < r.x + r.width ∧ r.y ≤ y ∧ y < r.y + r.height

instance (r : ChromeShapeRect) (x y : Int) : Decidable (r.Contains x y) :=
  inferInstanceAs (Decidable (_ ∧ _ ∧ _ ∧ _))

/-- The part of one axis that lies on the frame. -/
def clip (origin : Int) (size limit : Nat) : Int × Int :=
  (max 0 origin, min limit (origin + size))

end ChromeShapeRect

/-- The loop over the rectangles; `none` where the area budget is exceeded. -/
def coverRects (w h : Nat) : List ChromeShapeRect → Nat → List UInt8 → Option (List UInt8)
  | [], _, covered => some covered
  | r :: rectangles, coveredArea, covered =>
    let (x0, x1) := ChromeShapeRect.clip r.x r.width w
    let (y0, y1) := ChromeShapeRect.clip r.y r.height h
    if x1 ≤ x0 ∨ y1 ≤ y0 then coverRects w h rectangles coveredArea covered
    else
      let area := (x1 - x0).toNat * (y1 - y0).toNat
      if area > w * h - coveredArea then none
      else coverRects w h rectangles (coveredArea + area)
        (blitRows w x0.toNat y0.toNat (fun _ => List.replicate (x1 - x0).toNat 1)
          (y1 - y0).toNat covered)

def opaqueBlack : List UInt8 := [0, 0, 0, 255]

/-- The loop over the first `count` pixels that paints those not covered. -/
def maskPixels (covered : List UInt8) : Nat → List UInt8 → List UInt8
  | 0, bgra => bgra
  | count + 1, bgra =>
    let before := maskPixels covered count bgra
    if covered[count]? = some 0 then blit before (count * 4) opaqueBlack else before

/-- The verdict and the frame afterwards; `allocated` is what becomes of the scratch buffer. -/
def chromeMaskOutsideShape (allocated : Bool) (frame : ChromeFrame) (w h : Nat)
    (rectangles : List ChromeShapeRect) : Bool × List UInt8 :=
  let bgra := frame.bgra
  if w = 0 ∨ h = 0 ∨ w > (2 ^ 64 - 1) / h then (false, bgra)
  else if w * h > (2 ^ 64 - 1) / 4 ∨ bgra.length ≠ w * h * 4 then (false, bgra)
  else if rectangles = [{ width := w, height := h }] then (true, bgra)
  else if !allocated then (false, bgra)
  else match coverRects w h rectangles 0 (List.replicate (w * h) 0) with
    | none => (false, bgra)
    | some covered => (true, maskPixels covered (w * h) bgra)

variable {w h : Nat}

theorem clip_iff {origin : Int} {size limit x : Nat} (hx : x < limit) :
    (ChromeShapeRect.clip origin size limit).1 ≤ x ∧
        (x : Int) < (ChromeShapeRect.clip origin size limit).2 ↔
      origin ≤ x ∧ (x : Int) < origin + size := by
  simp only [ChromeShapeRect.clip]
  omega

variable {rectangles : List ChromeShapeRect} (covered : List UInt8)

variable {coveredArea : Nat} (count : Nat)

/-- The scratch buffer marks the pixels it marked before and those of the rectangles. -/
theorem coverRects_spec {covered last : List UInt8} (hlength : covered.length = w * h)
    (hcover : coverRects w h rectangles coveredArea covered = some last) {x y : Nat} (hx : x < w)
    (hy : y < h) : last[y * w + x]? =
      if ∃ r ∈ rectangles, r.Contains x y then some 1 else covered[y * w + x]? := by
  induction rectangles generalizing coveredArea covered with
  | nil =>
    cases hcover
    simp
  | cons r rectangles ih =>
    have hcolumn := @clip_iff r.x r.width w x hx
    have hrow := @clip_iff r.y r.height h y hy
    have hleft : 0 ≤ (ChromeShapeRect.clip r.x r.width w).1 := le_max_left _ _
    have htop : 0 ≤ (ChromeShapeRect.clip r.y r.height h).1 := le_max_left _ _
    simp only [coverRects] at hcover
    set cx := ChromeShapeRect.clip r.x r.width w
    set cy := ChromeShapeRect.clip r.y r.height h
    split at hcover
    · next hempty =>
      have hout : ¬ r.Contains x y := by
        simp only [ChromeShapeRect.Contains]
        omega
      simpa [hout] using ih hlength hcover
    split at hcover
    · cases hcover
    next hnonempty _ =>
    have hfits : y * w + x < covered.length := by
      have hrows : (y + 1) * w ≤ h * w := Nat.mul_le_mul_right w hy
      rw [hlength, Nat.mul_comm w h]
      rw [Nat.succ_mul] at hrows
      omega
    have hwidth : cx.1.toNat + (cx.2 - cx.1).toNat ≤ w := by
      simp only [cx, ChromeShapeRect.clip] at hnonempty ⊢
      omega
    rw [ih (by rw [length_blitRows, hlength]) hcover,
      blitRows_getElem? _ hwidth (fun _ _ => List.length_replicate) hx hfits]
    by_cases hin : r.Contains x y
    · have hinside := hcolumn.mpr ⟨hin.1, hin.2.1⟩
      have hinside' := hrow.mpr ⟨hin.2.2.1, hin.2.2.2⟩
      rw [if_pos (by omega : cy.1.toNat ≤ y ∧ _ ∧ cx.1.toNat ≤ x ∧ _),
        List.getElem?_replicate_of_lt (by omega), ite_self, if_pos ⟨r, by simp, hin⟩]
    · have hout : ¬ (cy.1.toNat ≤ y ∧ y < cy.1.toNat + (cy.2 - cy.1).toNat ∧ cx.1.toNat ≤ x ∧
          x < cx.1.toNat + (cx.2 - cx.1).toNat) := by
        intro hbox
        have hcolumn' := hcolumn.mp (by omega)
        have hrow' := hrow.mp (by omega)
        exact hin ⟨hcolumn'.1, hcolumn'.2, hrow'⟩
      rw [if_neg hout]
      simp [hin]

theorem length_maskPixels (bgra : List UInt8) :
    (maskPixels covered count bgra).length = bgra.length := by
  induction count with
  | zero => rfl
  | succ count ih =>
    rw [maskPixels]
    split_ifs <;> simp [ih]

theorem maskPixels_getElem? {bgra : List UInt8} {i c : Nat} (hc : c < 4)
    (hfits : i * 4 + c < bgra.length) :
    (maskPixels covered count bgra)[i * 4 + c]? =
      if i < count ∧ covered[i]? = some 0 then opaqueBlack[c]? else bgra[i * 4 + c]? := by
  induction count with
  | zero => simp [maskPixels]
  | succ count ih =>
    rw [maskPixels]
    by_cases hsame : i = count
    · subst hsame
      split
      · next hzero =>
        rw [blit_getElem?_inside _ _ _ _ (by omega) (by simp [opaqueBlack]; omega)
          (by rwa [length_maskPixels]), if_pos ⟨by omega, hzero⟩]
        congr 1
        omega
      · next hset => simpa [hset] using ih
    · have hiff : i < count + 1 ↔ i < count := by omega
      simp only [hiff]
      rw [← ih]
      split
      · exact blit_getElem?_outside _ _ _ _ (by simp [opaqueBlack]; omega)
      · rfl

/-! ## The area budget -/

def ChromeShapeRect.cells (w h : Nat) (r : ChromeShapeRect) : Finset (Nat × Nat) :=
  (Finset.range w ×ˢ Finset.range h).filter fun p => r.Contains p.1 p.2

theorem card_cells (r : ChromeShapeRect) : (r.cells w h).card =
      ((ChromeShapeRect.clip r.x r.width w).2 - (ChromeShapeRect.clip r.x r.width w).1).toNat *
        ((ChromeShapeRect.clip r.y r.height h).2 -
          (ChromeShapeRect.clip r.y r.height h).1).toNat := by
  have hbox : r.cells w h = Finset.Ico (max 0 r.x).toNat (min (w : Int) (r.x + r.width)).toNat ×ˢ
        Finset.Ico (max 0 r.y).toNat (min (h : Int) (r.y + r.height)).toNat := by
    ext ⟨x, y⟩
    rw [ChromeShapeRect.cells, Finset.mem_filter]
    simp only [Finset.mem_product, Finset.mem_range, Finset.mem_Ico, ChromeShapeRect.Contains]
    omega
  rw [hbox, Finset.card_product, Nat.card_Ico, Nat.card_Ico]
  simp only [ChromeShapeRect.clip]
  congr 1 <;> omega

theorem exists_coverRects (covered : List UInt8)
    (hbudget : coveredArea + (rectangles.map fun r => (r.cells w h).card).sum ≤ w * h) :
    ∃ last, coverRects w h rectangles coveredArea covered = some last := by
  induction rectangles generalizing coveredArea covered with
  | nil => exact ⟨covered, rfl⟩
  | cons r rectangles ih =>
    rw [List.map_cons, List.sum_cons, card_cells] at hbudget
    simp only [coverRects]
    split
    · exact ih _ (by omega)
    · rw [if_neg (by omega)]
      exact ih _ (by omega)

/-- The pixels of disjoint rectangles are no more than the frame has. -/
theorem sum_card_cells_le
    (hdisjoint : rectangles.Pairwise fun a b => ∀ x y, ¬ (a.Contains x y ∧ b.Contains x y)) :
    (rectangles.map fun r => (r.cells w h).card).sum ≤ w * h := by
  suffices hunion : ∃ cells ⊆ Finset.range w ×ˢ Finset.range h,
      cells.card = (rectangles.map fun r => (r.cells w h).card).sum ∧
        ∀ p ∈ cells, ∃ r ∈ rectangles, r.Contains p.1 p.2 by
    obtain ⟨cells, hframe, hcard, -⟩ := hunion
    have hle := Finset.card_le_card hframe
    rwa [hcard, Finset.card_product, Finset.card_range, Finset.card_range] at hle
  induction rectangles with
  | nil => exact ⟨∅, by simp, rfl, by simp⟩
  | cons r rectangles ih =>
    obtain ⟨hhead, hrest⟩ := List.pairwise_cons.mp hdisjoint
    obtain ⟨cells, hframe, hcard, hcells⟩ := ih hrest
    refine ⟨r.cells w h ∪ cells, Finset.union_subset (Finset.filter_subset _ _) hframe, ?_, ?_⟩
    · rw [List.map_cons, List.sum_cons, ← hcard, Finset.card_union_of_disjoint]
      refine Finset.disjoint_left.mpr fun p hp hother => ?_
      obtain ⟨other, hmem, hin⟩ := hcells p hother
      exact hhead other hmem p.1 p.2 ⟨(Finset.mem_filter.mp hp).2, hin⟩
    · intro p hp
      rcases Finset.mem_union.mp hp with hp | hp
      · exact ⟨r, by simp, (Finset.mem_filter.mp hp).2⟩
      · obtain ⟨other, hmem, hin⟩ := hcells p hp
        exact ⟨other, by simp [hmem], hin⟩

/-! ## The mask -/

/-- The frame after the mask: inside the union of the rectangles nothing changes, and every
other pixel is opaque black. -/
def Masked (w h : Nat) (rectangles : List ChromeShapeRect) (bgra masked : List UInt8) : Prop :=
  masked.length = bgra.length ∧ ∀ x < w, ∀ y < h, ∀ c < 4,
    masked[(y * w + x) * 4 + c]? =
      if ∃ r ∈ rectangles, r.Contains x y then bgra[(y * w + x) * 4 + c]? else opaqueBlack[c]?

theorem masked_of_coverRects {bgra covered : List UInt8} (hlength : bgra.length = w * h * 4)
    (hcover : coverRects w h rectangles 0 (List.replicate (w * h) 0) = some covered) :
    Masked w h rectangles bgra (maskPixels covered (w * h) bgra) := by
  refine ⟨length_maskPixels _ _ _, fun x hx y hy c hc => ?_⟩
  have hpixel : y * w + x < w * h := by
    have hrows : (y + 1) * w ≤ h * w := Nat.mul_le_mul_right w hy
    rw [Nat.succ_mul, Nat.mul_comm h w] at hrows
    omega
  rw [maskPixels_getElem? covered _ hc (by omega),
    coverRects_spec List.length_replicate hcover hx hy, List.getElem?_replicate_of_lt hpixel]
  split_ifs <;> simp_all

/-- The mask is exact: a frame it accepts is masked, one it refuses is unchanged, and it
accepts every frame of positive size with the right number of bytes when the rectangles are
disjoint and the scratch buffer is there. -/
theorem mask_exact (allocated : Bool) (frame : ChromeFrame) (w h : Nat)
    (rectangles : List ChromeShapeRect) :
    ((chromeMaskOutsideShape allocated frame w h rectangles).1 = true →
        Masked w h rectangles frame.bgra
          (chromeMaskOutsideShape allocated frame w h rectangles).2) ∧
      ((chromeMaskOutsideShape allocated frame w h rectangles).1 = false →
        (chromeMaskOutsideShape allocated frame w h rectangles).2 = frame.bgra) ∧
      (allocated = true → 0 < w → 0 < h → frame.bgra.length = w * h * 4 →
        (rectangles.Pairwise fun a b => ∀ x y, ¬ (a.Contains x y ∧ b.Contains x y)) →
        (chromeMaskOutsideShape allocated frame w h rectangles).1 = true) := by
  have haddress := frame.addressable
  dsimp only [chromeMaskOutsideShape]
  split_ifs with hshape hsize hwhole
  · refine ⟨nofun, fun _ => rfl, fun _ hw hh hlength => ?_⟩
    have hrow : w ≤ (2 ^ 64 - 1) / h := (Nat.le_div_iff_mul_le hh).mpr (by omega)
    omega
  · exact ⟨nofun, fun _ => rfl, fun _ _ _ hlength => by omega⟩
  · refine ⟨fun _ => ⟨rfl, fun x hx y hy c hc => ?_⟩, nofun, fun _ _ _ _ _ => rfl⟩
    have hin : ({ width := w, height := h } : ChromeShapeRect).Contains x y := by
      simp only [ChromeShapeRect.Contains]
      omega
    rw [if_pos ⟨_, by rw [hwhole]; simp, hin⟩]
  · next hscratch =>
    refine ⟨nofun, fun _ => rfl, fun hallocated => ?_⟩
    rw [hallocated] at hscratch
    cases hscratch
  · split
    · next hnone =>
      refine ⟨nofun, fun _ => rfl, fun _ _ _ _ hdisjoint => ?_⟩
      have hbudget : 0 + (rectangles.map fun r => (r.cells w h).card).sum ≤ w * h := by
        rw [Nat.zero_add]
        exact sum_card_cells_le hdisjoint
      obtain ⟨last, hlast⟩ := exists_coverRects (List.replicate (w * h) 0) hbudget
      rw [hlast] at hnone
      cases hnone
    · next covered hcover =>
      exact ⟨fun _ => masked_of_coverRects (by omega) hcover, nofun, fun _ _ _ _ _ => rfl⟩

/-- Two pixels, one of them inside the shape. -/
theorem mask_exact_two_pixels :
    (chromeMaskOutsideShape true ⟨[1, 2, 3, 4, 5, 6, 7, 8], by decide⟩ 2 1
      [{ x := -1, width := 2, height := 1 }]).1 = true := by
  refine (mask_exact true ⟨[1, 2, 3, 4, 5, 6, 7, 8], by decide⟩ 2 1 _).2.2 rfl ?_ ?_ rfl ?_
  · decide
  · decide
  · simp

/-- An empty frame is refused, although its length matches and no rectangle is there. -/
theorem empty_frame_refused :
    chromeMaskOutsideShape true ⟨[], by decide⟩ 0 0 [] = (false, []) := rfl

end VkRelay.Sidecar
