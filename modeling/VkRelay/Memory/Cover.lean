import VkRelay.Memory.Dirty

/-!
Covers of byte intervals. Merging keeps exactly the covered bytes and leaves
intervals that neither overlap nor touch, but two of them may still meet the
same chunk; `found_strict_iff` says when that shows in the diff.
-/

namespace VkRelay.Memory

open VkRelay.Lib

def Range.Contains (r : Range) (b : Nat) : Prop :=
  r.offset ≤ b ∧ b < r.offset + r.size

instance (r : Range) (b : Nat) : Decidable (r.Contains b) :=
  inferInstanceAs (Decidable (_ ∧ _))

def Covers (cover : List Range) (b : Nat) : Prop :=
  ∃ r ∈ cover, r.Contains b

instance (cover : List Range) (b : Nat) : Decidable (Covers cover b) :=
  inferInstanceAs (Decidable (∃ r ∈ cover, r.Contains b))

/-- Non-empty intervals in ascending order with a gap after each of them, ending
at `stop` at the latest. -/
structure Separated (stop : Nat) (cover : List Range) : Prop where
  apart : cover.Pairwise fun x y => x.offset + x.size < y.offset
  bounded : ∀ r ∈ cover, 0 < r.size ∧ r.offset + r.size ≤ stop

/-- The byte right after a separated interval is not covered. -/
theorem Separated.not_covers_end {stop : Nat} {cover : List Range}
    (hcover : Separated stop cover) {x : Range} (hx : x ∈ cover) :
    ¬ Covers cover (x.offset + x.size) := by
  rintro ⟨z, hz, hlow, hhigh⟩
  rcases eq_or_rel_of_pairwise hcover.apart hx hz with rfl | hafter | hbefore
  · omega
  · omega
  · omega

section Merge

variable {stop : Nat}

/-- One merging step on a reversed cover: the invariant and the covered bytes. -/
private theorem mergeStep_spec {out : List Range} {r : Range}
    (hout : Separated stop out.reverse) (hpos : 0 < r.size) (hstop : r.offset + r.size ≤ stop)
    (hsorted : ∀ x ∈ out, x.offset ≤ r.offset) :
    Separated stop (mergeStep out r).reverse ∧
      (∀ b, Covers (mergeStep out r) b ↔ Covers out b ∨ r.Contains b) ∧
      (∀ x ∈ mergeStep out r, x.offset ≤ r.offset) := by
  cases out with
  | nil =>
    refine ⟨⟨by simp [mergeStep], by simpa [mergeStep] using ⟨hpos, hstop⟩⟩, ?_, ?_⟩
    · intro b
      simp [mergeStep, Covers]
    · simp [mergeStep]
  | cons back rest =>
    have hback := hout.bounded back (by simp)
    have hbefore := hsorted back (List.mem_cons_self ..)
    have hrest : ∀ x ∈ rest, x.offset + x.size < back.offset := by
      have happart := hout.apart
      rw [List.reverse_cons, List.pairwise_append] at happart
      exact fun x hx => happart.2.2 x (List.mem_reverse.mpr hx) back (List.mem_singleton_self _)
    have happart_rest : (rest.reverse).Pairwise fun x y => x.offset + x.size < y.offset := by
      have happart := hout.apart
      rw [List.reverse_cons, List.pairwise_append] at happart
      exact happart.1
    by_cases htouch : r.offset ≤ back.offset + back.size
    · rw [mergeStep, if_pos htouch]
      refine ⟨⟨?_, ?_⟩, ?_, ?_⟩
      · rw [List.reverse_cons, List.pairwise_append]
        refine ⟨happart_rest, List.pairwise_singleton _ _, ?_⟩
        intro x hx y hy
        rw [List.mem_singleton.mp hy]
        exact hrest x (List.mem_reverse.mp hx)
      · intro x hx
        rw [List.reverse_cons, List.mem_append, List.mem_singleton] at hx
        rcases hx with hx | rfl
        · exact hout.bounded x (by simp [List.mem_reverse.mp hx])
        · simp only
          omega
      · intro b
        simp only [Covers, List.exists_mem_cons_iff, Range.Contains]
        constructor
        · rintro (hb | hb)
          · by_cases hold : b < back.offset + back.size
            · exact .inl (.inl ⟨by omega, hold⟩)
            · exact .inr ⟨by omega, by omega⟩
          · exact .inl (.inr hb)
        · rintro ((hb | hb) | hb)
          · exact .inl ⟨by omega, by omega⟩
          · exact .inr hb
          · exact .inl ⟨by omega, by omega⟩
      · intro x hx
        rcases List.mem_cons.mp hx with rfl | hx
        · exact hbefore
        · exact hsorted x (List.mem_cons_of_mem _ hx)
    · rw [mergeStep, if_neg htouch]
      refine ⟨⟨?_, ?_⟩, ?_, ?_⟩
      · rw [List.reverse_cons, List.pairwise_append]
        refine ⟨hout.apart, List.pairwise_singleton _ _, ?_⟩
        intro x hx y hy
        rw [List.mem_singleton.mp hy]
        rcases List.mem_cons.mp (List.mem_reverse.mp hx) with rfl | hx
        · omega
        · have hx := hrest x hx
          omega
      · intro x hx
        rw [List.reverse_cons, List.mem_append, List.mem_singleton] at hx
        rcases hx with hx | rfl
        · exact hout.bounded x hx
        · exact ⟨hpos, hstop⟩
      · intro b
        simp only [Covers, List.exists_mem_cons_iff]
        exact or_comm
      · intro x hx
        rcases List.mem_cons.mp hx with rfl | hx
        · exact le_rfl
        · exact hsorted x hx

private theorem foldl_mergeStep_spec (input out : List Range)
    (hout : Separated stop out.reverse)
    (hinput : ∀ r ∈ input, 0 < r.size ∧ r.offset + r.size ≤ stop)
    (hascending : input.Pairwise fun x y => x.offset ≤ y.offset)
    (hsorted : ∀ x ∈ out, ∀ r ∈ input, x.offset ≤ r.offset) :
    Separated stop (input.foldl mergeStep out).reverse ∧
      ∀ b, Covers (input.foldl mergeStep out) b ↔ Covers out b ∨ Covers input b := by
  induction input generalizing out with
  | nil => exact ⟨hout, fun b => by simp [Covers]⟩
  | cons r rest ih =>
    obtain ⟨hhead, htail⟩ := List.pairwise_cons.mp hascending
    have hr := hinput r (List.mem_cons_self ..)
    obtain ⟨hstep, hcovers, hbefore⟩ := mergeStep_spec hout hr.1 hr.2
      fun x hx => hsorted x hx r (List.mem_cons_self ..)
    obtain ⟨hrest, hrest_covers⟩ := ih _ hstep
      (fun x hx => hinput x (List.mem_cons_of_mem _ hx)) htail
      (fun x hx y hy => (hbefore x hx).trans (hhead y hy))
    refine ⟨hrest, fun b => ?_⟩
    rw [List.foldl_cons, hrest_covers, hcovers, or_assoc]
    simp only [Covers, List.exists_mem_cons_iff]

/-- Merging separates the intervals and keeps the covered bytes. -/
theorem mergeCover_spec (input : List Range)
    (hinput : ∀ r ∈ input, 0 < r.size ∧ r.offset + r.size ≤ stop) :
    Separated stop (mergeCover input) ∧ ∀ b, Covers (mergeCover input) b ↔ Covers input b := by
  have hsort := List.perm_insertionSort (fun x y : Range => x.offset ≤ y.offset) input
  have htotal : Std.Total fun x y : Range => x.offset ≤ y.offset :=
    ⟨fun x y => Nat.le_total x.offset y.offset⟩
  have htrans : IsTrans Range fun x y => x.offset ≤ y.offset := ⟨fun _ _ _ => Nat.le_trans⟩
  have hascending := List.pairwise_insertionSort (fun x y : Range => x.offset ≤ y.offset) input
  obtain ⟨hseparated, hcovers⟩ := foldl_mergeStep_spec
    (input.insertionSort fun x y => x.offset ≤ y.offset) []
    ⟨by simp, by simp⟩ (fun r hr => hinput r (hsort.mem_iff.mp hr)) hascending (by simp)
  refine ⟨hseparated, fun b => ?_⟩
  have hsame : Covers (mergeCover input) b ↔
      Covers ((input.insertionSort fun x y => x.offset ≤ y.offset).foldl mergeStep []) b := by
    simp [mergeCover, Covers]
  rw [hsame, hcovers]
  simp [Covers, hsort.mem_iff]

end Merge

namespace Alloc

variable {a : Alloc} {cover : List Range}

theorem mem_chunksOf (iv : Range) (i : Nat) : i ∈ a.chunksOf iv ↔
      iv.offset / kChunkBytes ≤ i ∧ i * kChunkBytes < min (iv.offset + iv.size) a.size := by
  simp only [chunksOf, List.mem_range'_1, kChunkBytes]
  omega

/-- The walk over a separated cover visits exactly the chunks of covered bytes. -/
theorem mem_visited_iff (hcover : Separated a.size cover) (i : Nat) :
    i ∈ a.visited cover ↔ ∃ b, b / kChunkBytes = i ∧ Covers cover b := by
  simp only [visited, List.mem_flatMap, mem_chunksOf]
  constructor
  · rintro ⟨iv, hiv, hlow, hhigh⟩
    have hbounds := hcover.bounded iv hiv
    refine ⟨max iv.offset (i * kChunkBytes), ?_, iv, hiv, ?_⟩
    · rw [kChunkBytes] at hlow hhigh ⊢
      omega
    · simp only [Range.Contains]
      omega
  · rintro ⟨b, rfl, iv, hiv, hlow, hhigh⟩
    have hbounds := hcover.bounded iv hiv
    refine ⟨iv, hiv, Nat.div_le_div_right hlow, ?_⟩
    have hchunk := Nat.div_mul_le_self b kChunkBytes
    omega

/-- The walk over a separated cover never steps back. -/
theorem visited_ascending (hcover : Separated a.size cover) :
    (a.visited cover).Pairwise (· ≤ ·) := by
  rw [visited, List.pairwise_flatMap]
  refine ⟨fun iv _ => ?_, ?_⟩
  · exact (List.pairwise_lt_range' ..).imp Nat.le_of_lt
  · refine hcover.apart.imp fun {x y} hgap i hi j hj => ?_
    rw [mem_chunksOf] at hi hj
    rw [kChunkBytes] at hi hj
    omega

/-- The covered bytes of every dirty chunk have no hole. -/
def NoHoles (a : Alloc) (cover : List Range) : Prop :=
  ∀ first gap last, first < gap → gap < last →
    first / kChunkBytes = last / kChunkBytes → a.chunkDirty (last / kChunkBytes) = true →
    Covers cover first → Covers cover last → Covers cover gap

/-- No dirty chunk is found twice exactly when the covered bytes of each dirty
chunk have no hole. -/
theorem found_strict_iff (hcover : Separated a.size cover) :
    (a.found cover).Pairwise (· < ·) ↔ a.NoHoles cover := by
  have hwithin : ∀ iv ∈ cover, ((a.chunksOf iv).filter a.chunkDirty).Pairwise (· < ·) :=
    fun iv _ => (List.pairwise_lt_range' ..).filter _
  rw [found, visited, List.filter_flatMap, List.pairwise_flatMap, and_iff_right hwithin]
  constructor
  · rintro hstrict first gap last hgap hlast hchunk hdirty ⟨x, hx, hfirst⟩ ⟨y, hy, hcovered⟩
    have hbounds_x := hcover.bounded x hx
    have hbounds_y := hcover.bounded y hy
    rw [Range.Contains] at hfirst hcovered
    have hmem_x : last / kChunkBytes ∈ (a.chunksOf x).filter a.chunkDirty := by
      rw [List.mem_filter, mem_chunksOf, ← hchunk]
      have hle := Nat.div_mul_le_self first kChunkBytes
      exact ⟨⟨Nat.div_le_div_right hfirst.1, by omega⟩, hchunk ▸ hdirty⟩
    have hmem_y : last / kChunkBytes ∈ (a.chunksOf y).filter a.chunkDirty := by
      rw [List.mem_filter, mem_chunksOf]
      have hle := Nat.div_mul_le_self last kChunkBytes
      exact ⟨⟨Nat.div_le_div_right hcovered.1, by omega⟩, hdirty⟩
    rcases eq_or_rel_of_pairwise (hcover.apart.and hstrict) hx hy with
      rfl | ⟨-, hbefore⟩ | ⟨happart, -⟩
    · exact ⟨x, hx, by omega, by omega⟩
    · exact absurd (hbefore _ hmem_x _ hmem_y) (lt_irrefl _)
    · omega
  · intro hholes
    rw [List.pairwise_iff_forall_sublist]
    intro x y hpair i hi j hj
    have hx : x ∈ cover := hpair.subset (by simp)
    have hy : y ∈ cover := hpair.subset (by simp)
    have hgap := List.pairwise_iff_forall_sublist.mp hcover.apart hpair
    have hbounds_x := hcover.bounded x hx
    have hbounds_y := hcover.bounded y hy
    rw [List.mem_filter, mem_chunksOf] at hi hj
    by_contra hnot
    -- Both intervals meet the same dirty chunk, so the byte after the first is a hole.
    have hsame : j = i ∧ y.offset / kChunkBytes = j ∧
        (x.offset + x.size - 1) / kChunkBytes = j := by
      rw [kChunkBytes] at hi hj ⊢
      omega
    have hcovered := hholes (x.offset + x.size - 1) (x.offset + x.size) y.offset (by omega) hgap
      (hsame.2.2.trans hsame.2.1.symm) (hsame.2.1 ▸ hj.2)
      ⟨x, hx, by omega, by omega⟩ ⟨y, hy, by omega, by omega⟩
    exact hcover.not_covers_end hx hcovered

theorem mem_found_iff (hcover : Separated a.size cover) (i : Nat) : i ∈ a.found cover ↔
      a.chunkDirty i = true ∧ ∃ b, b / kChunkBytes = i ∧ Covers cover b := by
  rw [found, List.mem_filter, mem_visited_iff hcover, and_comm]

/-- The ranges a walk emits are non-empty and lie inside the allocation. -/
theorem collectDirty_bounds (hcover : Separated a.size cover) {r : Range}
    (hr : r ∈ (a.collectDirty cover).ranges) :
    0 < r.size ∧ r.offset + r.size ≤ a.shadow.length := by
  rw [a.collectDirty_ranges cover (visited_ascending hcover)] at hr
  obtain ⟨run, hrun, rfl⟩ := List.mem_map.mp hr
  have hfound := exists_run_of_mem hrun run.lo_le_hi le_rfl
  have hstart := a.chunkDirty_within (List.mem_filter.mp hfound).2
  have hle := Nat.mul_le_mul_right kChunkBytes run.lo_le_hi
  have hpos : 0 < kChunkBytes := by decide
  simp only [runRange, chunkEnd]
  omega

/-- The emitted ranges contain exactly the bytes of the dirty chunks found. -/
theorem collectDirty_covers (hcover : Separated a.size cover) (b : Nat) :
    Covers (a.collectDirty cover).ranges b ↔ b < a.size ∧ b / kChunkBytes ∈ a.found cover := by
  rw [a.collectDirty_ranges cover (visited_ascending hcover)]
  constructor
  · rintro ⟨r, hr, hlow, hhigh⟩
    obtain ⟨run, hrun, rfl⟩ := List.mem_map.mp hr
    simp only [runRange, chunkEnd, kChunkBytes] at hlow hhigh
    refine ⟨by omega, exists_run_of_mem hrun ?_ ?_⟩ <;> rw [kChunkBytes] <;> omega
  · rintro ⟨hb, hfound⟩
    rw [← runsOf_values (a.found cover), List.mem_flatMap] at hfound
    obtain ⟨run, hrun, hvalue⟩ := hfound
    rw [Run.mem_values] at hvalue
    refine ⟨a.runRange run, List.mem_map_of_mem hrun, ?_, ?_⟩
    · simp only [runRange]
      rw [kChunkBytes] at hvalue ⊢
      omega
    · simp only [runRange, chunkEnd]
      rw [kChunkBytes] at hvalue ⊢
      omega

/-- The emitted ranges are ascending and disjoint exactly when the covered bytes
of each dirty chunk have no hole. -/
theorem collectDirty_disjoint_iff (hcover : Separated a.size cover) :
    (a.collectDirty cover).ranges.Pairwise (fun x y => x.offset + x.size ≤ y.offset) ↔
      a.NoHoles cover := by
  rw [← found_strict_iff hcover, ← runsOf_pairwise_iff,
    a.collectDirty_ranges cover (visited_ascending hcover), List.pairwise_map]
  have hstart : ∀ run ∈ runsOf (a.found cover), run.hi * kChunkBytes < a.size := by
    intro run hrun
    have hfound := exists_run_of_mem hrun run.lo_le_hi le_rfl
    exact (a.chunkDirty_within (List.mem_filter.mp hfound).2).2
  refine List.Pairwise.iff_of_mem fun {x y} hx hy => ?_
  have hstart_x := hstart x hx
  have hstart_y := hstart y hy
  have hle_x := x.lo_le_hi
  have hle_y := y.lo_le_hi
  simp only [runRange, chunkEnd]
  rw [kChunkBytes] at hstart_x hstart_y ⊢
  omega

end Alloc

/-- The byte writes a walk over allocation `memory` stands for. -/
def DirtyWalk.writes (memory : Nat) (w : DirtyWalk) : List ((Nat × Nat) × UInt8) :=
  (w.ranges.flatMap fun r => cellsAt memory r.offset r.size).zip w.payload

namespace Alloc

variable {a : Alloc} {cover : List Range}

theorem collectDirty_writes (hcover : Separated a.size cover) (memory : Nat) :
    (a.collectDirty cover).writes memory = (a.collectDirty cover).ranges.flatMap fun r =>
        (cellsAt memory r.offset r.size).zip (slice a.shadow r.offset r.size) := by
  rw [DirtyWalk.writes, collectDirty_payload, shadowBytes]
  refine zip_flatMap _ _ _ fun r hr => ?_
  rw [length_cellsAt, length_slice _ _ _ (collectDirty_bounds hcover hr).2]

theorem collectDirty_payload_length (hcover : Separated a.size cover) :
    (a.collectDirty cover).payload.length = ((a.collectDirty cover).ranges.map Range.size).sum := by
  rw [collectDirty_payload, shadowBytes, List.length_flatMap]
  congr 1
  refine List.map_congr_left fun r hr => ?_
  rw [length_slice _ _ _ (collectDirty_bounds hcover hr).2]

/-- Every write of a walk carries the shadow's byte of its cell. -/
theorem collectDirty_writes_value (hcover : Separated a.size cover) {memory : Nat}
    {write : (Nat × Nat) × UInt8}
    (hwrite : write ∈ (a.collectDirty cover).writes memory) :
    write.1.1 = memory ∧ a.shadow[write.1.2]? = some write.2 := by
  rw [collectDirty_writes hcover, List.mem_flatMap] at hwrite
  obtain ⟨r, hr, hwrite⟩ := hwrite
  have hbounds := collectDirty_bounds hcover hr
  have hlt := a.shadow_length_lt
  obtain ⟨i, hi, hget⟩ := List.mem_iff_getElem.mp hwrite
  rw [List.length_zip, length_cellsAt, length_slice _ _ _ (by omega), min_self] at hi
  have hbyte := slice_getElem? a.shadow r.offset r.size i
  rw [if_pos hi] at hbyte
  rw [← hget]
  simp only [List.getElem_zip, cellsAt, List.getElem_map, List.getElem_range, true_and]
  rw [Nat.mod_eq_of_lt (by omega), ← hbyte, List.getElem?_eq_getElem]

end Alloc

end VkRelay.Memory
