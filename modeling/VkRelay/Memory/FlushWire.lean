import VkRelay.Wire.WriteMemoryRanges

/-!
An explicit flush on the wire. The frames of an accepted flush are accepted by
the decoder as long as the flushed bytes of every dirty chunk form one run. Two
flush ranges that meet one dirty chunk with a hole between them make the walk
emit that chunk twice, and the decoder rejects the frame that carries both.
-/

namespace VkRelay.Memory

open VkRelay.Lib VkRelay.Worker

/-- Cells of one allocation come in ascending order. -/
def CellsOrdered (cells : List (Nat × Nat)) : Prop :=
  cells.Pairwise fun x y => x.1 = y.1 → x.2 < y.2

theorem cellsOrdered_cellsAt {memory off n : Nat} (hbound : off + n ≤ 2 ^ 64) :
    CellsOrdered (cellsAt memory off n) := by
  refine List.pairwise_map.mpr (List.pairwise_lt_range.imp_of_mem fun {i j} hi hj hij _ => ?_)
  rw [List.mem_range] at hi hj
  dsimp only
  omega

namespace DirtySnapshot

/-- The ranges of every upload are ascending and disjoint. -/
def Ordered (snap : DirtySnapshot) : Prop := ∀ up ∈ snap.uploads, Ascending up.ranges

variable {snap : DirtySnapshot}

theorem flatRanges_ordered_iff (hnodup : (snap.uploads.map Upload.memory).Nodup) :
    (snap.flatRanges.Pairwise fun x y => x.1 = y.1 → x.2.offset + x.2.size ≤ y.2.offset) ↔
      snap.Ordered := by
  have hdistinct : snap.uploads.Pairwise fun up other => up.memory ≠ other.memory :=
    List.pairwise_map.mp hnodup
  rw [flatRanges, List.pairwise_flatMap, Ordered]
  constructor
  · rintro ⟨hinner, -⟩ up hup
    exact (List.pairwise_map.mp (hinner up hup)).imp fun hxy => hxy rfl
  · intro hordered
    refine ⟨fun up hup => List.pairwise_map.mpr ?_, ?_⟩
    · refine List.Pairwise.imp ?_ (hordered up hup)
      intro x y hxy _
      exact hxy
    refine hdistinct.imp fun {up other} hne x hx y hy hsame => ?_
    obtain ⟨r, -, rfl⟩ := List.mem_map.mp hx
    obtain ⟨r', -, rfl⟩ := List.mem_map.mp hy
    exact absurd hsame hne

/-- The order of the ranges is the order of the cells. -/
theorem cellsOrdered_iff (hnodup : (snap.uploads.map Upload.memory).Nodup)
    (hranges : ∀ x ∈ snap.flatRanges, 0 < x.2.size ∧ x.2.offset + x.2.size ≤ 2 ^ 64) :
    CellsOrdered snap.cells ↔ snap.Ordered := by
  have hinner : ∀ x ∈ snap.flatRanges, (cellsAt x.1 x.2.offset x.2.size).Pairwise
      fun x y => x.1 = y.1 → x.2 < y.2 := fun x hx => cellsOrdered_cellsAt (hranges x hx).2
  rw [CellsOrdered, cells, List.pairwise_flatMap, and_iff_right hinner,
    ← flatRanges_ordered_iff hnodup]
  refine List.Pairwise.iff_of_mem fun {x y} hx hy => ?_
  obtain ⟨hx_pos, hx_bound⟩ := hranges x hx
  obtain ⟨hy_pos, hy_bound⟩ := hranges y hy
  constructor
  · intro hcells hsame
    -- The last cell of the first range lies before the first cell of the second.
    have hlast : (x.1, x.2.offset + x.2.size - 1) ∈ cellsAt x.1 x.2.offset x.2.size :=
      (mem_cellsAt_iff hx_bound _).mpr ⟨rfl, by dsimp only; omega, by dsimp only; omega⟩
    have hfirst : (y.1, y.2.offset) ∈ cellsAt y.1 y.2.offset y.2.size :=
      (mem_cellsAt_iff hy_bound _).mpr ⟨rfl, by dsimp only; omega, by dsimp only; omega⟩
    have hlt := hcells _ hlast _ hfirst hsame
    dsimp only at hlt
    omega
  · intro hends cell hcell other hother hsame
    obtain ⟨hcell_memory, -, hcell_lt⟩ := (mem_cellsAt_iff hx_bound _).mp hcell
    obtain ⟨hother_memory, hother_ge, -⟩ := (mem_cellsAt_iff hy_bound _).mp hother
    have hbehind := hends (by rw [← hcell_memory, ← hother_memory, hsame])
    omega

end DirtySnapshot

theorem uploadBytes_eq_rangeBytes (snap : DirtySnapshot) :
    uploadBytes snap.uploads = snap.rangeBytes := by
  simp [uploadBytes, sizeSum, DirtySnapshot.rangeBytes, DirtySnapshot.flatRanges,
    List.flatMap_def, List.map_flatten, List.sum_flatten, Function.comp_def]

namespace MappedMemoryTracker

variable {t : MappedMemoryTracker} {ranges : List MemRange} {snap : DirtySnapshot}

/-- The flush asks of no dirty chunk two stretches with a hole between them. -/
def FlushesWholeRuns (t : MappedMemoryTracker) (ranges : List MemRange) : Prop :=
  ∀ (memory : Nat) (a : Alloc), t.allocs[memory]? = some a →
    a.NoHoles (t.flushIntervals ranges memory)

theorem noHoles_congr {a : Alloc} {cover other : List Range}
    (hsame : ∀ b, Covers cover b ↔ Covers other b) : a.NoHoles cover ↔ a.NoHoles other := by
  simp only [Alloc.NoHoles, hsame]

/-- The snapshot of a flush is ordered exactly when the flush has no holes. -/
theorem snapshotExplicit_ordered_iff (hok : t.snapshotExplicit ranges = .ok snap) :
    snap.Ordered ↔ t.FlushesWholeRuns ranges := by
  obtain ⟨cover, hcover, rfl⟩ := snapshotExplicit_eq_gather hok
  have hwalk : ∀ e ∈ t.flushEntries cover, ∀ a : Alloc, t.allocs[e.1]? = some a →
      (Ascending e.2.ranges ↔ a.NoHoles (t.flushIntervals ranges e.1)) := by
    intro e he a hlookup
    obtain ⟨other, hother, hwalk⟩ := mem_flushEntries hcover he
    rw [hlookup, Option.some_inj] at hother
    obtain ⟨hseparated, hcovers⟩ := mergeCover_flushIntervals ranges hlookup
    rw [hwalk, ← hother, Ascending, Alloc.collectDirty_disjoint_iff hseparated,
      noHoles_congr hcovers]
  have hordered : (gather (t.flushEntries cover)).Ordered ↔
      ∀ e ∈ t.flushEntries cover, Ascending e.2.ranges := by
    simp only [DirtySnapshot.Ordered, gather_eq, List.mem_map, List.mem_filter]
    constructor
    · intro huploads e he
      by_cases hempty : e.2.ranges = []
      · rw [hempty]
        exact List.Pairwise.nil
      · exact huploads ⟨e.1, e.2.ranges⟩ ⟨e, ⟨he, by simpa using hempty⟩, rfl⟩
    · rintro hentries up ⟨e, ⟨he, -⟩, rfl⟩
      exact hentries e he
  rw [hordered]
  constructor
  · intro hentries memory a hlookup
    by_cases hnone : t.flushIntervals ranges memory = []
    · rw [hnone]
      rintro first gap last - - - - ⟨iv, hiv, -⟩
      exact absurd hiv List.not_mem_nil
    · obtain ⟨entry, hentry, rfl⟩ := List.mem_map.mp (hcover.complete memory hnone)
      have he : (entry.1, a.collectDirty (mergeCover entry.2)) ∈ t.flushEntries cover :=
        List.mem_filterMap.mpr ⟨entry, hentry, by rw [hlookup]; rfl⟩
      exact (hwalk _ he a hlookup).mp (hentries _ he)
  · intro hruns e he
    obtain ⟨a, hlookup, -⟩ := mem_flushEntries hcover he
    exact (hwalk e he a hlookup).mpr (hruns e.1 a hlookup)

/-- The frames of an accepted flush fit the envelope, and each survives the wire
exactly when its own ranges are ordered. -/
theorem flush_frame_decodes_iff (hhandles : ∀ r ∈ ranges, r.memory < 2 ^ 64)
    (hok : t.snapshotExplicit ranges = .ok snap) {frame : DirtySnapshot}
    (hframe : frame.FrameOk kMaxMemoryUploadBytes kFrameMaxRanges)
    (hcells : ∀ cell ∈ frame.cells, cell ∈ snap.cells) :
    fromWire (toWriteRequest frame).toWire = .ok (toWriteRequest frame) ↔
      CellsOrdered frame.cells := by
  have hgathers := snapshotExplicit_gathers hok
  have hfits : t.Fits frame := hgathers.fits.of_frame hframe hcells
  -- Every range of the frame lies in an allocation that the flush named.
  have hwithin : ∀ x ∈ frame.flatRanges, x.1 < 2 ^ 64 ∧ x.2.offset + x.2.size < 2 ^ 64 := by
    intro x hx
    obtain ⟨hpos, hoffset⟩ := hframe.ranges_pos x hx
    have hcell : (x.1, x.2.offset % 2 ^ 64) ∈ frame.cells :=
      List.mem_flatMap.mpr ⟨x, hx, List.mem_map.mpr ⟨0, List.mem_range.mpr hpos, rfl⟩⟩
    obtain ⟨a, hlookup, -, -, c, -, iv, hiv, -⟩ := (hgathers.cells_iff _ _).mp (hcells _ hcell)
    obtain ⟨r, hr, hinterval⟩ := List.mem_filterMap.mp hiv
    have hmemory : r.memory = x.1 := by
      by_contra hne
      simp [hne] at hinterval
    have hbound := hfits x hx a hlookup
    have hlt := a.mirror_length_lt
    exact ⟨hmemory ▸ hhandles r hr, by omega⟩
  have hmem : ∀ up ∈ frame.uploads, ∀ r ∈ up.ranges, (up.memory, r) ∈ frame.flatRanges :=
    fun up hup r hr => List.mem_flatMap.mpr ⟨up, hup, List.mem_map_of_mem hr⟩
  have hencodable : ∀ up ∈ frame.uploads, EncodableUpload up := by
    intro up hup
    obtain ⟨r, hr⟩ := List.exists_mem_of_ne_nil _ (hframe.ranges_ne_nil up hup)
    refine ⟨(hwithin _ (hmem up hup r hr)).1, fun r hr => ?_⟩
    have hbound := (hwithin _ (hmem up hup r hr)).2
    dsimp only at hbound
    exact ⟨by omega, by omega⟩
  have hcount : (frame.uploads.map fun up => up.ranges.length).sum ≤ kFrameMaxRanges := by
    have hlength := hframe.ranges_le
    simpa [DirtySnapshot.flatRanges, List.length_flatMap] using hlength
  have hheader : (Json.dump (toWriteRequest frame).header 0).length ≤
      Wire.kMaxBinaryJsonHeaderBytes := by
    have hlength := length_header_le (toWriteRequest frame) hencodable hframe.ranges_ne_nil
    simp only [toWriteRequest, kFrameMaxRanges, Wire.kMaxBinaryJsonHeaderBytes] at hlength hcount ⊢
    omega
  rw [fromWire_toWire_iff _ hencodable hheader hframe.payload_le,
    DirtySnapshot.cellsOrdered_iff hframe.memories_nodup fun x hx =>
      ⟨(hframe.ranges_pos x hx).1, (hwithin x hx).2.le⟩]
  constructor
  · rintro ⟨-, hranges, -⟩ up hup
    exact (hranges up hup).2
  · intro hordered
    refine ⟨hframe.memories_nodup, fun up hup => ⟨fun r hr => ?_, hordered up hup⟩, ?_⟩
    · exact ⟨(hframe.ranges_pos _ (hmem up hup r hr)).1, (hwithin _ (hmem up hup r hr)).2⟩
    · exact (uploadBytes_eq_rangeBytes frame).trans hframe.payload_length.symm

theorem snapshotExplicit_ranges_ne_nil (hok : t.snapshotExplicit ranges = .ok snap) {up : Upload}
    (hup : up ∈ snap.uploads) : up.ranges ≠ [] := by
  obtain ⟨cover, -, rfl⟩ := snapshotExplicit_eq_gather hok
  rw [gather_eq] at hup
  obtain ⟨e, he, rfl⟩ := List.mem_map.mp hup
  simpa using (List.mem_filter.mp he).2

def Decodes (frame : DirtySnapshot) : Prop :=
  fromWire (toWriteRequest frame).toWire = .ok (toWriteRequest frame)

/-- An accepted flush on the wire, at the production caps. The frames are all
accepted and decoded to themselves, and the uploads are non-empty, ascending and
disjoint, exactly when no dirty chunk is flushed in two stretches with a hole
between them. A flush that fits one frame is rejected whenever there is a hole. -/
theorem flush_frames_survive_wire_iff (t : MappedMemoryTracker) (ranges : List MemRange)
    (snap : DirtySnapshot) (hhandles : ∀ r ∈ ranges, r.memory < 2 ^ 64)
    (hok : t.snapshotExplicit ranges = .ok snap) :
    ∃ frames, splitForUpload snap kMaxMemoryUploadBytes kFrameMaxRanges = some frames ∧
      (((∀ frame ∈ frames, Decodes frame) ∧
          ∀ up ∈ snap.uploads, up.ranges ≠ [] ∧ (∀ r ∈ up.ranges, 0 < r.size) ∧
            up.ranges.Pairwise fun x y => x.offset + x.size ≤ y.offset) ↔
        t.FlushesWholeRuns ranges) ∧
      (frames.length ≤ 1 →
        ((∀ frame ∈ frames, Decodes frame) ↔ t.FlushesWholeRuns ranges)) := by
  have hgathers := snapshotExplicit_gathers hok
  obtain ⟨frames, hsplit, hframes, -, hcells⟩ := hgathers.aligned.exists_frames
  have hdecodes : ∀ frame ∈ frames, (Decodes frame ↔ CellsOrdered frame.cells) := by
    intro frame hframe
    refine flush_frame_decodes_iff hhandles hok (hframes frame hframe) fun cell hcell => ?_
    rw [← hcells]
    exact List.mem_flatMap.mpr ⟨frame, hframe, hcell⟩
  have hranges : ∀ x ∈ snap.flatRanges, 0 < x.2.size ∧ x.2.offset + x.2.size ≤ 2 ^ 64 := by
    intro x hx
    obtain ⟨hpos, a, -, hwithin⟩ := hgathers.within x hx
    have hlt := a.shadow_length_lt
    exact ⟨hpos, by omega⟩
  have hordered : CellsOrdered snap.cells ↔ t.FlushesWholeRuns ranges := by
    rw [DirtySnapshot.cellsOrdered_iff hgathers.aligned.memories_nodup hranges,
      snapshotExplicit_ordered_iff hok]
  -- The cells of the snapshot are those of its frames, so their order is inherited.
  have hframes_ordered : CellsOrdered snap.cells → ∀ frame ∈ frames, Decodes frame := by
    intro hcellsOrdered frame hframe
    rw [← hcells] at hcellsOrdered
    exact (hdecodes frame hframe).mpr ((List.pairwise_flatMap.mp hcellsOrdered).1 frame hframe)
  refine ⟨frames, hsplit, ⟨?_, ?_⟩, fun hone => ⟨fun hall => ?_, fun hruns => ?_⟩⟩
  · rintro ⟨-, huploads⟩
    exact (snapshotExplicit_ordered_iff hok).mp fun up hup => (huploads up hup).2.2
  · intro hruns
    refine ⟨hframes_ordered (hordered.mpr hruns), fun up hup => ?_⟩
    refine ⟨snapshotExplicit_ranges_ne_nil hok hup, fun r hr => ?_,
      (snapshotExplicit_ordered_iff hok).mpr hruns up hup⟩
    exact (hranges (up.memory, r) (List.mem_flatMap.mpr ⟨up, hup, List.mem_map_of_mem hr⟩)).1
  · rw [← hordered, ← hcells]
    match frames, hone with
    | [], _ => exact List.Pairwise.nil
    | [frame], _ =>
      rw [List.flatMap_cons, List.flatMap_nil, List.append_nil]
      exact (hdecodes frame List.mem_cons_self).mp (hall frame List.mem_cons_self)
  · exact hframes_ordered (hordered.mpr hruns)

end MappedMemoryTracker

section Hole

/-- A 200-byte allocation with one dirty byte, mapped as a whole. -/
def flushedPage : Option UploadState :=
  run UploadState.step {}
    [.allocate 7 200 0 true true, .map 7 0 kWholeSize, .write 7 0 [1]]

/-- Two flush ranges in the one chunk of the allocation, with a hole between them. -/
def holedFlush : List MemRange := [⟨7, 0, 10⟩, ⟨7, 100, 10⟩]

def plainFlush : List MemRange := [⟨7, 0, 10⟩]

/-- What the flush sends, and what the decoder makes of it. -/
def flushOnWire (s : UploadState) (ranges : List MemRange) :
    Option (List (Except String WriteMemoryRangesRequest)) :=
  match s.tracker.snapshotExplicit ranges with
  | .error _ => none
  | .ok snap =>
    (splitForUpload snap kMaxMemoryUploadBytes kFrameMaxRanges).map fun frames =>
      frames.map fun frame => fromWire (toWriteRequest frame).toWire

theorem holed_flush_frame_rejected :
    flushedPage.bind (fun s => flushOnWire s holedFlush) =
      some [.error "write_memory_ranges ranges not sorted/disjoint per allocation"] := by
  decide +kernel

theorem plain_flush_survives_wire_iff :
    ∃ s snap, flushedPage = some s ∧ s.tracker.snapshotExplicit plainFlush = .ok snap ∧
      ∃ frames, splitForUpload snap kMaxMemoryUploadBytes kFrameMaxRanges = some frames ∧
        (((∀ frame ∈ frames, MappedMemoryTracker.Decodes frame) ∧
            ∀ up ∈ snap.uploads, up.ranges ≠ [] ∧ (∀ r ∈ up.ranges, 0 < r.size) ∧
              up.ranges.Pairwise fun x y => x.offset + x.size ≤ y.offset) ↔
          s.tracker.FlushesWholeRuns plainFlush) ∧
        (frames.length ≤ 1 → ((∀ frame ∈ frames, MappedMemoryTracker.Decodes frame) ↔
          s.tracker.FlushesWholeRuns plainFlush)) := by
  have hdefined : (flushedPage.bind fun s =>
      (s.tracker.snapshotExplicit plainFlush).toOption).isSome = true := by
    decide +kernel
  obtain ⟨snap, hsnap⟩ := Option.isSome_iff_exists.mp hdefined
  obtain ⟨s, hs, hok⟩ := Option.bind_eq_some_iff.mp hsnap
  cases hresult : s.tracker.snapshotExplicit plainFlush with
  | error message => simp [hresult, Except.toOption] at hok
  | ok other =>
    exact ⟨s, other, hs, hresult, MappedMemoryTracker.flush_frames_survive_wire_iff s.tracker
      plainFlush other (by decide) hresult⟩

end Hole

end VkRelay.Memory
