import VkRelay.Memory.Split

/-!
What a commit does to the mirror. The loop over uploads and ranges with its
payload cursor is the scatter of the snapshot's byte writes over the mirror, as
long as every range of a known allocation lies inside the mirror.
-/

namespace VkRelay.Memory

open VkRelay.Lib

section CellWrites

variable {memory off n : Nat}

theorem mem_cellsAt_iff (hbound : off + n ≤ 2 ^ 64) (cell : Nat × Nat) :
    cell ∈ cellsAt memory off n ↔ cell.1 = memory ∧ off ≤ cell.2 ∧ cell.2 < off + n := by
  simp only [cellsAt, List.mem_map, List.mem_range]
  constructor
  · rintro ⟨i, hi, rfl⟩
    simp only [true_and]
    omega
  · rintro ⟨hmemory, hlow, hhigh⟩
    refine ⟨cell.2 - off, by omega, Prod.ext hmemory.symm ?_⟩
    simp only
    omega

theorem nodup_cellsAt (hbound : off + n ≤ 2 ^ 64) : (cellsAt memory off n).Nodup := by
  refine List.Nodup.map_on ?_ List.nodup_range
  intro i hi j hj heq
  rw [List.mem_range] at hi hj
  have haddr := congrArg Prod.snd heq
  simp only at haddr
  omega

/-- The writes of one block hold its bytes at its own addresses and nothing else. -/
theorem lastWrite_block (hbound : off + n ≤ 2 ^ 64) {bytes : List UInt8}
    (hlength : bytes.length = n) (key i : Nat) :
    lastWrite ((cellsAt memory off n).zip bytes) (key, i) =
      if key = memory ∧ off ≤ i ∧ i < off + n then bytes[i - off]? else none := by
  have hcells : (((cellsAt memory off n).zip bytes).map Prod.fst) = cellsAt memory off n :=
    List.map_fst_zip (by simp [hlength])
  split
  · next hinside =>
      obtain ⟨rfl, hlow, hhigh⟩ := hinside
      have hi : i - off < bytes.length := by omega
      rw [List.getElem?_eq_getElem hi]
      apply lastWrite_of_mem (by rw [hcells]; exact nodup_cellsAt hbound)
      rw [List.mem_iff_getElem]
      refine ⟨i - off, by simp; omega, ?_⟩
      simp only [List.getElem_zip, cellsAt, List.getElem_map, List.getElem_range, Prod.mk.injEq,
        true_and, and_true]
      omega
  · next houtside =>
      rw [lastWrite_eq_none_iff, hcells, mem_cellsAt_iff hbound]
      exact houtside

end CellWrites

/-- A buffer of allocation `memory` after a list of byte writes; writes to other
allocations are ignored. -/
def scatterBytes (memory : Nat) (writes : List ((Nat × Nat) × UInt8)) (bytes : List UInt8) :
    List UInt8 :=
  bytes.mapIdx fun i b => (lastWrite writes (memory, i)).getD b

section ScatterBytes

variable (memory : Nat)

variable (writes : List ((Nat × Nat) × UInt8)) (bytes : List UInt8)

@[simp] theorem length_scatterBytes : (scatterBytes memory writes bytes).length = bytes.length :=
  List.length_mapIdx

theorem scatterBytes_getElem? (i : Nat) : (scatterBytes memory writes bytes)[i]? =
      bytes[i]?.map fun b => (lastWrite writes (memory, i)).getD b :=
  List.getElem?_mapIdx

theorem scatterBytes_append (first second : List ((Nat × Nat) × UInt8)) (bytes : List UInt8) :
    scatterBytes memory (first ++ second) bytes =
      scatterBytes memory second (scatterBytes memory first bytes) := by
  refine List.ext_getElem? fun i => ?_
  simp only [scatterBytes_getElem?, Option.map_map, lastWrite_append]
  congr 1
  funext b
  cases hsecond : lastWrite second (memory, i) <;> simp

/-- Copying a block is writing its cells. -/
theorem blit_eq_scatterBytes (buffer : List UInt8) (off : Nat) (bytes : List UInt8)
    (hbound : off + bytes.length ≤ 2 ^ 64) :
    blit buffer off bytes =
      scatterBytes memory ((cellsAt memory off bytes.length).zip bytes) buffer := by
  refine List.ext_getElem? fun i => ?_
  rw [blit_getElem?, scatterBytes_getElem?, lastWrite_block hbound rfl]
  congr 1
  funext b
  by_cases hlow : off ≤ i
  · by_cases hhigh : i < off + bytes.length
    · simp [hlow, hhigh]
    · have hpast : bytes.length ≤ i - off := by omega
      simp [hlow, hhigh, hpast]
  · simp [hlow]

/-- Writes to other allocations leave a buffer alone. -/
theorem scatterBytes_other (hother : ∀ write ∈ writes, write.1.1 ≠ memory) :
    scatterBytes memory writes bytes = bytes := by
  refine List.ext_getElem? fun i => ?_
  have hnone : lastWrite writes (memory, i) = none := by
    rw [lastWrite_eq_none_iff]
    intro hmem
    obtain ⟨write, hwrite, hcell⟩ := List.mem_map.mp hmem
    exact hother write hwrite (by rw [hcell])
  simp [scatterBytes_getElem?, hnone]

end ScatterBytes

namespace Alloc

def scatterMirror (memory : Nat) (writes : List ((Nat × Nat) × UInt8)) (a : Alloc) : Alloc :=
  a.withMirror (scatterBytes memory writes a.lastUploaded) (length_scatterBytes ..)

variable (memory : Nat) (a : Alloc)

theorem withMirror_congr {first second : List UInt8} (hsame : first = second)
    (hfirst : first.length = a.lastUploaded.length)
    (hsecond : second.length = a.lastUploaded.length) :
    a.withMirror first hfirst = a.withMirror second hsecond := by
  subst hsame
  rfl

theorem scatterMirror_append (first second : List ((Nat × Nat) × UInt8)) (a : Alloc) :
    a.scatterMirror memory (first ++ second) =
      (a.scatterMirror memory first).scatterMirror memory second :=
  a.withMirror_congr (scatterBytes_append memory first second a.lastUploaded) _
    (by simp)

theorem writeMirror_eq_scatter (off : Nat) (bytes : List UInt8)
    (hfits : off + bytes.length ≤ a.lastUploaded.length) :
    a.writeMirror off bytes =
      a.scatterMirror memory ((cellsAt memory off bytes.length).zip bytes) := by
  have hbound := a.mirror_length_lt
  exact a.withMirror_congr (blit_eq_scatterBytes memory a.lastUploaded off bytes (by omega)) _ _

/-- Writes to other allocations leave the mirror alone. -/
theorem scatterMirror_other (writes : List ((Nat × Nat) × UInt8)) (a : Alloc)
    (hother : ∀ write ∈ writes, write.1.1 ≠ memory) : a.scatterMirror memory writes = a :=
  a.withMirror_congr (scatterBytes_other memory writes a.lastUploaded hother) _ rfl

theorem scatterMirror_nil : a.scatterMirror memory [] = a :=
  a.scatterMirror_other memory [] (by simp)

end Alloc

namespace MappedMemoryTracker

/-- Every range of a known allocation lies inside that allocation's mirror. -/
def Fits (t : MappedMemoryTracker) (snap : DirtySnapshot) : Prop :=
  ∀ x ∈ snap.flatRanges, ∀ a, t.allocs[x.1]? = some a →
    x.2.offset + x.2.size ≤ a.lastUploaded.length

variable (payload : List UInt8)

variable (frames : List DirtySnapshot) (memory : Nat) (t : MappedMemoryTracker) (cursor : Nat)

theorem commitRange_lookup (r : Range) (hcursor : cursor + r.size ≤ payload.length)
    (hfits : ∀ a, t.allocs[memory]? = some a → r.offset + r.size ≤ a.lastUploaded.length)
    (key : Nat) :
    (commitRange payload memory (t, cursor) r).1.allocs[key]? =
      t.allocs[key]?.map (·.scatterMirror key
        ((cellsAt memory r.offset r.size).zip (slice payload cursor r.size))) := by
  have hother : key ≠ memory → ∀ a : Alloc, a.scatterMirror key
      ((cellsAt memory r.offset r.size).zip (slice payload cursor r.size)) = a := by
    intro hne a
    apply a.scatterMirror_other
    intro write hwrite
    obtain ⟨i, -, hcell⟩ := List.mem_map.mp (List.of_mem_zip hwrite).1
    rw [← hcell]
    exact hne.symm
  cases hlookup : t.allocs[memory]? with
  | none =>
    by_cases hkey : key = memory
    · subst hkey
      simp [commitRange, hlookup]
    · simp only [commitRange, hlookup, hother hkey, Option.map_id_fun', id_eq]
  | some a =>
    have hfit := hfits a hlookup
    have hlength := length_slice payload cursor r.size hcursor
    have hwrite := a.writeMirror_eq_scatter memory r.offset (slice payload cursor r.size)
      (by omega)
    rw [hlength] at hwrite
    by_cases hkey : key = memory
    · subst hkey
      simp [commitRange, hlookup, hfit, hcursor, hwrite]
    · have hmiss : memory ≠ key := Ne.symm hkey
      simp [commitRange, hlookup, hfit, hcursor, hmiss, hother hkey]

private theorem commitRange_cursor (r : Range) :
    (commitRange payload memory (t, cursor) r).2 = cursor + r.size := by
  simp only [commitRange]
  split
  · rfl
  · split <;> rfl

/-- The walk over a list of ranges scatters the matching piece of the payload. -/
private theorem commitRanges_lookup (ranges : List (Nat × Range)) (t : MappedMemoryTracker)
    (cursor : Nat) (hcursor : cursor + (ranges.map fun x => x.2.size).sum ≤ payload.length)
    (hfits : ∀ x ∈ ranges, ∀ a, t.allocs[x.1]? = some a →
      x.2.offset + x.2.size ≤ a.lastUploaded.length) (key : Nat) :
    (ranges.foldl (fun state x => commitRange payload x.1 state x.2)
        (t, cursor)).1.allocs[key]? =
      t.allocs[key]?.map (·.scatterMirror key
        ((ranges.flatMap fun x => cellsAt x.1 x.2.offset x.2.size).zip
          (slice payload cursor (ranges.map fun x => x.2.size).sum))) := by
  induction ranges generalizing t cursor with
  | nil => simp [Alloc.scatterMirror_nil]
  | cons x rest ih =>
    simp only [List.map_cons, List.sum_cons] at hcursor ⊢
    have hstep := commitRange_lookup payload x.1 t cursor x.2 (by omega)
      (hfits x (List.mem_cons_self ..))
    have hnext : ∀ y ∈ rest, ∀ a,
        (commitRange payload x.1 (t, cursor) x.2).1.allocs[y.1]? = some a →
        y.2.offset + y.2.size ≤ a.lastUploaded.length := by
      intro y hy a ha
      rw [hstep, Option.map_eq_some_iff] at ha
      obtain ⟨before, hbefore, rfl⟩ := ha
      simpa [Alloc.scatterMirror, Alloc.withMirror] using
        hfits y (List.mem_cons_of_mem _ hy) before hbefore
    have hmoved := commitRange_cursor payload x.1 t cursor x.2
    rw [List.foldl_cons, ← Prod.mk.eta (p := commitRange payload x.1 (t, cursor) x.2), hmoved,
      ih _ _ (by omega) hnext, hstep, Option.map_map, List.flatMap_cons, slice_add,
      List.zip_append (by rw [length_cellsAt, length_slice _ _ _ (by omega)])]
    congr 1
    funext a
    exact (a.scatterMirror_append key _ _).symm

/-- Committing a snapshot scatters its byte writes over the mirrors. -/
theorem commit_lookup (snap : DirtySnapshot) (hlength : snap.payload.length = snap.rangeBytes)
    (hfits : t.Fits snap) (key : Nat) :
    (t.commit snap).allocs[key]? = t.allocs[key]?.map (·.scatterMirror key snap.byteWrites) := by
  have hflat : t.commit snap = (snap.flatRanges.foldl
      (fun state x => commitRange snap.payload x.1 state x.2) (t, 0)).1 := by
    simp [commit, DirtySnapshot.flatRanges, List.foldl_flatMap, List.foldl_map]
  have hwhole : slice snap.payload 0 snap.rangeBytes = snap.payload := by
    simp [slice, ← hlength]
  have hscan := commitRanges_lookup snap.payload snap.flatRanges t 0
    (by simp [hlength, DirtySnapshot.rangeBytes]) hfits key
  rw [← DirtySnapshot.rangeBytes, hwhole] at hscan
  rw [hflat, hscan]
  rfl

def mirrorAt (t : MappedMemoryTracker) (memory i : Nat) : Option UInt8 :=
  t.allocs[memory]?.bind fun a => a.lastUploaded[i]?

/-- A snapshot that fits covers only cells inside the mirrors. -/
theorem Fits.cells_within {t : MappedMemoryTracker} {snap : DirtySnapshot} (hfits : t.Fits snap)
    {cell : Nat × Nat} (hcell : cell ∈ snap.cells) {a : Alloc}
    (hlookup : t.allocs[cell.1]? = some a) : cell.2 < a.lastUploaded.length := by
  obtain ⟨x, hx, hcell⟩ := List.mem_flatMap.mp hcell
  obtain ⟨i, hi, rfl⟩ := List.mem_map.mp hcell
  have hwithin := hfits x hx a hlookup
  have hbound := a.mirror_length_lt
  rw [List.mem_range] at hi
  simp only
  omega

/-- A frame whose cells all lie inside the mirrors fits. -/
theorem fits_of_cells_within {t : MappedMemoryTracker} {frame : DirtySnapshot}
    (hranges : ∀ x ∈ frame.flatRanges, 0 < x.2.size ∧ x.2.offset < 2 ^ 64)
    (hcells : ∀ cell ∈ frame.cells, ∀ a, t.allocs[cell.1]? = some a →
      cell.2 < a.lastUploaded.length) : t.Fits frame := by
  intro x hx a hlookup
  obtain ⟨hpos, hoffset⟩ := hranges x hx
  have hbound := a.mirror_length_lt
  have hinside : ∀ i < x.2.size, (x.2.offset + i) % 2 ^ 64 < a.lastUploaded.length := by
    intro i hi
    refine hcells (x.1, _) (List.mem_flatMap.mpr ⟨x, hx, ?_⟩) a hlookup
    exact List.mem_map.mpr ⟨i, List.mem_range.mpr hi, rfl⟩
  have hfirst := hinside 0 hpos
  by_contra hpast
  -- The first position past the mirror would be one of the range's cells.
  have hcross := hinside (a.lastUploaded.length - x.2.offset) (by omega)
  omega

theorem commit_fits {t : MappedMemoryTracker} {snap other : DirtySnapshot}
    (hlength : snap.payload.length = snap.rangeBytes) (hfits : t.Fits snap)
    (hother : t.Fits other) : (t.commit snap).Fits other := by
  intro x hx a ha
  rw [t.commit_lookup snap hlength hfits, Option.map_eq_some_iff] at ha
  obtain ⟨before, hbefore, rfl⟩ := ha
  simpa [Alloc.scatterMirror, Alloc.withMirror] using hother x hx before hbefore

/-- Committing frames one by one scatters their byte writes in order. -/
theorem commitAll_lookup (hlength : ∀ frame ∈ frames, frame.payload.length = frame.rangeBytes)
    (hfits : ∀ frame ∈ frames, t.Fits frame) (key : Nat) :
    (frames.foldl commit t).allocs[key]? =
      t.allocs[key]?.map (·.scatterMirror key (frames.flatMap DirtySnapshot.byteWrites)) := by
  induction frames generalizing t with
  | nil => simp [Alloc.scatterMirror_nil]
  | cons frame rest ih =>
    have hframe := hlength frame (List.mem_cons_self ..)
    have hfit := hfits frame (List.mem_cons_self ..)
    rw [List.foldl_cons, ih _ (fun f hf => hlength f (List.mem_cons_of_mem _ hf))
        (fun f hf => commit_fits hframe hfit (hfits f (List.mem_cons_of_mem _ hf))),
      t.commit_lookup frame hframe hfit, Option.map_map, List.flatMap_cons]
    congr 1
    funext a
    exact (a.scatterMirror_append key _ _).symm

theorem mirrorAt_commitAll (hlength : ∀ frame ∈ frames, frame.payload.length = frame.rangeBytes)
    (hfits : ∀ frame ∈ frames, t.Fits frame) (memory i : Nat) :
    (frames.foldl commit t).mirrorAt memory i = (t.mirrorAt memory i).map fun b =>
      (lastWrite (frames.flatMap DirtySnapshot.byteWrites) (memory, i)).getD b := by
  rw [mirrorAt, mirrorAt, commitAll_lookup frames t hlength hfits]
  cases t.allocs[memory]? <;> simp [Alloc.scatterMirror, Alloc.withMirror, scatterBytes_getElem?]

/-- Frames made of a snapshot's own bytes fit wherever the snapshot does. -/
theorem Fits.of_frame {t : MappedMemoryTracker} {snap : DirtySnapshot} (hfits : t.Fits snap)
    {maxPayload maxRanges : Nat} {frame : DirtySnapshot}
    (hframe : frame.FrameOk maxPayload maxRanges)
    (hcells : ∀ cell ∈ frame.cells, cell ∈ snap.cells) : t.Fits frame :=
  fits_of_cells_within hframe.ranges_pos fun cell hcell _ hlookup =>
    hfits.cells_within (hcells cell hcell) hlookup

end MappedMemoryTracker

theorem DirtySnapshot.byteWrites_map_fst (snap : DirtySnapshot)
    (hlength : snap.payload.length = snap.rangeBytes) :
    snap.byteWrites.map Prod.fst = snap.cells :=
  List.map_fst_zip (by rw [DirtySnapshot.length_cells, hlength])

theorem DirtySnapshot.flatMap_byteWrites_map_fst {frames : List DirtySnapshot}
    (hframes : ∀ frame ∈ frames, frame.payload.length = frame.rangeBytes) :
    (frames.flatMap DirtySnapshot.byteWrites).map Prod.fst =
      frames.flatMap DirtySnapshot.cells := by
  rw [List.map_flatMap]
  exact List.flatMap_congr fun frame hframe => frame.byteWrites_map_fst (hframes frame hframe)

theorem DirtySnapshot.Aligned.flatMap_cells {snap : DirtySnapshot} {frames : List DirtySnapshot}
    (hsnap : snap.Aligned)
    (hframes : ∀ frame ∈ frames, frame.payload.length = frame.rangeBytes)
    (hwrites : frames.flatMap DirtySnapshot.byteWrites = snap.byteWrites) :
    frames.flatMap DirtySnapshot.cells = snap.cells := by
  rw [← DirtySnapshot.flatMap_byteWrites_map_fst hframes, hwrites,
    snap.byteWrites_map_fst hsnap.payload_length]

/-- Splitting a snapshot for upload, for any positive caps. The splitter
terminates; every frame respects both caps, names no memory twice and carries
exactly the bytes of its ranges; scattering the frames in order is scattering
the snapshot. Committing the first `k` frames performs exactly their byte
writes, what is left is the byte writes of the other frames, and committing
those too is committing the snapshot. When the snapshot names no byte twice, a
byte of a committed frame is acknowledged and a byte of a remaining frame still
has its old mirror value. -/
theorem splitForUpload_frames_carry_snapshot (snap : DirtySnapshot)
    (maxPayload maxRanges : Nat) (hsnap : snap.Aligned)
    (hpayload : 0 < maxPayload) (hranges : 0 < maxRanges) :
    ∃ frames, splitForUpload snap maxPayload maxRanges = some frames ∧
      (∀ frame ∈ frames,
        frame.payload.length ≤ maxPayload ∧ frame.flatRanges.length ≤ maxRanges ∧
        (frame.uploads.map Upload.memory).Nodup ∧ frame.payload.length = frame.rangeBytes) ∧
      (∀ image : Nat × Nat → UInt8,
        frames.foldl (fun current frame => scatter current frame.byteWrites) image =
          scatter image snap.byteWrites) ∧
      ∀ t : MappedMemoryTracker, t.Fits snap → ∀ k,
        (frames.take k).flatMap DirtySnapshot.byteWrites ++
            (frames.drop k).flatMap DirtySnapshot.byteWrites = snap.byteWrites ∧
        (frames.drop k).foldl MappedMemoryTracker.commit
            ((frames.take k).foldl MappedMemoryTracker.commit t) = t.commit snap ∧
        ∀ memory i,
          ((frames.take k).foldl MappedMemoryTracker.commit t).mirrorAt memory i =
            ((t.mirrorAt memory i).map fun b =>
              (lastWrite ((frames.take k).flatMap DirtySnapshot.byteWrites)
                (memory, i)).getD b) ∧
          (snap.cells.Nodup → (memory, i) ∈ (frames.take k).flatMap DirtySnapshot.cells →
            ∀ old, t.mirrorAt memory i = some old →
            ((frames.take k).foldl MappedMemoryTracker.commit t).mirrorAt memory i =
              lastWrite snap.byteWrites (memory, i)) ∧
          (snap.cells.Nodup → (memory, i) ∈ (frames.drop k).flatMap DirtySnapshot.cells →
            ((frames.take k).foldl MappedMemoryTracker.commit t).mirrorAt memory i =
              t.mirrorAt memory i) := by
  obtain ⟨frames, hsplit, hframes, hwrites⟩ := splitForUpload_spec hpayload hranges hsnap
  have hlength : ∀ frame ∈ frames, frame.payload.length = frame.rangeBytes :=
    fun frame hframe => (hframes frame hframe).payload_length
  have hcells := hsnap.flatMap_cells hlength hwrites
  refine ⟨frames, hsplit, ?_, ?_, ?_⟩
  · intro frame hframe
    have hok := hframes frame hframe
    exact ⟨hok.payload_le, hok.ranges_le, hok.memories_nodup, hok.payload_length⟩
  · intro image
    rw [← hwrites, scatter_flatMap]
  · intro t hfits k
    have hfit : ∀ frame ∈ frames, t.Fits frame := fun frame hframe =>
      hfits.of_frame (hframes frame hframe) fun cell hcell => by
        rw [← hcells]
        exact List.mem_flatMap.mpr ⟨frame, hframe, hcell⟩
    have htake_length : ∀ frame ∈ frames.take k, frame.payload.length = frame.rangeBytes :=
      fun frame hframe => hlength frame (List.mem_of_mem_take hframe)
    have hdrop_length : ∀ frame ∈ frames.drop k, frame.payload.length = frame.rangeBytes :=
      fun frame hframe => hlength frame (List.mem_of_mem_drop hframe)
    have htake_fit : ∀ frame ∈ frames.take k, t.Fits frame :=
      fun frame hframe => hfit frame (List.mem_of_mem_take hframe)
    have hparts : (frames.take k).flatMap DirtySnapshot.byteWrites ++
        (frames.drop k).flatMap DirtySnapshot.byteWrites = snap.byteWrites := by
      rw [← List.flatMap_append, List.take_append_drop, hwrites]
    have hmirror := MappedMemoryTracker.mirrorAt_commitAll (frames.take k) t htake_length htake_fit
    have hdisjoint : snap.cells.Nodup → List.Disjoint
        ((frames.take k).flatMap DirtySnapshot.cells)
        ((frames.drop k).flatMap DirtySnapshot.cells) := by
      intro hnodup
      rw [← hcells, ← List.take_append_drop k frames, List.flatMap_append] at hnodup
      exact List.disjoint_of_nodup_append hnodup
    refine ⟨hparts, ?_, fun memory i => ⟨hmirror memory i, ?_, ?_⟩⟩
    · rw [← List.foldl_append, List.take_append_drop]
      refine MappedMemoryTracker.ext_lookup fun key => ?_
      rw [MappedMemoryTracker.commitAll_lookup frames t hlength hfit, hwrites,
        t.commit_lookup snap hsnap.payload_length hfits]
    · intro hnodup hcommitted old hold
      have hremaining : lastWrite ((frames.drop k).flatMap DirtySnapshot.byteWrites)
          (memory, i) = none := by
        rw [lastWrite_eq_none_iff, DirtySnapshot.flatMap_byteWrites_map_fst hdrop_length]
        exact hdisjoint hnodup hcommitted
      have hwritten : lastWrite ((frames.take k).flatMap DirtySnapshot.byteWrites)
          (memory, i) ≠ none := by
        rw [Ne, lastWrite_eq_none_iff, DirtySnapshot.flatMap_byteWrites_map_fst htake_length]
        exact not_not_intro hcommitted
      obtain ⟨value, hvalue⟩ := Option.ne_none_iff_exists'.mp hwritten
      rw [hmirror, hold, ← hparts, lastWrite_append, hremaining, hvalue]
      rfl
    · intro hnodup hremaining
      have hcommitted : lastWrite ((frames.take k).flatMap DirtySnapshot.byteWrites)
          (memory, i) = none := by
        rw [lastWrite_eq_none_iff, DirtySnapshot.flatMap_byteWrites_map_fst htake_length]
        exact fun hcommitted => hdisjoint hnodup hcommitted hremaining
      rw [hmirror, hcommitted]
      simp

theorem splitForUpload_two_byte_frames :
    ∃ frames, splitForUpload ⟨[⟨1, [⟨0, 2⟩]⟩], [7, 8]⟩ 1 1 = some frames ∧
      ∀ frame ∈ frames, frame.payload.length ≤ 1 := by
  obtain ⟨frames, hsplit, hframes, -⟩ :=
    splitForUpload_frames_carry_snapshot ⟨[⟨1, [⟨0, 2⟩]⟩], [7, 8]⟩ 1 1
      ⟨by decide, by decide⟩ (by decide) (by decide)
  exact ⟨frames, hsplit, fun frame hframe => (hframes frame hframe).1⟩

end VkRelay.Memory
