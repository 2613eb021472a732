import VkRelay.Memory.Flush
import VkRelay.Memory.Sweep

/-!
The guest's tracker and the worker's memory over whole runs. Everything but the
application's stores runs under one lock, so a flush or sweep is followed by its
ship attempts before the next tracker call, while stores may fall anywhere. A
shipped frame is scattered over the worker's memory and committed; a failed one
changes neither.

The worker has no other writer here, and its allocations start zeroed.
-/

namespace VkRelay.Memory

open VkRelay.Lib

def kMaxMemoryUploadBytes : Nat := 8 * 1024 * 1024

def kFrameMaxRanges : Nat := 512

/-- A tracker call that reports an error leaves the tracker as it was. -/
def MappedMemoryTracker.settle (t : MappedMemoryTracker)
    (result : Except String MappedMemoryTracker) : MappedMemoryTracker :=
  match result with
  | .ok next => next
  | .error _ => t

def DirtySnapshot.frames (snap : DirtySnapshot) : Option (List DirtySnapshot) :=
  splitForUpload snap kMaxMemoryUploadBytes kFrameMaxRanges

/-- The frames that an aligned snapshot is sent as carry its bytes. -/
theorem DirtySnapshot.Aligned.exists_frames {snap : DirtySnapshot} (hsnap : snap.Aligned) :
    ∃ frames, snap.frames = some frames ∧
      (∀ frame ∈ frames, frame.FrameOk kMaxMemoryUploadBytes kFrameMaxRanges) ∧
      frames.flatMap DirtySnapshot.byteWrites = snap.byteWrites ∧
      frames.flatMap DirtySnapshot.cells = snap.cells := by
  obtain ⟨frames, hsplit, hframes, hwrites⟩ := splitForUpload_spec
    (by decide : 0 < kMaxMemoryUploadBytes) (by decide : 0 < kFrameMaxRanges) hsnap
  refine ⟨frames, hsplit, hframes, hwrites, ?_⟩
  exact hsnap.flatMap_cells (fun frame hframe => (hframes frame hframe).payload_length) hwrites

/-- The tracker, the worker's memory, and the frames not yet attempted. -/
structure UploadState where
  tracker : MappedMemoryTracker := {}
  worker : Nat × Nat → UInt8 := fun _ => 0
  inFlight : List DirtySnapshot := []

inductive UploadOp where
  | allocate (memory size typeIndex : Nat) (hostVisible hostCoherent : Bool)
  | map (memory offset size : Nat)
  | unmap (memory : Nat)
  | free (memory : Nat)
  | write (memory offset : Nat) (bytes : List UInt8)
  | flush (ranges : List MemRange)
  | sweep
  | ship (succeeds : Bool)
  | abandon

namespace UploadState

/-- The calls made under the lock, with no frame of an earlier call pending. -/
def lockedStep (s : UploadState) : UploadOp → Option UploadState
  | .allocate memory size typeIndex hostVisible hostCoherent =>
    some { s with
      tracker := s.tracker.onAllocate memory size typeIndex hostVisible hostCoherent
      worker := fun cell => if cell.1 = memory then 0 else s.worker cell }
  | .map memory offset size =>
    some { s with tracker := s.tracker.settle (s.tracker.onMap memory offset size) }
  | .unmap memory => some { s with tracker := s.tracker.settle (s.tracker.onUnmap memory) }
  | .free memory => some { s with tracker := s.tracker.settle (s.tracker.onFree memory) }
  | .flush ranges =>
    match s.tracker.snapshotExplicit ranges with
    | .error _ => some s
    | .ok snap => snap.frames.map fun frames => { s with inFlight := frames }
  | .sweep =>
    let (snap, tracker) := s.tracker.snapshotPending none
    snap.frames.map fun frames => { s with tracker := tracker, inFlight := frames }
  | _ => none

/-- One step. A store needs the mapping but not the lock; an attempt takes the
next frame in flight; the driver abandons the rest after a failure. -/
def step (s : UploadState) : UploadOp → Option UploadState
  | .write memory offset bytes =>
    (s.tracker.appWrite memory offset bytes).map fun tracker => { s with tracker := tracker }
  | .ship succeeds =>
    match s.inFlight with
    | [] => none
    | frame :: rest =>
      if succeeds then
        some
          { tracker := s.tracker.commit frame
            worker := scatter s.worker frame.byteWrites
            inFlight := rest }
      else some { s with inFlight := rest }
  | .abandon => some { s with inFlight := [] }
  | op => if s.inFlight = [] then s.lockedStep op else none

def workerBytes (s : UploadState) (memory size : Nat) : List UInt8 :=
  (List.range size).map fun i => s.worker (memory, i)

end UploadState

/-- One allocation agrees with the worker as far as it is acknowledged, and stays
a candidate while it is mapped or has bytes to send. -/
structure InStep (worker : Nat × Nat → UInt8) (memory : Nat) (a : Alloc) : Prop where
  mirror : ∀ i value, a.lastUploaded[i]? = some value → worker (memory, i) = value
  unshadowed : a.shadow = [] → ∀ i, worker (memory, i) = 0
  mapped : a.isMapped = true → a.candidate = true
  pending : a.shadow ≠ a.lastUploaded → a.candidate = true

/-- A frame in flight touches only bytes inside candidates' buffers. -/
structure InFlightOk (t : MappedMemoryTracker) (frame : DirtySnapshot) : Prop where
  frame_ok : frame.FrameOk kMaxMemoryUploadBytes kFrameMaxRanges
  cells : ∀ cell ∈ frame.cells, ∃ a, t.allocs[cell.1]? = some a ∧ a.candidate = true ∧
    cell.2 < a.shadow.length

structure UploadState.Ok (s : UploadState) : Prop where
  allocs : ∀ memory a, s.tracker.allocs[memory]? = some a → InStep s.worker memory a
  frames : ∀ frame ∈ s.inFlight, InFlightOk s.tracker frame

section Preservation

variable {worker : Nat × Nat → UInt8} {memory : Nat} {a : Alloc}

theorem InStep.mapAt (ha : InStep worker memory a) {offset effective : Nat}
    (hsize : a.size ≤ kMaxVectorBytes) (hpos : 0 < effective)
    (hwithin : offset + effective ≤ a.size) :
    InStep worker memory (a.mapAt offset effective hsize hpos hwithin) where
  mirror := by
    intro i value hvalue
    by_cases hshadow : a.shadow = []
    · -- Fresh buffers are zero, and so is the worker's memory until the first upload.
      simp only [Alloc.mapAt, Alloc.ensureSized, hshadow, dite_true,
        List.getElem?_replicate] at hvalue
      split at hvalue
      · cases hvalue
        exact ha.unshadowed hshadow i
      · cases hvalue
    · simp only [Alloc.mapAt, Alloc.ensureSized, hshadow, dite_false] at hvalue
      exact ha.mirror i value hvalue
  unshadowed := fun hempty =>
    absurd hempty (a.ensureSized_shadow_ne_nil hsize (by omega))
  mapped := fun _ => rfl
  pending := fun _ => rfl

theorem InStep.unmap (ha : InStep worker memory a) : InStep worker memory a.unmap where
  mirror := ha.mirror
  unshadowed := ha.unshadowed
  mapped := fun hmapped => by cases hmapped
  pending := ha.pending

theorem InStep.writeShadow (ha : InStep worker memory a) (hmapped : a.isMapped = true)
    (offset : Nat) (bytes : List UInt8) : InStep worker memory (a.writeShadow offset bytes) where
  mirror := ha.mirror
  unshadowed := fun hempty => ha.unshadowed (by simpa [Alloc.writeShadow] using hempty)
  mapped := fun _ => ha.mapped hmapped
  pending := fun _ => ha.mapped hmapped

theorem InStep.fresh (size typeIndex : Nat) (hostVisible hostCoherent : Bool)
    (hzero : ∀ i, worker (memory, i) = 0) :
    InStep worker memory (.fresh size typeIndex hostVisible hostCoherent) where
  mirror := by simp [Alloc.fresh]
  unshadowed := fun _ => hzero
  mapped := by simp [Alloc.fresh]
  pending := by simp [Alloc.fresh]

/-- The unfiltered sweep drops a candidate only when there is nothing to send. -/
theorem InStep.sweepFlags (ha : InStep worker memory a) :
    InStep worker memory (MappedMemoryTracker.sweepFlags none memory a) where
  mirror := by simpa using ha.mirror
  unshadowed := by simpa using ha.unshadowed
  mapped := by
    intro hmapped
    rw [MappedMemoryTracker.sweepFlags_isMapped] at hmapped
    simp [MappedMemoryTracker.sweepFlags_candidate, ha.mapped hmapped, hmapped]
  pending := by
    intro hdiffer
    rw [MappedMemoryTracker.sweepFlags_shadow,
      MappedMemoryTracker.sweepFlags_lastUploaded] at hdiffer
    obtain ⟨b, hb, hdirty⟩ := MappedMemoryTracker.differing_byte hdiffer
    have htakes := (MappedMemoryTracker.sweepTakes_none_iff memory a b).mpr
      ⟨ha.pending hdiffer, hb, hdirty⟩
    exact htakes.candidate

/-- A commit and the worker's scatter of the same frame move in step. -/
theorem InStep.commit (ha : InStep worker memory a) {frame : DirtySnapshot}
    (hcells : ∀ i, (memory, i) ∈ frame.cells → a.candidate = true ∧ i < a.shadow.length)
    (hlength : frame.payload.length = frame.rangeBytes) :
    InStep (scatter worker frame.byteWrites) memory (a.scatterMirror memory frame.byteWrites) where
  mirror := by
    intro i value hvalue
    rw [Alloc.scatterMirror, Alloc.withMirror, scatterBytes_getElem?,
      Option.map_eq_some_iff] at hvalue
    obtain ⟨old, hold, rfl⟩ := hvalue
    rw [scatter, ha.mirror i old hold]
  unshadowed := by
    intro hempty i
    have hshadow : a.shadow = [] := hempty
    rw [scatter_of_not_mem, ha.unshadowed hshadow i]
    rw [frame.byteWrites_map_fst hlength]
    intro hcell
    simpa [hshadow] using (hcells i hcell).2
  mapped := ha.mapped
  pending := by
    intro hdiffer
    by_cases htouched : ∃ i, (memory, i) ∈ frame.cells
    · obtain ⟨i, hi⟩ := htouched
      exact (hcells i hi).1
    · have hsame : a.scatterMirror memory frame.byteWrites = a := by
        apply a.scatterMirror_other
        rintro write hwrite rfl
        refine htouched ⟨write.1.2, ?_⟩
        rw [← frame.byteWrites_map_fst hlength]
        exact List.mem_map_of_mem hwrite
      rw [hsame] at hdiffer ⊢
      exact ha.pending hdiffer

end Preservation

theorem InStep.mirror_eq {worker : Nat × Nat → UInt8} {memory : Nat} {a : Alloc}
    (ha : InStep worker memory a) (hshadow : a.shadow ≠ []) :
    a.lastUploaded = (List.range a.size).map fun i => worker (memory, i) := by
  have hlength : a.lastUploaded.length = a.size := by
    rw [a.mirror_length, Alloc.size_eq_length hshadow]
  refine List.ext_getElem (by simpa using hlength) fun i hi _ => ?_
  rw [List.getElem_map, List.getElem_range]
  exact (ha.mirror i _ (List.getElem?_eq_getElem hi)).symm

/-- Frames stay inside candidates' buffers when flags and lengths are kept. -/
theorem InFlightOk.mono {t next : MappedMemoryTracker} {frame : DirtySnapshot}
    (hframe : InFlightOk t frame)
    (hkept : ∀ (memory : Nat) (a : Alloc), t.allocs[memory]? = some a → ∃ b : Alloc,
      next.allocs[memory]? = some b ∧ b.candidate = a.candidate ∧
        b.shadow.length = a.shadow.length) : InFlightOk next frame where
  frame_ok := hframe.frame_ok
  cells := by
    intro cell hcell
    obtain ⟨a, hlookup, hcandidate, hwithin⟩ := hframe.cells cell hcell
    obtain ⟨b, hb, hflag, hlength⟩ := hkept cell.1 a hlookup
    exact ⟨b, hb, hflag.trans hcandidate, hlength.symm ▸ hwithin⟩

theorem InFlightOk.fits {t : MappedMemoryTracker} {frame : DirtySnapshot}
    (hframe : InFlightOk t frame) : t.Fits frame := by
  refine MappedMemoryTracker.fits_of_cells_within hframe.frame_ok.ranges_pos ?_
  intro cell hcell a hlookup
  obtain ⟨other, hother, -, hwithin⟩ := hframe.cells cell hcell
  rw [hlookup, Option.some_inj] at hother
  rw [a.mirror_length, hother]
  exact hwithin

namespace UploadState

variable {s : UploadState}

private theorem Ok.insert (hok : s.Ok) {memory : Nat} {replaced : Alloc}
    (hreplaced : InStep s.worker memory replaced) {tracker : MappedMemoryTracker}
    (hallocs : tracker.allocs = s.tracker.allocs.insert memory replaced) :
    ∀ key a, tracker.allocs[key]? = some a → InStep s.worker key a := by
  intro key a hlookup
  rw [hallocs] at hlookup
  rcases Table.insert_cases hlookup with ⟨rfl, rfl⟩ | hlookup
  · exact hreplaced
  · exact hok.allocs key a hlookup

/-- The frames of an aligned snapshot inside candidates may go in flight. -/
theorem frames_spec {t : MappedMemoryTracker} {snap : DirtySnapshot} (haligned : snap.Aligned)
    (hcells : ∀ cell ∈ snap.cells, ∃ a, t.allocs[cell.1]? = some a ∧
      a.candidate = true ∧ cell.2 < a.shadow.length) :
    ∃ frames, snap.frames = some frames ∧ (∀ frame ∈ frames, InFlightOk t frame) ∧
      frames.flatMap DirtySnapshot.byteWrites = snap.byteWrites := by
  obtain ⟨frames, hsplit, hframes, hwrites, hsame⟩ := haligned.exists_frames
  refine ⟨frames, hsplit, fun frame hframe => ?_, hwrites⟩
  refine ⟨hframes frame hframe, fun cell hcell => hcells cell ?_⟩
  rw [← hsame]
  exact List.mem_flatMap.mpr ⟨frame, hframe, hcell⟩

/-- The snapshot of an accepted flush lies inside mapped candidates. -/
private theorem flush_cells (hok : s.Ok) {ranges : List MemRange} {snap : DirtySnapshot}
    (hsnap : s.tracker.snapshotExplicit ranges = .ok snap) :
    ∀ cell ∈ snap.cells, ∃ a, s.tracker.allocs[cell.1]? = some a ∧
      a.candidate = true ∧ cell.2 < a.shadow.length := by
  have hgathers := MappedMemoryTracker.snapshotExplicit_gathers hsnap
  intro cell hcell
  obtain ⟨a, hlookup, hb, hdirty, c, -, iv, hiv, -⟩ :=
    (hgathers.cells_iff cell.1 cell.2).mp hcell
  obtain ⟨other, hother, hmapped, -⟩ := MappedMemoryTracker.flushIntervals_bounds hiv
  rw [hlookup, Option.some_inj] at hother
  subst hother
  have hsize := (a.chunkDirty_within hdirty).1
  exact ⟨a, hlookup, (hok.allocs _ a hlookup).mapped hmapped, by omega⟩

variable (t : MappedMemoryTracker)

/-- The snapshot of a sweep lies inside allocations that stay candidates. -/
private theorem sweep_cells : ∀ cell ∈ (t.snapshotPending none).1.cells,
      ∃ a, (t.snapshotPending none).2.allocs[cell.1]? = some a ∧
        a.candidate = true ∧ cell.2 < a.shadow.length := by
  have hgathers := MappedMemoryTracker.snapshotPending_gathers none t
  intro cell hcell
  obtain ⟨a, hlookup, htakes⟩ := (hgathers.cells_iff cell.1 cell.2).mp hcell
  refine ⟨_, ?_, htakes.candidate, ?_⟩
  · rw [MappedMemoryTracker.snapshotPending_lookup, hlookup]
    rfl
  · rw [MappedMemoryTracker.sweepFlags_shadow, (a.chunkDirty_within htakes.2.2.1).1]
    exact htakes.2.1

private theorem lockedStep_ok (hok : s.Ok) (hidle : s.inFlight = []) {op : UploadOp}
    {next : UploadState} (hstep : s.lockedStep op = some next) : next.Ok := by
  have htracked : ∀ result, (∀ tracker, result = .ok tracker →
      ∀ memory a, tracker.allocs[memory]? = some a → InStep s.worker memory a) →
      Ok { s with tracker := s.tracker.settle result } := by
    intro result hresult
    cases result with
    | error message => exact hok
    | ok tracker => exact ⟨hresult tracker rfl, by simp [hidle]⟩
  cases op with
  | allocate memory size typeIndex hostVisible hostCoherent =>
    cases hstep
    refine ⟨fun key a hlookup => ?_, by simp [hidle]⟩
    simp only [MappedMemoryTracker.onAllocate, Table.getElem?_insert_eq] at hlookup
    split at hlookup
    · next hkey =>
        cases hlookup
        exact InStep.fresh _ _ _ _ fun i => by simp [hkey]
    · next hkey =>
        have ha := hok.allocs key a hlookup
        have hother : ∀ i, (if key = memory then (0 : UInt8) else s.worker (key, i)) =
            s.worker (key, i) := fun i => if_neg fun heq => hkey heq.symm
        exact ⟨fun i value hvalue => (hother i).trans (ha.mirror i value hvalue),
          fun hempty i => (hother i).trans (ha.unshadowed hempty i), ha.mapped, ha.pending⟩
  | map memory offset size =>
    cases hstep
    refine htracked _ fun tracker hresult => ?_
    obtain ⟨a, effective, hsize, hpos, hwithin, hlookup, -, hallocs⟩ :=
      MappedMemoryTracker.onMap_ok hresult
    exact hok.insert ((hok.allocs memory a hlookup).mapAt hsize hpos hwithin) hallocs
  | unmap memory =>
    cases hstep
    refine htracked _ fun tracker hresult => ?_
    obtain ⟨a, hlookup, hallocs⟩ := MappedMemoryTracker.onUnmap_ok hresult
    exact hok.insert (hok.allocs memory a hlookup).unmap hallocs
  | free memory =>
    cases hstep
    refine htracked _ fun tracker hresult key a hlookup => ?_
    rw [MappedMemoryTracker.onFree_ok hresult] at hlookup
    exact hok.allocs key a (Table.of_erase hlookup)
  | flush ranges =>
    simp only [lockedStep] at hstep
    split at hstep
    · cases hstep
      exact hok
    · next snap hsnap =>
        obtain ⟨frames, hframes, hinFlight, -⟩ := frames_spec
          (MappedMemoryTracker.snapshotExplicit_gathers hsnap).aligned (flush_cells hok hsnap)
        rw [hframes] at hstep
        cases hstep
        exact ⟨hok.allocs, hinFlight⟩
  | sweep =>
    obtain ⟨frames, hframes, hinFlight, -⟩ := frames_spec
      (MappedMemoryTracker.snapshotPending_gathers none s.tracker).aligned (sweep_cells s.tracker)
    simp only [lockedStep, hframes] at hstep
    cases hstep
    refine ⟨fun memory a hlookup => ?_, hinFlight⟩
    simp only [MappedMemoryTracker.snapshotPending_lookup, Option.map_eq_some_iff] at hlookup
    obtain ⟨before, hbefore, rfl⟩ := hlookup
    exact (hok.allocs memory before hbefore).sweepFlags
  | write memory offset bytes => cases hstep
  | ship succeeds => cases hstep
  | abandon => cases hstep

private theorem Ok.ship (hok : s.Ok) {frame : DirtySnapshot} {rest : List DirtySnapshot}
    (hframes : s.inFlight = frame :: rest) :
    UploadState.Ok
      { tracker := s.tracker.commit frame
        worker := scatter s.worker frame.byteWrites
        inFlight := rest } := by
  have hframe := hok.frames frame (by simp [hframes])
  have hlength := hframe.frame_ok.payload_length
  have hlookup := s.tracker.commit_lookup frame hlength hframe.fits
  refine ⟨fun memory a ha => ?_, fun other hother => ?_⟩
  · rw [hlookup, Option.map_eq_some_iff] at ha
    obtain ⟨before, hbefore, rfl⟩ := ha
    refine (hok.allocs memory before hbefore).commit (fun i hi => ?_) hlength
    obtain ⟨found, hfound, hcandidate, hwithin⟩ := hframe.cells (memory, i) hi
    rw [hbefore, Option.some_inj] at hfound
    exact ⟨hfound ▸ hcandidate, hfound ▸ hwithin⟩
  · refine (hok.frames other (by simp [hframes, hother])).mono fun memory a ha => ?_
    exact ⟨a.scatterMirror memory frame.byteWrites, by rw [hlookup, ha]; rfl, rfl, rfl⟩

theorem step_ok {op : UploadOp} {next : UploadState} (hok : s.Ok)
    (hstep : s.step op = some next) : next.Ok := by
  have hlocked : ∀ locked, (if s.inFlight = [] then s.lockedStep locked else none) = some next →
      next.Ok := by
    intro locked hlocked
    split at hlocked
    · next hidle => exact lockedStep_ok hok hidle hlocked
    · cases hlocked
  cases op with
  | write memory offset bytes =>
    obtain ⟨tracker, hwrite, rfl⟩ := Option.map_eq_some_iff.mp hstep
    obtain ⟨a, hlookup, hmapped, -, hallocs⟩ := MappedMemoryTracker.appWrite_some hwrite
    refine ⟨hok.insert ((hok.allocs memory a hlookup).writeShadow hmapped offset bytes) hallocs,
      fun frame hframe => (hok.frames frame hframe).mono fun key b hb => ?_⟩
    rw [hallocs, Table.getElem?_insert_eq]
    by_cases hkey : memory = key
    · subst hkey
      rw [hlookup, Option.some_inj] at hb
      subst hb
      exact ⟨_, if_pos rfl, rfl, by simp [Alloc.writeShadow]⟩
    · exact ⟨b, (if_neg hkey).trans hb, rfl, rfl⟩
  | ship succeeds =>
    simp only [step] at hstep
    split at hstep
    · cases hstep
    · next frame rest hframes =>
        split at hstep
        · cases hstep
          exact hok.ship hframes
        · cases hstep
          exact ⟨hok.allocs, fun other hother => hok.frames other (by simp [hframes, hother])⟩
  | abandon =>
    cases hstep
    exact ⟨hok.allocs, by simp⟩
  | allocate | map | unmap | free | flush | sweep => exact hlocked _ hstep

theorem ok_start : UploadState.Ok {} := ⟨by simp, by simp⟩

/-- When every attempt succeeds, all frames are scattered and committed. -/
private theorem run_ship_all (frames : List DirtySnapshot) (s : UploadState)
    (hframes : s.inFlight = frames) :
    run step s (List.replicate frames.length (.ship true)) = some
      { tracker := frames.foldl MappedMemoryTracker.commit s.tracker
        worker := scatter s.worker (frames.flatMap DirtySnapshot.byteWrites)
        inFlight := [] } := by
  induction frames generalizing s with
  | nil => cases s; cases hframes; rfl
  | cons frame rest ih =>
    have hstep : s.step (.ship true) = some
        { tracker := s.tracker.commit frame
          worker := scatter s.worker frame.byteWrites
          inFlight := rest } := by
      simp [step, hframes]
    rw [List.length_cons, List.replicate_succ, run_cons, hstep, Option.bind_some, ih _ rfl]
    simp [scatter_append]

/-- The mirror after committing a whole unfiltered sweep is the shadow, when only
candidates had bytes to send. -/
theorem sweep_acknowledges {memory : Nat} {a : Alloc} (hlookup : t.allocs[memory]? = some a)
    (hpending : a.shadow ≠ a.lastUploaded → a.candidate = true) :
    ((MappedMemoryTracker.sweepFlags none memory a).scatterMirror memory
      (t.snapshotPending none).1.byteWrites).lastUploaded = a.shadow := by
  have hgathers := MappedMemoryTracker.snapshotPending_gathers none t
  refine List.ext_getElem? fun i => ?_
  rw [Alloc.scatterMirror, Alloc.withMirror, scatterBytes_getElem?,
    MappedMemoryTracker.sweepFlags_lastUploaded]
  by_cases hships : t.SweepShips none memory i
  · have hlt : i < a.shadow.length := by
      obtain ⟨other, hother, htakes⟩ := hships
      rw [hlookup, Option.some_inj] at hother
      subst hother
      rw [(a.chunkDirty_within htakes.2.2.1).1]
      exact htakes.2.1
    have hbyte : t.shadowAt memory i = some a.shadow[i] := by
      rw [MappedMemoryTracker.shadowAt, hlookup]
      exact List.getElem?_eq_getElem hlt
    rw [hgathers.lastWrite_of_shipped hships, hbyte, List.getElem?_eq_getElem hlt,
      List.getElem?_eq_getElem (a.mirror_length ▸ hlt)]
    rfl
  · -- A byte that is not shipped lies in a clean chunk, or its allocation is clean.
    have hsame : a.shadow[i]? = a.lastUploaded[i]? := by
      by_contra hdiffer
      have hne : a.shadow ≠ a.lastUploaded := fun heq => hdiffer (by rw [heq])
      have hdirty := (a.chunkDirty_iff (i / kChunkBytes)).mpr ⟨i, rfl, hdiffer⟩
      have hlt : i < a.size := by
        by_contra hpast
        have hsize := (a.chunkDirty_within hdirty).1
        have hmirror := a.mirror_length
        rw [List.getElem?_eq_none (by omega), List.getElem?_eq_none (by omega)] at hdiffer
        exact hdiffer rfl
      exact hships ⟨a, hlookup, (MappedMemoryTracker.sweepTakes_none_iff memory a i).mpr
        ⟨hpending hne, hlt, hdirty⟩⟩
    rw [hgathers.lastWrite_of_not_shipped hships, hsame]
    simp

/-- In every run, whatever attempts succeed or fail: the mirror is the worker's
memory; an allocation whose shadow differs from the worker's memory is still a
candidate; and a sweep all of whose frames succeed, with no store in between,
leaves shadow, mirror and worker equal on every allocation with a shadow. -/
theorem upload_runs_stay_in_step (ops : List UploadOp) (s : UploadState)
    (hrun : run step {} ops = some s) :
    (∀ (memory : Nat) (a : Alloc), s.tracker.allocs[memory]? = some a → a.shadow ≠ [] →
      a.lastUploaded = s.workerBytes memory a.size) ∧
    (∀ (memory : Nat) (a : Alloc), s.tracker.allocs[memory]? = some a → a.shadow ≠ [] →
      a.shadow ≠ s.workerBytes memory a.size → a.candidate = true) ∧
    (s.inFlight = [] → ∃ swept done,
      s.step .sweep = some swept ∧
      run step swept (List.replicate swept.inFlight.length (.ship true)) = some done ∧
      done.inFlight = [] ∧
      ∀ (memory : Nat) (a : Alloc), done.tracker.allocs[memory]? = some a → a.shadow ≠ [] →
        a.shadow = a.lastUploaded ∧ a.lastUploaded = done.workerBytes memory a.size) := by
  have hok : s.Ok := run_invariant (fun _ _ _ hok hstep => step_ok hok hstep) ok_start hrun
  refine ⟨fun memory a hlookup hshadow => (hok.allocs memory a hlookup).mirror_eq hshadow,
    fun memory a hlookup hshadow hdiffer => ?_, fun hidle => ?_⟩
  · have ha := hok.allocs memory a hlookup
    exact ha.pending fun heq => hdiffer (heq.trans (ha.mirror_eq hshadow))
  · have hgathers := MappedMemoryTracker.snapshotPending_gathers none s.tracker
    obtain ⟨frames, hsplit, hframes, hwrites⟩ :=
      frames_spec hgathers.aligned (sweep_cells s.tracker)
    have hstep : s.step .sweep = some
        { s with tracker := (s.tracker.snapshotPending none).2, inFlight := frames } := by
      simp [step, hidle, lockedStep, hsplit]
    have hships := run_ship_all frames
      { s with tracker := (s.tracker.snapshotPending none).2, inFlight := frames } rfl
    have hdone := run_invariant (fun _ _ _ hok hstep => step_ok hok hstep)
      (step_ok hok hstep) hships
    refine ⟨_, _, hstep, hships, rfl, fun memory a hlookup hshadow =>
      ⟨?_, (hdone.allocs memory a hlookup).mirror_eq hshadow⟩⟩
    rw [MappedMemoryTracker.commitAll_lookup frames _
        (fun frame hframe => (hframes frame hframe).frame_ok.payload_length)
        (fun frame hframe => (hframes frame hframe).fits), hwrites] at hlookup
    obtain ⟨swept, hswept, rfl⟩ := Option.map_eq_some_iff.mp hlookup
    rw [MappedMemoryTracker.snapshotPending_lookup, Option.map_eq_some_iff] at hswept
    obtain ⟨before, hbefore, rfl⟩ := hswept
    rw [sweep_acknowledges s.tracker hbefore (hok.allocs memory before hbefore).pending]
    exact MappedMemoryTracker.sweepFlags_shadow

theorem upload_run_with_a_failed_ship :
    ∃ s, run step {} [.allocate 1 2 0 true true, .map 1 0 2, .write 1 0 [5, 6], .sweep,
        .ship false, .write 1 1 [7], .sweep, .ship true] = some s ∧
      ∀ (memory : Nat) (a : Alloc), s.tracker.allocs[memory]? = some a → a.shadow ≠ [] →
        a.lastUploaded = s.workerBytes memory a.size := by
  have hdefined : (run step {} [.allocate 1 2 0 true true, .map 1 0 2, .write 1 0 [5, 6], .sweep,
      .ship false, .write 1 1 [7], .sweep, .ship true]).isSome = true := by
    decide
  obtain ⟨s, hs⟩ := Option.isSome_iff_exists.mp hdefined
  exact ⟨s, hs, (upload_runs_stay_in_step _ s hs).1⟩

end UploadState

end VkRelay.Memory
