import VkRelay.Memory.PageFilter
import VkRelay.Memory.Upload

/-!
The soft-dirty epochs of the submit-time sweep, over whole runs. A reset of the
kernel's bits is followed by a full diff, a failed upload asks for a fresh one,
and so does an exception that `QueueSubmit` or `QueueSubmit2` catches.
`FreeMemory` drives the same sweep when a lease still needs the bytes, and its
handler asks for nothing.

`written` is not part of the program: it records which bytes the application
stored since the last reset, which is what the kernel's bits stand for. The reset
and the snapshot behind it are one step; stores fall anywhere else.
-/

namespace VkRelay.Memory

open VkRelay.Lib

/-- The entry point that runs `coherent_flush_at_submit_locked`. -/
inductive SweepDriver where
  | submit
  | free
deriving DecidableEq

inductive ShipOutcome where
  | acknowledged
  | rejected
  | threw
deriving DecidableEq

/-- The tracker and the globals of the sweep, the frames not yet attempted, and
who sends them: a sweep's driver, or `none` for an explicit flush. -/
structure EpochState where
  tracker : MappedMemoryTracker := {}
  softdirtyTried : Bool := false
  softdirtyOn : Bool := false
  sweepCounter : Nat := 0
  written : Nat × Nat → Bool := fun _ => false
  inFlight : List DirtySnapshot := []
  driver : Option SweepDriver := none

inductive EpochOp where
  | allocate (memory size typeIndex : Nat) (hostVisible hostCoherent : Bool)
  | map (memory offset size : Nat)
  | unmap (memory : Nat)
  | free (memory : Nat)
  | write (memory offset : Nat) (bytes : List UInt8)
  | readback (memory : Nat) (bytes : List UInt8)
  | flush (ranges : List MemRange)
  | sweep (driver : SweepDriver) (initOk resetOk : Bool) (filter : PageFilter)
  | sweepThrows (driver : SweepDriver) (initOk resetOk : Bool) (filter : PageFilter)
      (stop : Nat) (flagged : Bool)
  | ship (outcome : ShipOutcome)
  | submitThrows

namespace EpochState

/-- The self-test before the first sweep. It resets the bits itself. -/
def tryInit (s : EpochState) (initOk : Bool) : EpochState :=
  if s.softdirtyTried then s
  else
    { s with
      softdirtyTried := true
      softdirtyOn := initOk
      written := if initOk then fun _ => false else s.written }

/-- Every `every`-th sweep resets the bits and asks for full diffs. -/
def tryReset (every : Nat) (s : EpochState) (resetOk : Bool) : EpochState :=
  if s.softdirtyOn ∧ s.sweepCounter % every = 0 then
    if resetOk then { s with written := fun _ => false, tracker := s.tracker.forceRebaseline }
    else { s with softdirtyOn := false }
  else s

def beginSweep (every : Nat) (s : EpochState) (initOk resetOk : Bool) : EpochState :=
  let ready := (s.tryInit initOk).tryReset every resetOk
  { ready with sweepCounter := (ready.sweepCounter + 1) % 2 ^ 64 }

def activeFilter (s : EpochState) (filter : PageFilter) : Option PageFilter :=
  if s.softdirtyOn then some filter else none

def abandon (s : EpochState) : EpochState := { s with inFlight := [] }

/-- Fresh full-diff baselines, while the filter is in use. -/
def rebaseline (s : EpochState) : EpochState :=
  if s.softdirtyOn then { s with tracker := s.tracker.forceRebaseline } else s

/-- The handler of an exception: the submit entry points rebaseline, `FreeMemory`
and the explicit flush do not. -/
def caught (s : EpochState) (driver : Option SweepDriver) : EpochState :=
  if driver = some .submit then s.rebaseline else s

/-- The flags a sweep that throws at allocation `stop` has left behind; `flagged`
says whether that allocation's own baseline was already marked. -/
def unfinishedFlags (filter : Option PageFilter) (stop : Nat) (flagged : Bool) (key : Nat)
    (a : Alloc) : Alloc :=
  if key < stop then MappedMemoryTracker.sweepFlags filter key a
  else if key = stop ∧ flagged then
    { a with baselineDone := (MappedMemoryTracker.sweepFlags filter key a).baselineDone }
  else a

/-- The calls made under the lock, with no frame of an earlier call pending. -/
def lockedStep (every : Nat) (s : EpochState) : EpochOp → Option EpochState
  | .allocate memory size typeIndex hostVisible hostCoherent =>
    some { s with
      tracker := s.tracker.onAllocate memory size typeIndex hostVisible hostCoherent }
  | .map memory offset size =>
    some { s with tracker := s.tracker.settle (s.tracker.onMap memory offset size) }
  | .unmap memory => some { s with tracker := s.tracker.settle (s.tracker.onUnmap memory) }
  | .free memory => some { s with tracker := s.tracker.settle (s.tracker.onFree memory) }
  | .readback memory bytes => some { s with tracker := s.tracker.applyReadback memory bytes }
  | .flush ranges =>
    match s.tracker.snapshotExplicit ranges with
    | .error _ => some s
    | .ok snap => snap.frames.map fun frames => { s with inFlight := frames, driver := none }
  | .sweep driver initOk resetOk filter =>
    let ready := s.beginSweep every initOk resetOk
    let (snap, tracker) := ready.tracker.snapshotPending (ready.activeFilter filter)
    snap.frames.map fun frames => { ready with tracker, inFlight := frames, driver }
  | .sweepThrows driver initOk resetOk filter stop flagged =>
    let ready := s.beginSweep every initOk resetOk
    let flags := unfinishedFlags (ready.activeFilter filter) stop flagged
    some ({ ready with tracker := ⟨ready.tracker.allocs.map flags⟩ }.caught (some driver))
  | .submitThrows => some (s.caught (some .submit))
  | _ => none

/-- One step. A store needs the mapping but not the lock; an attempt takes the
next frame in flight, and a sweep whose upload is rejected rebaselines itself. -/
def step (every : Nat) (s : EpochState) : EpochOp → Option EpochState
  | .write memory offset bytes =>
    (s.tracker.appWrite memory offset bytes).map fun tracker =>
      { s with
        tracker := tracker
        written := fun cell => s.written cell ||
          decide (cell.1 = memory ∧ offset ≤ cell.2 ∧ cell.2 < offset + bytes.length) }
  | .ship outcome =>
    match s.inFlight with
    | [] => none
    | frame :: rest =>
      match outcome with
      | .acknowledged => some { s with tracker := s.tracker.commit frame, inFlight := rest }
      | .rejected => some (if s.driver.isSome then s.abandon.rebaseline else s.abandon)
      | .threw => some (s.abandon.caught s.driver)
  | op => if s.inFlight = [] then s.lockedStep every op else none

end EpochState

/-- A frame in flight fits the tracker, and carries the shadow's bytes but for
those stored since. -/
structure EpochFrame (t : MappedMemoryTracker) (written : Nat × Nat → Bool)
    (frame : DirtySnapshot) : Prop where
  length : frame.payload.length = frame.rangeBytes
  fits : t.Fits frame
  value : ∀ write ∈ frame.byteWrites,
    t.shadowAt write.1.1 write.1.2 = some write.2 ∨ written write.1 = true

/-- Every byte of a baselined allocation that is not acknowledged is written. -/
def Acknowledged (t : MappedMemoryTracker) (written : Nat × Nat → Bool)
    (pending : List (Nat × Nat)) : Prop :=
  ∀ (memory : Nat) (a : Alloc), t.allocs[memory]? = some a → a.baselineDone = true →
    ∀ b : Nat, a.shadow[b]? ≠ a.lastUploaded[b]? →
      written (memory, b) = true ∨ (memory, b) ∈ pending

namespace EpochState

/-- The cells that a sweep in progress still has to send. -/
def pendingCells (s : EpochState) : List (Nat × Nat) :=
  if s.driver.isSome then s.inFlight.flatMap DirtySnapshot.cells else []

structure Ok (s : EpochState) : Prop where
  untried : s.softdirtyTried = false → s.softdirtyOn = false ∧ s.sweepCounter = 0
  epoch : s.softdirtyOn = true → Acknowledged s.tracker s.written s.pendingCells
  frames : ∀ frame ∈ s.inFlight, EpochFrame s.tracker s.written frame

end EpochState

section Acknowledged

variable {t next : MappedMemoryTracker} {written : Nat × Nat → Bool} {pending : List (Nat × Nat)}

theorem acknowledged_forceRebaseline (t : MappedMemoryTracker) (written : Nat × Nat → Bool)
    (pending : List (Nat × Nat)) : Acknowledged t.forceRebaseline written pending := by
  intro memory a hlookup hbaseline
  simp only [MappedMemoryTracker.forceRebaseline, Std.ExtTreeMap.getElem?_map,
    Option.map_eq_some_iff] at hlookup
  obtain ⟨before, -, rfl⟩ := hlookup
  cases hbaseline

theorem Acknowledged.insert (hack : Acknowledged t written pending) {memory : Nat}
    {replaced : Alloc} (hallocs : next.allocs = t.allocs.insert memory replaced)
    (hreplaced : replaced.baselineDone = true → ∀ b : Nat,
      replaced.shadow[b]? ≠ replaced.lastUploaded[b]? →
        written (memory, b) = true ∨ (memory, b) ∈ pending) :
    Acknowledged next written pending := by
  intro key a hlookup
  rw [hallocs] at hlookup
  rcases Table.insert_cases hlookup with ⟨rfl, rfl⟩ | hlookup
  · exact hreplaced
  · exact hack key a hlookup

theorem Acknowledged.mono {more : Nat × Nat → Bool} (hack : Acknowledged t written pending)
    (hmore : ∀ cell, written cell = true → more cell = true) : Acknowledged t more pending := by
  intro memory a hlookup hbaseline b hdiffers
  exact (hack memory a hlookup hbaseline b hdiffers).imp_left (hmore _)

theorem Acknowledged.onMap (hack : Acknowledged t written pending) {memory offset size : Nat}
    (hok : t.onMap memory offset size = .ok next) : Acknowledged next written pending := by
  obtain ⟨a, effective, hsize, hpos, hwithin, hlookup, -, hallocs⟩ :=
    MappedMemoryTracker.onMap_ok hok
  apply hack.insert hallocs
  intro hbaseline b hdiffers
  by_cases hshadow : a.shadow = []
  · simp [Alloc.mapAt, Alloc.ensureSized, hshadow] at hdiffers
  · simp only [Alloc.mapAt, Alloc.ensureSized, hshadow, dite_false] at hbaseline hdiffers
    exact hack memory a hlookup hbaseline b hdiffers

theorem Acknowledged.onUnmap (hack : Acknowledged t written pending) {memory : Nat}
    (hok : t.onUnmap memory = .ok next) : Acknowledged next written pending := by
  obtain ⟨a, hlookup, hallocs⟩ := MappedMemoryTracker.onUnmap_ok hok
  exact hack.insert hallocs (hack memory a hlookup)

theorem Acknowledged.onFree (hack : Acknowledged t written pending) {memory : Nat}
    (hok : t.onFree memory = .ok next) : Acknowledged next written pending := by
  intro key a hlookup
  rw [MappedMemoryTracker.onFree_ok hok] at hlookup
  exact hack key a (Table.of_erase hlookup)

theorem Acknowledged.onAllocate (hack : Acknowledged t written pending)
    (memory size typeIndex : Nat) (hostVisible hostCoherent : Bool) :
    Acknowledged (t.onAllocate memory size typeIndex hostVisible hostCoherent) written pending := by
  apply hack.insert rfl
  intro hbaseline
  cases hbaseline

/-- A download replaces both buffers, or nothing. -/
theorem Acknowledged.applyReadback (hack : Acknowledged t written pending) (memory : Nat)
    (bytes : List UInt8) : Acknowledged (t.applyReadback memory bytes) written pending := by
  unfold MappedMemoryTracker.applyReadback
  split
  · exact hack
  · split
    · apply hack.insert rfl
      intro _ b hdiffers
      exact absurd rfl hdiffers
    · exact hack

/-- A store adds the bytes it may have changed to the written ones. -/
theorem Acknowledged.appWrite (hack : Acknowledged t written pending) {memory offset : Nat}
    {bytes : List UInt8} (hok : t.appWrite memory offset bytes = some next) :
    Acknowledged next (fun cell => written cell ||
      decide (cell.1 = memory ∧ offset ≤ cell.2 ∧ cell.2 < offset + bytes.length)) pending := by
  obtain ⟨a, hlookup, -, -, hallocs⟩ := MappedMemoryTracker.appWrite_some hok
  have hmore : Acknowledged t (fun cell => written cell ||
      decide (cell.1 = memory ∧ offset ≤ cell.2 ∧ cell.2 < offset + bytes.length)) pending := by
    apply hack.mono
    intro cell hcell
    simp [hcell]
  apply hmore.insert hallocs
  intro hbaseline b hdiffers
  by_cases hspan : offset ≤ b ∧ b < offset + bytes.length
  · simp [hspan.1, hspan.2]
  · have hkept : (a.writeShadow offset bytes).shadow[b]? = a.shadow[b]? := by
      apply blit_getElem?_outside
      omega
    rw [hkept] at hdiffers
    exact hmore memory a hlookup hbaseline b hdiffers

/-- An acknowledged frame leaves only the later frames pending. -/
theorem Acknowledged.commit {frame : DirtySnapshot}
    (hack : Acknowledged t written (frame.cells ++ pending)) (hframe : EpochFrame t written frame) :
    Acknowledged (t.commit frame) written pending := by
  intro memory a hlookup hbaseline b hdiffers
  rw [t.commit_lookup frame hframe.length hframe.fits, Option.map_eq_some_iff] at hlookup
  obtain ⟨before, hbefore, rfl⟩ := hlookup
  simp only [Alloc.scatterMirror, Alloc.withMirror, scatterBytes_getElem?] at hbaseline hdiffers
  cases hlast : lastWrite frame.byteWrites (memory, b) with
  | none =>
    have hother : (memory, b) ∉ frame.cells := by
      rw [← frame.byteWrites_map_fst hframe.length]
      exact (lastWrite_eq_none_iff _ _).mp hlast
    simp only [hlast, Option.getD_none, Option.map_id_fun', id_eq] at hdiffers
    rcases hack memory before hbefore hbaseline b hdiffers with hwritten | hpending
    · exact Or.inl hwritten
    · exact Or.inr ((List.mem_append.mp hpending).resolve_left hother)
  | some value =>
    rcases hframe.value _ (mem_of_lastWrite hlast) with hshadow | hwritten
    · rw [MappedMemoryTracker.shadowAt, hbefore, Option.bind_some] at hshadow
      -- The mirror now holds the byte that the shadow still holds.
      have hlength : b < before.lastUploaded.length := by
        rw [before.mirror_length]
        exact (List.getElem?_eq_some_iff.mp hshadow).1
      rw [hlast, hshadow, List.getElem?_eq_getElem hlength] at hdiffers
      exact absurd rfl hdiffers
    · exact Or.inl hwritten

/-- A full diff under the filter puts every unacknowledged byte of the allocation
it marks into the snapshot. -/
theorem Acknowledged.snapshotPending (filter : Option PageFilter)
    (hack : Acknowledged t written []) :
    Acknowledged (t.snapshotPending filter).2 written (t.snapshotPending filter).1.cells := by
  intro memory a hlookup hbaseline b hdiffers
  rw [MappedMemoryTracker.snapshotPending_lookup, Option.map_eq_some_iff] at hlookup
  obtain ⟨before, hbefore, rfl⟩ := hlookup
  rw [MappedMemoryTracker.sweepFlags_shadow,
    MappedMemoryTracker.sweepFlags_lastUploaded] at hdiffers
  by_cases hdone : before.baselineDone = true
  · exact Or.inl ((hack memory before hbefore hdone b hdiffers).resolve_right List.not_mem_nil)
  apply Or.inr
  rw [(MappedMemoryTracker.snapshotPending_gathers filter t).cells_iff]
  have hdirty := (before.chunkDirty_iff (b / kChunkBytes)).mpr ⟨b, rfl, hdiffers⟩
  have hsize := (before.chunkDirty_within hdirty).1
  have hb : b < before.size := by
    by_contra hpast
    have hmirror := before.mirror_length
    rw [List.getElem?_eq_none (by omega), List.getElem?_eq_none (by omega)] at hdiffers
    exact hdiffers rfl
  have hshadow : before.shadow ≠ [] := List.ne_nil_of_length_pos (by omega)
  unfold MappedMemoryTracker.sweepFlags at hbaseline
  split at hbaseline
  · next hcandidate =>
      have hfull : (MappedMemoryTracker.sweepWalk filter memory before).2 = true := by
        simp only [Bool.or_eq_true, Bool.and_eq_true] at hbaseline
        exact (hbaseline.resolve_left hdone).1
      have hcover : MappedMemoryTracker.filteredCover filter memory before = none := by
        cases hcover : MappedMemoryTracker.filteredCover filter memory before with
        | none => rfl
        | some cover => simp [MappedMemoryTracker.sweepWalk, hshadow, hcover] at hfull
      refine ⟨before, hbefore, hcandidate, hb, hdirty, b, rfl, ?_⟩
      rw [MappedMemoryTracker.sweepCover, if_neg hshadow, hcover]
      exact ⟨⟨0, before.size⟩, List.mem_singleton_self _, Nat.zero_le _, by simpa using hb⟩
  · exact absurd hbaseline hdone

end Acknowledged

section Frames

variable {t next : MappedMemoryTracker} {written : Nat × Nat → Bool} {frame : DirtySnapshot}

/-- The frames of a gathered snapshot carry its bytes, for a tracker with the
same buffers. -/
theorem epochFrames_of_gathers {shipped : Nat → Nat → Prop} {snap : DirtySnapshot}
    (hgathers : t.Gathers shipped snap)
    (hshadow : ∀ memory b, next.shadowAt memory b = t.shadowAt memory b)
    (hfits : ∀ frame, t.Fits frame → next.Fits frame) {frames : List DirtySnapshot}
    (hsplit : splitForUpload snap kMaxMemoryUploadBytes kFrameMaxRanges = some frames) :
    (∀ frame ∈ frames, EpochFrame next written frame) ∧
      frames.flatMap DirtySnapshot.cells = snap.cells := by
  obtain ⟨found, hfound, hframes, hwrites, hcells⟩ := hgathers.aligned.exists_frames
  obtain rfl : frames = found := Option.some.inj (hsplit.symm.trans hfound)
  refine ⟨fun frame hframe => ?_, hcells⟩
  constructor
  · exact (hframes frame hframe).payload_length
  · apply hfits
    apply hgathers.fits.of_frame (hframes frame hframe)
    intro cell hcell
    rw [← hcells]
    exact List.mem_flatMap.mpr ⟨frame, hframe, hcell⟩
  · intro write hwrite
    apply Or.inl
    rw [hshadow]
    apply hgathers.value
    rw [← hwrites]
    exact List.mem_flatMap.mpr ⟨frame, hframe, hwrite⟩

theorem EpochFrame.appWrite (hframe : EpochFrame t written frame) {memory offset : Nat}
    {bytes : List UInt8} (hok : t.appWrite memory offset bytes = some next) :
    EpochFrame next (fun cell => written cell ||
      decide (cell.1 = memory ∧ offset ≤ cell.2 ∧ cell.2 < offset + bytes.length)) frame := by
  obtain ⟨a, hlookup, -, -, hallocs⟩ := MappedMemoryTracker.appWrite_some hok
  constructor
  · exact hframe.length
  · intro x hx b hb
    rw [hallocs] at hb
    rcases Table.insert_cases hb with ⟨rfl, rfl⟩ | hb
    · exact hframe.fits x hx a hlookup
    · exact hframe.fits x hx b hb
  · intro write hwrite
    rcases hframe.value write hwrite with hshadow | hwritten
    · by_cases hspan : write.1.1 = memory ∧ offset ≤ write.1.2 ∧ write.1.2 < offset + bytes.length
      · apply Or.inr
        simp [hspan]
      · apply Or.inl
        rw [← hshadow, MappedMemoryTracker.shadowAt, MappedMemoryTracker.shadowAt, hallocs,
          Table.getElem?_insert_eq]
        split
        · next hkey =>
            rw [← hkey, hlookup, Option.bind_some, Option.bind_some]
            apply blit_getElem?_outside
            omega
        · rfl
    · apply Or.inr
      simp [hwritten]

theorem EpochFrame.commit {first : DirtySnapshot} (hframe : EpochFrame t written frame)
    (hfirst : EpochFrame t written first) : EpochFrame (t.commit first) written frame := by
  constructor
  · exact hframe.length
  · exact MappedMemoryTracker.commit_fits hfirst.length hfirst.fits hframe.fits
  · intro write hwrite
    have hsame : (t.commit first).shadowAt write.1.1 write.1.2 =
        t.shadowAt write.1.1 write.1.2 := by
      rw [MappedMemoryTracker.shadowAt, MappedMemoryTracker.shadowAt,
        t.commit_lookup first hfirst.length hfirst.fits]
      cases t.allocs[write.1.1]? <;> rfl
    rw [hsame]
    exact hframe.value write hwrite

/-- The flags of a sweep touch no buffer. -/
theorem snapshotPending_buffers (filter : Option PageFilter) (t : MappedMemoryTracker) :
    (∀ memory b, (t.snapshotPending filter).2.shadowAt memory b = t.shadowAt memory b) ∧
      ∀ frame, t.Fits frame → (t.snapshotPending filter).2.Fits frame := by
  constructor
  · intro memory b
    rw [MappedMemoryTracker.shadowAt, MappedMemoryTracker.shadowAt,
      MappedMemoryTracker.snapshotPending_lookup]
    cases t.allocs[memory]? with
    | none => rfl
    | some a => simp
  · intro frame hfits x hx a hlookup
    rw [MappedMemoryTracker.snapshotPending_lookup, Option.map_eq_some_iff] at hlookup
    obtain ⟨before, hbefore, rfl⟩ := hlookup
    rw [MappedMemoryTracker.sweepFlags_lastUploaded]
    exact hfits x hx before hbefore

end Frames

namespace EpochState

variable {every : Nat} {s : EpochState}

/-- The one step the handlers do not cover: an exception unwinds a sweep that
`FreeMemory` drives, while the filter is in use. It is harmless only when every
byte not yet acknowledged has been stored since the last reset. -/
def UnwindsCovered (every : Nat) (s : EpochState) : EpochOp → Prop
  | .ship .threw => s.driver = some .free → s.softdirtyOn = true →
      ∀ cell ∈ s.pendingCells, s.written cell = true
  | .sweepThrows .free initOk resetOk _ _ _ =>
    (s.beginSweep every initOk resetOk).softdirtyOn = false
  | _ => True

theorem Ok.tryInit (hok : s.Ok) (hidle : s.inFlight = []) (initOk : Bool) :
    (s.tryInit initOk).softdirtyTried = true ∧ ((s.tryInit initOk).softdirtyOn = true →
      (s.tryInit initOk).sweepCounter % every ≠ 0 →
        Acknowledged (s.tryInit initOk).tracker (s.tryInit initOk).written []) := by
  unfold EpochState.tryInit
  split
  · rename_i htried
    refine ⟨htried, fun hon _ => ?_⟩
    simpa [pendingCells, hidle] using hok.epoch hon
  · -- The first sweep has number zero, so a filter that works is reset at once.
    rename_i htried
    refine ⟨rfl, fun _ hnumber => absurd ?_ hnumber⟩
    simp [(hok.untried (by simpa using htried)).2]

/-- A sweep begins with every unacknowledged byte of a baselined allocation
written since the last reset. -/
theorem Ok.beginSweep (hok : s.Ok) (hidle : s.inFlight = []) (initOk resetOk : Bool) :
    (s.beginSweep every initOk resetOk).softdirtyTried = true ∧
      ((s.beginSweep every initOk resetOk).softdirtyOn = true →
        Acknowledged (s.beginSweep every initOk resetOk).tracker
          (s.beginSweep every initOk resetOk).written []) := by
  obtain ⟨htried, hready⟩ := @Ok.tryInit every s hok hidle initOk
  unfold EpochState.beginSweep tryReset
  dsimp only
  split_ifs with hreset
  · exact ⟨htried, fun _ => acknowledged_forceRebaseline _ _ _⟩
  · exact ⟨htried, nofun⟩
  · exact ⟨htried, fun hon => hready hon fun hnumber => hreset ⟨hon, hnumber⟩⟩

theorem ok_of_idle (hidle : s.inFlight = [])
    (huntried : s.softdirtyTried = false → s.softdirtyOn = false ∧ s.sweepCounter = 0)
    (hepoch : s.softdirtyOn = true → Acknowledged s.tracker s.written []) : s.Ok where
  untried := huntried
  epoch := by
    intro hon
    have hpending : s.pendingCells = [] := by
      simp [pendingCells, hidle]
    rw [hpending]
    exact hepoch hon
  frames := by simp [hidle]

theorem Ok.acknowledged (hok : s.Ok) (hidle : s.inFlight = []) (hon : s.softdirtyOn = true) :
    Acknowledged s.tracker s.written [] := by
  have hepoch := hok.epoch hon
  rwa [pendingCells, hidle, List.flatMap_nil, ite_self] at hepoch

theorem Ok.tracked (hok : s.Ok) (hidle : s.inFlight = [])
    {result : Except String MappedMemoryTracker}
    (hresult : ∀ tracker, result = .ok tracker → s.softdirtyOn = true →
      Acknowledged tracker s.written []) :
    Ok { s with tracker := s.tracker.settle result } := by
  cases result with
  | error message => exact hok
  | ok tracker => exact ok_of_idle hidle hok.untried (hresult tracker rfl)

/-- The handler leaves an idle state fine, whoever drove the call, if the filter
is off or nothing unacknowledged is lost. -/
theorem ok_caught (hidle : s.inFlight = [])
    (huntried : s.softdirtyTried = false → s.softdirtyOn = false ∧ s.sweepCounter = 0)
    {driver : Option SweepDriver} (hcovered : driver ≠ some .submit → s.softdirtyOn = true →
      Acknowledged s.tracker s.written []) : (s.caught driver).Ok := by
  by_cases hdriver : driver = some .submit
  · rw [caught, if_pos hdriver, rebaseline]
    split
    · exact ok_of_idle hidle huntried fun _ => acknowledged_forceRebaseline _ _ _
    · next hoff => exact ok_of_idle hidle huntried fun hon => absurd hon hoff
  · rw [caught, if_neg hdriver]
    exact ok_of_idle hidle huntried (hcovered hdriver)

theorem lockedStep_ok (hok : s.Ok) (hidle : s.inFlight = []) {op : EpochOp} {next : EpochState}
    (hcovered : UnwindsCovered every s op) (hstep : s.lockedStep every op = some next) :
    next.Ok := by
  have hack := fun hon => hok.acknowledged hidle hon
  cases op with
  | allocate memory size typeIndex hostVisible hostCoherent =>
    cases hstep
    exact ok_of_idle hidle hok.untried fun hon => (hack hon).onAllocate _ _ _ _ _
  | map memory offset size =>
    cases hstep
    exact hok.tracked hidle fun _ hresult hon => (hack hon).onMap hresult
  | unmap memory =>
    cases hstep
    exact hok.tracked hidle fun _ hresult hon => (hack hon).onUnmap hresult
  | free memory =>
    cases hstep
    exact hok.tracked hidle fun _ hresult hon => (hack hon).onFree hresult
  | readback memory bytes =>
    cases hstep
    exact ok_of_idle hidle hok.untried fun hon => (hack hon).applyReadback memory bytes
  | flush ranges =>
    simp only [lockedStep] at hstep
    split at hstep
    · cases hstep
      exact hok
    · next snap hsnap =>
        obtain ⟨frames, hsplit, rfl⟩ := Option.map_eq_some_iff.mp hstep
        obtain ⟨hframes, -⟩ := @epochFrames_of_gathers s.tracker s.tracker s.written _ snap
          (MappedMemoryTracker.snapshotExplicit_gathers hsnap) (fun _ _ => rfl)
          (fun _ hfits => hfits) frames hsplit
        exact ⟨hok.untried, hack, hframes⟩
  | sweep driver initOk resetOk filter =>
    obtain ⟨htried, hready⟩ := @Ok.beginSweep every s hok hidle initOk resetOk
    simp only [lockedStep] at hstep
    obtain ⟨frames, hsplit, rfl⟩ := Option.map_eq_some_iff.mp hstep
    generalize s.beginSweep every initOk resetOk = ready at *
    obtain ⟨hshadow, hfits⟩ :=
      snapshotPending_buffers (ready.activeFilter filter) ready.tracker
    obtain ⟨hframes, hcells⟩ := @epochFrames_of_gathers ready.tracker _ ready.written _ _
      (MappedMemoryTracker.snapshotPending_gathers _ ready.tracker) hshadow hfits frames hsplit
    refine ⟨fun huntried => ?_, fun hon => ?_, hframes⟩
    · rw [htried] at huntried
      cases huntried
    · simp only [pendingCells, Option.isSome_some, if_true, hcells]
      exact (hready hon).snapshotPending _
  | sweepThrows driver initOk resetOk filter stop flagged =>
    obtain ⟨htried, -⟩ := @Ok.beginSweep every s hok hidle initOk resetOk
    have hstill : (s.beginSweep every initOk resetOk).inFlight = [] := by
      rw [← hidle, EpochState.beginSweep, tryReset, tryInit]
      split_ifs <;> rfl
    cases hstep
    apply ok_caught
    · exact hstill
    · intro huntried
      rw [htried] at huntried
      cases huntried
    · -- The submits catch the exception and ask for a full diff; `FreeMemory` does not.
      intro hdriver hon
      cases driver with
      | submit => exact absurd rfl hdriver
      | free =>
        rw [UnwindsCovered] at hcovered
        exact absurd hon (by simp [hcovered])
  | submitThrows =>
    cases hstep
    exact ok_caught hidle hok.untried fun hdriver => absurd rfl hdriver
  | write memory offset bytes => cases hstep
  | ship outcome => cases hstep

theorem Ok.ship (hok : s.Ok) {outcome : ShipOutcome} {next : EpochState}
    (hcovered : UnwindsCovered every s (.ship outcome))
    (hstep : s.step every (.ship outcome) = some next) : next.Ok := by
  simp only [step] at hstep
  split at hstep
  · cases hstep
  · next frame rest hinFlight =>
      have hframe := hok.frames frame (by simp [hinFlight])
      cases outcome with
      | acknowledged =>
        cases hstep
        refine ⟨hok.untried, fun hon => ?_, fun other hother => ?_⟩
        · apply Acknowledged.commit _ hframe
          have hepoch := hok.epoch hon
          simp only [pendingCells, hinFlight, List.flatMap_cons] at hepoch ⊢
          split at hepoch
          · next hsome =>
              rw [if_pos hsome]
              exact hepoch
          · exact fun memory a hlookup hbaseline b hdiffers =>
              (hepoch memory a hlookup hbaseline b hdiffers).imp_right
                fun hmem => absurd hmem List.not_mem_nil
        · exact (hok.frames other (by simp [hinFlight, hother])).commit hframe
      | rejected =>
        cases hdriver : s.driver with
        | none =>
          rw [hdriver] at hstep
          cases hstep
          apply ok_of_idle (s := s.abandon) rfl hok.untried
          intro hon
          have hepoch := hok.epoch hon
          rwa [pendingCells, hdriver] at hepoch
        | some driver =>
          -- The sweep rebaselines whoever drives it.
          rw [hdriver] at hstep
          cases hstep
          exact ok_caught (s := s.abandon) rfl hok.untried fun hsubmit => absurd rfl hsubmit
      | threw =>
        cases hstep
        apply ok_caught (s := s.abandon) rfl hok.untried
        intro hdriver hon
        have hepoch := hok.epoch hon
        cases hfree : s.driver with
        | none => rwa [pendingCells, hfree] at hepoch
        | some driver =>
          cases driver with
          | submit => exact absurd hfree hdriver
          | free =>
            intro memory a hlookup hbaseline b hdiffers
            apply Or.inl
            rcases hepoch memory a hlookup hbaseline b hdiffers with hwritten | hpending
            · exact hwritten
            · exact hcovered hfree hon _ hpending

theorem step_ok (s : EpochState) (op : EpochOp) (next : EpochState) (hok : s.Ok)
    (hcovered : UnwindsCovered every s op) (hstep : s.step every op = some next) : next.Ok := by
  have hlocked : ∀ op, UnwindsCovered every s op →
      (if s.inFlight = [] then s.lockedStep every op else none) = some next → next.Ok := by
    intro op hcovered hlocked
    split at hlocked
    · next hidle => exact lockedStep_ok hok hidle hcovered hlocked
    · cases hlocked
  cases op with
  | write memory offset bytes =>
    obtain ⟨tracker, hwrite, rfl⟩ := Option.map_eq_some_iff.mp hstep
    exact ⟨hok.untried, fun hon => (hok.epoch hon).appWrite hwrite,
      fun frame hframe => (hok.frames frame hframe).appWrite hwrite⟩
  | ship outcome => exact hok.ship hcovered hstep
  | allocate | map | unmap | free | readback | flush | sweep | sweepThrows | submitThrows =>
    exact hlocked _ hcovered hstep

theorem ok_start : ({} : EpochState).Ok where
  untried := fun _ => ⟨rfl, rfl⟩
  epoch := fun hon => by cases hon
  frames := by simp

/-- Soft-dirty filtering loses nothing. In every run in which no exception unwinds
a sweep of `FreeMemory` with the filter on, unless all it still had to send was
stored since the last reset, the snapshot of every further sweep is the one an
unfiltered sweep would take, as long as the page reader reports whole pages that
hold every byte stored since the last reset, or fails. -/
theorem filtered_sweeps_lose_nothing (every : Nat) (ops : List EpochOp) (s : EpochState)
    (hrun : run (step every) {} ops = some s)
    (hcovered : Along (step every) (UnwindsCovered every) {} ops) (hidle : s.inFlight = [])
    (initOk resetOk : Bool) (filter : PageFilter)
    (hreports : Reports filter (s.beginSweep every initOk resetOk).written) :
    ((s.beginSweep every initOk resetOk).tracker.snapshotPending
        ((s.beginSweep every initOk resetOk).activeFilter filter)).1 =
      ((s.beginSweep every initOk resetOk).tracker.snapshotPending none).1 := by
  have hok : s.Ok := run_invariant_along step_ok ok_start hcovered hrun
  obtain ⟨-, hack⟩ := @Ok.beginSweep every s hok hidle initOk resetOk
  generalize s.beginSweep every initOk resetOk = ready at *
  cases hon : ready.softdirtyOn with
  | false => simp [activeFilter, hon]
  | true =>
    rw [activeFilter, hon, if_pos rfl]
    apply MappedMemoryTracker.snapshotPending_filtered hreports
    intro memory a hlookup hbaseline b hdiffers
    exact (hack hon memory a hlookup hbaseline b hdiffers).resolve_right List.not_mem_nil

def everythingWritten : Pagemap where
  available := true
  pageSize := 4096
  address := fun _ => 4096
  softDirty := fun _ => some true

/-- A baseline sweep that is acknowledged, and a store behind it. -/
def acknowledgedSubmit : List EpochOp :=
  [.allocate 7 2 0 true true, .map 7 0 kWholeSize, .write 7 0 [1],
    .sweep .submit true true (readDirty everythingWritten), .ship .acknowledged, .write 7 1 [5]]

theorem filtered_sweeps_lose_nothing_two_bytes :
    ∃ s, run (step 8) {} acknowledgedSubmit = some s ∧
      ((s.beginSweep 8 true true).tracker.snapshotPending
          ((s.beginSweep 8 true true).activeFilter (readDirty everythingWritten))).1 =
        ((s.beginSweep 8 true true).tracker.snapshotPending none).1 := by
  refine ⟨_, rfl, filtered_sweeps_lose_nothing 8 acknowledgedSubmit _ rfl ?_ rfl true true
    (readDirty everythingWritten) ?_⟩
  · simp [acknowledgedSubmit, Along, UnwindsCovered]
  · exact readDirty_reports ⟨12, rfl⟩ le_rfl fun _ _ _ => by simp [everythingWritten]

def nothingWritten : PageFilter := fun _ _ => some []

/-- One byte of two is stored; then `FreeMemory` runs the first sweep, which resets
the bits and marks the baseline, and its upload throws. -/
def unwoundFree : List EpochOp :=
  [.allocate 7 2 0 true true, .map 7 0 kWholeSize, .write 7 0 [1],
    .sweep .free true true nothingWritten, .ship .threw]

/-- The next sweep does not see the byte that was never acknowledged. -/
theorem unwound_free_hides_byte :
    ∃ s, run (step 8) {} unwoundFree = some s ∧ s.inFlight = [] ∧
      Reports nothingWritten (s.beginSweep 8 true true).written ∧
      ((s.beginSweep 8 true true).tracker.snapshotPending
        ((s.beginSweep 8 true true).activeFilter nothingWritten)).1.uploads = [] ∧
      ((s.beginSweep 8 true true).tracker.snapshotPending none).1.uploads = [⟨7, [⟨0, 2⟩]⟩] := by
  refine ⟨_, rfl, rfl, ?_, by decide, by decide⟩
  intro memory size admitted hanswer
  cases hanswer
  refine ⟨⟨4096, 0, ⟨12, rfl⟩, le_rfl, fun _ _ _ _ _ => by simp [Covers]⟩, fun b _ hwritten => ?_⟩
  cases hwritten

end EpochState

end VkRelay.Memory
