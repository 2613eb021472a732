import VkRelay.Memory.Commit

/-!
The worker's side of an upload: `write_memory_ranges` checks a whole request
against the allocations and only then copies it. What is copied is the scatter of
the request's byte writes over the worker's memory. An allocation is sized when it
is first written; one that is too large for a vector ends the copying there, by an
exception, with what was copied before it in place.
-/

namespace VkRelay.Worker

open VkRelay.Lib VkRelay.Memory

def kMemoryPropertyHostVisible : Nat := 0x00000002

def kMemoryPropertyHostCoherent : Nat := 0x00000004

/-- The request a frame is sent as; uploads and ranges have the frame's shape. -/
structure WriteMemoryRangesRequest where
  uploads : List Upload := []
  payload : List UInt8 := []
deriving DecidableEq, Repr

def toWriteRequest (snap : DirtySnapshot) : WriteMemoryRangesRequest :=
  ⟨snap.uploads, snap.payload⟩

/-- One device memory allocation. Its bytes are sized on the first upload. -/
structure MemoryObject where
  device : Nat
  size : Nat
  typeIndex : Nat
  propertyFlags : Nat
  allocateFlags : Nat
  bytes : List UInt8
  size_lt : size < 2 ^ 64
  bytes_sized : bytes = [] ∨ size ≤ kMaxVectorBytes ∧ bytes.length = size
deriving DecidableEq

namespace MemoryObject

/-- The lazy zero fill; `assign` throws where the vector cannot hold the allocation. -/
def ensureSized (mo : MemoryObject) : Option MemoryObject :=
  if mo.bytes.length < mo.size then
    if hsize : mo.size ≤ kMaxVectorBytes then
      some { mo with
        bytes := List.replicate mo.size 0
        bytes_sized := .inr ⟨hsize, List.length_replicate⟩ }
    else none
  else some mo

def writeBytes (mo : MemoryObject) (offset : Nat) (bytes : List UInt8) : MemoryObject :=
  { mo with
    bytes := blit mo.bytes offset bytes
    bytes_sized := by simpa using mo.bytes_sized }

/-- The byte at `i`; bytes that were never written are zero. -/
def byteAt (mo : MemoryObject) (i : Nat) : Option UInt8 :=
  if i < mo.size then some (mo.bytes[i]?.getD 0) else none

/-- Everything of an allocation but its bytes. -/
def shape (mo : MemoryObject) : Nat × Nat × Nat × Nat × Nat :=
  (mo.device, mo.size, mo.typeIndex, mo.propertyFlags, mo.allocateFlags)

variable {mo sized : MemoryObject}

theorem size_eq_of_shape (hshape : sized.shape = mo.shape) : sized.size = mo.size :=
  congrArg (fun shape => shape.2.1) hshape

theorem bytes_eq_nil_of_short (hshort : mo.bytes.length < mo.size) : mo.bytes = [] := by
  rcases mo.bytes_sized with hempty | ⟨-, hlength⟩
  · exact hempty
  · omega

/-- Exactly the allocations of 2^63 bytes and more cannot be sized. -/
theorem ensureSized_eq_none : mo.ensureSized = none ↔ 2 ^ 63 ≤ mo.size := by
  unfold ensureSized kMaxVectorBytes
  constructor
  · intro hnone
    split_ifs at hnone
    omega
  · intro hlarge
    have hshort : mo.bytes.length < mo.size := by
      rcases mo.bytes_sized with hempty | ⟨hfits, -⟩
      · rw [hempty, List.length_nil]
        omega
      · unfold kMaxVectorBytes at hfits
        omega
    rw [if_pos hshort, dif_neg (by omega)]

theorem ensureSized_spec (hsized : mo.ensureSized = some sized) :
    sized.bytes.length = mo.size ∧ sized.shape = mo.shape ∧
      ∀ i, sized.byteAt i = mo.byteAt i := by
  unfold ensureSized at hsized
  split_ifs at hsized with hshort
  · cases hsized
    refine ⟨List.length_replicate, rfl, fun i => ?_⟩
    by_cases hi : i < mo.size <;> simp [byteAt, bytes_eq_nil_of_short hshort, hi]
  · cases hsized
    refine ⟨?_, rfl, fun _ => rfl⟩
    rcases mo.bytes_sized with hempty | ⟨-, hlength⟩
    · simp_all
    · exact hlength

end MemoryObject

/-- The allocations and the retired ones among them. -/
structure WorkerMemory where
  memoryObjects : Table MemoryObject := ∅
  retiredMemories : Finset Nat := ∅
deriving DecidableEq

/-- How a write fails: it is refused, or the exception of `assign` leaves it with the
memory as it is by then. -/
inductive WriteFailure where
  | refused (reason : String)
  | lengthError (left : WorkerMemory)
deriving DecidableEq

namespace WorkerMemory

/-- The bounds checks of one range, with the payload cursor. -/
def checkRange (mem : MemoryObject) (payloadSize : Nat) (cursor : Nat) (r : Range) :
    Except String Nat :=
  if r.offset > mem.size ∨ r.offset > (2 ^ 64 - 1) - r.size ∨ r.offset + r.size > mem.size then
    .error "write_memory_ranges range outside the allocation"
  else if cursor + r.size > payloadSize then
    .error "write_memory_ranges payload shorter than its ranges"
  else .ok (cursor + r.size)

def kHostVisibleCoherent : Nat := kMemoryPropertyHostVisible ||| kMemoryPropertyHostCoherent

def checkUpload (w : WorkerMemory) (payloadSize : Nat) (cursor : Nat) (u : Upload) :
    Except String Nat :=
  match w.memoryObjects[u.memory]? with
  | none => .error "write_memory_ranges references unknown memory"
  | some mem =>
    if u.memory ∈ w.retiredMemories then
      .error "write_memory_ranges references unknown memory"
    else if mem.propertyFlags &&& kHostVisibleCoherent ≠ kHostVisibleCoherent then
      .error "write_memory_ranges target is not HOST_VISIBLE | HOST_COHERENT"
    else u.ranges.foldlM (checkRange mem payloadSize) cursor

def applyRange (payload : List UInt8) (state : MemoryObject × Nat) (r : Range) :
    MemoryObject × Nat :=
  (state.1.writeBytes r.offset (slice payload state.2 r.size), state.2 + r.size)

/-- One upload; the error is the memory at the exception. -/
def applyUpload (payload : List UInt8) (state : WorkerMemory × Nat) (u : Upload) :
    Except WorkerMemory (WorkerMemory × Nat) :=
  match state.1.memoryObjects[u.memory]? with
  | none => .ok state
  | some mem =>
    match mem.ensureSized with
    | none => .error state.1
    | some sized =>
      let (written, cursor) := u.ranges.foldl (applyRange payload) (sized, state.2)
      .ok ({ state.1 with memoryObjects := state.1.memoryObjects.insert u.memory written }, cursor)

def writeMemoryRanges (w : WorkerMemory) (req : WriteMemoryRangesRequest) :
    Except WriteFailure WorkerMemory :=
  match req.uploads.foldlM (w.checkUpload req.payload.length) 0 with
  | .error reason => .error (.refused reason)
  | .ok _ =>
    match req.uploads.foldlM (applyUpload req.payload) (w, 0) with
    | .error left => .error (.lengthError left)
    | .ok (next, _) => .ok next

def byteAt (w : WorkerMemory) (memory i : Nat) : Option UInt8 :=
  w.memoryObjects[memory]?.bind fun mo => mo.byteAt i

/-- The upload names a live host-visible, host-coherent allocation and stays inside it. -/
def Admits (w : WorkerMemory) (u : Upload) : Prop :=
  u.memory ∉ w.retiredMemories ∧ ∃ mem, w.memoryObjects[u.memory]? = some mem ∧
    mem.propertyFlags &&& kHostVisibleCoherent = kHostVisibleCoherent ∧
      ∀ r ∈ u.ranges, r.offset + r.size ≤ mem.size

/-- The upload names an allocation that no vector can hold. -/
def Oversized (w : WorkerMemory) (u : Upload) : Prop :=
  ∃ mem, w.memoryObjects[u.memory]? = some mem ∧ 2 ^ 63 ≤ mem.size

section Check

variable {w : WorkerMemory} {mem : MemoryObject} {payloadSize cursor next : Nat}

theorem checkRange_eq_ok {r : Range} : checkRange mem payloadSize cursor r = .ok next ↔
    r.offset + r.size ≤ mem.size ∧ cursor + r.size ≤ payloadSize ∧ next = cursor + r.size := by
  have hsize := mem.size_lt
  unfold checkRange
  split_ifs with houtside hshort
  · simp only [false_iff]
    omega
  · simp only [false_iff]
    omega
  · simp only [Except.ok.injEq]
    omega

theorem checkRanges_eq_ok (ranges : List Range) (hcursor : cursor ≤ payloadSize) :
    ranges.foldlM (checkRange mem payloadSize) cursor = .ok next ↔
      (∀ r ∈ ranges, r.offset + r.size ≤ mem.size) ∧
        cursor + (ranges.map Range.size).sum ≤ payloadSize ∧
          next = cursor + (ranges.map Range.size).sum := by
  induction ranges generalizing cursor with
  | nil => simp [pure, Except.pure, hcursor, eq_comm]
  | cons r rest ih =>
    simp only [List.foldlM_cons, except_bind_eq_ok, checkRange_eq_ok, List.forall_mem_cons,
      List.map_cons, List.sum_cons]
    constructor
    · rintro ⟨_, ⟨hinside, hshort, rfl⟩, hrest⟩
      obtain ⟨hall, htotal, hnext⟩ := (ih hshort).mp hrest
      exact ⟨⟨hinside, hall⟩, by omega, by omega⟩
    · rintro ⟨⟨hinside, hall⟩, htotal, hnext⟩
      exact ⟨_, ⟨hinside, by omega, rfl⟩, (ih (by omega)).mpr ⟨hall, by omega, by omega⟩⟩

theorem checkUpload_eq_ok {u : Upload} (hcursor : cursor ≤ payloadSize) :
    w.checkUpload payloadSize cursor u = .ok next ↔
      w.Admits u ∧ cursor + (u.ranges.map Range.size).sum ≤ payloadSize ∧
        next = cursor + (u.ranges.map Range.size).sum := by
  unfold checkUpload Admits
  cases hlookup : w.memoryObjects[u.memory]? with
  | none => simp
  | some mem =>
    by_cases hretired : u.memory ∈ w.retiredMemories
    · simp [hretired]
    · by_cases hflags : mem.propertyFlags &&& kHostVisibleCoherent = kHostVisibleCoherent
      · simp [hretired, hflags, checkRanges_eq_ok u.ranges hcursor]
      · simp [hretired, hflags]

theorem rangeBytes_cons (u : Upload) (rest : List Upload) (payload : List UInt8) :
    DirtySnapshot.rangeBytes ⟨u :: rest, payload⟩ =
      (u.ranges.map Range.size).sum + DirtySnapshot.rangeBytes ⟨rest, payload⟩ := by
  simp [DirtySnapshot.rangeBytes, DirtySnapshot.flatRanges, Function.comp_def]

theorem cells_cons (u : Upload) (rest : List Upload) (payload : List UInt8) :
    DirtySnapshot.cells ⟨u :: rest, payload⟩ =
      (u.ranges.flatMap fun r => cellsAt u.memory r.offset r.size) ++
        DirtySnapshot.cells ⟨rest, payload⟩ := by
  simp [DirtySnapshot.cells, DirtySnapshot.flatRanges, List.flatMap_map]

/-- The check accepts a request exactly when the memory admits its uploads and the
payload has a byte for each of theirs. -/
theorem checkUploads_eq_ok (uploads : List Upload) (payload : List UInt8)
    (hcursor : cursor ≤ payload.length) :
    (∃ last, uploads.foldlM (w.checkUpload payload.length) cursor = .ok last) ↔
      (∀ u ∈ uploads, w.Admits u) ∧
        cursor + DirtySnapshot.rangeBytes ⟨uploads, payload⟩ ≤ payload.length := by
  induction uploads generalizing cursor with
  | nil =>
    simpa [pure, Except.pure, DirtySnapshot.rangeBytes, DirtySnapshot.flatRanges] using hcursor
  | cons u rest ih =>
    simp only [List.foldlM_cons, except_bind_eq_ok, checkUpload_eq_ok hcursor, rangeBytes_cons,
      List.forall_mem_cons]
    constructor
    · rintro ⟨last, _, ⟨hadmits, hshort, rfl⟩, hrest⟩
      obtain ⟨hall, htotal⟩ := (ih hshort).mp ⟨last, hrest⟩
      exact ⟨⟨hadmits, hall⟩, by omega⟩
    · rintro ⟨⟨hadmits, hall⟩, htotal⟩
      have hshort : cursor + (u.ranges.map Range.size).sum ≤ payload.length := by omega
      obtain ⟨last, hrest⟩ := (ih hshort).mpr ⟨hall, by omega⟩
      exact ⟨last, _, ⟨hadmits, hshort, rfl⟩, hrest⟩

end Check

/-- The second memory is the first with the byte writes in place. -/
structure Scatters (w next : WorkerMemory) (writes : List ((Nat × Nat) × UInt8)) : Prop where
  byteAt : ∀ memory i, next.byteAt memory i =
    (w.byteAt memory i).map fun old => (lastWrite writes (memory, i)).getD old
  shape : ∀ key : Nat, next.memoryObjects[key]?.map MemoryObject.shape =
    w.memoryObjects[key]?.map MemoryObject.shape
  retired : next.retiredMemories = w.retiredMemories

namespace Scatters

variable {w mid next : WorkerMemory} {writes more : List ((Nat × Nat) × UInt8)}

theorem refl (w : WorkerMemory) : w.Scatters w [] :=
  ⟨fun _ _ => by simp, fun _ => rfl, rfl⟩

theorem trans (hfirst : w.Scatters mid writes) (hsecond : mid.Scatters next more) :
    w.Scatters next (writes ++ more) := by
  refine ⟨fun memory i => ?_, fun key => (hsecond.shape key).trans (hfirst.shape key),
    hsecond.retired.trans hfirst.retired⟩
  rw [hsecond.byteAt, hfirst.byteAt, Option.map_map]
  congr 1
  funext old
  rw [Function.comp_apply, lastWrite_append]
  cases lastWrite more (memory, i) <;> simp

theorem admits (hscatters : w.Scatters next writes) {u : Upload} (hadmits : w.Admits u) :
    next.Admits u := by
  obtain ⟨hlive, mem, hlookup, hflags, hwithin⟩ := hadmits
  have hsame := hscatters.shape u.memory
  rw [hlookup] at hsame
  obtain ⟨found, hfound, hshape⟩ := Option.map_eq_some_iff.mp hsame
  have hsize := MemoryObject.size_eq_of_shape hshape
  have hkept : found.propertyFlags = mem.propertyFlags :=
    congrArg (fun shape => shape.2.2.2.1) hshape
  exact ⟨hscatters.retired ▸ hlive, found, hfound, hkept ▸ hflags,
    fun r hr => hsize ▸ hwithin r hr⟩

theorem oversized (hscatters : w.Scatters next writes) {u : Upload} :
    next.Oversized u ↔ w.Oversized u := by
  have hsize : ∀ v : WorkerMemory, v.Oversized u ↔
      ∃ shape, v.memoryObjects[u.memory]?.map MemoryObject.shape = some shape ∧
        2 ^ 63 ≤ shape.2.1 := fun v => by simp [Oversized, MemoryObject.shape]
  rw [hsize, hsize, hscatters.shape]

end Scatters

section Apply

variable {payload : List UInt8}

private theorem applyRanges_spec (memory : Nat) (ranges : List Range) (mo : MemoryObject)
    (cursor : Nat) (hwithin : ∀ r ∈ ranges, r.offset + r.size ≤ mo.size)
    (hcursor : cursor + (ranges.map Range.size).sum ≤ payload.length) :
    (ranges.foldl (applyRange payload) (mo, cursor)).1.bytes =
        scatterBytes memory ((ranges.flatMap fun r => cellsAt memory r.offset r.size).zip
          (slice payload cursor (ranges.map Range.size).sum)) mo.bytes ∧
      (ranges.foldl (applyRange payload) (mo, cursor)).1.shape = mo.shape ∧
      (ranges.foldl (applyRange payload) (mo, cursor)).2 =
        cursor + (ranges.map Range.size).sum := by
  induction ranges generalizing mo cursor with
  | nil => exact ⟨(scatterBytes_other memory [] mo.bytes (by simp)).symm, rfl, rfl⟩
  | cons r rest ih =>
    simp only [List.map_cons, List.sum_cons] at hcursor ⊢
    have hr := hwithin r (List.mem_cons_self ..)
    have hsize := mo.size_lt
    have hlength := length_slice payload cursor r.size (by omega)
    have hblit := blit_eq_scatterBytes memory mo.bytes r.offset (slice payload cursor r.size)
      (by omega)
    obtain ⟨hbytes, hkept, hmoved⟩ := ih (applyRange payload (mo, cursor) r).1
      (cursor + r.size) (fun x hx => hwithin x (List.mem_cons_of_mem _ hx)) (by omega)
    refine ⟨?_, hkept, by rw [List.foldl_cons]; exact hmoved.trans (by omega)⟩
    rw [List.foldl_cons]
    refine hbytes.trans ?_
    rw [List.flatMap_cons, slice_add,
      List.zip_append (by rw [length_cellsAt, hlength]), scatterBytes_append]
    congr 1
    rw [hlength] at hblit
    exact hblit

def uploadWrites (payload : List UInt8) (cursor : Nat) (u : Upload) :
    List ((Nat × Nat) × UInt8) :=
  (u.ranges.flatMap fun r => cellsAt u.memory r.offset r.size).zip
    (slice payload cursor (u.ranges.map Range.size).sum)

theorem lastWrite_uploadWrites_other {cursor : Nat} {u : Upload} {key : Nat}
    (hkey : u.memory ≠ key) (i : Nat) :
    lastWrite (uploadWrites payload cursor u) (key, i) = none := by
  rw [lastWrite_eq_none_iff]
  intro hmem
  obtain ⟨write, hwrite, hcell⟩ := List.mem_map.mp hmem
  obtain ⟨r, -, hcell_mem⟩ := List.mem_flatMap.mp (List.of_mem_zip hwrite).1
  obtain ⟨j, -, hj⟩ := List.mem_map.mp hcell_mem
  rw [← hj, Prod.mk.injEq] at hcell
  exact hkey hcell.1

/-- An upload that does not throw scatters its piece of the payload. -/
theorem scatters_of_applyUpload {w : WorkerMemory} {cursor : Nat} {u : Upload}
    {next : WorkerMemory × Nat} (hadmits : w.Admits u)
    (hcursor : cursor + (u.ranges.map Range.size).sum ≤ payload.length)
    (hok : applyUpload payload (w, cursor) u = .ok next) :
    w.Scatters next.1 (uploadWrites payload cursor u) ∧
      next.2 = cursor + (u.ranges.map Range.size).sum := by
  obtain ⟨-, mem, hlookup, -, hwithin⟩ := hadmits
  simp only [applyUpload, hlookup] at hok
  cases hsized : mem.ensureSized with
  | none => simp [hsized] at hok
  | some sized =>
    obtain ⟨hlength, hshape, hcontents⟩ := MemoryObject.ensureSized_spec hsized
    have hsize := MemoryObject.size_eq_of_shape hshape
    obtain ⟨hbytes, hkept, hmoved⟩ := applyRanges_spec u.memory u.ranges sized cursor
      (by simpa [hsize] using hwithin) hcursor
    simp only [hsized, Except.ok.injEq] at hok
    subst hok
    generalize u.ranges.foldl (applyRange payload) (sized, cursor) = written
      at hbytes hkept hmoved
    have hsame := (MemoryObject.size_eq_of_shape hkept).trans hsize
    refine ⟨⟨fun key i => ?_, fun key => ?_, rfl⟩, hmoved⟩
    · by_cases hkey : u.memory = key
      · subst hkey
        have hold : w.byteAt u.memory i = sized.byteAt i := by
          simp [byteAt, hlookup, hcontents]
        rw [hold]
        simp only [byteAt, Table.getElem?_insert_eq, if_true, Option.bind_some,
          MemoryObject.byteAt, hsame, hsize, hbytes, scatterBytes_getElem?, uploadWrites]
        by_cases hi : i < mem.size
        · rw [List.getElem?_eq_getElem (by omega)]
          simp [hi]
        · simp [hi]
      · simp [byteAt, hkey, lastWrite_uploadWrites_other hkey]
    · by_cases hkey : u.memory = key
      · subst hkey
        simp [hlookup, hkept, hshape]
      · simp [hkey]

/-- Uploads that do not throw scatter their pieces of the payload in order. -/
theorem scatters_of_applyUploads (uploads : List Upload) {w : WorkerMemory} {cursor : Nat}
    {last : WorkerMemory × Nat} (hadmits : ∀ u ∈ uploads, w.Admits u)
    (hcursor : cursor + DirtySnapshot.rangeBytes ⟨uploads, payload⟩ ≤ payload.length)
    (hok : uploads.foldlM (applyUpload payload) (w, cursor) = .ok last) :
    w.Scatters last.1 ((DirtySnapshot.cells ⟨uploads, payload⟩).zip
      (slice payload cursor (DirtySnapshot.rangeBytes ⟨uploads, payload⟩))) := by
  induction uploads generalizing w cursor with
  | nil =>
    cases hok
    exact Scatters.refl w
  | cons u rest ih =>
    obtain ⟨hfirst, hrest⟩ := List.forall_mem_cons.mp hadmits
    rw [List.foldlM_cons] at hok
    obtain ⟨⟨mid, moved⟩, hupload, hlast⟩ := except_bind_eq_ok.mp hok
    rw [rangeBytes_cons] at hcursor
    obtain ⟨hscatters, hmoved⟩ := scatters_of_applyUpload hfirst (by omega) hupload
    dsimp only at hmoved
    subst hmoved
    have hlength : (u.ranges.flatMap fun r => cellsAt u.memory r.offset r.size).length =
        (slice payload cursor (u.ranges.map Range.size).sum).length := by
      rw [length_slice _ _ _ (by omega)]
      simp [List.length_flatMap]
    rw [cells_cons, rangeBytes_cons, slice_add, List.zip_append hlength]
    exact hscatters.trans (ih (fun x hx => hscatters.admits (hrest x hx)) (by omega) hlast)

end Apply

variable {w next : WorkerMemory}

/-- A request that goes through was checked whole and copied whole. -/
theorem writeMemoryRanges_eq_ok {req : WriteMemoryRangesRequest}
    (hok : w.writeMemoryRanges req = .ok next) :
    ((∀ u ∈ req.uploads, w.Admits u) ∧
        0 + DirtySnapshot.rangeBytes ⟨req.uploads, req.payload⟩ ≤ req.payload.length) ∧
      ∃ cursor, req.uploads.foldlM (applyUpload req.payload) (w, 0) = .ok (next, cursor) := by
  unfold writeMemoryRanges at hok
  split at hok
  · cases hok
  · next last hcheck =>
      split at hok
      · cases hok
      · next cursor happly =>
          cases hok
          exact ⟨(checkUploads_eq_ok req.uploads req.payload (Nat.zero_le _)).mp ⟨last, hcheck⟩,
            cursor, happly⟩

/-- An accepted request scatters its byte writes over the worker's memory. -/
theorem writeMemoryRanges_byteAt {frame : DirtySnapshot}
    (hlength : frame.payload.length = frame.rangeBytes)
    (hok : w.writeMemoryRanges (toWriteRequest frame) = .ok next) (memory i : Nat) :
    next.byteAt memory i = (w.byteAt memory i).map fun old =>
      (lastWrite frame.byteWrites (memory, i)).getD old := by
  obtain ⟨⟨hadmits, htotal⟩, cursor, happly⟩ := writeMemoryRanges_eq_ok hok
  have hscatters := scatters_of_applyUploads frame.uploads hadmits htotal happly
  have hwhole : slice frame.payload 0 frame.rangeBytes = frame.payload := by
    simp [slice, ← hlength]
  have hbyte := hscatters.byteAt memory i
  change _ = Option.map (fun old => (lastWrite (frame.cells.zip
    (slice frame.payload 0 frame.rangeBytes)) (memory, i)).getD old) _ at hbyte
  rw [hwhole] at hbyte
  exact hbyte

end WorkerMemory

end VkRelay.Worker
