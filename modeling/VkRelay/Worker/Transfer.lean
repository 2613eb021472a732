import VkRelay.Memory.FlushWire

/-!
An upload from its bytes on the wire to the worker's memory and back. What
`from_wire` accepts is well formed, whatever the bytes. A well-formed request that
the memory does not admit is refused, and then nothing has changed. One that it
admits changes the named bytes to the payload and nothing else, and
`read_memory_ranges` of the same ranges returns the payload; but where an upload
names an allocation of 2^63 bytes or more the call throws, with the uploads before
that one already written.
-/

namespace VkRelay.Worker

open VkRelay.Lib VkRelay.Json VkRelay.Wire VkRelay.Memory

structure StatusResponse where
  ok : Bool
  reason : String
deriving DecidableEq, Repr

/-- What the session gets from the backend: an answer, or the exception that ends it. -/
inductive WriteEnd where
  | answered (response : StatusResponse)
  | lengthError
deriving DecidableEq, Repr

namespace WorkerMemory

/-- The request as the session sees it, and the memory behind it. -/
def serveWriteMemoryRanges (w : WorkerMemory) (req : WriteMemoryRangesRequest) :
    WriteEnd × WorkerMemory :=
  match w.writeMemoryRanges req with
  | .error (.refused reason) => (.answered ⟨false, reason⟩, w)
  | .error (.lengthError left) => (.lengthError, left)
  | .ok next => (.answered ⟨true, "ok"⟩, next)

/-- The bytes of one range; those past the sized part read as zero. -/
def readRange (mem : MemoryObject) (r : Range) : Except String (List UInt8) :=
  if r.offset > mem.size ∨ r.offset > (2 ^ 64 - 1) - r.size ∨ r.offset + r.size > mem.size then
    .error "read_memory_ranges range outside the allocation"
  else .ok ((List.range r.size).map fun i => mem.bytes[r.offset + i]?.getD 0)

def readRanges (mem : MemoryObject) : List Range → Except String (List UInt8)
  | [] => .ok []
  | r :: rest => do
    let bytes ← readRange mem r
    let more ← readRanges mem rest
    .ok (bytes ++ more)

def readMemoryRanges (w : WorkerMemory) : List Upload → Except String (List UInt8)
  | [] => .ok []
  | u :: rest =>
    match w.memoryObjects[u.memory]? with
    | none => .error "read_memory_ranges references unknown memory"
    | some mem =>
      if u.memory ∈ w.retiredMemories then
        .error "read_memory_ranges references unknown memory"
      else do
        let bytes ← readRanges mem u.ranges
        let more ← w.readMemoryRanges rest
        .ok (bytes ++ more)

end WorkerMemory

section Decode

theorem parseHandleStr_lt (s : Bytes) : parseHandleStr s < 2 ^ 64 := by
  unfold parseHandleStr
  split_ifs with _ hlt
  · decide
  · exact hlt
  · decide

theorem getHandle_lt (obj : Value) (key : Bytes) : getHandle obj key < 2 ^ 64 := by
  unfold getHandle
  split
  · next v _ =>
      cases v with
      | string text => exact parseHandleStr_lt text
      | _ => exact Nat.two_pow_pos 64
  · exact Nat.two_pow_pos 64

variable (items : List Value)

/-- What the loop over one upload's ranges guarantees of any JSON it accepts. -/
theorem decodeRanges_sound {prevEnd : Option Nat} {total : Nat} {ranges : List Range} {last : Nat}
    (hok : decodeRanges prevEnd total items = .ok (ranges, last)) :
    (∀ r ∈ ranges, 0 < r.size ∧ r.offset + r.size < 2 ^ 64 ∧ prevEnd.getD 0 ≤ r.offset) ∧
      Ascending ranges ∧ last = total + sizeSum ranges := by
  induction items generalizing prevEnd total ranges last with
  | nil =>
    cases hok
    exact ⟨by simp, List.Pairwise.nil, rfl⟩
  | cons re rest ih =>
    simp only [decodeRanges, ite_error_eq_ok, ok_rules, Bool.not_eq_true] at hok
    obtain ⟨hpos, hwrap, hstart, -, ⟨more, bytes⟩, hloop, hout⟩ := hok
    cases hout
    obtain ⟨hall, hascending, hlast⟩ := ih hloop
    have hsize := getHandle_lt re (ascii "size")
    have hbehind : prevEnd.getD 0 ≤ getHandle re (ascii "offset") := by
      cases prevEnd with
      | none => exact Nat.zero_le _
      | some stop => simpa using hstart
    refine ⟨?_, List.pairwise_cons.mpr ⟨fun x hx => (hall x hx).2.2, hascending⟩, ?_⟩
    · intro x hx
      rcases List.mem_cons.mp hx with rfl | hx
      · exact ⟨by dsimp only; omega, by dsimp only; omega, hbehind⟩
      · obtain ⟨hx_pos, hx_wrap, hx_start⟩ := hall x hx
        rw [Option.getD_some] at hx_start
        exact ⟨hx_pos, hx_wrap, by omega⟩
    · rw [hlast]
      simp [sizeSum, Nat.add_assoc]

theorem decodeUploads_sound {seenMemories : Finset Nat} {total : Nat} {uploads : List Upload}
    {last : Nat} (hok : decodeUploads seenMemories total items = .ok (uploads, last)) :
    (∀ up ∈ uploads, up.memory ∉ seenMemories) ∧ (uploads.map Upload.memory).Nodup ∧
      (∀ up ∈ uploads, RangesOk up.ranges) ∧ last = total + uploadBytes uploads := by
  induction items generalizing seenMemories total uploads last with
  | nil =>
    cases hok
    exact ⟨by simp, List.nodup_nil, by simp, rfl⟩
  | cons ue rest ih =>
    simp only [decodeUploads, ite_error_eq_ok, ok_rules] at hok
    obtain ⟨hfresh, ⟨ranges, bytes⟩, hranges, ⟨more, stop⟩, hmore, hout⟩ := hok
    cases hout
    obtain ⟨hall, hascending, hbytes⟩ := decodeRanges_sound _ hranges
    obtain ⟨hunseen, hnodup, hrangesOk, hlast⟩ := ih hmore
    simp only [Finset.mem_insert, not_or] at hunseen
    refine ⟨?_, List.nodup_cons.mpr ⟨?_, hnodup⟩, ?_, ?_⟩
    · intro x hx
      rcases List.mem_cons.mp hx with rfl | hx
      · exact hfresh
      · exact (hunseen x hx).2
    · intro hmem
      obtain ⟨x, hx, hsame⟩ := List.mem_map.mp hmem
      exact (hunseen x hx).1 hsame
    · intro x hx
      rcases List.mem_cons.mp hx with rfl | hx
      · exact ⟨fun r hr => ⟨(hall r hr).1, (hall r hr).2.1⟩, hascending⟩
      · exact hrangesOk x hx
    · rw [hlast, hbytes]
      simp [uploadBytes, Nat.add_assoc]

/-- Distinct memories, non-empty ranges that neither wrap nor overlap and ascend,
and a payload of exactly their bytes. -/
structure WellFormed (req : WriteMemoryRangesRequest) : Prop where
  memories_nodup : (req.uploads.map Upload.memory).Nodup
  ranges_ok : ∀ up ∈ req.uploads, RangesOk up.ranges
  payload_length : uploadBytes req.uploads = req.payload.length

/-- Whatever bytes were decoded, the request is well formed and its payload is
the tail behind the header. -/
theorem wellFormed_of_fromWire {body : Bytes} {req : WriteMemoryRangesRequest}
    (haccepted : fromWire body = .ok req) :
    WellFormed req ∧ ∃ header tailOffset,
      decodeBinaryEnvelope body "write_memory_ranges" = .ok (header, tailOffset) ∧
        req.payload = body.drop tailOffset := by
  simp only [fromWire, ok_rules, ite_error_eq_ok] at haccepted
  obtain ⟨⟨header, tailOffset⟩, henvelope, ⟨uploads, total⟩, hloop, hcount, -, hout⟩ := haccepted
  cases hout
  obtain ⟨-, hnodup, hranges, htotal⟩ := decodeUploads_sound _ hloop
  refine ⟨⟨hnodup, hranges, ?_⟩, header, tailOffset, henvelope, rfl⟩
  simp only [List.length_drop]
  omega

end Decode

section Cells

def WriteMemoryRangesRequest.frame (req : WriteMemoryRangesRequest) : DirtySnapshot :=
  ⟨req.uploads, req.payload⟩

variable {req : WriteMemoryRangesRequest}

theorem WellFormed.flatRanges (hreq : WellFormed req) :
    ∀ x ∈ req.frame.flatRanges, 0 < x.2.size ∧ x.2.offset + x.2.size ≤ 2 ^ 64 := by
  intro x hx
  obtain ⟨up, hup, hmem⟩ := List.mem_flatMap.mp hx
  obtain ⟨r, hr, rfl⟩ := List.mem_map.mp hmem
  obtain ⟨hpos, hwrap⟩ := (hreq.ranges_ok up hup).1 r hr
  exact ⟨hpos, hwrap.le⟩

/-- No byte is named twice. -/
theorem WellFormed.cells_nodup (hreq : WellFormed req) : req.frame.cells.Nodup := by
  have hordered : CellsOrdered req.frame.cells :=
    (DirtySnapshot.cellsOrdered_iff hreq.memories_nodup hreq.flatRanges).mpr
      fun up hup => (hreq.ranges_ok up hup).2
  refine List.Pairwise.imp ?_ hordered
  rintro x y hlt rfl
  exact lt_irrefl _ (hlt rfl)

theorem WellFormed.length_payload (hreq : WellFormed req) :
    req.frame.payload.length = req.frame.rangeBytes :=
  hreq.payload_length.symm.trans (uploadBytes_eq_rangeBytes req.frame)

/-- The first uploads of a request, with their part of the payload. -/
def WriteMemoryRangesRequest.firstUploads (req : WriteMemoryRangesRequest)
    (before : List Upload) : WriteMemoryRangesRequest :=
  ⟨before, req.payload.take (uploadBytes before)⟩

theorem uploadBytes_le (hreq : WellFormed req) {before after : List Upload}
    (hsplit : req.uploads = before ++ after) : uploadBytes before ≤ req.payload.length := by
  rw [← hreq.payload_length, hsplit]
  simp [uploadBytes]

theorem WellFormed.firstUploads (hreq : WellFormed req) {before after : List Upload}
    (hsplit : req.uploads = before ++ after) : WellFormed (req.firstUploads before) where
  memories_nodup := by
    have hnodup := hreq.memories_nodup
    rw [hsplit, List.map_append] at hnodup
    exact hnodup.of_append_left
  ranges_ok := fun up hup => hreq.ranges_ok up (hsplit ▸ List.mem_append_left after hup)
  payload_length := by
    have hle := uploadBytes_le hreq hsplit
    simp only [WriteMemoryRangesRequest.firstUploads, List.length_take]
    omega

theorem WellFormed.firstUploads_self (hreq : WellFormed req) :
    req.firstUploads req.uploads = req := by
  simp [WriteMemoryRangesRequest.firstUploads, hreq.payload_length]

end Cells

namespace WorkerMemory

section Read

theorem readRanges_eq (w : WorkerMemory) {memory : Nat} {mem : MemoryObject}
    (hlookup : w.memoryObjects[memory]? = some mem) (ranges : List Range)
    (hwithin : ∀ r ∈ ranges, r.offset + r.size ≤ mem.size) :
    readRanges mem ranges = .ok ((ranges.flatMap fun r => cellsAt memory r.offset r.size).map
      fun cell => (w.byteAt cell.1 cell.2).getD 0) := by
  induction ranges with
  | nil => rfl
  | cons r rest ih =>
    have hr := hwithin r List.mem_cons_self
    have hsize := mem.size_lt
    have hinside : ¬(r.offset > mem.size ∨ r.offset > (2 ^ 64 - 1) - r.size ∨
        r.offset + r.size > mem.size) := by omega
    have hbytes : (List.range r.size).map (fun i => mem.bytes[r.offset + i]?.getD 0) =
        (cellsAt memory r.offset r.size).map fun cell => (w.byteAt cell.1 cell.2).getD 0 := by
      rw [cellsAt, List.map_map]
      refine List.map_congr_left fun i hi => ?_
      rw [List.mem_range] at hi
      have haddress : (r.offset + i) % 2 ^ 64 = r.offset + i := Nat.mod_eq_of_lt (by omega)
      have hlt : r.offset + i < mem.size := by omega
      simp only [Function.comp_apply, haddress, byteAt, hlookup, Option.bind_some,
        MemoryObject.byteAt, if_pos hlt, Option.getD_some]
    rw [readRanges, readRange, if_neg hinside,
      ih fun x hx => hwithin x (List.mem_cons_of_mem _ hx), List.flatMap_cons, List.map_append,
      ← hbytes]
    rfl

/-- Reading admitted ranges returns their cells, in order. -/
theorem readMemoryRanges_eq (w : WorkerMemory) (payload : List UInt8) (uploads : List Upload)
    (hadmits : ∀ u ∈ uploads, w.Admits u) :
    w.readMemoryRanges uploads = .ok ((DirtySnapshot.cells ⟨uploads, payload⟩).map
      fun cell => (w.byteAt cell.1 cell.2).getD 0) := by
  induction uploads with
  | nil => rfl
  | cons u rest ih =>
    obtain ⟨hlive, mem, hlookup, -, hwithin⟩ := hadmits u List.mem_cons_self
    simp only [readMemoryRanges, hlookup, if_neg hlive, readRanges_eq w hlookup u.ranges hwithin,
      ih fun x hx => hadmits x (List.mem_cons_of_mem _ hx), cells_cons, List.map_append]
    rfl

end Read

/-- What an accepted well-formed request does to the memory. -/
structure Written (w next : WorkerMemory) (req : WriteMemoryRangesRequest) : Prop where
  named : ∀ cell byte, (cell, byte) ∈ req.frame.cells.zip req.payload →
    next.byteAt cell.1 cell.2 = some byte
  other : ∀ cell, cell ∉ req.frame.cells → next.byteAt cell.1 cell.2 = w.byteAt cell.1 cell.2
  shape : ∀ key : Nat, next.memoryObjects[key]?.map MemoryObject.shape =
    w.memoryObjects[key]?.map MemoryObject.shape
  retired : next.retiredMemories = w.retiredMemories
  reads : next.readMemoryRanges req.uploads = .ok req.payload

variable {w next : WorkerMemory}

variable {req : WriteMemoryRangesRequest}

theorem byteAt_of_admits {uploads : List Upload} (payload : List UInt8)
    (hadmits : ∀ u ∈ uploads, w.Admits u) {cell : Nat × Nat}
    (hcell : cell ∈ DirtySnapshot.cells ⟨uploads, payload⟩) :
    ∃ old, w.byteAt cell.1 cell.2 = some old := by
  obtain ⟨x, hx, hmem⟩ := List.mem_flatMap.mp hcell
  obtain ⟨u, hu, hrange⟩ := List.mem_flatMap.mp hx
  obtain ⟨r, hr, rfl⟩ := List.mem_map.mp hrange
  obtain ⟨-, mem, hlookup, -, hwithin⟩ := hadmits u hu
  have hr := hwithin r hr
  have hsize := mem.size_lt
  have hbound : r.offset + r.size ≤ 2 ^ 64 := by omega
  obtain ⟨hmemory, -, hlt⟩ := (mem_cellsAt_iff hbound cell).mp hmem
  have hinside : cell.2 < mem.size := lt_of_lt_of_le hlt hr
  refine ⟨mem.bytes[cell.2]?.getD 0, ?_⟩
  rw [hmemory, byteAt, hlookup, Option.bind_some, MemoryObject.byteAt, if_pos hinside]

/-- Scattering a well-formed request over a memory that admits it writes the request. -/
theorem written_of_scatters (hreq : WellFormed req) (hadmits : ∀ u ∈ req.uploads, w.Admits u)
    (hscatters : w.Scatters next req.frame.byteWrites) : w.Written next req := by
  have hfst : (req.frame.cells.zip req.payload).map Prod.fst = req.frame.cells :=
    req.frame.byteWrites_map_fst hreq.length_payload
  have hnamed : ∀ cell byte, (cell, byte) ∈ req.frame.cells.zip req.payload →
      next.byteAt cell.1 cell.2 = some byte := by
    intro cell byte hwrite
    have hlast : lastWrite req.frame.byteWrites cell = some byte :=
      lastWrite_of_mem (hfst ▸ hreq.cells_nodup) hwrite
    obtain ⟨old, hold⟩ := byteAt_of_admits req.payload hadmits (List.of_mem_zip hwrite).1
    rw [hscatters.byteAt, hold, Option.map_some, hlast, Option.getD_some]
  refine ⟨hnamed, ?_, hscatters.shape, hscatters.retired, ?_⟩
  · intro cell hcell
    have hnone : lastWrite req.frame.byteWrites cell = none := by
      rw [lastWrite_eq_none_iff, req.frame.byteWrites_map_fst hreq.length_payload]
      exact hcell
    rw [hscatters.byteAt, hnone]
    simp
  · rw [readMemoryRanges_eq _ req.payload req.uploads fun u hu => hscatters.admits (hadmits u hu)]
    have hlength : req.payload.length ≤ req.frame.cells.length := by
      rw [DirtySnapshot.length_cells, ← hreq.length_payload]
      rfl
    have hsnd : (req.frame.cells.zip req.payload).map Prod.snd = req.payload :=
      List.map_snd_zip hlength
    rw [Except.ok.injEq, ← WriteMemoryRangesRequest.frame, ← hfst, List.map_map]
    refine (List.map_congr_left fun write hwrite => ?_).trans hsnd
    rw [Function.comp_apply, hnamed write.1 write.2 hwrite, Option.getD_some]

/-! ## Where the exception falls -/

section Thrown

variable {payload : List UInt8}

theorem applyUpload_eq_error {state : WorkerMemory × Nat} {u : Upload} {left : WorkerMemory} :
    applyUpload payload state u = .error left ↔ state.1.Oversized u ∧ state.1 = left := by
  unfold applyUpload Oversized
  cases hlookup : state.1.memoryObjects[u.memory]? with
  | none => simp
  | some mem =>
    have hnone : mem.ensureSized = none ↔ 2 ^ 63 ≤ mem.size := MemoryObject.ensureSized_eq_none
    cases hsized : mem.ensureSized with
    | none => simp only [hsized, Except.error.injEq, Option.some.injEq, exists_eq_left',
        hnone.mp hsized, true_and]
    | some sized =>
      have hfits : ¬2 ^ 63 ≤ mem.size := fun hlarge => by simp [hnone.mpr hlarge] at hsized
      simp only [hsized, Option.some.injEq, exists_eq_left', hfits, false_and, reduceCtorEq]

/-- The uploads are all copied, or those before the first that is too large. -/
theorem applyUploads_cases (uploads : List Upload) {w : WorkerMemory} {cursor : Nat}
    (hadmits : ∀ u ∈ uploads, w.Admits u)
    (hcursor : cursor + DirtySnapshot.rangeBytes ⟨uploads, payload⟩ ≤ payload.length) :
    ((∀ u ∈ uploads, ¬w.Oversized u) ∧
        ∃ last, uploads.foldlM (applyUpload payload) (w, cursor) = .ok last) ∨
      ∃ before u after mid, uploads = before ++ u :: after ∧ (∀ v ∈ before, ¬w.Oversized v) ∧
        w.Oversized u ∧ before.foldlM (applyUpload payload) (w, cursor) = .ok mid ∧
          uploads.foldlM (applyUpload payload) (w, cursor) = .error mid.1 := by
  induction uploads generalizing w cursor with
  | nil => exact .inl ⟨by simp, (w, cursor), rfl⟩
  | cons u rest ih =>
    obtain ⟨hfirst, hrest⟩ := List.forall_mem_cons.mp hadmits
    rw [rangeBytes_cons] at hcursor
    cases happly : applyUpload payload (w, cursor) u with
    | error left =>
      obtain ⟨hlarge, rfl⟩ := applyUpload_eq_error.mp happly
      refine .inr ⟨[], u, rest, (w, cursor), rfl, by simp, hlarge, rfl, ?_⟩
      rw [List.foldlM_cons, happly]
      rfl
    | ok next =>
      have hfits : ¬w.Oversized u := fun hlarge => by
        cases happly.symm.trans (applyUpload_eq_error.mpr ⟨hlarge, rfl⟩)
      obtain ⟨hscatters, hmoved⟩ := scatters_of_applyUpload hfirst (by omega) happly
      have hcopied : ∀ more : List Upload, (u :: more).foldlM (applyUpload payload) (w, cursor) =
          more.foldlM (applyUpload payload) (next.1, next.2) := fun more => by
        rw [List.foldlM_cons, happly]
        rfl
      have hrange : next.2 + DirtySnapshot.rangeBytes ⟨rest, payload⟩ ≤ payload.length := by omega
      have hfar := ih (fun x hx => hscatters.admits (hrest x hx)) hrange
      simp only [hscatters.oversized] at hfar
      rcases hfar with ⟨hall, last, hlast⟩ | ⟨before, x, after, mid, rfl, hbefore, hx, hmid, hend⟩
      · exact .inl ⟨List.forall_mem_cons.mpr ⟨hfits, hall⟩, last, (hcopied rest).trans hlast⟩
      · exact .inr ⟨u :: before, x, after, mid, rfl, List.forall_mem_cons.mpr ⟨hfits, hbefore⟩, hx,
          (hcopied before).trans hmid, (hcopied _).trans hend⟩

end Thrown

/-- What an admissible request comes to: it is written whole, or the exception leaves
the uploads before the first that is too large. -/
theorem writeMemoryRanges_cases (hreq : WellFormed req)
    (hadmits : ∀ u ∈ req.uploads, w.Admits u) :
    ((∀ u ∈ req.uploads, ¬w.Oversized u) ∧
        ∃ next, w.writeMemoryRanges req = .ok next ∧ w.Written next req) ∨
      ∃ before u after left, req.uploads = before ++ u :: after ∧
        (∀ v ∈ before, ¬w.Oversized v) ∧ w.Oversized u ∧
          w.writeMemoryRanges req = .error (.lengthError left) ∧
            w.Written left (req.firstUploads before) := by
  have hlength : 0 + req.frame.rangeBytes ≤ req.payload.length := by
    rw [Nat.zero_add]
    exact hreq.length_payload.ge
  obtain ⟨last, hcheck⟩ :=
    (checkUploads_eq_ok req.uploads req.payload (Nat.zero_le _)).mpr ⟨hadmits, hlength⟩
  -- What has been copied, whole or in part, is a scatter of the uploads it covers.
  have hpart : ∀ before after mid, req.uploads = before ++ after →
      before.foldlM (applyUpload req.payload) (w, 0) = .ok mid →
        w.Written mid.1 (req.firstUploads before) := by
    intro before after mid hsplit hok
    have hfirst := hreq.firstUploads hsplit
    have hfrom : ∀ u ∈ before, w.Admits u := fun u hu => hadmits u (hsplit ▸ by simp [hu])
    refine written_of_scatters hfirst hfrom ?_
    have hbytes : DirtySnapshot.rangeBytes ⟨before, req.payload⟩ = uploadBytes before :=
      (uploadBytes_eq_rangeBytes ⟨before, req.payload⟩).symm
    have hscatters := scatters_of_applyUploads before hfrom
      (by simpa [hbytes] using uploadBytes_le hreq hsplit) hok
    rw [hbytes, slice, List.drop_zero] at hscatters
    exact hscatters
  unfold writeMemoryRanges
  rw [hcheck]
  dsimp only
  rcases applyUploads_cases req.uploads hadmits hlength with
    ⟨hfits, mid, hok⟩ | ⟨before, u, after, mid, hsplit, hbefore, hlarge, hmid, herror⟩
  · have hwritten := hpart req.uploads [] mid (by simp) hok
    rw [hreq.firstUploads_self] at hwritten
    exact .inl ⟨hfits, mid.1, by rw [hok], hwritten⟩
  · exact .inr ⟨before, u, after, mid.1, hsplit, hbefore, hlarge, by rw [herror],
      hpart before (u :: after) mid hsplit hmid⟩

/-- Refused with the memory as it was, or written. -/
def Settles (w : WorkerMemory) (req : WriteMemoryRangesRequest) : Prop :=
  (∃ reason, w.serveWriteMemoryRanges req = (.answered ⟨false, reason⟩, w)) ∨
    ∃ next, w.serveWriteMemoryRanges req = (.answered ⟨true, "ok"⟩, next) ∧ w.Written next req

/-- The exception falls at the first upload that is too large, with those before it
written. -/
def Breaks (w : WorkerMemory) (req : WriteMemoryRangesRequest) : Prop :=
  ∃ before u after left, req.uploads = before ++ u :: after ∧
    (∀ v ∈ before, ¬w.Oversized v) ∧ w.Oversized u ∧
      w.serveWriteMemoryRanges req = (.lengthError, left) ∧
        w.Written left (req.firstUploads before)

theorem settles_of_not_admits (hadmits : ¬∀ u ∈ req.uploads, w.Admits u) : w.Settles req := by
  cases hcheck : req.uploads.foldlM (w.checkUpload req.payload.length) 0 with
  | error reason =>
    exact .inl ⟨reason, by simp [serveWriteMemoryRanges, writeMemoryRanges, hcheck]⟩
  | ok last =>
    have hall := (checkUploads_eq_ok req.uploads req.payload (Nat.zero_le _)).mp ⟨last, hcheck⟩
    exact absurd hall.1 hadmits

/-- The two ends of an admissible request, by the sizes of the allocations it names. -/
theorem settles_or_breaks (hreq : WellFormed req) (hadmits : ∀ u ∈ req.uploads, w.Admits u) :
    ((∀ u ∈ req.uploads, ¬w.Oversized u) ∧ w.Settles req) ∨
      (∃ u ∈ req.uploads, w.Oversized u) ∧ w.Breaks req ∧ ¬w.Settles req := by
  rcases writeMemoryRanges_cases hreq hadmits with
    ⟨hfits, next, hok, hwritten⟩ |
      ⟨before, u, after, left, hsplit, hbefore, hlarge, herror, hwritten⟩
  · exact .inl ⟨hfits, .inr ⟨next, by simp [serveWriteMemoryRanges, hok], hwritten⟩⟩
  · have hserve : w.serveWriteMemoryRanges req = (.lengthError, left) := by
      simp [serveWriteMemoryRanges, herror]
    refine .inr ⟨⟨u, by simp [hsplit], hlarge⟩,
      ⟨before, u, after, left, hsplit, hbefore, hlarge, hserve, hwritten⟩, ?_⟩
    rintro (⟨reason, hrefused⟩ | ⟨next, hdone, -⟩)
    · cases hserve.symm.trans hrefused
    · cases hserve.symm.trans hdone

end WorkerMemory

/-- From any bytes to the memory: what `from_wire` accepts is well formed, and
`write_memory_ranges` then refuses it and changes nothing, or writes the payload to
the named bytes, touches nothing else, and the same ranges read as the payload,
exactly if a request that the memory admits names no allocation of 2^63 bytes or
more. For one that does the call throws with the uploads before it written. -/
theorem decoded_write_is_exact_iff (body : Bytes) (req : WriteMemoryRangesRequest)
    (w : WorkerMemory) (haccepted : fromWire body = .ok req) :
    ((req.uploads.map Upload.memory).Nodup ∧
      (∀ up ∈ req.uploads, (∀ r ∈ up.ranges, 0 < r.size ∧ r.offset + r.size < 2 ^ 64) ∧
        up.ranges.Pairwise fun x y => x.offset + x.size ≤ y.offset) ∧
      ∃ header tailOffset,
        decodeBinaryEnvelope body "write_memory_ranges" = .ok (header, tailOffset) ∧
          req.payload = body.drop tailOffset ∧ uploadBytes req.uploads = req.payload.length) ∧
    (w.Settles req ↔
      ((∀ u ∈ req.uploads, w.Admits u) → ∀ u ∈ req.uploads, ¬w.Oversized u)) ∧
    ((∀ u ∈ req.uploads, w.Admits u) → (∃ u ∈ req.uploads, w.Oversized u) → w.Breaks req) := by
  obtain ⟨hreq, header, tailOffset, henvelope, htail⟩ := wellFormed_of_fromWire haccepted
  refine ⟨⟨hreq.memories_nodup, hreq.ranges_ok, header, tailOffset, henvelope, htail,
    hreq.payload_length⟩, ⟨fun hsettles hadmits => ?_, fun hfits => ?_⟩, fun hadmits hlarge => ?_⟩
  · rcases WorkerMemory.settles_or_breaks hreq hadmits with ⟨hfits, -⟩ | ⟨-, -, hbroken⟩
    · exact hfits
    · exact absurd hsettles hbroken
  · by_cases hadmits : ∀ u ∈ req.uploads, w.Admits u
    · rcases WorkerMemory.settles_or_breaks hreq hadmits with ⟨-, hsettles⟩ | ⟨hlarge, -, -⟩
      · exact hsettles
      · obtain ⟨u, hu, hover⟩ := hlarge
        exact absurd hover (hfits hadmits u hu)
    · exact WorkerMemory.settles_of_not_admits hadmits
  · rcases WorkerMemory.settles_or_breaks hreq hadmits with ⟨hfits, -⟩ | ⟨-, hbreaks, -⟩
    · obtain ⟨u, hu, hover⟩ := hlarge
      exact absurd hover (hfits u hu)
    · exact hbreaks

/-- A four-byte allocation, handle 5, and one of 2^63 bytes, handle 6. -/
def smallAndHuge : WorkerMemory where
  memoryObjects := ((∅ : Table MemoryObject).insert 5
    ⟨1, 4, 0, kMemoryPropertyHostVisible ||| kMemoryPropertyHostCoherent, 0, [], by decide,
      .inl rfl⟩).insert 6
    ⟨1, 2 ^ 63, 0, kMemoryPropertyHostVisible ||| kMemoryPropertyHostCoherent, 0, [], by decide,
      .inl rfl⟩

/-- Two bytes into the middle of the first, and one byte into the second. -/
def writeBoth : WriteMemoryRangesRequest := ⟨[⟨5, [⟨1, 2⟩]⟩, ⟨6, [⟨0, 1⟩]⟩], [7, 9, 3]⟩

/-- The write to the second allocation throws when the first has been written. -/
theorem first_upload_stays_written :
    fromWire writeBoth.toWire = .ok writeBoth ∧
      (smallAndHuge.serveWriteMemoryRanges writeBoth).1 = .lengthError ∧
      smallAndHuge.byteAt 5 1 = some 0 ∧
        (smallAndHuge.serveWriteMemoryRanges writeBoth).2.byteAt 5 1 = some 7 := by
  decide +kernel

/-- Two bytes into the middle of the four-byte allocation alone. -/
def twoByteWrite : WriteMemoryRangesRequest := ⟨[⟨5, [⟨1, 2⟩]⟩], [7, 9]⟩

theorem two_byte_write_is_exact :
    fromWire twoByteWrite.toWire = .ok twoByteWrite ∧
      ∃ next, smallAndHuge.serveWriteMemoryRanges twoByteWrite = (.answered ⟨true, "ok"⟩, next) ∧
        smallAndHuge.Written next twoByteWrite := by
  have haccepted : fromWire twoByteWrite.toWire = .ok twoByteWrite := by decide +kernel
  have hwritten : (smallAndHuge.serveWriteMemoryRanges twoByteWrite).1 =
      .answered ⟨true, "ok"⟩ := by
    decide +kernel
  have hfits : ∀ u ∈ twoByteWrite.uploads, ¬smallAndHuge.Oversized u := by
    rintro u hu ⟨mem, hlookup, hlarge⟩
    obtain rfl := List.mem_singleton.mp hu
    cases hlookup
    revert hlarge
    decide
  refine ⟨haccepted, ?_⟩
  rcases (decoded_write_is_exact_iff _ _ smallAndHuge haccepted).2.1.mpr fun _ => hfits with
    ⟨reason, hrefused⟩ | hdone
  · rw [hrefused] at hwritten
    cases hwritten
  · exact hdone

end VkRelay.Worker
