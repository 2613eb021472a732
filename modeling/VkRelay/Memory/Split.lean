import VkRelay.Memory.Snapshot

/-!
Splitting one snapshot into frames that fit the payload and range caps. The
splitter walks the snapshot in (upload, range) order, slices a range that does
not fit into the open frame, and closes a frame lazily, when the next slice
finds it full. The loop over one range is run for at most as many iterations as
the range has bytes; `splitForUpload` is `none` only if that were too few.
-/

namespace VkRelay.Memory

/-- The `n` cells of allocation `memory` from offset `off` on. Offsets are 64-bit. -/
def cellsAt (memory off n : Nat) : List (Nat × Nat) :=
  (List.range n).map fun i => (memory, (off + i) % 2 ^ 64)

namespace DirtySnapshot

def flatRanges (snap : DirtySnapshot) : List (Nat × Range) :=
  snap.uploads.flatMap fun up => up.ranges.map fun r => (up.memory, r)

def cells (snap : DirtySnapshot) : List (Nat × Nat) :=
  snap.flatRanges.flatMap fun x => cellsAt x.1 x.2.offset x.2.size

def rangeBytes (snap : DirtySnapshot) : Nat :=
  (snap.flatRanges.map fun x => x.2.size).sum

def byteWrites (snap : DirtySnapshot) : List ((Nat × Nat) × UInt8) :=
  snap.cells.zip snap.payload

/-- Append a slice to the open frame, under a new upload if the memory changes. -/
def pushSlice (cur : DirtySnapshot) (memory : Nat) (r : Range) (bytes : List UInt8) :
    DirtySnapshot where
  uploads :=
    match cur.uploads.getLast? with
    | none => [⟨memory, [r]⟩]
    | some back =>
      if back.memory = memory then cur.uploads.dropLast ++ [⟨memory, back.ranges ++ [r]⟩]
      else cur.uploads ++ [⟨memory, [r]⟩]
  payload := cur.payload ++ bytes

end DirtySnapshot

structure SplitState where
  frames : List DirtySnapshot := []
  cur : DirtySnapshot := {}
  curRanges : Nat := 0
  payloadCursor : Nat := 0
deriving DecidableEq

namespace SplitState

def flushCur (st : SplitState) : SplitState :=
  if st.cur.uploads = [] then st
  else { st with frames := st.frames ++ [st.cur], cur := {}, curRanges := 0 }

/-- Close the open frame if it has no room for another slice. -/
def makeRoom (maxPayload maxRanges : Nat) (st : SplitState) : SplitState :=
  if st.cur.payload.length ≥ maxPayload ∨ st.curRanges ≥ maxRanges then st.flushCur else st

def place (st : SplitState) (memory : Nat) (r : Range) (bytes : List UInt8) : SplitState :=
  { st with cur := st.cur.pushSlice memory r bytes, curRanges := st.curRanges + 1 }

end SplitState

/-- The loop over one range, whose bytes are the front of `bytes`. The 64-bit
`sub_off` of the source is the range's offset plus `done`. -/
def splitLoop (maxPayload maxRanges memory : Nat) (r : Range) (bytes : List UInt8) :
    Nat → Nat → SplitState → Option SplitState
  | 0, done, st => if done < r.size then none else some st
  | fuel + 1, done, st =>
    if done < r.size then
      let st := st.makeRoom maxPayload maxRanges
      let room := maxPayload - st.cur.payload.length
      let take := if r.size - done < room then r.size - done else room
      splitLoop maxPayload maxRanges memory r bytes fuel (done + take)
        (st.place memory ⟨(r.offset + done) % 2 ^ 64, take⟩ (slice bytes done take))
    else some st

def splitRange (maxPayload maxRanges : Nat) (payload : List UInt8) (memory : Nat)
    (st : SplitState) (r : Range) : Option SplitState :=
  splitLoop maxPayload maxRanges memory r (payload.drop st.payloadCursor) r.size 0
    { st with payloadCursor := st.payloadCursor + r.size }

def splitForUpload (snap : DirtySnapshot) (maxPayload maxRanges : Nat) :
    Option (List DirtySnapshot) :=
  if maxPayload = 0 ∨ maxRanges = 0 then some []
  else do
    let st ← snap.uploads.foldlM (fun st up =>
      up.ranges.foldlM (splitRange maxPayload maxRanges snap.payload up.memory) st) {}
    pure st.flushCur.frames

section Cells

variable (memory off n : Nat)

@[simp] theorem length_cellsAt : (cellsAt memory off n).length = n := by
  simp [cellsAt]

theorem cellsAt_add (memory off m n : Nat) : cellsAt memory off (m + n) =
      cellsAt memory off m ++ cellsAt memory ((off + m) % 2 ^ 64) n := by
  simp only [cellsAt, List.range_add, List.map_append, List.map_map]
  congr 1
  apply List.map_congr_left
  intro i _
  simp only [Function.comp_apply, Prod.mk.injEq, true_and]
  omega

theorem cellsAt_mod : cellsAt memory (off % 2 ^ 64) n = cellsAt memory off n := by
  apply List.map_congr_left
  intro i _
  simp only [Prod.mk.injEq, true_and]
  omega

variable {β : Type*} (xs : List β)

theorem slice_add (off m n : Nat) :
    slice xs off (m + n) = slice xs off m ++ slice xs (off + m) n := by
  simp [slice, List.take_add, List.drop_drop]

theorem slice_getElem? (off n i : Nat) :
    (slice xs off n)[i]? = if i < n then xs[off + i]? else none := by
  by_cases hi : i < n <;> simp [slice, hi]

theorem length_slice (off n : Nat) (hwithin : off + n ≤ xs.length) :
    (slice xs off n).length = n := by
  simp [slice]
  omega

namespace DirtySnapshot

variable (cur : DirtySnapshot) (memory : Nat) (r : Range) (bytes : List UInt8)

theorem pushSlice_flatRanges :
    (cur.pushSlice memory r bytes).flatRanges = cur.flatRanges ++ [(memory, r)] := by
  rcases List.eq_nil_or_concat' cur.uploads with hnil | ⟨front, back, hconcat⟩
  · simp [flatRanges, pushSlice, hnil]
  · by_cases hsame : back.memory = memory
    · simp [flatRanges, pushSlice, hconcat, hsame]
    · simp [flatRanges, pushSlice, hconcat, hsame]

theorem pushSlice_cells :
    (cur.pushSlice memory r bytes).cells = cur.cells ++ cellsAt memory r.offset r.size := by
  simp [cells, pushSlice_flatRanges]

theorem pushSlice_rangeBytes :
    (cur.pushSlice memory r bytes).rangeBytes = cur.rangeBytes + r.size := by
  simp [rangeBytes, pushSlice_flatRanges]

theorem length_cells (snap : DirtySnapshot) : snap.cells.length = snap.rangeBytes := by
  simp [cells, rangeBytes, List.length_flatMap]

theorem pushSlice_byteWrites (haligned : cur.payload.length = cur.rangeBytes) :
    (cur.pushSlice memory r bytes).byteWrites =
      cur.byteWrites ++ (cellsAt memory r.offset r.size).zip bytes := by
  have hlength : cur.cells.length = cur.payload.length := by
    rw [length_cells, haligned]
  rw [byteWrites, pushSlice_cells]
  exact List.zip_append hlength

/-- A slice of the last memory of `seen` keeps the frame's memories in order. -/
theorem pushSlice_memories (earlier : List Nat)
    (hseen : (cur.uploads.map Upload.memory).Sublist (earlier ++ [memory])) :
    ((cur.pushSlice memory r bytes).uploads.map Upload.memory).Sublist
      (earlier ++ [memory]) := by
  rcases List.eq_nil_or_concat' cur.uploads with hnil | ⟨front, back, hconcat⟩
  · simp [pushSlice, hnil]
  · by_cases hsame : back.memory = memory
    · simpa [pushSlice, hconcat, hsame] using hseen
    · have hearlier : (cur.uploads.map Upload.memory).Sublist earlier := by
        obtain ⟨left, right, hsplit, hleft, hright⟩ := List.sublist_append_iff.mp hseen
        rcases List.sublist_singleton.mp hright with hempty | hlast
        · simpa [hsplit, hempty] using hleft
        · have hback : (cur.uploads.map Upload.memory).getLast? = some back.memory := by
            simp [hconcat]
          rw [hsplit, hlast] at hback
          exact absurd (by simpa using hback.symm) hsame
      simpa [pushSlice, hconcat, hsame] using hearlier.append (List.Sublist.refl [memory])

theorem pushSlice_ranges_ne_nil (hne : ∀ up ∈ cur.uploads, up.ranges ≠ []) :
    ∀ up ∈ (cur.pushSlice memory r bytes).uploads, up.ranges ≠ [] := by
  intro up hup
  rcases List.eq_nil_or_concat' cur.uploads with hnil | ⟨front, back, hconcat⟩
  · simp only [pushSlice, hnil, List.getLast?_nil, List.mem_singleton] at hup
    simp [hup]
  · have hfront : ∀ other ∈ front, other.ranges ≠ [] := fun other hother =>
      hne other (by simp [hconcat, hother])
    by_cases hsame : back.memory = memory
    · simp only [pushSlice, hconcat, List.getLast?_concat, hsame, if_true,
        List.dropLast_concat, List.mem_append, List.mem_singleton] at hup
      rcases hup with hold | rfl
      · exact hfront up hold
      · simp
    · simp only [pushSlice, hconcat, List.getLast?_concat, hsame, if_false,
        List.mem_append, List.mem_singleton] at hup
      rcases hup with (hold | rfl) | rfl
      · exact hfront up hold
      · exact hne up (by simp [hconcat])
      · simp

end DirtySnapshot

end Cells

/-- What every frame satisfies: the caps, no memory named twice, and a payload
that is exactly the bytes of its non-empty ranges. -/
structure DirtySnapshot.FrameOk (maxPayload maxRanges : Nat) (frame : DirtySnapshot) : Prop where
  payload_le : frame.payload.length ≤ maxPayload
  ranges_le : frame.flatRanges.length ≤ maxRanges
  memories_nodup : (frame.uploads.map Upload.memory).Nodup
  payload_length : frame.payload.length = frame.rangeBytes
  ranges_pos : ∀ x ∈ frame.flatRanges, 0 < x.2.size ∧ x.2.offset < 2 ^ 64
  ranges_ne_nil : ∀ up ∈ frame.uploads, up.ranges ≠ []

theorem DirtySnapshot.frameOk_empty (maxPayload maxRanges : Nat) :
    DirtySnapshot.FrameOk maxPayload maxRanges {} := by
  constructor <;> simp [DirtySnapshot.flatRanges, DirtySnapshot.rangeBytes]

namespace SplitState

variable {maxPayload maxRanges : Nat}

/-- The bytes placed so far, closed frames first. -/
def written (st : SplitState) : List ((Nat × Nat) × UInt8) :=
  st.frames.flatMap DirtySnapshot.byteWrites ++ st.cur.byteWrites

/-- The invariant of the walk. `seen` lists the memories walked so far, and the
open frame names them in that order. -/
structure Ok (maxPayload maxRanges : Nat) (seen : List Nat) (st : SplitState) : Prop where
  frames_ok : ∀ frame ∈ st.frames, frame.FrameOk maxPayload maxRanges
  cur_ok : st.cur.FrameOk maxPayload maxRanges
  curRanges_eq : st.curRanges = st.cur.flatRanges.length
  memories_seen : (st.cur.uploads.map Upload.memory).Sublist seen

theorem ok_start (maxPayload maxRanges : Nat) : Ok maxPayload maxRanges [] {} where
  frames_ok := by simp
  cur_ok := DirtySnapshot.frameOk_empty maxPayload maxRanges
  curRanges_eq := by simp [DirtySnapshot.flatRanges]
  memories_seen := by simp

theorem Ok.mono {seen more : List Nat} {st : SplitState} (hok : st.Ok maxPayload maxRanges seen)
    (hmore : seen.Sublist more) : st.Ok maxPayload maxRanges more :=
  { hok with memories_seen := hok.memories_seen.trans hmore }

variable {seen : List Nat} {st : SplitState}

/-- An open frame without uploads holds nothing. -/
theorem Ok.cur_eq_empty (hok : st.Ok maxPayload maxRanges seen) (hempty : st.cur.uploads = []) :
    st.cur = {} := by
  have hlength := hok.cur_ok.payload_length
  have hpayload : st.cur.payload = [] := by
    simpa [DirtySnapshot.rangeBytes, DirtySnapshot.flatRanges, hempty] using hlength
  cases hcur : st.cur
  simp_all

theorem Ok.flushCur (hok : st.Ok maxPayload maxRanges seen) :
    st.flushCur.Ok maxPayload maxRanges seen ∧ st.flushCur.cur = {} ∧
      st.flushCur.written = st.written ∧ st.flushCur.payloadCursor = st.payloadCursor := by
  unfold SplitState.flushCur
  split
  · next hempty => exact ⟨hok, hok.cur_eq_empty hempty, rfl, rfl⟩
  · refine ⟨⟨?_, DirtySnapshot.frameOk_empty _ _, ?_, ?_⟩, rfl, ?_, rfl⟩
    · intro frame hframe
      rcases List.mem_append.mp hframe with hold | hnew
      · exact hok.frames_ok frame hold
      · rw [List.mem_singleton.mp hnew]
        exact hok.cur_ok
    · simp [DirtySnapshot.flatRanges]
    · simp
    · simp [written, DirtySnapshot.byteWrites, DirtySnapshot.cells, DirtySnapshot.flatRanges]

/-- After making room the open frame takes at least one more byte and range. -/
theorem Ok.makeRoom (hok : st.Ok maxPayload maxRanges seen) (hpayload : 0 < maxPayload)
    (hranges : 0 < maxRanges) :
    (st.makeRoom maxPayload maxRanges).Ok maxPayload maxRanges seen ∧
      (st.makeRoom maxPayload maxRanges).cur.payload.length < maxPayload ∧
      (st.makeRoom maxPayload maxRanges).curRanges < maxRanges ∧
      (st.makeRoom maxPayload maxRanges).written = st.written ∧
      (st.makeRoom maxPayload maxRanges).payloadCursor = st.payloadCursor := by
  unfold SplitState.makeRoom
  split
  · obtain ⟨hflushed, hcur, hwritten, hcursor⟩ := hok.flushCur
    refine ⟨hflushed, ?_, ?_, hwritten, hcursor⟩
    · simpa [hcur] using hpayload
    · rw [hflushed.curRanges_eq, hcur]
      simpa [DirtySnapshot.flatRanges] using hranges
  · next hroom =>
      rw [not_or, not_le, not_le] at hroom
      exact ⟨hok, hroom.1, hroom.2, rfl, rfl⟩

theorem Ok.place {earlier : List Nat} {memory : Nat} {st : SplitState}
    (hok : st.Ok maxPayload maxRanges (earlier ++ [memory]))
    (hnodup : (earlier ++ [memory]).Nodup) (r : Range) (bytes : List UInt8)
    (hlength : bytes.length = r.size) (hpos : 0 < r.size) (hoffset : r.offset < 2 ^ 64)
    (hroom : st.cur.payload.length + r.size ≤ maxPayload) (hranges : st.curRanges < maxRanges) :
    (st.place memory r bytes).Ok maxPayload maxRanges (earlier ++ [memory]) ∧
      (st.place memory r bytes).written =
        st.written ++ (cellsAt memory r.offset r.size).zip bytes := by
  have hmemories := st.cur.pushSlice_memories memory r bytes earlier hok.memories_seen
  have hflat := st.cur.pushSlice_flatRanges memory r bytes
  have hcount := hok.curRanges_eq
  have haligned := hok.cur_ok.payload_length
  refine ⟨⟨hok.frames_ok, ⟨?_, ?_, hnodup.sublist hmemories, ?_, ?_, ?_⟩, ?_, hmemories⟩, ?_⟩
  · simpa [SplitState.place, DirtySnapshot.pushSlice, hlength] using hroom
  · simp only [SplitState.place, hflat, List.length_append, List.length_singleton]
    omega
  · simp only [SplitState.place, DirtySnapshot.pushSlice_rangeBytes]
    simp only [DirtySnapshot.pushSlice, List.length_append]
    omega
  · intro x hx
    simp only [SplitState.place, hflat, List.mem_append, List.mem_singleton] at hx
    rcases hx with hold | rfl
    · exact hok.cur_ok.ranges_pos x hold
    · exact ⟨hpos, hoffset⟩
  · exact st.cur.pushSlice_ranges_ne_nil memory r bytes hok.cur_ok.ranges_ne_nil
  · simp only [SplitState.place, hflat, List.length_append, List.length_singleton, hcount]
  · simp only [written, SplitState.place, List.append_assoc,
      st.cur.pushSlice_byteWrites memory r bytes haligned]

end SplitState

section Walk

variable {maxPayload maxRanges : Nat} {earlier : List Nat} {memory : Nat}

/-- The loop places the rest of the range. Every iteration takes at least one
byte, because room was made first, so the fuel lasts. -/
private theorem splitLoop_spec (hpayload : 0 < maxPayload) (hranges : 0 < maxRanges)
    (hnodup : (earlier ++ [memory]).Nodup) (r : Range) (bytes : List UInt8)
    (hbytes : r.size ≤ bytes.length) (fuel done : Nat) (st : SplitState)
    (hfuel : r.size - done ≤ fuel) (hdone : done ≤ r.size)
    (hok : st.Ok maxPayload maxRanges (earlier ++ [memory])) :
    ∃ next, splitLoop maxPayload maxRanges memory r bytes fuel done st = some next ∧
      next.Ok maxPayload maxRanges (earlier ++ [memory]) ∧
      next.payloadCursor = st.payloadCursor ∧
      next.written = st.written ++ (cellsAt memory ((r.offset + done) % 2 ^ 64) (r.size - done)).zip
          (slice bytes done (r.size - done)) := by
  induction fuel generalizing done st with
  | zero =>
    have hend : r.size - done = 0 := by omega
    have hstop : ¬ done < r.size := by omega
    exact ⟨st, by simp [splitLoop, hstop], hok, rfl, by simp [hend, cellsAt]⟩
  | succ fuel ih =>
    by_cases hmore : done < r.size
    · obtain ⟨hroomed, hfree, hcount, hwritten, hcursor⟩ := hok.makeRoom hpayload hranges
      set roomed := st.makeRoom maxPayload maxRanges with hroomed_def
      set room := maxPayload - roomed.cur.payload.length with hroom_def
      set take := if r.size - done < room then r.size - done else room with htake_def
      have htake : 0 < take ∧ take ≤ room ∧ done + take ≤ r.size := by
        rw [htake_def]
        split <;> omega
      obtain ⟨hplaced, hslice⟩ := hroomed.place hnodup
        ⟨(r.offset + done) % 2 ^ 64, take⟩ (slice bytes done take)
        (length_slice bytes done take (by omega)) htake.1 (Nat.mod_lt _ (by positivity))
        (by simp only; omega) hcount
      obtain ⟨next, hrun, hnext, hnext_cursor, hnext_written⟩ :=
        ih (done + take) _ (by omega) htake.2.2 hplaced
      refine ⟨next, ?_, hnext, hnext_cursor.trans hcursor, ?_⟩
      · simpa [splitLoop, hmore] using hrun
      · have hsplit : r.size - done = take + (r.size - (done + take)) := by omega
        have hoff : (r.offset + (done + take)) % 2 ^ 64 =
            ((r.offset + done) % 2 ^ 64 + take) % 2 ^ 64 := by omega
        rw [hnext_written, hslice, hwritten, hsplit, cellsAt_add, slice_add,
          List.zip_append (by rw [length_cellsAt, length_slice bytes done take (by omega)]),
          hoff, List.append_assoc]
    · have hend : r.size - done = 0 := by omega
      exact ⟨st, by simp [splitLoop, hmore], hok, rfl, by simp [hend, cellsAt]⟩

private theorem splitRange_spec (hpayload : 0 < maxPayload) (hranges : 0 < maxRanges)
    (hnodup : (earlier ++ [memory]).Nodup) (payload : List UInt8) (r : Range) (st : SplitState)
    (hwithin : st.payloadCursor + r.size ≤ payload.length)
    (hok : st.Ok maxPayload maxRanges (earlier ++ [memory])) :
    ∃ next, splitRange maxPayload maxRanges payload memory st r = some next ∧
      next.Ok maxPayload maxRanges (earlier ++ [memory]) ∧
      next.payloadCursor = st.payloadCursor + r.size ∧
      next.written = st.written ++
        (cellsAt memory r.offset r.size).zip (slice payload st.payloadCursor r.size) := by
  have hmoved : SplitState.Ok maxPayload maxRanges (earlier ++ [memory])
      { st with payloadCursor := st.payloadCursor + r.size } :=
    ⟨hok.frames_ok, hok.cur_ok, hok.curRanges_eq, hok.memories_seen⟩
  obtain ⟨next, hrun, hnext, hcursor, hwritten⟩ :=
    splitLoop_spec hpayload hranges hnodup r (payload.drop st.payloadCursor)
      (by simp; omega) r.size 0 _ (by omega) (Nat.zero_le _) hmoved
  refine ⟨next, hrun, hnext, hcursor, ?_⟩
  have hslice : slice (payload.drop st.payloadCursor) 0 r.size =
      slice payload st.payloadCursor r.size := by
    simp [slice]
  rw [hwritten, Nat.add_zero, Nat.sub_zero, cellsAt_mod, hslice]
  rfl

private theorem splitRanges_spec (hpayload : 0 < maxPayload) (hranges : 0 < maxRanges)
    (hnodup : (earlier ++ [memory]).Nodup) (payload : List UInt8) (ranges : List Range)
    (st : SplitState)
    (hwithin : st.payloadCursor + (ranges.map Range.size).sum ≤ payload.length)
    (hok : st.Ok maxPayload maxRanges (earlier ++ [memory])) :
    ∃ next, ranges.foldlM (splitRange maxPayload maxRanges payload memory) st = some next ∧
      next.Ok maxPayload maxRanges (earlier ++ [memory]) ∧
      next.payloadCursor = st.payloadCursor + (ranges.map Range.size).sum ∧
      next.written = st.written ++ (ranges.flatMap fun r => cellsAt memory r.offset r.size).zip
          (slice payload st.payloadCursor (ranges.map Range.size).sum) := by
  induction ranges generalizing st with
  | nil => exact ⟨st, rfl, hok, rfl, by simp⟩
  | cons r rest ih =>
    simp only [List.map_cons, List.sum_cons] at hwithin ⊢
    obtain ⟨mid, hmid_run, hmid, hmid_cursor, hmid_written⟩ :=
      splitRange_spec hpayload hranges hnodup payload r st (by omega) hok
    obtain ⟨next, hrun, hnext, hcursor, hwritten⟩ := ih mid (by omega) hmid
    refine ⟨next, ?_, hnext, by omega, ?_⟩
    · rw [List.foldlM_cons, hmid_run]
      exact hrun
    · rw [hwritten, hmid_written, hmid_cursor, List.flatMap_cons, slice_add,
        List.zip_append (by rw [length_cellsAt, length_slice _ _ _ (by omega)]),
        List.append_assoc]

private theorem splitUploads_spec (hpayload : 0 < maxPayload) (hranges : 0 < maxRanges)
    (payload : List UInt8) (uploads : List Upload) (earlier : List Nat) (st : SplitState)
    (hnodup : (earlier ++ uploads.map Upload.memory).Nodup)
    (hwithin : st.payloadCursor + DirtySnapshot.rangeBytes ⟨uploads, payload⟩ ≤ payload.length)
    (hok : st.Ok maxPayload maxRanges earlier) :
    ∃ next, uploads.foldlM (fun st up =>
        up.ranges.foldlM (splitRange maxPayload maxRanges payload up.memory) st) st = some next ∧
      next.Ok maxPayload maxRanges (earlier ++ uploads.map Upload.memory) ∧
      next.written = st.written ++ (DirtySnapshot.cells ⟨uploads, payload⟩).zip
          (slice payload st.payloadCursor (DirtySnapshot.rangeBytes ⟨uploads, payload⟩)) := by
  induction uploads generalizing earlier st with
  | nil =>
    exact ⟨st, rfl, by simpa using hok, by simp [DirtySnapshot.cells, DirtySnapshot.flatRanges]⟩
  | cons up rest ih =>
    have hbytes : DirtySnapshot.rangeBytes ⟨up :: rest, payload⟩ =
        (up.ranges.map Range.size).sum + DirtySnapshot.rangeBytes ⟨rest, payload⟩ := by
      simp [DirtySnapshot.rangeBytes, DirtySnapshot.flatRanges, Function.comp_def]
    have hcells : DirtySnapshot.cells ⟨up :: rest, payload⟩ =
        (up.ranges.flatMap fun r => cellsAt up.memory r.offset r.size) ++
          DirtySnapshot.cells ⟨rest, payload⟩ := by
      simp [DirtySnapshot.cells, DirtySnapshot.flatRanges, List.flatMap_map]
    have hlist : earlier ++ (up :: rest).map Upload.memory =
        (earlier ++ [up.memory]) ++ rest.map Upload.memory := by
      simp
    rw [hlist] at hnodup ⊢
    obtain ⟨mid, hmid_run, hmid, hmid_cursor, hmid_written⟩ :=
      splitRanges_spec hpayload hranges (List.Nodup.of_append_left hnodup) payload up.ranges st
        (by omega) (hok.mono (List.sublist_append_left _ _))
    obtain ⟨next, hrun, hnext, hwritten⟩ := ih (earlier ++ [up.memory]) mid hnodup (by omega) hmid
    refine ⟨next, ?_, hnext, ?_⟩
    · rw [List.foldlM_cons, hmid_run]
      exact hrun
    · have hlength : (up.ranges.flatMap fun r => cellsAt up.memory r.offset r.size).length =
          (slice payload st.payloadCursor (up.ranges.map Range.size).sum).length := by
        rw [length_slice _ _ _ (by omega)]
        simp [List.length_flatMap]
      rw [hwritten, hmid_written, hmid_cursor, hcells, hbytes, slice_add,
        List.zip_append hlength, List.append_assoc]

/-- A snapshot the splitter may be given: at most one upload for each memory,
and a payload of exactly the bytes of its ranges. -/
structure DirtySnapshot.Aligned (snap : DirtySnapshot) : Prop where
  memories_nodup : (snap.uploads.map Upload.memory).Nodup
  payload_length : snap.payload.length = snap.rangeBytes

/-- The splitter terminates, and its frames carry the snapshot's bytes in order. -/
theorem splitForUpload_spec (hpayload : 0 < maxPayload) (hranges : 0 < maxRanges)
    {snap : DirtySnapshot} (hsnap : snap.Aligned) :
    ∃ frames, splitForUpload snap maxPayload maxRanges = some frames ∧
      (∀ frame ∈ frames, frame.FrameOk maxPayload maxRanges) ∧
      frames.flatMap DirtySnapshot.byteWrites = snap.byteWrites := by
  obtain ⟨st, hrun, hok, hwritten⟩ :=
    splitUploads_spec hpayload hranges snap.payload snap.uploads [] {}
      hsnap.memories_nodup (by simp [hsnap.payload_length])
      (SplitState.ok_start maxPayload maxRanges)
  obtain ⟨hflushed, hcur, hsame, -⟩ := hok.flushCur
  refine ⟨st.flushCur.frames, ?_, hflushed.frames_ok, ?_⟩
  · have hcaps : ¬ (maxPayload = 0 ∨ maxRanges = 0) := by omega
    simp [splitForUpload, hcaps, hrun]
  · have hwhole : slice snap.payload 0 snap.rangeBytes = snap.payload := by
      simp [slice, ← hsnap.payload_length]
    have hframes : st.flushCur.written = st.flushCur.frames.flatMap DirtySnapshot.byteWrites := by
      simp [SplitState.written, hcur, DirtySnapshot.byteWrites, DirtySnapshot.cells,
        DirtySnapshot.flatRanges]
    rw [← hframes, hsame, hwritten]
    simp [SplitState.written, DirtySnapshot.byteWrites, hwhole]

end Walk

end VkRelay.Memory
