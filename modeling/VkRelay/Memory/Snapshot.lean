import VkRelay.Memory.Tracker

/-!
Diffing the shadow against the mirror in chunks, and the two kinds of upload
snapshot: the ranges named by an explicit flush, and the sweep over every
candidate allocation, optionally narrowed by a page filter. A snapshot never
touches the mirror; `commit` advances it by exactly the acknowledged bytes.
-/

namespace VkRelay.Memory

/-- One step of merging: `out` holds the cover built so far, last interval first. -/
def mergeStep (out : List Range) (r : Range) : List Range :=
  match out with
  | [] => [r]
  | back :: rest =>
    if r.offset ≤ back.offset + back.size then
      ⟨back.offset, max (back.offset + back.size) (r.offset + r.size) - back.offset⟩ :: rest
    else r :: back :: rest

/-- Merge byte intervals into a sorted cover without overlaps. -/
def mergeCover (input : List Range) : List Range :=
  ((input.insertionSort fun x y => x.offset ≤ y.offset).foldl mergeStep []).reverse

/-- The walk over the chunks of a cover: the open dirty range, the last visited
chunk, and what has been emitted. -/
structure DirtyWalk where
  cur : Option Range := none
  prevChunk : Option Nat := none
  ranges : List Range := []
  payload : List UInt8 := []
deriving DecidableEq

namespace Alloc

def chunkEnd (a : Alloc) (i : Nat) : Nat :=
  min (i * kChunkBytes + kChunkBytes) a.size

/-- The `memcmp` of one chunk. -/
def chunkDirty (a : Alloc) (i : Nat) : Bool :=
  decide (slice a.shadow (i * kChunkBytes) (a.chunkEnd i - i * kChunkBytes) ≠
    slice a.lastUploaded (i * kChunkBytes) (a.chunkEnd i - i * kChunkBytes))

/-- The chunks the inner loop visits for one interval of the cover: from the one
holding its first byte, while the chunk starts before the interval's end. -/
def chunksOf (a : Alloc) (iv : Range) : List Nat :=
  let stop := min (iv.offset + iv.size) a.size
  let start := iv.offset / kChunkBytes
  List.range' start ((stop + (kChunkBytes - 1)) / kChunkBytes - start)

def emit (a : Alloc) (w : DirtyWalk) (r : Range) : DirtyWalk :=
  { w with
    cur := none
    ranges := w.ranges ++ [r]
    payload := w.payload ++ slice a.shadow r.offset r.size }

def visitChunk (a : Alloc) (w : DirtyWalk) (i : Nat) : DirtyWalk :=
  let c := i * kChunkBytes
  let consecutive := decide (w.prevChunk.map (· + 1) = some i)
  let visited :=
    match a.chunkDirty i, w.cur with
    | true, some cur =>
      if consecutive then { w with cur := some ⟨cur.offset, a.chunkEnd i - cur.offset⟩ }
      else { a.emit w cur with cur := some ⟨c, a.chunkEnd i - c⟩ }
    | true, none => { w with cur := some ⟨c, a.chunkEnd i - c⟩ }
    | false, some cur => a.emit w cur
    | false, none => w
  { visited with prevChunk := some i }

/-- Diff `cover` in chunk units: the coalesced dirty ranges and their bytes. -/
def collectDirty (a : Alloc) (cover : List Range) : DirtyWalk :=
  let w := cover.foldl (fun w iv => (a.chunksOf iv).foldl a.visitChunk w) {}
  match w.cur with
  | some cur => a.emit w cur
  | none => w

end Alloc

/-- Append one allocation's ranges and bytes to the snapshot, if there are any. -/
def DirtySnapshot.addUpload (snap : DirtySnapshot) (memory : Nat) (w : DirtyWalk) :
    DirtySnapshot :=
  if w.ranges = [] then { snap with payload := snap.payload ++ w.payload }
  else
    { uploads := snap.uploads ++ [⟨memory, w.ranges⟩]
      payload := snap.payload ++ w.payload }

/-- The page pre-filter: for one allocation's shadow span, the possibly written
byte ranges, or `none` when it cannot answer. -/
abbrev PageFilter := Nat → Nat → Option (List Range)

namespace MappedMemoryTracker

/-- The interval one flush range names, relative to the current mapping. -/
def flushInterval (a : Alloc) (r : MemRange) : Except String Range :=
  let mappedEnd := a.mappedOffset + a.mappedSize
  if !a.isMapped then .error "flush of memory that is not mapped"
  else if r.size = kWholeSize then
    if r.offset < a.mappedOffset ∨ r.offset ≥ mappedEnd then
      .error "flush offset is outside the current mapping"
    else .ok ⟨r.offset, mappedEnd - r.offset⟩
  else if r.size = 0 then .error "explicit flush range size must be > 0"
  else if addOverflows r.offset r.size ∨ r.offset < a.mappedOffset ∨
      r.offset + r.size > mappedEnd then
    .error "flush range is outside the current mapping"
  else .ok ⟨r.offset, r.size⟩

/-- The cover intervals grouped by allocation in first-seen order. -/
def addCover (memory : Nat) (iv : Range) : List (Nat × List Range) → List (Nat × List Range)
  | [] => [(memory, [iv])]
  | (key, ivs) :: rest =>
    if key = memory then (key, ivs ++ [iv]) :: rest
    else (key, ivs) :: addCover memory iv rest

def flushCover (t : MappedMemoryTracker) (ranges : List MemRange) :
    Except String (List (Nat × List Range)) :=
  ranges.foldlM (fun cover r =>
    match t.allocs[r.memory]? with
    | none => .error "flush of unknown memory"
    | some a => do
      let iv ← flushInterval a r
      pure (addCover r.memory iv cover)) []

/-- Snapshot exactly the named ranges. Any invalid range fails the whole flush. -/
def snapshotExplicit (t : MappedMemoryTracker) (ranges : List MemRange) :
    Except String DirtySnapshot := do
  let cover ← flushCover t ranges
  pure (cover.foldl (fun snap entry =>
    match t.allocs[entry.1]? with
    | none => snap
    | some a => snap.addUpload entry.1 (a.collectDirty (mergeCover entry.2))) {})

def clampAdmitted (size : Nat) (admitted : List Range) : List Range :=
  admitted.filterMap fun r =>
    if r.offset ≥ size ∨ r.size = 0 then none
    else
      let stop := min (if addOverflows r.offset r.size then size else r.offset + r.size) size
      some ⟨r.offset, stop - r.offset⟩

/-- The cover the filter narrows the diff to, when it may and can answer. -/
def filteredCover (filter : Option PageFilter) (memory : Nat) (a : Alloc) : Option (List Range) :=
  match filter with
  | none => none
  | some admits =>
    if a.baselineDone then
      (admits memory a.size).map fun admitted => mergeCover (clampAdmitted a.size admitted)
    else none

/-- What the sweep does to one candidate: the walk, and whether it was a full diff. -/
def sweepWalk (filter : Option PageFilter) (memory : Nat) (a : Alloc) : DirtyWalk × Bool :=
  if a.shadow = [] then ({}, false)
  else
    match filteredCover filter memory a with
    | some cover => (a.collectDirty cover, false)
    | none => (a.collectDirty [⟨0, a.size⟩], true)

/-- The flags the sweep leaves behind: a full diff under a filter is a baseline,
and a clean unmapped allocation is no longer a candidate. -/
def sweepFlags (filter : Option PageFilter) (memory : Nat) (a : Alloc) : Alloc :=
  if a.candidate then
    let (walk, full) := sweepWalk filter memory a
    { a with
      baselineDone := a.baselineDone || (full && filter.isSome)
      candidate := decide (walk.ranges ≠ []) || a.isMapped }
  else a

/-- The sweep over every candidate, in key order. -/
def snapshotPending (t : MappedMemoryTracker) (filter : Option PageFilter) :
    DirtySnapshot × MappedMemoryTracker :=
  (t.allocs.toList.foldl (fun snap entry =>
      if entry.2.candidate then snap.addUpload entry.1 (sweepWalk filter entry.1 entry.2).1
      else snap) {},
    { t with allocs := t.allocs.map (sweepFlags filter) })

/-- Copy one acknowledged range into the mirror and move the cursor past it. -/
def commitRange (payload : List UInt8) (memory : Nat) (state : MappedMemoryTracker × Nat)
    (r : Range) : MappedMemoryTracker × Nat :=
  let (t, cursor) := state
  match t.allocs[memory]? with
  | none => (t, cursor + r.size)
  | some a =>
    if r.offset + r.size ≤ a.lastUploaded.length ∧ cursor + r.size ≤ payload.length then
      ({ t with allocs :=
          t.allocs.insert memory (a.writeMirror r.offset (slice payload cursor r.size)) },
        cursor + r.size)
    else (t, cursor + r.size)

/-- Advance the mirror to exactly the acknowledged bytes. -/
def commit (t : MappedMemoryTracker) (snap : DirtySnapshot) : MappedMemoryTracker :=
  (snap.uploads.foldl (fun state up =>
    up.ranges.foldl (commitRange snap.payload up.memory) state) (t, 0)).1

end MappedMemoryTracker

end VkRelay.Memory
