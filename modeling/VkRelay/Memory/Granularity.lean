import VkRelay.Memory.Upload
import VkRelay.Worker.Memory

/-!
Chunk granularity seen from the worker. The diff works in whole chunks, so a
shipped chunk carries bytes the application did not change. When the worker's
memory has a second writer, such a byte is put back to the shadow's value; this
module says exactly when nothing is lost.
-/

namespace VkRelay.Memory

open VkRelay.Lib VkRelay.Worker

/-- The two calls that ship: a pending sweep, with or without a page filter, and
an explicit flush. -/
inductive UploadCall where
  | sweep (filter : Option PageFilter)
  | flush (ranges : List MemRange)

namespace UploadCall

def snapshot (t : MappedMemoryTracker) : UploadCall → Except String DirtySnapshot
  | .sweep filter => .ok (t.snapshotPending filter).1
  | .flush ranges => t.snapshotExplicit ranges

/-- Byte `b` of `memory` lies in a dirty chunk the call ships. -/
def Ships (t : MappedMemoryTracker) : UploadCall → Nat → Nat → Prop
  | .sweep filter => t.SweepShips filter
  | .flush ranges => t.FlushShips ranges

variable {t : MappedMemoryTracker} {call : UploadCall}

theorem gathers {snap : DirtySnapshot} (hok : call.snapshot t = .ok snap) :
    t.Gathers (call.Ships t) snap := by
  cases call with
  | sweep filter =>
    cases hok
    exact MappedMemoryTracker.snapshotPending_gathers filter t
  | flush ranges => exact MappedMemoryTracker.snapshotExplicit_gathers hok

theorem Ships.lt_length {memory b : Nat} (hships : call.Ships t memory b) {a : Alloc}
    (hlookup : t.allocs[memory]? = some a) : b < a.shadow.length := by
  have hwithin : ∃ other, t.allocs[memory]? = some other ∧ b < other.size ∧
      other.chunkDirty (b / kChunkBytes) = true := by
    cases call with
    | sweep filter =>
      obtain ⟨other, hother, -, hb, hdirty, -⟩ := hships
      exact ⟨other, hother, hb, hdirty⟩
    | flush ranges =>
      obtain ⟨other, hother, hb, hdirty, -⟩ := hships
      exact ⟨other, hother, hb, hdirty⟩
  obtain ⟨other, hother, hb, hdirty⟩ := hwithin
  rw [hlookup, Option.some_inj] at hother
  subst hother
  rw [(a.chunkDirty_within hdirty).1]
  exact hb

end UploadCall

def shipAll (w : WorkerMemory) (frames : List DirtySnapshot) :
    Except WriteFailure WorkerMemory :=
  frames.foldlM (fun w frame => w.writeMemoryRanges (toWriteRequest frame)) w

/-- Frames that all succeed scatter their byte writes in order. -/
theorem shipAll_byteAt (frames : List DirtySnapshot) {w next : WorkerMemory}
    (hlength : ∀ frame ∈ frames, frame.payload.length = frame.rangeBytes)
    (hok : shipAll w frames = .ok next) (memory i : Nat) :
    next.byteAt memory i = (w.byteAt memory i).map fun old =>
      (lastWrite (frames.flatMap DirtySnapshot.byteWrites) (memory, i)).getD old := by
  induction frames generalizing w with
  | nil =>
    cases hok
    simp
  | cons frame rest ih =>
    rw [shipAll, List.foldlM_cons] at hok
    obtain ⟨mid, hframe, hrest⟩ := except_bind_eq_ok.mp hok
    rw [ih (fun f hf => hlength f (List.mem_cons_of_mem _ hf)) hrest,
      WorkerMemory.writeMemoryRanges_byteAt (hlength frame (List.mem_cons_self ..)) hframe,
      Option.map_map, List.flatMap_cons]
    congr 1
    funext old
    rw [Function.comp_apply, lastWrite_append]
    cases lastWrite (rest.flatMap DirtySnapshot.byteWrites) (memory, i) <;> simp

/-- For any tracker, any worker memory and any call whose frames all succeed:
every byte the application did not change keeps its value on the worker exactly
when each such byte in a dirty chunk the call ships already had the shadow's
value there. -/
theorem unmodified_bytes_kept_iff (t : MappedMemoryTracker) (w next : WorkerMemory)
    (call : UploadCall) (snap : DirtySnapshot) (frames : List DirtySnapshot)
    (hsnap : call.snapshot t = .ok snap)
    (hsplit : splitForUpload snap kMaxMemoryUploadBytes kFrameMaxRanges = some frames)
    (hship : shipAll w frames = .ok next) :
    (∀ (memory : Nat) (a : Alloc) (b : Nat), t.allocs[memory]? = some a → b < a.shadow.length →
      a.shadow[b]? = a.lastUploaded[b]? → next.byteAt memory b = w.byteAt memory b) ↔
    (∀ (memory : Nat) (a : Alloc) (b : Nat), t.allocs[memory]? = some a →
      call.Ships t memory b → a.shadow[b]? = a.lastUploaded[b]? →
      ∀ old, w.byteAt memory b = some old → a.shadow[b]? = some old) := by
  have hgathers := UploadCall.gathers hsnap
  obtain ⟨found, hfound, hframes, hwrites, -⟩ := hgathers.aligned.exists_frames
  obtain rfl : frames = found := Option.some.inj (hsplit.symm.trans hfound)
  have hbyte := shipAll_byteAt frames (fun f hf => (hframes f hf).payload_length) hship
  rw [hwrites] at hbyte
  have hshipped : ∀ (memory : Nat) (a : Alloc) (b : Nat), t.allocs[memory]? = some a →
      call.Ships t memory b → lastWrite snap.byteWrites (memory, b) = a.shadow[b]? := by
    intro memory a b hlookup hships
    rw [hgathers.lastWrite_of_shipped hships, MappedMemoryTracker.shadowAt, hlookup]
    rfl
  constructor
  · intro hkept memory a b hlookup hships hsame old hold
    have hlt := hships.lt_length hlookup
    have hnow := hkept memory a b hlookup hlt hsame
    rw [hbyte, hold, hshipped memory a b hlookup hships, List.getElem?_eq_getElem hlt] at hnow
    rw [List.getElem?_eq_getElem hlt]
    simpa using hnow
  · intro hagree memory a b hlookup hlt hsame
    rw [hbyte]
    by_cases hships : call.Ships t memory b
    · cases hold : w.byteAt memory b with
      | none => rfl
      | some old =>
        rw [hshipped memory a b hlookup hships,
          hagree memory a b hlookup hships hsame old hold]
        rfl
    · rw [hgathers.lastWrite_of_not_shipped hships]
      simp

/-- Two mapped bytes, the first of them written by the application. -/
def halfWrittenPair : MappedMemoryTracker where
  allocs := (∅ : Table Alloc).insert 1
    (((Alloc.fresh 2 0 true true).mapAt 0 2 (by decide) (by decide) (by decide)).writeShadow
      0 [1])

/-- The worker's copy of the pair, with the second byte changed by the device. -/
def devicePair : WorkerMemory where
  memoryObjects := (∅ : Table MemoryObject).insert 1
    ⟨1, 2, 0, 6, 0, [0, 9], by decide, .inr ⟨by decide, rfl⟩⟩

/-- The sweep puts the byte the application never wrote back to zero. -/
theorem sweep_overwrites_unmodified_byte :
    ∃ frames next,
      splitForUpload (halfWrittenPair.snapshotPending none).1 kMaxMemoryUploadBytes
        kFrameMaxRanges = some frames ∧
      shipAll devicePair frames = .ok next ∧
      halfWrittenPair.shadowAt 1 1 = halfWrittenPair.mirrorAt 1 1 ∧
      devicePair.byteAt 1 1 = some 9 ∧ next.byteAt 1 1 = some 0 :=
  ⟨_, _, rfl, rfl, by decide, by decide, by decide⟩

theorem unmodified_bytes_kept_iff_pair :
    ∃ frames next,
      splitForUpload (halfWrittenPair.snapshotPending none).1 kMaxMemoryUploadBytes
        kFrameMaxRanges = some frames ∧
      shipAll devicePair frames = .ok next ∧
      ¬ ∀ (memory : Nat) (a : Alloc) (b : Nat), halfWrittenPair.allocs[memory]? = some a →
        (UploadCall.sweep none).Ships halfWrittenPair memory b →
        a.shadow[b]? = a.lastUploaded[b]? →
        ∀ old, devicePair.byteAt memory b = some old → a.shadow[b]? = some old := by
  refine ⟨_, _, rfl, rfl, fun hagree => ?_⟩
  have hkept := (unmodified_bytes_kept_iff halfWrittenPair devicePair _ (.sweep none) _ _ rfl rfl
    rfl).mpr hagree 1 _ 1 rfl (by decide) (by decide)
  revert hkept
  decide

end VkRelay.Memory
