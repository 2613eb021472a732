import VkRelay.Lib.Runs
import VkRelay.Memory.Commit

/-!
What the diff finds. The chunk walk emits the runs of the dirty chunks it
visits, in visiting order, and the payload is the shadow's own bytes; so the
byte writes of a walk are the shadow bytes of every visited dirty chunk. The
ranges stand apart exactly when no dirty chunk is visited twice, which for a
merged cover means that the covered bytes of each dirty chunk have no hole.
-/

namespace VkRelay.Memory

open VkRelay.Lib

namespace Alloc

variable (a : Alloc)

def runRange (run : Run) : Range :=
  ⟨run.lo * kChunkBytes, a.chunkEnd run.hi - run.lo * kChunkBytes⟩

/-- Where the walk stands when it has found `runs`, last run first. -/
inductive WalkState : List Run → DirtyWalk → Prop
  | start : WalkState [] {}
  | within {back : Run} {rest : List Run} {payload : List UInt8}
      (hdirty : a.chunkDirty back.hi = true) :
      WalkState (back :: rest)
        ⟨some (a.runRange back), some back.hi, rest.reverse.map a.runRange, payload⟩
  | between {runs : List Run} {prev : Nat} {payload : List UInt8}
      (hclean : a.chunkDirty prev = false) (hpast : ∀ back ∈ runs.head?, back.hi < prev) :
      WalkState runs ⟨none, some prev, runs.reverse.map a.runRange, payload⟩

/-- One visit: a dirty chunk joins the runs, a clean one leaves them as they are. -/
theorem visitChunk_walkState {runs : List Run} {w : DirtyWalk} {i : Nat}
    (hstate : a.WalkState runs w) (hascending : ∀ prev ∈ w.prevChunk, prev ≤ i) :
    a.WalkState (if a.chunkDirty i then pushRun runs i else runs) (a.visitChunk w i) := by
  cases hdirty : a.chunkDirty i with
  | true =>
    rw [if_pos rfl]
    cases hstate with
    | start =>
      have hvisit : a.visitChunk {} i =
          ⟨some (a.runRange (.single i)), some i, [].map a.runRange, []⟩ := by
        simp [visitChunk, hdirty, runRange, Run.single]
      rw [hvisit]
      exact .within hdirty
    | @within back rest payload hback =>
      by_cases hnext : i = back.hi + 1
      · subst hnext
        have hvisit : a.visitChunk ⟨some (a.runRange back), some back.hi,
            rest.reverse.map a.runRange, payload⟩ (back.hi + 1) =
            ⟨some (a.runRange back.extend), some back.extend.hi,
              rest.reverse.map a.runRange, payload⟩ := by
          simp [visitChunk, hdirty, runRange, Run.extend]
        rw [hvisit, pushRun, if_pos rfl]
        exact .within hdirty
      · have hnot : ¬ back.hi + 1 = i := fun heq => hnext heq.symm
        have hvisit : a.visitChunk ⟨some (a.runRange back), some back.hi,
            rest.reverse.map a.runRange, payload⟩ i =
            ⟨some (a.runRange (.single i)), some i, (back :: rest).reverse.map a.runRange,
              payload ++ slice a.shadow (a.runRange back).offset (a.runRange back).size⟩ := by
          simp [visitChunk, hdirty, hnot, emit, runRange, Run.single]
        rw [hvisit, pushRun, if_neg hnext]
        exact .within hdirty
    | @between _ prev payload hclean hpast =>
      have hle : prev ≤ i := hascending prev rfl
      -- The last visited chunk was clean, so this one lies past it.
      have hne : prev ≠ i := fun heq => by simp [heq, hdirty] at hclean
      have hvisit : a.visitChunk ⟨none, some prev, runs.reverse.map a.runRange, payload⟩ i =
          ⟨some (a.runRange (.single i)), some i, runs.reverse.map a.runRange, payload⟩ := by
        simp [visitChunk, hdirty, runRange, Run.single]
      have hpush : pushRun runs i = .single i :: runs := by
        cases runs with
        | nil => rfl
        | cons back rest =>
          have hback := hpast back rfl
          have hnext : i ≠ back.hi + 1 := by omega
          rw [pushRun, if_neg hnext]
      rw [hvisit, hpush]
      exact .within hdirty
  | false =>
    rw [if_neg Bool.false_ne_true]
    cases hstate with
    | start =>
      have hvisit : a.visitChunk {} i = ⟨none, some i, [].map a.runRange, []⟩ := by
        simp [visitChunk, hdirty]
      rw [hvisit]
      exact .between hdirty (by simp)
    | @within back rest payload hback =>
      have hle : back.hi ≤ i := hascending back.hi rfl
      have hne : back.hi ≠ i := fun heq => by simp [heq, hdirty] at hback
      have hvisit : a.visitChunk ⟨some (a.runRange back), some back.hi,
          rest.reverse.map a.runRange, payload⟩ i =
          ⟨none, some i, (back :: rest).reverse.map a.runRange,
            payload ++ slice a.shadow (a.runRange back).offset (a.runRange back).size⟩ := by
        simp [visitChunk, hdirty, emit]
      rw [hvisit]
      exact .between hdirty (by simp; omega)
    | @between _ prev payload hclean hpast =>
      have hle : prev ≤ i := hascending prev rfl
      have hvisit : a.visitChunk ⟨none, some prev, runs.reverse.map a.runRange, payload⟩ i =
          ⟨none, some i, runs.reverse.map a.runRange, payload⟩ := by
        simp [visitChunk, hdirty]
      rw [hvisit]
      exact .between hdirty fun back hback => (hpast back hback).trans_le hle

private theorem foldl_visitChunk_walkState (visited : List Nat) {runs : List Run} {w : DirtyWalk}
    (hascending : visited.Pairwise (· ≤ ·)) (hprev : ∀ prev ∈ w.prevChunk, ∀ i ∈ visited, prev ≤ i)
    (hstate : a.WalkState runs w) :
    a.WalkState ((visited.filter a.chunkDirty).foldl pushRun runs)
      (visited.foldl a.visitChunk w) := by
  induction visited generalizing runs w with
  | nil => exact hstate
  | cons i rest ih =>
    obtain ⟨hhead, htail⟩ := List.pairwise_cons.mp hascending
    have hstep := a.visitChunk_walkState hstate fun prev hp =>
      hprev prev hp i (List.mem_cons_self ..)
    have hvisited : (a.visitChunk w i).prevChunk = some i := rfl
    have hrest := ih htail (by simpa [hvisited] using hhead) hstep
    cases hdirty : a.chunkDirty i <;> simpa [hdirty] using hrest

/-- The chunks a walk over `cover` visits, in order. -/
def visited (cover : List Range) : List Nat :=
  cover.flatMap a.chunksOf

def found (cover : List Range) : List Nat :=
  (a.visited cover).filter a.chunkDirty

variable (cover : List Range) {w : DirtyWalk}

/-- A walk that never steps back emits the runs of the dirty chunks it visits. -/
theorem collectDirty_ranges (hascending : (a.visited cover).Pairwise (· ≤ ·)) :
    (a.collectDirty cover).ranges = (runsOf (a.found cover)).map a.runRange := by
  have hwalk : cover.foldl (fun w iv => (a.chunksOf iv).foldl a.visitChunk w) {} =
      (a.visited cover).foldl a.visitChunk {} := by
    rw [visited, List.foldl_flatMap]
  have hstate := a.foldl_visitChunk_walkState (a.visited cover) hascending (by simp) .start
  rw [← found] at hstate
  rw [collectDirty, hwalk, runsOf]
  generalize (a.found cover).foldl pushRun [] = runs at hstate ⊢
  generalize (a.visited cover).foldl a.visitChunk {} = walked at hstate ⊢
  cases hstate with
  | start => rfl
  | within hdirty => simp [emit]
  | between hclean hpast => rfl

def shadowBytes (ranges : List Range) : List UInt8 :=
  ranges.flatMap fun r => slice a.shadow r.offset r.size

theorem emit_payload (hpayload : w.payload = a.shadowBytes w.ranges) (r : Range) :
    (a.emit w r).payload = a.shadowBytes (a.emit w r).ranges := by
  simp [emit, shadowBytes, hpayload]

theorem visitChunk_payload (hpayload : w.payload = a.shadowBytes w.ranges) (i : Nat) :
    (a.visitChunk w i).payload = a.shadowBytes (a.visitChunk w i).ranges := by
  unfold visitChunk
  dsimp only
  split
  · split
    · exact hpayload
    · exact a.emit_payload hpayload _
  · exact hpayload
  · exact a.emit_payload hpayload _
  · exact hpayload

/-- The payload of a walk is the shadow's bytes of its ranges. -/
theorem collectDirty_payload :
    (a.collectDirty cover).payload = a.shadowBytes (a.collectDirty cover).ranges := by
  have hchunks : ∀ (chunks : List Nat) (w : DirtyWalk), w.payload = a.shadowBytes w.ranges →
      (chunks.foldl a.visitChunk w).payload =
        a.shadowBytes (chunks.foldl a.visitChunk w).ranges := by
    intro chunks
    induction chunks with
    | nil => exact fun _ h => h
    | cons i rest ih => exact fun w h => ih _ (a.visitChunk_payload h i)
  have hwalk := hchunks (a.visited cover) {} rfl
  rw [visited, List.foldl_flatMap] at hwalk
  unfold collectDirty
  dsimp only
  split
  · exact a.emit_payload hwalk _
  · exact hwalk

/-- A chunk is dirty when the shadow and the mirror differ somewhere in it. -/
theorem chunkDirty_iff (a : Alloc) (i : Nat) :
    a.chunkDirty i = true ↔ ∃ b, b / kChunkBytes = i ∧ a.shadow[b]? ≠ a.lastUploaded[b]? := by
  have hmirror := a.mirror_length
  rw [chunkDirty, decide_eq_true_iff, Ne, List.ext_getElem?_iff, not_forall]
  constructor
  · rintro ⟨j, hj⟩
    rw [slice_getElem?, slice_getElem?] at hj
    by_cases hlt : j < a.chunkEnd i - i * kChunkBytes
    · rw [if_pos hlt, if_pos hlt] at hj
      refine ⟨i * kChunkBytes + j, ?_, hj⟩
      have hj : j < kChunkBytes := by rw [chunkEnd] at hlt; omega
      rw [kChunkBytes] at hj ⊢
      omega
    · rw [if_neg hlt, if_neg hlt] at hj
      exact absurd rfl hj
  · rintro ⟨b, rfl, hb⟩
    have hlt : b < a.shadow.length := by
      by_contra hpast
      rw [List.getElem?_eq_none (by omega), List.getElem?_eq_none (by omega)] at hb
      exact hb rfl
    have hsize := size_eq_length (List.ne_nil_of_length_pos (Nat.zero_lt_of_lt hlt))
    refine ⟨b % kChunkBytes, ?_⟩
    have hposition : b / kChunkBytes * kChunkBytes + b % kChunkBytes = b := Nat.div_add_mod' _ _
    have hinside : b % kChunkBytes <
        a.chunkEnd (b / kChunkBytes) - b / kChunkBytes * kChunkBytes := by
      rw [chunkEnd]
      have hmod : b % kChunkBytes < kChunkBytes := Nat.mod_lt _ (by decide)
      omega
    rw [slice_getElem?, slice_getElem?, if_pos hinside, if_pos hinside, hposition]
    exact hb

/-- An allocation with a dirty chunk has its buffers, and the chunk starts in them. -/
theorem chunkDirty_within (a : Alloc) {i : Nat} (hdirty : a.chunkDirty i = true) :
    a.shadow.length = a.size ∧ i * kChunkBytes < a.size := by
  obtain ⟨b, hb, hdiff⟩ := (a.chunkDirty_iff i).mp hdirty
  have hmirror := a.mirror_length
  have hlt : b < a.shadow.length := by
    by_contra hpast
    rw [List.getElem?_eq_none (by omega), List.getElem?_eq_none (by omega)] at hdiff
    exact hdiff rfl
  have hsize := size_eq_length (List.ne_nil_of_length_pos (Nat.zero_lt_of_lt hlt))
  rw [kChunkBytes] at hb ⊢
  omega

end Alloc

end VkRelay.Memory
