import VkRelay.Memory.Gather

/-!
The pending sweep. It ships, of every candidate, the dirty chunks its cover
meets: the whole allocation, or what the page filter admits once the allocation
has had a full diff. The sweep changes no buffer and no mapping, only the
baseline and candidate flags.
-/

namespace VkRelay.Memory

open VkRelay.Lib

namespace MappedMemoryTracker

variable (filter : Option PageFilter) (memory : Nat) (a : Alloc)

/-- The cover the sweep diffs one candidate over. -/
def sweepCover : List Range :=
  if a.shadow = [] then [] else (filteredCover filter memory a).getD [⟨0, a.size⟩]

theorem sweepWalk_eq :
    (sweepWalk filter memory a).1 = a.collectDirty (sweepCover filter memory a) := by
  unfold sweepWalk sweepCover
  split
  · rfl
  · cases filteredCover filter memory a <;> rfl

theorem clampAdmitted_bounds {size : Nat} {admitted : List Range} {r : Range}
    (hr : r ∈ clampAdmitted size admitted) : 0 < r.size ∧ r.offset + r.size ≤ size := by
  obtain ⟨wide, -, hclamp⟩ := List.mem_filterMap.mp hr
  split at hclamp
  · cases hclamp
  · next hkeep =>
      simp only [Option.some.injEq] at hclamp
      rw [← hclamp]
      simp only
      split <;> omega

/-- Clamping keeps the admitted bytes of the allocation. -/
theorem clampAdmitted_covers {size : Nat} (hsize : size < 2 ^ 64) {admitted : List Range}
    {b : Nat} (hb : b < size) : Covers (clampAdmitted size admitted) b ↔ Covers admitted b := by
  simp only [Covers, clampAdmitted, List.mem_filterMap, Range.Contains]
  constructor
  · rintro ⟨r, ⟨wide, hwide, hclamp⟩, hlow, hhigh⟩
    split at hclamp
    · cases hclamp
    · simp only [Option.some.injEq] at hclamp
      subst hclamp
      refine ⟨wide, hwide, hlow, ?_⟩
      by_cases hover : addOverflows wide.offset wide.size = true
      · rw [addOverflows, decide_eq_true_iff] at hover
        simp only at hlow
        omega
      · simp only [hover] at hhigh
        simp only [Bool.false_eq_true, if_false] at hhigh
        omega
  · rintro ⟨wide, hwide, hlow, hhigh⟩
    have hkeep : ¬ (wide.offset ≥ size ∨ wide.size = 0) := by omega
    refine ⟨_, ⟨wide, hwide, if_neg hkeep⟩, hlow, ?_⟩
    simp only
    split <;> omega

theorem sweepCover_separated : Separated a.size (sweepCover filter memory a) := by
  unfold sweepCover
  split
  · exact ⟨by simp, by simp⟩
  · next hshadow =>
      have hsize := Alloc.size_eq_length hshadow
      have hpos : 0 < a.size := by
        rw [← hsize]
        exact List.length_pos_of_ne_nil hshadow
      unfold filteredCover
      split
      · exact ⟨by simp, by simpa using hpos⟩
      · next admits =>
          split
          · cases admits memory a.size with
            | none => exact ⟨by simp, by simpa using hpos⟩
            | some admitted => exact (mergeCover_spec _ fun _ hr => clampAdmitted_bounds hr).1
          · exact ⟨by simp, by simpa using hpos⟩

variable (t : MappedMemoryTracker)

def sweepEntries : List (Nat × DirtyWalk) :=
  t.allocs.toList.filterMap fun e =>
    if e.2.candidate then some (e.1, (sweepWalk filter e.1 e.2).1) else none

theorem snapshotPending_eq_gather :
    (t.snapshotPending filter).1 = gather (t.sweepEntries filter) := by
  rw [gather, sweepEntries, List.foldl_filterMap]
  refine congrArg (fun step => t.allocs.toList.foldl step ({} : DirtySnapshot)) ?_
  funext snap entry
  cases entry.2.candidate <;> rfl

theorem sweepEntries_keys_nodup : ((t.sweepEntries filter).map Prod.fst).Nodup := by
  refine (Table.nodup_keys_toList t.allocs).sublist (map_filterMap_sublist (fun e w hw => ?_) _)
  split at hw
  · cases hw
    rfl
  · cases hw

theorem mem_sweepEntries_iff (e : Nat × DirtyWalk) :
    e ∈ t.sweepEntries filter ↔ ∃ a, t.allocs[e.1]? = some a ∧ a.candidate = true ∧
      e.2 = a.collectDirty (sweepCover filter e.1 a) := by
  rw [sweepEntries, List.mem_filterMap]
  constructor
  · rintro ⟨⟨key, a⟩, hentry, hwalk⟩
    split at hwalk
    · next hcandidate =>
        cases hwalk
        exact ⟨a, (Table.mem_toList_iff _ _ _).mp hentry, hcandidate, sweepWalk_eq filter key a⟩
    · cases hwalk
  · rintro ⟨a, hlookup, hcandidate, hwalk⟩
    refine ⟨(e.1, a), (Table.mem_toList_iff _ _ _).mpr hlookup, ?_⟩
    rw [if_pos hcandidate, sweepWalk_eq, ← hwalk]

/-- Byte `b` of a candidate lies in a dirty chunk that meets the sweep's cover. -/
def SweepTakes (memory : Nat) (a : Alloc) (b : Nat) : Prop :=
  a.candidate = true ∧ b < a.size ∧ a.chunkDirty (b / kChunkBytes) = true ∧
    ∃ c, c / kChunkBytes = b / kChunkBytes ∧ Covers (sweepCover filter memory a) c

def SweepShips (memory b : Nat) : Prop :=
  ∃ a, t.allocs[memory]? = some a ∧ SweepTakes filter memory a b

/-- The sweep ships the dirty chunks of the candidates that meet its cover. -/
theorem snapshotPending_gathers : t.Gathers (t.SweepShips filter) (t.snapshotPending filter).1 := by
  have hwalked : ∀ e ∈ t.sweepEntries filter, ∃ cover, t.Walked e.1 cover e.2 := by
    intro e he
    obtain ⟨a, hlookup, -, hwalk⟩ := (mem_sweepEntries_iff filter t e).mp he
    exact ⟨_, a, hlookup, sweepCover_separated filter e.1 a, hwalk⟩
  rw [snapshotPending_eq_gather]
  refine (gathers_of_walked (sweepEntries_keys_nodup filter t) hwalked).congr fun memory b => ?_
  constructor
  · rintro ⟨e, he, rfl, hb⟩
    obtain ⟨a, hlookup, hcandidate, hwalk⟩ := (mem_sweepEntries_iff filter t e).mp he
    have hseparated := sweepCover_separated filter e.1 a
    rw [hwalk, Alloc.collectDirty_covers hseparated, Alloc.mem_found_iff hseparated] at hb
    exact ⟨a, hlookup, hcandidate, hb⟩
  · rintro ⟨a, hlookup, hcandidate, hb⟩
    have hseparated := sweepCover_separated filter memory a
    refine ⟨(memory, a.collectDirty (sweepCover filter memory a)),
      (mem_sweepEntries_iff filter t _).mpr ⟨a, hlookup, hcandidate, rfl⟩, rfl, ?_⟩
    rw [Alloc.collectDirty_covers hseparated, Alloc.mem_found_iff hseparated]
    exact hb

section Flags

variable {filter memory a}

@[simp] theorem sweepFlags_shadow : (sweepFlags filter memory a).shadow = a.shadow := by
  unfold sweepFlags
  split <;> rfl

@[simp] theorem sweepFlags_lastUploaded :
    (sweepFlags filter memory a).lastUploaded = a.lastUploaded := by
  unfold sweepFlags
  split <;> rfl

@[simp] theorem sweepFlags_isMapped : (sweepFlags filter memory a).isMapped = a.isMapped := by
  unfold sweepFlags
  split <;> rfl

theorem sweepFlags_candidate : (sweepFlags filter memory a).candidate =
    (a.candidate && (decide ((sweepWalk filter memory a).1.ranges ≠ []) || a.isMapped)) := by
  unfold sweepFlags
  cases hcandidate : a.candidate <;> simp [hcandidate]

theorem snapshotPending_lookup (t : MappedMemoryTracker) (key : Nat) :
    (t.snapshotPending filter).2.allocs[key]? = t.allocs[key]?.map (sweepFlags filter key) := by
  simp [snapshotPending, Std.ExtTreeMap.getElem?_map]

end Flags

/-- A byte that differs lies in a dirty chunk of the allocation. -/
theorem differing_byte {a : Alloc} (hdiffer : a.shadow ≠ a.lastUploaded) :
    ∃ b < a.size, a.chunkDirty (b / kChunkBytes) = true := by
  have hbyte : ∃ b : Nat, a.shadow[b]? ≠ a.lastUploaded[b]? := by
    by_contra hsame
    push Not at hsame
    exact hdiffer (List.ext_getElem? hsame)
  obtain ⟨b, hb⟩ := hbyte
  have hdirty := (a.chunkDirty_iff (b / kChunkBytes)).mpr ⟨b, rfl, hb⟩
  refine ⟨b, ?_, hdirty⟩
  have hmirror := a.mirror_length
  have hsize := (a.chunkDirty_within hdirty).1
  by_contra hpast
  rw [List.getElem?_eq_none (by omega), List.getElem?_eq_none (by omega)] at hb
  exact hb rfl

/-- Without a filter the cover is the whole allocation. -/
theorem sweepCover_none {a : Alloc} (hshadow : a.shadow ≠ []) (memory : Nat) :
    sweepCover none memory a = [⟨0, a.size⟩] := by
  rw [sweepCover, if_neg hshadow]
  rfl

/-- An unfiltered sweep takes every dirty chunk of a candidate. -/
theorem sweepTakes_none_iff (memory : Nat) (a : Alloc) (b : Nat) : SweepTakes none memory a b ↔
      a.candidate = true ∧ b < a.size ∧ a.chunkDirty (b / kChunkBytes) = true := by
  refine and_congr_right fun _ => and_congr_right fun hb => and_iff_left_of_imp fun hdirty => ?_
  have hsize := (a.chunkDirty_within hdirty).1
  have hshadow : a.shadow ≠ [] := List.ne_nil_of_length_pos (by omega)
  refine ⟨b, rfl, ?_⟩
  rw [sweepCover_none hshadow]
  exact ⟨⟨0, a.size⟩, List.mem_singleton_self _, Nat.zero_le _, by simpa using hb⟩

/-- A candidate of which the sweep takes a byte stays a candidate. -/
theorem SweepTakes.candidate {memory b : Nat} {a : Alloc}
    (htakes : SweepTakes filter memory a b) : (sweepFlags filter memory a).candidate = true := by
  obtain ⟨hcandidate, hb, hdirty, hcovered⟩ := htakes
  have hseparated := sweepCover_separated filter memory a
  have hfound := (Alloc.mem_found_iff hseparated (b / kChunkBytes)).mpr ⟨hdirty, hcovered⟩
  obtain ⟨r, hr, -⟩ := (Alloc.collectDirty_covers hseparated b).mpr ⟨hb, hfound⟩
  rw [sweepFlags_candidate, hcandidate, sweepWalk_eq]
  simp [List.ne_nil_of_mem hr]

end MappedMemoryTracker

end VkRelay.Memory
