import VkRelay.Memory.Gather

/-!
The explicit flush. An accepted request is grouped by allocation without losing
or inventing an interval, and the snapshot ships, of each allocation, the dirty
chunks that meet a flushed byte.
-/

namespace VkRelay.Memory

open VkRelay.Lib

namespace MappedMemoryTracker

def flushIntervals (t : MappedMemoryTracker) (ranges : List MemRange) (memory : Nat) :
    List Range :=
  ranges.filterMap fun r =>
    if r.memory = memory then t.allocs[memory]?.bind fun a => (flushInterval a r).toOption
    else none

/-- An accepted interval is non-empty and lies in the current mapping. -/
theorem flushInterval_bounds {a : Alloc} {r : MemRange} {iv : Range}
    (hok : flushInterval a r = .ok iv) :
    a.isMapped = true ∧ 0 < iv.size ∧ iv.offset + iv.size ≤ a.size := by
  unfold flushInterval at hok
  dsimp only at hok
  split at hok
  · cases hok
  · next hmapped =>
      have hwithin := a.mapped_within (by simpa using hmapped)
      refine ⟨by simpa using hmapped, ?_⟩
      split at hok
      · split at hok
        · cases hok
        · cases hok
          simp only
          omega
      · split at hok
        · cases hok
        · split at hok
          · cases hok
          · cases hok
            simp only
            omega

variable {t : MappedMemoryTracker} {ranges : List MemRange} {cover : List (Nat × List Range)}

theorem flushIntervals_bounds {memory : Nat} {iv : Range}
    (hiv : iv ∈ t.flushIntervals ranges memory) :
    ∃ a, t.allocs[memory]? = some a ∧ a.isMapped = true ∧ 0 < iv.size ∧
      iv.offset + iv.size ≤ a.size := by
  obtain ⟨r, -, hr⟩ := List.mem_filterMap.mp hiv
  split at hr
  · obtain ⟨a, hlookup, hinterval⟩ := Option.bind_eq_some_iff.mp hr
    cases hresult : flushInterval a r with
    | error message => simp [hresult, Except.toOption] at hinterval
    | ok found =>
      simp only [hresult, Except.toOption, Option.some.injEq] at hinterval
      exact ⟨a, hlookup, hinterval ▸ flushInterval_bounds hresult⟩
  · cases hr

section Grouping

variable (memory : Nat) (iv : Range)

private theorem addCover_keys (cover : List (Nat × List Range)) :
    (addCover memory iv cover).map Prod.fst = if memory ∈ cover.map Prod.fst then cover.map Prod.fst
      else cover.map Prod.fst ++ [memory] := by
  induction cover with
  | nil => simp [addCover]
  | cons entry rest ih =>
    by_cases hentry : entry.1 = memory
    · simp [addCover, hentry]
    · have hne : ¬ memory = entry.1 := fun heq => hentry heq.symm
      simp only [addCover, hentry, if_false, List.map_cons, ih, List.mem_cons, hne, false_or]
      split <;> simp

private theorem mem_addCover {cover : List (Nat × List Range)}
    (hkeys : (cover.map Prod.fst).Nodup) {e : Nat × List Range}
    (he : e ∈ addCover memory iv cover) :
    (e.1 ≠ memory ∧ e ∈ cover) ∨ (∃ ivs, e = (memory, ivs ++ [iv]) ∧ (memory, ivs) ∈ cover) ∨
      (e = (memory, [iv]) ∧ memory ∉ cover.map Prod.fst) := by
  induction cover with
  | nil => exact .inr (.inr ⟨by simpa [addCover] using he, by simp⟩)
  | cons entry rest ih =>
    rw [List.map_cons, List.nodup_cons] at hkeys
    by_cases hentry : entry.1 = memory
    · simp only [addCover, hentry, if_true, List.mem_cons] at he
      rcases he with rfl | he
      · exact .inr (.inl ⟨entry.2, rfl, by simp [← hentry]⟩)
      · refine .inl ⟨fun heq => hkeys.1 ?_, List.mem_cons_of_mem _ he⟩
        rw [hentry, ← heq]
        exact List.mem_map_of_mem he
    · simp only [addCover, hentry, if_false, List.mem_cons] at he
      rcases he with rfl | he
      · exact .inl ⟨hentry, List.mem_cons_self ..⟩
      · rcases ih hkeys.2 he with ⟨hne, hold⟩ | ⟨ivs, heq, hold⟩ | ⟨heq, hnew⟩
        · exact .inl ⟨hne, List.mem_cons_of_mem _ hold⟩
        · exact .inr (.inl ⟨ivs, heq, List.mem_cons_of_mem _ hold⟩)
        · refine .inr (.inr ⟨heq, ?_⟩)
          rw [List.map_cons, List.mem_cons, not_or]
          exact ⟨fun h => hentry h.symm, hnew⟩

/-- The cover groups the intervals `intervals` by allocation. -/
structure Grouped (intervals : Nat → List Range) (cover : List (Nat × List Range)) : Prop where
  keys_nodup : (cover.map Prod.fst).Nodup
  entry_eq : ∀ e ∈ cover, e.2 = intervals e.1
  complete : ∀ key, intervals key ≠ [] → key ∈ cover.map Prod.fst

private theorem Grouped.add {intervals : Nat → List Range} {cover : List (Nat × List Range)}
    (hcover : Grouped intervals cover) :
    Grouped (fun key => intervals key ++ if key = memory then [iv] else [])
      (addCover memory iv cover) where
  keys_nodup := by
    rw [addCover_keys]
    split
    · exact hcover.keys_nodup
    · next hnew =>
        refine List.nodup_append.mpr ⟨hcover.keys_nodup, List.nodup_singleton _, ?_⟩
        rintro key hkey other hother rfl
        exact hnew (List.mem_singleton.mp hother ▸ hkey)
  entry_eq := by
    intro e he
    rcases mem_addCover memory iv hcover.keys_nodup he with
      ⟨hne, hold⟩ | ⟨ivs, rfl, hold⟩ | ⟨rfl, hnew⟩
    · simp [hne, hcover.entry_eq e hold]
    · simp [← hcover.entry_eq _ hold]
    · have hnone : intervals memory = [] := by
        by_contra hne
        exact hnew (hcover.complete memory hne)
      simp [hnone]
  complete := by
    intro key hkey
    rw [addCover_keys]
    by_cases hmem : key ∈ cover.map Prod.fst
    · split
      · exact hmem
      · exact List.mem_append_left _ hmem
    · have hnone : intervals key = [] := by
        by_contra hne
        exact hmem (hcover.complete key hne)
      have heq : key = memory := by
        by_contra hne
        simp [hnone, hne] at hkey
      subst heq
      simp [hmem]

end Grouping

private theorem foldlM_flushCover_grouped (ranges : List MemRange) {intervals : Nat → List Range}
    {start cover : List (Nat × List Range)} (hstart : Grouped intervals start)
    (hok : ranges.foldlM (fun cover r =>
      match t.allocs[r.memory]? with
      | none => .error "flush of unknown memory"
      | some a => do
        let iv ← flushInterval a r
        pure (addCover r.memory iv cover)) start = Except.ok cover) :
    Grouped (fun key => intervals key ++ t.flushIntervals ranges key) cover := by
  induction ranges generalizing intervals start with
  | nil =>
    cases hok
    simpa [flushIntervals] using hstart
  | cons r rest ih =>
    rw [List.foldlM_cons] at hok
    cases hlookup : t.allocs[r.memory]? with
    | none =>
      rw [hlookup] at hok
      cases hok
    | some a =>
      cases hinterval : flushInterval a r with
      | error message =>
        rw [hlookup] at hok
        simp only [hinterval] at hok
        cases hok
      | ok iv =>
        rw [hlookup] at hok
        simp only [hinterval] at hok
        have hrest := ih (hstart.add r.memory iv) hok
        have hsplit : ∀ key, t.flushIntervals (r :: rest) key =
            (if key = r.memory then [iv] else []) ++ t.flushIntervals rest key := by
          intro key
          by_cases hkey : key = r.memory
          · subst hkey
            simp [flushIntervals, hlookup, hinterval, Except.toOption]
          · have hne : ¬ r.memory = key := fun heq => hkey heq.symm
            simp [flushIntervals, hkey, hne]
        simpa only [hsplit, List.append_assoc] using hrest

/-- An accepted request is grouped into exactly its intervals. -/
theorem flushCover_grouped (hok : flushCover t ranges = .ok cover) :
    Grouped (t.flushIntervals ranges) cover := by
  have hstart : Grouped (fun _ => []) [] := ⟨by simp, by simp, by simp⟩
  simpa using foldlM_flushCover_grouped ranges hstart hok

def flushEntries (t : MappedMemoryTracker) (cover : List (Nat × List Range)) :
    List (Nat × DirtyWalk) :=
  cover.filterMap fun e =>
    t.allocs[e.1]?.map fun a => (e.1, a.collectDirty (mergeCover e.2))

variable {snap : DirtySnapshot}

theorem snapshotExplicit_eq_gather (hok : t.snapshotExplicit ranges = .ok snap) :
    ∃ cover, Grouped (t.flushIntervals ranges) cover ∧ snap = gather (t.flushEntries cover) := by
  cases hcover : flushCover t ranges with
  | error message => simp [snapshotExplicit, hcover] at hok
  | ok cover =>
    refine ⟨cover, flushCover_grouped hcover, ?_⟩
    simp only [snapshotExplicit, hcover] at hok
    cases hok
    rw [gather, flushEntries, List.foldl_filterMap]
    congr 1
    funext snap entry
    cases t.allocs[entry.1]? <;> rfl

/-- The merged cover of the flushed intervals is separated and keeps their bytes. -/
theorem mergeCover_flushIntervals (ranges : List MemRange) {memory : Nat} {a : Alloc}
    (hlookup : t.allocs[memory]? = some a) :
    Separated a.size (mergeCover (t.flushIntervals ranges memory)) ∧
      ∀ b, Covers (mergeCover (t.flushIntervals ranges memory)) b ↔
        Covers (t.flushIntervals ranges memory) b := by
  refine mergeCover_spec _ fun iv hiv => ?_
  obtain ⟨other, hother, -, hpos, hwithin⟩ := flushIntervals_bounds hiv
  rw [hlookup, Option.some_inj] at hother
  exact ⟨hpos, hother ▸ hwithin⟩

/-- Byte `b` of `memory` lies in a dirty chunk that meets a flushed byte. -/
def FlushShips (t : MappedMemoryTracker) (ranges : List MemRange) (memory b : Nat) : Prop :=
  ∃ a, t.allocs[memory]? = some a ∧ b < a.size ∧ a.chunkDirty (b / kChunkBytes) = true ∧
    ∃ c, c / kChunkBytes = b / kChunkBytes ∧ Covers (t.flushIntervals ranges memory) c

theorem mem_flushEntries (hcover : Grouped (t.flushIntervals ranges) cover) {e : Nat × DirtyWalk}
    (he : e ∈ t.flushEntries cover) :
    ∃ a, t.allocs[e.1]? = some a ∧
      e.2 = a.collectDirty (mergeCover (t.flushIntervals ranges e.1)) := by
  obtain ⟨entry, hentry, hmap⟩ := List.mem_filterMap.mp he
  obtain ⟨a, hlookup, rfl⟩ := Option.map_eq_some_iff.mp hmap
  exact ⟨a, hlookup, by rw [← hcover.entry_eq entry hentry]⟩

theorem flushEntries_keys_nodup {intervals : Nat → List Range} {cover : List (Nat × List Range)}
    (hcover : Grouped intervals cover) : ((t.flushEntries cover).map Prod.fst).Nodup := by
  refine hcover.keys_nodup.sublist (map_filterMap_sublist (fun entry e he => ?_) cover)
  obtain ⟨a, -, rfl⟩ := Option.map_eq_some_iff.mp he
  rfl

/-- The explicit flush ships the dirty chunks that meet a flushed byte. -/
theorem snapshotExplicit_gathers (hok : t.snapshotExplicit ranges = .ok snap) :
    t.Gathers (t.FlushShips ranges) snap := by
  obtain ⟨cover, hcover, rfl⟩ := snapshotExplicit_eq_gather hok
  have hwalked : ∀ e ∈ t.flushEntries cover, ∃ merged, t.Walked e.1 merged e.2 := by
    intro e he
    obtain ⟨a, hlookup, hwalk⟩ := mem_flushEntries hcover he
    exact ⟨_, a, hlookup, (mergeCover_flushIntervals ranges hlookup).1, hwalk⟩
  refine (gathers_of_walked (flushEntries_keys_nodup hcover) hwalked).congr fun memory b => ?_
  constructor
  · rintro ⟨e, he, rfl, hb⟩
    obtain ⟨a, hlookup, hwalk⟩ := mem_flushEntries hcover he
    obtain ⟨hseparated, hcovers⟩ := mergeCover_flushIntervals ranges hlookup
    rw [hwalk, Alloc.collectDirty_covers hseparated, Alloc.mem_found_iff hseparated] at hb
    obtain ⟨hsize, hdirty, c, hc, hcovered⟩ := hb
    exact ⟨a, hlookup, hsize, hdirty, c, hc, (hcovers c).mp hcovered⟩
  · rintro ⟨a, hlookup, hsize, hdirty, c, hc, hcovered⟩
    obtain ⟨hseparated, hcovers⟩ := mergeCover_flushIntervals ranges hlookup
    obtain ⟨iv, hiv, -⟩ := id hcovered
    obtain ⟨entry, hentry, rfl⟩ :=
      List.mem_map.mp (hcover.complete memory (List.ne_nil_of_mem hiv))
    refine ⟨(entry.1, a.collectDirty (mergeCover entry.2)), ?_, rfl, ?_⟩
    · exact List.mem_filterMap.mpr ⟨entry, hentry, by rw [hlookup]; rfl⟩
    · rw [hcover.entry_eq entry hentry, Alloc.collectDirty_covers hseparated,
        Alloc.mem_found_iff hseparated]
      exact ⟨hsize, hdirty, c, hc, (hcovers c).mpr hcovered⟩

end MappedMemoryTracker

end VkRelay.Memory
