import VkRelay.Memory.Cover

/-!
What a snapshot contains. Both kinds of snapshot gather one walk per allocation;
`Gathers` says which bytes they ship and that every shipped byte is the shadow's
own, and the two `gathers` theorems instantiate it for the explicit flush and
for the pending sweep.
-/

namespace VkRelay.Memory

open VkRelay.Lib

def gather (entries : List (Nat × DirtyWalk)) : DirtySnapshot :=
  entries.foldl (fun snap entry => snap.addUpload entry.1 entry.2) {}

variable (entries : List (Nat × DirtyWalk))

theorem gather_eq : gather entries =
      ⟨(entries.filter fun e => e.2.ranges ≠ []).map fun e => ⟨e.1, e.2.ranges⟩,
        entries.flatMap fun e => e.2.payload⟩ := by
  have hfold : ∀ snap : DirtySnapshot,
      entries.foldl (fun snap entry => snap.addUpload entry.1 entry.2) snap =
        ⟨snap.uploads ++ (entries.filter fun e => e.2.ranges ≠ []).map fun e => ⟨e.1, e.2.ranges⟩,
          snap.payload ++ entries.flatMap fun e => e.2.payload⟩ := by
    induction entries with
    | nil => simp
    | cons entry rest ih =>
      intro snap
      rw [List.foldl_cons, ih]
      by_cases hempty : entry.2.ranges = [] <;> simp [DirtySnapshot.addUpload, hempty]
  simpa [gather] using hfold {}

theorem gather_flatRanges : (gather entries).flatRanges =
      entries.flatMap fun e => e.2.ranges.map fun r => (e.1, r) := by
  rw [gather_eq, DirtySnapshot.flatRanges, List.flatMap_map]
  induction entries with
  | nil => rfl
  | cons entry rest ih =>
    by_cases hempty : entry.2.ranges = []
    · simpa [hempty] using ih
    · simpa [hempty] using ih

theorem gather_cells : (gather entries).cells = entries.flatMap fun e =>
      e.2.ranges.flatMap fun r => cellsAt e.1 r.offset r.size := by
  simp [DirtySnapshot.cells, gather_flatRanges, List.flatMap_assoc, List.flatMap_map]

theorem gather_aligned {entries : List (Nat × DirtyWalk)}
    (hkeys : (entries.map Prod.fst).Nodup)
    (hlength : ∀ e ∈ entries, e.2.payload.length = (e.2.ranges.map Range.size).sum) :
    (gather entries).Aligned where
  memories_nodup := by
    have hsublist := (List.filter_sublist
      (p := fun e : Nat × DirtyWalk => decide (e.2.ranges ≠ [])) (l := entries)).map Prod.fst
    rw [gather_eq]
    simpa [List.map_map, Function.comp_def] using hkeys.sublist hsublist
  payload_length := by
    rw [← DirtySnapshot.length_cells, gather_cells, gather_eq, List.length_flatMap,
      List.length_flatMap]
    congr 1
    refine List.map_congr_left fun e he => ?_
    simp [hlength e he, List.length_flatMap]

theorem gather_byteWrites {entries : List (Nat × DirtyWalk)}
    (hlength : ∀ e ∈ entries, e.2.payload.length = (e.2.ranges.map Range.size).sum) :
    (gather entries).byteWrites = entries.flatMap fun e => e.2.writes e.1 := by
  have hpayload : (gather entries).payload = entries.flatMap fun e => e.2.payload := by
    rw [gather_eq]
  rw [DirtySnapshot.byteWrites, gather_cells, hpayload]
  refine zip_flatMap _ _ _ fun e he => ?_
  rw [hlength e he, List.length_flatMap]
  simp

namespace MappedMemoryTracker

def shadowAt (t : MappedMemoryTracker) (memory i : Nat) : Option UInt8 :=
  t.allocs[memory]?.bind fun a => a.shadow[i]?

/-- `snap` ships exactly the bytes `shipped`, read from the shadows of `t`. -/
structure Gathers (t : MappedMemoryTracker) (shipped : Nat → Nat → Prop) (snap : DirtySnapshot) :
    Prop where
  aligned : snap.Aligned
  within : ∀ x ∈ snap.flatRanges, 0 < x.2.size ∧
    ∃ a, t.allocs[x.1]? = some a ∧ x.2.offset + x.2.size ≤ a.shadow.length
  cells_iff : ∀ memory b, (memory, b) ∈ snap.cells ↔ shipped memory b
  value : ∀ write ∈ snap.byteWrites, t.shadowAt write.1.1 write.1.2 = some write.2

/-- `w` is a diff of allocation `memory` over a separated cover. -/
def Walked (t : MappedMemoryTracker) (memory : Nat) (cover : List Range) (w : DirtyWalk) : Prop :=
  ∃ a, t.allocs[memory]? = some a ∧ Separated a.size cover ∧ w = a.collectDirty cover

variable {t : MappedMemoryTracker} {shipped : Nat → Nat → Prop} {snap : DirtySnapshot}

theorem Gathers.congr {shipped shipped' : Nat → Nat → Prop} {snap : DirtySnapshot}
    (hgathers : t.Gathers shipped snap) (hsame : ∀ memory b, shipped memory b ↔ shipped' memory b) :
    t.Gathers shipped' snap :=
  { hgathers with
    cells_iff := fun memory b => (hgathers.cells_iff memory b).trans (hsame memory b) }

/-- A snapshot gathered from walks ships the bytes their ranges contain. -/
theorem gathers_of_walked {entries : List (Nat × DirtyWalk)}
    (hkeys : (entries.map Prod.fst).Nodup)
    (hwalked : ∀ e ∈ entries, ∃ cover, t.Walked e.1 cover e.2) :
    t.Gathers (fun memory b => ∃ e ∈ entries, e.1 = memory ∧ Covers e.2.ranges b)
      (gather entries) := by
  have hbounds : ∀ e ∈ entries, ∀ r ∈ e.2.ranges, 0 < r.size ∧
      ∃ a, t.allocs[e.1]? = some a ∧ r.offset + r.size ≤ a.shadow.length := by
    intro e he r hr
    obtain ⟨cover, a, hlookup, hcover, hwalk⟩ := hwalked e he
    rw [hwalk] at hr
    have hwithin := Alloc.collectDirty_bounds hcover hr
    exact ⟨hwithin.1, a, hlookup, hwithin.2⟩
  have hlength : ∀ e ∈ entries, e.2.payload.length = (e.2.ranges.map Range.size).sum := by
    intro e he
    obtain ⟨cover, a, -, hcover, hwalk⟩ := hwalked e he
    rw [hwalk]
    exact Alloc.collectDirty_payload_length hcover
  refine ⟨gather_aligned hkeys hlength, ?_, ?_, ?_⟩
  · intro x hx
    rw [gather_flatRanges, List.mem_flatMap] at hx
    obtain ⟨e, he, hx⟩ := hx
    obtain ⟨r, hr, rfl⟩ := List.mem_map.mp hx
    exact hbounds e he r hr
  · intro memory b
    simp only [gather_cells, List.mem_flatMap]
    refine exists_congr fun e => and_congr_right fun he => ?_
    have hcell : ∀ r ∈ e.2.ranges,
        ((memory, b) ∈ cellsAt e.1 r.offset r.size ↔ memory = e.1 ∧ r.Contains b) := by
      intro r hr
      obtain ⟨-, a, -, hwithin⟩ := hbounds e he r hr
      have hlt := a.shadow_length_lt
      exact mem_cellsAt_iff (by omega) (memory, b)
    constructor
    · rintro ⟨r, hr, hmem⟩
      obtain ⟨rfl, hb⟩ := (hcell r hr).mp hmem
      exact ⟨rfl, r, hr, hb⟩
    · rintro ⟨rfl, r, hr, hb⟩
      exact ⟨r, hr, (hcell r hr).mpr ⟨rfl, hb⟩⟩
  · intro write hwrite
    rw [gather_byteWrites hlength, List.mem_flatMap] at hwrite
    obtain ⟨e, he, hwrite⟩ := hwrite
    obtain ⟨cover, a, hlookup, hcover, hwalk⟩ := hwalked e he
    rw [hwalk] at hwrite
    obtain ⟨hmemory, hvalue⟩ := Alloc.collectDirty_writes_value hcover hwrite
    rw [shadowAt, hmemory, hlookup]
    exact hvalue

/-- The gathered bytes are the last ones written to their cells. -/
theorem Gathers.lastWrite_of_shipped (hgathers : t.Gathers shipped snap) {memory b : Nat}
    (hshipped : shipped memory b) :
    lastWrite snap.byteWrites (memory, b) = t.shadowAt memory b := by
  have hcell := (hgathers.cells_iff memory b).mpr hshipped
  rw [← snap.byteWrites_map_fst hgathers.aligned.payload_length] at hcell
  cases hlast : lastWrite snap.byteWrites (memory, b) with
  | none => exact absurd hcell ((lastWrite_eq_none_iff _ _).mp hlast)
  | some value => exact (hgathers.value _ (mem_of_lastWrite hlast)).symm

theorem Gathers.lastWrite_of_not_shipped (hgathers : t.Gathers shipped snap) {memory b : Nat}
    (hkept : ¬ shipped memory b) : lastWrite snap.byteWrites (memory, b) = none := by
  rw [lastWrite_eq_none_iff, snap.byteWrites_map_fst hgathers.aligned.payload_length,
    hgathers.cells_iff]
  exact hkept

theorem Gathers.fits (hgathers : t.Gathers shipped snap) : t.Fits snap := by
  intro x hx a hlookup
  obtain ⟨-, other, hother, hwithin⟩ := hgathers.within x hx
  rw [hlookup, Option.some_inj] at hother
  rw [a.mirror_length, hother]
  exact hwithin

end MappedMemoryTracker

end VkRelay.Memory
