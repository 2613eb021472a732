import VkRelay.Session.Releases

/-!
The handles of images and buffers. A handle stands for a resource in one of four tables, live or
retired. What one state of the backend says about the handles of another is put into one relation:
new handles get a place each, and the others stand for nothing that they did not stand for.
-/

namespace VkRelay.Session

open VkRelay.Lib

/-! ## What a handle stands for -/

/-- What the creation of an image settles: all but its binding and its views. -/
def Image.made (image : Image) : Image :=
  { image with boundMemory := 0, boundOffset := 0, imageViews := ∅ }

def Buffer.made (buffer : Buffer) : Buffer :=
  { buffer with boundMemory := 0, boundOffset := 0 }

def RetiredImage.made (r : RetiredImage) : Image := r.image.made

def RetiredBuffer.made (r : RetiredBuffer) : Buffer := r.buffer.made

inductive Standing where
  | image (made : Image)
  | buffer (made : Buffer)
  | retiredImage (made : Image)
  | retiredBuffer (made : Buffer)

/-- A resource stays what it is, or is retired. -/
inductive Standing.Becomes : Standing → Standing → Prop
  | same (x : Standing) : Becomes x x
  | retireImage (made : Image) : Becomes (.image made) (.retiredImage made)
  | retireBuffer (made : Buffer) : Becomes (.buffer made) (.retiredBuffer made)

theorem Standing.Becomes.trans {x y z : Standing} (hfirst : x.Becomes y) (hsecond : y.Becomes z) :
    x.Becomes z := by
  cases hfirst with
  | same => exact hsecond
  | retireImage made | retireBuffer made =>
    cases hsecond
    constructor

namespace Backend

def Stands (s : Backend) (h : Nat) : Standing → Prop
  | .image made => (s.images[h]?).map Image.made = some made
  | .buffer made => (s.buffers[h]?).map Buffer.made = some made
  | .retiredImage made => (s.retiredImages[h]?).map RetiredImage.made = some made
  | .retiredBuffer made => (s.retiredBuffers[h]?).map RetiredBuffer.made = some made

def present {α : Type} (table : Table α) (h : Nat) : Nat :=
  if (table[h]?).isSome then 1 else 0

/-- The number of tables of resources, live and retired, in which the handle resolves. -/
def places (s : Backend) (h : Nat) : Nat :=
  present s.images h + present s.buffers h + present s.retiredImages h + present s.retiredBuffers h

/-- Every handle of a resource has been given out and resolves in one table only. -/
def Apart (s : Backend) : Prop := ∀ h, s.places h ≤ if h < s.nextHandle then 1 else 0

section Present

variable {α : Type} (table : Table α) (key : Nat) {value : α}

theorem present_insert (value : α) (h : Nat) :
    present (table.insert key value) h ≤ present table h + if h = key then 1 else 0 := by
  unfold present
  rw [Table.getElem?_insert_eq]
  by_cases hsame : key = h
  · simp [hsame]
  · simp [hsame, Ne.symm hsame]

theorem present_erase (h : Nat) :
    present (table.erase key) h = if h = key then 0 else present table h := by
  unfold present
  rw [Table.getElem?_erase_eq]
  by_cases hsame : key = h
  · simp [hsame]
  · simp [hsame, Ne.symm hsame]

variable {table key}

theorem present_of_some (hfound : table[key]? = some value) : present table key = 1 := by
  simp [present, hfound]

theorem eq_none_of_present (hzero : present table key = 0) : table[key]? = none := by
  unfold present at hzero
  split at hzero
  · cases hzero
  next hnone => exact Option.not_isSome_iff_eq_none.mp hnone

theorem stood_of_retired {β γ : Type} (made : α → γ) (wasMade : β → γ) (retired : Table β)
    (item : β) (hfound : table[key]? = some value) (hitem : wasMade item = made value)
    {h : Nat} {y : γ}
    (hlater : ((retired.insert key item)[h]?).map wasMade = some y) :
    (table[h]?).map made = some y ∨ (retired[h]?).map wasMade = some y := by
  rw [Table.getElem?_insert_eq] at hlater
  split at hlater
  next hsame =>
    left
    rwa [← hsame, hfound, Option.map_some, ← hitem]
  next => exact .inr hlater

/-- A resource that is retired changes tables. -/
theorem present_retire {β : Type} (hfound : table[key]? = some value) (retired : Table β)
    (item : β) (h : Nat) :
    present (table.erase key) h + present (retired.insert key item) h ≤
      present table h + present retired h := by
  have hplaced := present_insert retired key item h
  rw [present_erase]
  split
  next hsame =>
    rw [if_pos hsame] at hplaced
    have hone := present_of_some hfound
    rw [← hsame] at hone
    omega
  next hother =>
    rw [if_neg hother] at hplaced
    omega

end Present

end Backend

namespace Backend.Apart

variable {s : Backend} {h : Nat}

theorem places_le_one (hs : s.Apart) (h : Nat) : s.places h ≤ 1 :=
  (hs h).trans (by split <;> simp)

theorem buffer_not_retired (hs : s.Apart) {buffer : Buffer}
    (hfound : s.buffers[h]? = some buffer) :
    s.retiredImages[h]? = none ∧ s.retiredBuffers[h]? = none := by
  have hplaces := hs.places_le_one h
  rw [places, present_of_some hfound] at hplaces
  exact ⟨eq_none_of_present (by omega), eq_none_of_present (by omega)⟩

theorem image_not_retired (hs : s.Apart) {image : Image} (hfound : s.images[h]? = some image) :
    s.retiredImages[h]? = none ∧ s.retiredBuffers[h]? = none := by
  have hplaces := hs.places_le_one h
  rw [places, present_of_some hfound] at hplaces
  exact ⟨eq_none_of_present (by omega), eq_none_of_present (by omega)⟩

end Backend.Apart

/-! ## Tables in which nothing is new -/

/-- What the second table holds, the first does as well, for what `made` tells of it. -/
def Remains {α γ : Type} (made : α → γ) (table next : Table α) : Prop :=
  ∀ (h : Nat) y, (next[h]?).map made = some y → (table[h]?).map made = some y

namespace Remains

variable {α γ : Type} (made : α → γ) (table : Table α) (key : Nat)

theorem refl : Remains made table table := fun _ _ => id

theorem erase : Remains made table (table.erase key) := by
  intro h y hfound
  rw [Table.getElem?_erase_eq] at hfound
  split at hfound
  · cases hfound
  · exact hfound

variable {made}

theorem modify {change : α → α} (hmade : ∀ x, made (change x) = made x) :
    Remains made table (table.modify key change) := by
  intro h y hfound
  rw [Table.getElem?_modify_eq] at hfound
  split at hfound
  · simpa [Function.comp_def, hmade] using hfound
  · exact hfound

theorem map {change : Nat → α → α} (hmade : ∀ h x, made (change h x) = made x) :
    Remains made table (table.map change) := by
  intro h y hfound
  simpa [Function.comp_def, hmade] using hfound

variable {table key} {next : Table α}

theorem replace {old new : α} (hfound : table[key]? = some old) (hmade : made new = made old) :
    Remains made table (table.insert key new) := by
  intro h y hnew
  rw [Table.getElem?_insert_eq] at hnew
  split at hnew
  next hsame => rwa [← hsame, hfound, Option.map_some, ← hmade]
  next => exact hnew

theorem present_le (hremains : Remains made table next) (h : Nat) :
    Backend.present next h ≤ Backend.present table h := by
  unfold Backend.present
  cases hnext : next[h]? with
  | none => exact Nat.zero_le _
  | some x =>
    have hfound := hremains h (made x) (by rw [hnext, Option.map_some])
    obtain ⟨old, hold, -⟩ := Option.map_eq_some_iff.mp hfound
    simp [hold]

end Remains

/-! ## What a request does to the handles -/

/-- Only new handles get a place, and each of them one; the others stand for what they stood for,
or for nothing. Only new handles become memories. -/
structure Steady (s t : Backend) : Prop where
  next : s.nextHandle ≤ t.nextHandle
  places : ∀ h, t.places h ≤ s.places h + if s.nextHandle ≤ h ∧ h < t.nextHandle then 1 else 0
  stands : ∀ h < s.nextHandle, ∀ x, t.Stands h x → ∃ y, s.Stands h y ∧ y.Becomes x
  memory : ∀ (h : Nat) m, t.memoryObjects[h]? = some m →
    s.memoryObjects[h]? = some m ∨ s.nextHandle ≤ h ∧ h < t.nextHandle

namespace Steady

variable {s t u : Backend}

theorem of_remains (hnext : s.nextHandle ≤ t.nextHandle)
    (himages : Remains Image.made s.images t.images)
    (hbuffers : Remains Buffer.made s.buffers t.buffers)
    (hretiredImages : Remains RetiredImage.made s.retiredImages t.retiredImages)
    (hretiredBuffers : Remains RetiredBuffer.made s.retiredBuffers t.retiredBuffers)
    (hmemory : Remains id s.memoryObjects t.memoryObjects) : Steady s t := by
  refine ⟨hnext, fun h => ?_, fun h _ x hx => ⟨x, ?_, .same x⟩, fun h m hm => .inl ?_⟩
  · have hlive := Nat.add_le_add (himages.present_le h) (hbuffers.present_le h)
    have hretired := Nat.add_le_add (hretiredImages.present_le h) (hretiredBuffers.present_le h)
    unfold Backend.places
    omega
  · cases x with
    | image made => exact himages h made hx
    | buffer made => exact hbuffers h made hx
    | retiredImage made => exact hretiredImages h made hx
    | retiredBuffer made => exact hretiredBuffers h made hx
  · simpa using hmemory h m (by simpa using hm)

theorem other (hnext : s.nextHandle ≤ t.nextHandle)
    (hsame : (t.images, t.buffers, t.retiredImages, t.retiredBuffers, t.memoryObjects) =
      (s.images, s.buffers, s.retiredImages, s.retiredBuffers, s.memoryObjects)) : Steady s t := by
  simp only [Prod.mk.injEq] at hsame
  obtain ⟨himages, hbuffers, hretiredImages, hretiredBuffers, hmemory⟩ := hsame
  exact of_remains hnext (himages ▸ .refl _ _) (hbuffers ▸ .refl _ _) (hretiredImages ▸ .refl _ _)
    (hretiredBuffers ▸ .refl _ _) (hmemory ▸ .refl _ _)

theorem refl (s : Backend) : Steady s s := other le_rfl rfl

theorem born (hnext : t.nextHandle = s.nextHandle + 1)
    (hplaces : ∀ h, t.places h ≤ s.places h + if h = s.nextHandle then 1 else 0)
    (hstands : ∀ h ≠ s.nextHandle, ∀ x, t.Stands h x → s.Stands h x)
    (hmemory : t.memoryObjects = s.memoryObjects) : Steady s t := by
  refine ⟨by omega, fun h => (hplaces h).trans ?_,
    fun h hold x hx => ⟨x, hstands h hold.ne x hx, .same x⟩, fun h m hm => .inl (hmemory ▸ hm)⟩
  split <;> split <;> omega

theorem trans (hfirst : Steady s t) (hsecond : Steady t u) : Steady s u := by
  have hnext := hfirst.next
  have hlast := hsecond.next
  refine ⟨hnext.trans hlast, fun h => ?_, fun h hold x hx => ?_, fun h m hfound => ?_⟩
  · have hplaces := (hsecond.places h).trans (Nat.add_le_add_right (hfirst.places h) _)
    refine hplaces.trans ?_
    split <;> split <;> split <;> omega
  · obtain ⟨y, hy, hyx⟩ := hsecond.stands h (by omega) x hx
    obtain ⟨z, hz, hzy⟩ := hfirst.stands h hold y hy
    exact ⟨z, hz, hzy.trans hyx⟩
  · rcases hsecond.memory h m hfound with hold | hnew
    · exact (hfirst.memory h m hold).imp_right fun hnew => by omega
    · exact .inr (by omega)

theorem apart (hsteady : Steady s t) (hs : s.Apart) : t.Apart := by
  intro h
  have hnext := hsteady.next
  have hold := hs h
  refine (hsteady.places h).trans ?_
  split at hold <;> split <;> split <;> omega

theorem null (hsteady : Steady s t) (hpos : 0 < s.nextHandle) (hnone : s.memoryObjects[0]? = none) :
    t.memoryObjects[0]? = none := by
  cases hfound : t.memoryObjects[0]? with
  | none => rfl
  | some m =>
    rcases hsteady.memory 0 m hfound with hold | hnew
    · simp [hnone] at hold
    · omega

end Steady

namespace Backend

/-! ## Releases -/

variable (s : Backend)

theorem steady_collect (memory : Nat) : Steady s (s.releaseRetiredMemoryIfUnused memory) := by
  obtain ⟨_, _, _, _, hcollected, hmemory⟩ := s.sameButLeases_releaseRetiredMemoryIfUnused memory
  rw [hcollected]
  rcases hmemory with rfl | rfl
  · exact .other le_rfl rfl
  · exact .of_remains le_rfl (.refl _ _) (.refl _ _) (.refl _ _) (.refl _ _) (.erase _ _ _)

theorem steady_releaseRecordingLease (key : LeaseKey) : Steady s (s.releaseRecordingLease key) := by
  rw [releaseRecordingLease_eq]
  refine Steady.trans ?_ (foldl_related .refl .trans
    (fun t entry => Steady.trans ?_ (steady_collect _ _)) _ _)
  · refine Steady.trans ?_ (foldl_related .refl .trans
      (fun t entry => Steady.trans ?_ (steady_collect _ _)) _ _)
    · exact .of_remains le_rfl (.refl _ _) (.refl _ _) (.map _ fun _ _ => rfl)
        (.map _ fun _ _ => rfl) (.refl _ _)
    · exact .of_remains le_rfl (.refl _ _) (.refl _ _) (.erase _ _ _) (.refl _ _) (.refl _ _)
  · exact .of_remains le_rfl (.refl _ _) (.refl _ _) (.refl _ _) (.erase _ _ _) (.refl _ _)

/-- Command buffers have no place among the resources. -/
theorem steady_commandBuffers (cbs : Table CmdBuffer) : Steady s { s with commandBuffers := cbs } :=
  .other le_rfl rfl

end Backend

end VkRelay.Session
