import Mathlib

/-!
Byte buffers and scattered writes. A buffer is a list that a copy overwrites in
place; an image is a function from cells to values that a list of writes
updates from left to right. The two views are tied by `blit_getElem?`: copying
a block into a buffer is one write for each position of the block.

Nothing here says where a write list comes from, and no bound is checked: a copy
past the end of its buffer is cut off, so callers state their own bounds.
-/

namespace VkRelay.Lib

variable {β : Type*}

/-- Copy `bytes` over `buf` from position `off` on. The length never changes. -/
def blit (buf : List β) (off : Nat) (bytes : List β) : List β :=
  buf.mapIdx fun i b => if off ≤ i then bytes[i - off]?.getD b else b

variable (buf : List β) (off : Nat) (bytes : List β) (i : Nat)

@[simp] theorem length_blit : (blit buf off bytes).length = buf.length := by
  simp [blit]

@[simp] theorem blit_eq_nil : blit buf off bytes = [] ↔ buf = [] := by
  simp [← List.length_eq_zero_iff]

theorem blit_getElem? :
    (blit buf off bytes)[i]? =
      buf[i]?.map fun b => if off ≤ i then bytes[i - off]?.getD b else b := by
  simp [blit]

/-- Outside the copied block the buffer keeps its value. -/
theorem blit_getElem?_outside (houtside : i < off ∨ off + bytes.length ≤ i) :
    (blit buf off bytes)[i]? = buf[i]? := by
  have hsame : ∀ b, (if off ≤ i then bytes[i - off]?.getD b else b) = b := by
    intro b
    split
    · have hpast : bytes.length ≤ i - off := by omega
      simp [hpast]
    · rfl
  rw [blit_getElem?]
  simp [hsame]

/-- Inside the copied block the buffer holds the block. -/
theorem blit_getElem?_inside (hlow : off ≤ i) (hhigh : i < off + bytes.length)
    (hfits : i < buf.length) : (blit buf off bytes)[i]? = bytes[i - off]? := by
  have hblock : i - off < bytes.length := by omega
  rw [blit_getElem?, List.getElem?_eq_getElem hfits, List.getElem?_eq_getElem hblock]
  simp [hlow]

/-- Zipping block by block, for blocks of matching lengths. -/
theorem zip_flatMap {γ δ ε : Type*} (blocks : List γ) (left : γ → List δ) (right : γ → List ε)
    (hlength : ∀ block ∈ blocks, (left block).length = (right block).length) :
    (blocks.flatMap left).zip (blocks.flatMap right) =
      blocks.flatMap fun block => (left block).zip (right block) := by
  induction blocks with
  | nil => rfl
  | cons block rest ih =>
    rw [List.flatMap_cons, List.flatMap_cons, List.flatMap_cons,
      List.zip_append (hlength block (List.mem_cons_self ..)),
      ih fun other hother => hlength other (List.mem_cons_of_mem _ hother)]

section Writes

variable {κ : Type*} [DecidableEq κ]

/-- The value the last write to `cell` carries, if there is one. -/
def lastWrite (writes : List (κ × β)) (cell : κ) : Option β :=
  writes.reverse.lookup cell

/-- The image after performing `writes` from left to right. -/
def scatter (image : κ → β) (writes : List (κ × β)) : κ → β :=
  fun cell => (lastWrite writes cell).getD (image cell)

@[simp] theorem lastWrite_nil (cell : κ) : lastWrite ([] : List (κ × β)) cell = none := rfl

theorem lastWrite_singleton (written cell : κ) (value : β) :
    lastWrite [(written, value)] cell = if cell = written then some value else none := by
  by_cases hcell : cell = written
  · simp [lastWrite, hcell]
  · have hmiss : (cell == written) = false := by simpa using hcell
    simp [lastWrite, List.lookup, hcell, hmiss]

theorem lastWrite_append (first second : List (κ × β)) (cell : κ) :
    lastWrite (first ++ second) cell = (lastWrite second cell).or (lastWrite first cell) := by
  simp [lastWrite, List.lookup_append]

variable {writes : List (κ × β)} (image : κ → β)

@[simp] theorem scatter_nil : scatter image [] = image := rfl

theorem scatter_append (first second : List (κ × β)) :
    scatter image (first ++ second) = scatter (scatter image first) second := by
  funext cell
  cases hsecond : lastWrite second cell <;> simp [scatter, lastWrite_append, hsecond]

theorem scatter_flatMap {γ : Type*} (writes : γ → List (κ × β)) (parts : List γ)
    (image : κ → β) :
    scatter image (parts.flatMap writes) =
      parts.foldl (fun current part => scatter current (writes part)) image := by
  induction parts generalizing image with
  | nil => rfl
  | cons part rest ih => rw [List.flatMap_cons, scatter_append, ih, List.foldl_cons]

theorem lastWrite_eq_none_iff (writes : List (κ × β)) (cell : κ) :
    lastWrite writes cell = none ↔ cell ∉ writes.map Prod.fst := by
  induction writes using List.reverseRecOn with
  | nil => simp
  | append_singleton earlier write ih =>
    rw [lastWrite_append, Option.or_eq_none_iff, ih, lastWrite_singleton]
    by_cases hcell : cell = write.1 <;> simp [hcell]

theorem mem_of_lastWrite {cell : κ} {value : β} (hlast : lastWrite writes cell = some value) :
    (cell, value) ∈ writes := by
  induction writes using List.reverseRecOn with
  | nil => simp at hlast
  | append_singleton earlier write ih =>
    rw [lastWrite_append, lastWrite_singleton] at hlast
    by_cases hcell : cell = write.1
    · simp only [hcell, if_true, Option.some_or, Option.some.injEq] at hlast
      simp [hcell, ← hlast]
    · simp only [hcell, if_false, Option.none_or] at hlast
      exact List.mem_append_left _ (ih hlast)

/-- Where no cell is written twice, every write of the list is the last one to
its cell. -/
theorem lastWrite_of_mem (hnodup : (writes.map Prod.fst).Nodup) {cell : κ} {value : β}
    (hmem : (cell, value) ∈ writes) : lastWrite writes cell = some value := by
  cases hlast : lastWrite writes cell with
  | none =>
    exact absurd (List.mem_map_of_mem hmem) ((lastWrite_eq_none_iff writes cell).mp hlast)
  | some other =>
    have hother := mem_of_lastWrite hlast
    have heq := List.inj_on_of_nodup_map hnodup hother hmem rfl
    simpa using congrArg Prod.snd heq

/-- A cell outside the written ones keeps its value. -/
theorem scatter_of_not_mem {writes : List (κ × β)} {cell : κ} (hcell : cell ∉ writes.map Prod.fst) :
    scatter image writes cell = image cell := by
  rw [scatter, (lastWrite_eq_none_iff writes cell).mpr hcell, Option.getD_none]

end Writes

end VkRelay.Lib
