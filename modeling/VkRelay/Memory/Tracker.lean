import VkRelay.Lib.Machine
import VkRelay.Lib.Scatter
import VkRelay.Lib.Table

/-!
The host-visible memory tracker of the guest driver. For every allocation it
keeps the shadow buffer the application writes through its mapping and the
mirror of what the worker is known to hold. This module has the tracker's data
and its lifecycle, mapping, commit and readback operations; diffing the two
buffers is in `VkRelay.Memory.Snapshot`.

Sizes and offsets are natural numbers. Buffers are never longer than a vector
may be, so the 64-bit sums over offsets inside a buffer do not wrap.
-/

namespace VkRelay.Memory

open VkRelay.Lib

/-- Dirty-diff granularity. -/
def kChunkBytes : Nat := 4096

def kWholeSize : Nat := 2 ^ 64 - 1

/-- `std::vector<std::byte>::max_size()`; sizing a buffer beyond it throws. -/
def kMaxVectorBytes : Nat := 2 ^ 63 - 1

structure Range where
  offset : Nat
  size : Nat
deriving DecidableEq, Repr

structure MemRange where
  memory : Nat
  offset : Nat
  size : Nat
deriving DecidableEq, Repr

structure Upload where
  memory : Nat
  ranges : List Range
deriving DecidableEq, Repr

/-- The wire payload of one upload call and the token that commits it: the bytes
stand in (upload, range) order. -/
structure DirtySnapshot where
  uploads : List Upload := []
  payload : List UInt8 := []
deriving DecidableEq, Repr

/-- One tracked allocation. The buffers are sized together on the first map, and
a mapping lies inside them. -/
structure Alloc where
  size : Nat
  typeIndex : Nat
  hostVisible : Bool
  hostCoherent : Bool
  isMapped : Bool
  candidate : Bool
  baselineDone : Bool
  mappedOffset : Nat
  mappedSize : Nat
  shadow : List UInt8
  lastUploaded : List UInt8
  mirror_length : lastUploaded.length = shadow.length
  shadow_length : shadow = [] ∨ shadow.length = size ∧ size ≤ kMaxVectorBytes
  mapped_within : isMapped = true →
    shadow ≠ [] ∧ 0 < mappedSize ∧ mappedOffset + mappedSize ≤ size
deriving DecidableEq

structure MappedMemoryTracker where
  allocs : Table Alloc := ∅
deriving DecidableEq

/-- `xs.data() + off` read for `len` positions. -/
def slice {β : Type*} (xs : List β) (off len : Nat) : List β :=
  (xs.drop off).take len

def addOverflows (a b : Nat) : Bool :=
  decide (a > (2 ^ 64 - 1) - b)

namespace Alloc

def fresh (size typeIndex : Nat) (hostVisible hostCoherent : Bool) : Alloc where
  size := size
  typeIndex := typeIndex
  hostVisible := hostVisible
  hostCoherent := hostCoherent
  isMapped := false
  candidate := false
  baselineDone := false
  mappedOffset := 0
  mappedSize := 0
  shadow := []
  lastUploaded := []
  mirror_length := rfl
  shadow_length := .inl rfl
  mapped_within := by simp

/-- Both buffers start equal (zero), so a freshly mapped, unwritten allocation is
clean. Buffers that exist are kept. -/
def ensureSized (a : Alloc) (hsize : a.size ≤ kMaxVectorBytes) : Alloc :=
  if hshadow : a.shadow = [] then
    { a with
      shadow := List.replicate a.size 0
      lastUploaded := List.replicate a.size 0
      mirror_length := rfl
      shadow_length := .inr ⟨List.length_replicate, hsize⟩
      mapped_within := fun hmapped => absurd hshadow (a.mapped_within hmapped).1 }
  else a

variable (a : Alloc)

theorem ensureSized_size (hsize : a.size ≤ kMaxVectorBytes) :
    (a.ensureSized hsize).size = a.size := by
  unfold ensureSized
  split <;> rfl

theorem ensureSized_shadow_ne_nil (hsize : a.size ≤ kMaxVectorBytes) (hpos : 0 < a.size) :
    (a.ensureSized hsize).shadow ≠ [] := by
  unfold ensureSized
  split
  · simp only [ne_eq, List.replicate_eq_nil_iff]
    omega
  · assumption

/-- The mapping `on_map` installs once its checks passed. -/
def mapAt (a : Alloc) (offset effective : Nat) (hsize : a.size ≤ kMaxVectorBytes)
    (hpos : 0 < effective) (hwithin : offset + effective ≤ a.size) : Alloc :=
  { a.ensureSized hsize with
    isMapped := true
    mappedOffset := offset
    mappedSize := effective
    candidate := true
    mapped_within := fun _ =>
      ⟨a.ensureSized_shadow_ne_nil hsize (by omega), hpos,
        (a.ensureSized_size hsize).symm ▸ hwithin⟩ }

def unmap (a : Alloc) : Alloc :=
  { a with isMapped := false, mapped_within := by simp }

def writeShadow (a : Alloc) (offset : Nat) (bytes : List UInt8) : Alloc :=
  { a with
    shadow := blit a.shadow offset bytes
    mirror_length := by simpa using a.mirror_length
    shadow_length := by simpa using a.shadow_length
    mapped_within := by simpa using a.mapped_within }

def withMirror (a : Alloc) (mirror : List UInt8)
    (hlength : mirror.length = a.lastUploaded.length) : Alloc :=
  { a with lastUploaded := mirror, mirror_length := hlength.trans a.mirror_length }

/-- The `memcpy` of acknowledged bytes into the mirror. -/
def writeMirror (a : Alloc) (offset : Nat) (bytes : List UInt8) : Alloc :=
  a.withMirror (blit a.lastUploaded offset bytes) (length_blit _ _ _)

/-- Downloaded bytes replace both buffers of a clean allocation. -/
def applyBytes (a : Alloc) (bytes : List UInt8) (hlength : bytes.length = a.shadow.length) :
    Alloc :=
  { a with
    shadow := bytes
    lastUploaded := bytes
    mirror_length := rfl
    shadow_length := by
      simpa [← List.length_eq_zero_iff, hlength] using a.shadow_length
    mapped_within := by
      simpa [← List.length_eq_zero_iff, hlength] using a.mapped_within }

theorem size_eq_length {a : Alloc} (hshadow : a.shadow ≠ []) : a.shadow.length = a.size := by
  rcases a.shadow_length with hempty | ⟨hsize, -⟩
  · exact absurd hempty hshadow
  · exact hsize

theorem shadow_length_lt : a.shadow.length < 2 ^ 63 := by
  rcases a.shadow_length with hempty | ⟨hsize, hmax⟩
  · simp [hempty]
  · rw [kMaxVectorBytes] at hmax
    omega

theorem mirror_length_lt : a.lastUploaded.length < 2 ^ 63 := by
  rw [a.mirror_length]
  exact a.shadow_length_lt

end Alloc

namespace MappedMemoryTracker

theorem ext_lookup {first second : MappedMemoryTracker}
    (hsame : ∀ key : Nat, first.allocs[key]? = second.allocs[key]?) : first = second := by
  cases first
  cases second
  simpa using Table.ext_lookup hsame

def onAllocate (t : MappedMemoryTracker) (memory size typeIndex : Nat)
    (hostVisible hostCoherent : Bool) : MappedMemoryTracker :=
  { t with allocs := t.allocs.insert memory (.fresh size typeIndex hostVisible hostCoherent) }

/-- Freeing implicitly unmaps; the shadow and any pending dirty bytes are dropped. -/
def onFree (t : MappedMemoryTracker) (memory : Nat) : Except String MappedMemoryTracker :=
  match t.allocs[memory]? with
  | none => .error "free of unknown memory"
  | some _ => .ok { t with allocs := t.allocs.erase memory }

/-- The length of the mapping a map request asks for, inside the allocation. -/
def mapLength (a : Alloc) (offset size : Nat) (hoffset : ¬ offset ≥ a.size) :
    Except String { effective : Nat // offset + effective ≤ a.size } :=
  if size = kWholeSize then .ok ⟨a.size - offset, by omega⟩
  else if hbounds : addOverflows offset size ∨ offset + size > a.size then
    .error "map range out of bounds"
  else .ok ⟨size, by simp only [not_or] at hbounds; omega⟩

/-- Sizing the buffers is the one step that throws instead of reporting. -/
def mapEffective (a : Alloc) (offset : Nat)
    (effective : { effective : Nat // offset + effective ≤ a.size }) : Except String Alloc :=
  if hempty : effective.val = 0 then .error "map range is empty"
  else if hsize : a.size ≤ kMaxVectorBytes then
    .ok (a.mapAt offset effective.val hsize (Nat.pos_of_ne_zero hempty) effective.property)
  else .error "cannot create std::vector larger than max_size()"

def onMap (t : MappedMemoryTracker) (memory offset size : Nat) :
    Except String MappedMemoryTracker :=
  match t.allocs[memory]? with
  | none => .error "map of unknown memory"
  | some a =>
    if a.isMapped then .error "memory is already mapped"
    else if !a.hostVisible || !a.hostCoherent then
      .error "map requires a HOST_VISIBLE | HOST_COHERENT memory type"
    else if hoffset : offset ≥ a.size then .error "map offset out of bounds"
    else do
      let effective ← mapLength a offset size hoffset
      let mapped ← mapEffective a offset effective
      pure { t with allocs := t.allocs.insert memory mapped }

/-- Clears the application's pointer only; dirty bytes stay pending. -/
def onUnmap (t : MappedMemoryTracker) (memory : Nat) : Except String MappedMemoryTracker :=
  match t.allocs[memory]? with
  | none => .error "unmap of unknown memory"
  | some a =>
    if a.isMapped then .ok { t with allocs := t.allocs.insert memory a.unmap }
    else .error "unmap of memory that is not mapped"

/-- The application stores `bytes` through the pointer of the current mapping.
`none`: the memory is not mapped, or the bytes leave the mapping. -/
def appWrite (t : MappedMemoryTracker) (memory offset : Nat) (bytes : List UInt8) :
    Option MappedMemoryTracker :=
  match t.allocs[memory]? with
  | none => none
  | some a =>
    if a.isMapped ∧ a.mappedOffset ≤ offset ∧
        offset + bytes.length ≤ a.mappedOffset + a.mappedSize then
      some { t with allocs := t.allocs.insert memory (a.writeShadow offset bytes) }
    else none

def mapped (t : MappedMemoryTracker) (memory : Nat) : Bool :=
  t.allocs[memory]?.any (·.isMapped)

def allocationSize (t : MappedMemoryTracker) (memory : Nat) : Nat :=
  (t.allocs[memory]?.map (·.size)).getD 0

/-- Clean: the buffers exist and no local write is pending. -/
def readbackClean (t : MappedMemoryTracker) (memory : Nat) : Bool :=
  t.allocs[memory]?.any fun a => decide (a.shadow ≠ [] ∧ a.shadow = a.lastUploaded)

/-- The bytes are as many as those of an allocation that is still clean. -/
def takesReadback (t : MappedMemoryTracker) (memory : Nat) (bytes : List UInt8) : Bool :=
  t.allocs[memory]?.any fun a =>
    decide (a.shadow ≠ [] ∧ a.shadow = a.lastUploaded ∧ bytes.length = a.shadow.length)

/-- Downloaded bytes that the allocation does not take are ignored. -/
def applyReadback (t : MappedMemoryTracker) (memory : Nat) (bytes : List UInt8) :
    MappedMemoryTracker :=
  match t.allocs[memory]? with
  | none => t
  | some a =>
    if h : a.shadow ≠ [] ∧ a.shadow = a.lastUploaded ∧ bytes.length = a.shadow.length then
      { t with allocs := t.allocs.insert memory (a.applyBytes bytes h.2.2) }
    else t

/-- Every allocation needs a full diff before the page filter may narrow it again. -/
def forceRebaseline (t : MappedMemoryTracker) : MappedMemoryTracker :=
  { t with allocs := t.allocs.map fun _ a => { a with baselineDone := false } }

section Inversion

variable {t next : MappedMemoryTracker} {memory : Nat}

theorem onFree_ok (hok : t.onFree memory = .ok next) : next.allocs = t.allocs.erase memory := by
  unfold onFree at hok
  split at hok
  · cases hok
  · cases hok
    rfl

theorem mapEffective_ok {a mapped : Alloc} {offset : Nat}
    {effective : { effective : Nat // offset + effective ≤ a.size }}
    (hok : mapEffective a offset effective = .ok mapped) :
    ∃ hsize hpos, mapped = a.mapAt offset effective.val hsize hpos effective.property := by
  unfold mapEffective at hok
  split at hok
  · cases hok
  · next hempty =>
      split at hok
      · next hsize =>
          cases hok
          exact ⟨hsize, Nat.pos_of_ne_zero hempty, rfl⟩
      · cases hok

/-- A successful map installs a mapping on an allocation that had none. -/
theorem onMap_ok {offset size : Nat} (hok : t.onMap memory offset size = .ok next) :
    ∃ a effective hsize hpos hwithin, t.allocs[memory]? = some a ∧ a.isMapped = false ∧
      next.allocs = t.allocs.insert memory (a.mapAt offset effective hsize hpos hwithin) := by
  unfold onMap at hok
  split at hok
  · cases hok
  · next a hlookup =>
      split at hok
      · cases hok
      · next hmapped =>
          split at hok
          · cases hok
          · split at hok
            · cases hok
            · next hoffset =>
                obtain ⟨effective, -, hok⟩ := except_bind_eq_ok.mp hok
                obtain ⟨mapped, hmap, hok⟩ := except_bind_eq_ok.mp hok
                obtain ⟨hsize, hpos, rfl⟩ := mapEffective_ok hmap
                cases hok
                exact ⟨a, effective.val, hsize, hpos, effective.property, hlookup,
                  by simpa using hmapped, rfl⟩

theorem onUnmap_ok (hok : t.onUnmap memory = .ok next) :
    ∃ a, t.allocs[memory]? = some a ∧ next.allocs = t.allocs.insert memory a.unmap := by
  unfold onUnmap at hok
  split at hok
  · cases hok
  · next a hlookup =>
      split at hok
      · cases hok
        exact ⟨a, hlookup, rfl⟩
      · cases hok

/-- A store goes to a mapped allocation and stays inside its shadow. -/
theorem appWrite_some {offset : Nat} {bytes : List UInt8}
    (hsome : t.appWrite memory offset bytes = some next) :
    ∃ a, t.allocs[memory]? = some a ∧ a.isMapped = true ∧ offset + bytes.length ≤ a.shadow.length ∧
      next.allocs = t.allocs.insert memory (a.writeShadow offset bytes) := by
  unfold appWrite at hsome
  split at hsome
  · cases hsome
  · next a hlookup =>
      split at hsome
      · next hmapped =>
          cases hsome
          have hwithin := a.mapped_within hmapped.1
          have hsize := Alloc.size_eq_length hwithin.1
          exact ⟨a, hlookup, hmapped.1, by omega, rfl⟩
      · cases hsome

end Inversion

end MappedMemoryTracker

end VkRelay.Memory
