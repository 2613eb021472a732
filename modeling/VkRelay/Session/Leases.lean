import VkRelay.Lib.Leases
import VkRelay.Session.Releases

/-!
The books of the recording leases. Retired images and buffers are two tables of leased
items, with a counter of the leases beside them and a set of memories that are kept for
retired resources. Giving up leases keeps all of this in order.
-/

namespace VkRelay.Session

open VkRelay.Lib

def imageLeases : LeaseField LeaseKey RetiredImage where
  leases := RetiredImage.leases
  without key r := { r with leases := r.leases.erase key }
  leases_without _ _ := rfl

def bufferLeases : LeaseField LeaseKey RetiredBuffer where
  leases := RetiredBuffer.leases
  without key r := { r with leases := r.leases.erase key }
  leases_without _ _ := rfl

inductive Resource where
  | image (h : Nat)
  | buffer (h : Nat)
  deriving DecidableEq

namespace Backend

def Leased (s : Backend) (key : LeaseKey) : Prop :=
  imageLeases.Held s.retiredImages key ∨ bufferLeases.Held s.retiredBuffers key

def Holds (s : Backend) : Resource → LeaseKey → Prop
  | .image h, key => imageLeases.HeldAt s.retiredImages h key
  | .buffer h, key => bufferLeases.HeldAt s.retiredBuffers h key

variable {s : Backend}

theorem leased_iff {key : LeaseKey} : s.Leased key ↔ ∃ resource, s.Holds resource key := by
  constructor
  · rintro (⟨h, hheld⟩ | ⟨h, hheld⟩)
    · exact ⟨.image h, hheld⟩
    · exact ⟨.buffer h, hheld⟩
  · rintro ⟨h | h, hheld⟩
    · exact .inl ⟨h, hheld⟩
    · exact .inr ⟨h, hheld⟩

def leaseCount (s : Backend) : Nat :=
  imageLeases.count s.retiredImages + bufferLeases.count s.retiredBuffers

/-- Every retired memory has a retired resource bound to it. -/
def MemoriesRetained (s : Backend) : Prop :=
  ∀ memory ∈ s.retiredMemories, memory ≠ 0 ∧ s.retainedByResource memory = true

/-- The counter is the number of leases, every retired resource is held, and every retired
memory is needed. -/
structure Books (s : Backend) : Prop where
  edges : s.recordingResourceLeaseEdges = s.leaseCount
  images : imageLeases.Sound s.retiredImages
  buffers : bufferLeases.Sound s.retiredBuffers
  memories : s.MemoriesRetained

theorem retainedByResource_iff {memory : Nat} : s.retainedByResource memory = true ↔
      (∃ (h : Nat) (r : RetiredImage), s.retiredImages[h]? = some r ∧
        r.image.boundMemory = memory) ∨
      ∃ (h : Nat) (r : RetiredBuffer), s.retiredBuffers[h]? = some r ∧
        r.buffer.boundMemory = memory := by
  simp only [retainedByResource, Bool.or_eq_true, List.any_eq_true, beq_iff_eq, Prod.exists,
    Table.mem_toList_iff]

/-! ## Memory -/

theorem retiredMemories_collect (s : Backend) (memory : Nat) :
    (s.releaseRetiredMemoryIfUnused memory).retiredMemories =
      if memory = 0 ∨ s.retainedByResource memory = true then s.retiredMemories
      else s.retiredMemories.erase memory := by
  unfold releaseRetiredMemoryIfUnused
  by_cases hzero : memory = 0
  · rw [if_pos (.inl hzero), if_pos (.inl hzero)]
  · by_cases hlisted : memory ∈ s.retiredMemories
    · rw [if_neg (by simp [hzero, hlisted])]
      by_cases hretained : s.retainedByResource memory = true
      · rw [if_pos hretained, if_pos (.inr hretained)]
      · rw [if_neg hretained, if_neg (by simp [hzero, hretained])]
    · rw [if_pos (.inr hlisted), Finset.erase_eq_of_notMem hlisted, ite_self]

/-- A memory that lost one of its resources is collected if that was the last. -/
theorem memoriesRetained_collect {memory : Nat}
    (hretained : ∀ other ∈ s.retiredMemories, other ≠ 0 ∧
      (other ≠ memory → s.retainedByResource other = true)) :
    (s.releaseRetiredMemoryIfUnused memory).MemoriesRetained := by
  intro other hother
  rw [retiredMemories_collect] at hother
  obtain ⟨_, _, _, _, hcollected, -⟩ := s.sameButLeases_releaseRetiredMemoryIfUnused memory
  have hsame : (s.releaseRetiredMemoryIfUnused memory).retainedByResource other =
      s.retainedByResource other := by
    rw [hcollected]
    rfl
  rw [hsame]
  split at hother
  next hkept =>
      obtain ⟨hnonzero, helse⟩ := hretained other hother
      refine ⟨hnonzero, ?_⟩
      by_cases hmemory : other = memory
      · subst hmemory
        exact hkept.resolve_left hnonzero
      · exact helse hmemory
  next =>
      obtain ⟨hmemory, hlisted⟩ := Finset.mem_erase.mp hother
      obtain ⟨hnonzero, helse⟩ := hretained other hlisted
      exact ⟨hnonzero, helse hmemory⟩

theorem memoriesRetained_dropImage {entry : Nat × RetiredImage} {r : RetiredImage}
    (hretained : s.MemoriesRetained) (hfound : s.retiredImages[entry.1]? = some r)
    (hsame : r.image = entry.2.image) : (s.dropImage entry).MemoriesRetained := by
  apply memoriesRetained_collect
  intro other hother
  obtain ⟨hnonzero, hresource⟩ := hretained other hother
  refine ⟨hnonzero, fun hne => ?_⟩
  rw [retainedByResource_iff] at hresource ⊢
  rcases hresource with ⟨h, q, hq, hbound⟩ | hbuffer
  · refine .inl ⟨h, q, ?_, hbound⟩
    rw [Table.getElem?_erase_eq, if_neg]
    · exact hq
    · rintro rfl
      obtain rfl : r = q := Option.some.inj (hfound.symm.trans hq)
      exact hne (hbound.symm.trans (by rw [hsame]))
  · exact .inr hbuffer

theorem memoriesRetained_dropBuffer {entry : Nat × RetiredBuffer} {r : RetiredBuffer}
    (hretained : s.MemoriesRetained) (hfound : s.retiredBuffers[entry.1]? = some r)
    (hsame : r.buffer = entry.2.buffer) : (s.dropBuffer entry).MemoriesRetained := by
  apply memoriesRetained_collect
  intro other hother
  obtain ⟨hnonzero, hresource⟩ := hretained other hother
  refine ⟨hnonzero, fun hne => ?_⟩
  rw [retainedByResource_iff] at hresource ⊢
  rcases hresource with himage | ⟨h, q, hq, hbound⟩
  · exact .inl himage
  · refine .inr ⟨h, q, ?_, hbound⟩
    rw [Table.getElem?_erase_eq, if_neg]
    · exact hq
    · rintro rfl
      obtain rfl : r = q := Option.some.inj (hfound.symm.trans hq)
      exact hne (hbound.symm.trans (by rw [hsame]))

/-! ## Dropping what is no longer held -/

section Drop

variable {α β : Type} {drop : Backend → Nat × α → Backend} {table : Backend → Table α}
  {content : α → β}

theorem foldl_unchanged {γ : Type} {view : Backend → γ}
    (hstep : ∀ s entry, view (drop s entry) = view s) (entries : List (Nat × α)) (s : Backend) :
    view (entries.foldl drop s) = view s := by
  induction entries generalizing s with
  | nil => rfl
  | cons entry entries ih => exact (ih _).trans (hstep s entry)

/-- Retired resources of one table go one after the other, and with them the memories that
nobody needs any more. -/
theorem foldl_dropped (htable : ∀ s entry, table (drop s entry) = (table s).erase entry.1)
    (hkeeps : ∀ (s : Backend) (entry : Nat × α) (r : α), s.MemoriesRetained →
      (table s)[entry.1]? = some r → content r = content entry.2 →
      (drop s entry).MemoriesRetained)
    (entries : List (Nat × α)) (s : Backend) (hnodup : (entries.map Prod.fst).Nodup)
    (hretained : s.MemoriesRetained)
    (hfound : ∀ entry ∈ entries, ∃ r : α,
      (table s)[entry.1]? = some r ∧ content r = content entry.2) :
    (entries.foldl drop s).MemoriesRetained ∧
      table (entries.foldl drop s) = entries.foldl (fun t entry => t.erase entry.1) (table s) := by
  induction entries generalizing s with
  | nil => exact ⟨hretained, rfl⟩
  | cons entry entries ih =>
    obtain ⟨r, hr, hsame⟩ := hfound entry List.mem_cons_self
    rw [List.map_cons, List.nodup_cons] at hnodup
    have hstill : ∀ other ∈ entries, ∃ q : α,
        (table (drop s entry))[other.1]? = some q ∧ content q = content other.2 := by
      intro other hother
      obtain ⟨q, hq, hcontent⟩ := hfound other (List.mem_cons_of_mem _ hother)
      refine ⟨q, ?_, hcontent⟩
      rw [htable, Table.getElem?_erase_eq, if_neg]
      · exact hq
      · intro hkey
        exact hnodup.1 (List.mem_map.mpr ⟨other, hother, hkey.symm⟩)
    obtain ⟨hmemories, hrest⟩ := ih (drop s entry) hnodup.2 (hkeeps s entry r hretained hr hsame)
      hstill
    rw [htable] at hrest
    exact ⟨hmemories, hrest⟩

end Drop

theorem dropImage_same (s : Backend) (entry : Nat × RetiredImage) :
    (s.dropImage entry).retiredImages = s.retiredImages.erase entry.1 ∧
      (s.dropImage entry).retiredBuffers = s.retiredBuffers ∧
      (s.dropImage entry).recordingResourceLeaseEdges = s.recordingResourceLeaseEdges := by
  obtain ⟨_, _, _, _, hcollected, -⟩ := sameButLeases_releaseRetiredMemoryIfUnused
    { s with retiredImages := s.retiredImages.erase entry.1 } entry.2.image.boundMemory
  rw [dropImage, hcollected]
  exact ⟨rfl, rfl, rfl⟩

theorem dropBuffer_same (s : Backend) (entry : Nat × RetiredBuffer) :
    (s.dropBuffer entry).retiredBuffers = s.retiredBuffers.erase entry.1 ∧
      (s.dropBuffer entry).retiredImages = s.retiredImages ∧
      (s.dropBuffer entry).recordingResourceLeaseEdges = s.recordingResourceLeaseEdges := by
  obtain ⟨_, _, _, _, hcollected, -⟩ := sameButLeases_releaseRetiredMemoryIfUnused
    { s with retiredBuffers := s.retiredBuffers.erase entry.1 } entry.2.buffer.boundMemory
  rw [dropBuffer, hcollected]
  exact ⟨rfl, rfl, rfl⟩

/-! ## Giving up leases -/

theorem memoriesRetained_withoutLease (hretained : s.MemoriesRetained) (key : LeaseKey) :
    (s.withoutLease key).MemoriesRetained := by
  intro memory hmemory
  obtain ⟨hnonzero, hresource⟩ := hretained memory hmemory
  refine ⟨hnonzero, ?_⟩
  rw [retainedByResource_iff] at hresource ⊢
  simp only [withoutLease, Std.ExtTreeMap.getElem?_map]
  rcases hresource with ⟨h, r, hr, hbound⟩ | ⟨h, r, hr, hbound⟩
  · exact .inl ⟨h, _, congrArg (Option.map _) hr, hbound⟩
  · exact .inr ⟨h, _, congrArg (Option.map _) hr, hbound⟩

theorem nodup_lost {κ α : Type} [BEq κ] [LawfulBEq κ] (F : LeaseField κ α) (table : Table α)
    (key : κ) : ((F.lost table key).map Prod.fst).Nodup :=
  (Table.nodup_keys_toList table).sublist (List.filter_sublist.map _)

/-- Giving up a lease gives it up in both tables and keeps the memories that are needed. -/
theorem releaseRecordingLease_spec (hretained : s.MemoriesRetained) (key : LeaseKey) :
    (s.releaseRecordingLease key).MemoriesRetained ∧
      (s.releaseRecordingLease key).retiredImages = imageLeases.release s.retiredImages key ∧
      (s.releaseRecordingLease key).retiredBuffers = bufferLeases.release s.retiredBuffers key ∧
      (s.releaseRecordingLease key).recordingResourceLeaseEdges = s.recordingResourceLeaseEdges -
          (s.retiredImages.toList.countP (fun entry => key ∈ entry.2.leases) +
            s.retiredBuffers.toList.countP (fun entry => key ∈ entry.2.leases)) := by
  rw [releaseRecordingLease_eq]
  have himages := foldl_dropped (fun s entry => (dropImage_same s entry).1)
    (fun _ _ _ hretained hr hsame => memoriesRetained_dropImage hretained hr hsame)
    (s.imagesToRelease key) (s.withoutLease key) (nodup_lost imageLeases s.retiredImages key)
    (memoriesRetained_withoutLease hretained key) (by
      intro entry hentry
      have hlisted := (Table.mem_toList_iff _ _ _).mp (List.mem_filter.mp hentry).1
      refine ⟨{ entry.2 with leases := entry.2.leases.erase key }, ?_, rfl⟩
      simp only [withoutLease, Std.ExtTreeMap.getElem?_map]
      rw [hlisted]
      rfl)
  obtain ⟨hmemories, himages⟩ := himages
  have hsameBuffers := foldl_unchanged (fun s entry => (dropImage_same s entry).2.1)
    (s.imagesToRelease key) (s.withoutLease key)
  have hsameEdges := foldl_unchanged (fun s entry => (dropImage_same s entry).2.2)
    (s.imagesToRelease key) (s.withoutLease key)
  have hbuffers := foldl_dropped (fun s entry => (dropBuffer_same s entry).1)
    (fun _ _ _ hretained hr hsame => memoriesRetained_dropBuffer hretained hr hsame)
    (s.buffersToRelease key) _ (nodup_lost bufferLeases s.retiredBuffers key) hmemories (by
      intro entry hentry
      have hlisted := (Table.mem_toList_iff _ _ _).mp (List.mem_filter.mp hentry).1
      refine ⟨{ entry.2 with leases := entry.2.leases.erase key }, ?_, rfl⟩
      rw [hsameBuffers]
      simp only [withoutLease, Std.ExtTreeMap.getElem?_map]
      rw [hlisted]
      rfl)
  obtain ⟨hmemories, hbuffers⟩ := hbuffers
  refine ⟨hmemories, ?_, ?_, ?_⟩
  · rw [foldl_unchanged fun s entry => (dropBuffer_same s entry).2.1, himages]
    rfl
  · rw [hbuffers, hsameBuffers]
    rfl
  · rw [foldl_unchanged fun s entry => (dropBuffer_same s entry).2.2, hsameEdges]
    rfl

theorem Books.release (hbooks : s.Books) (key : LeaseKey) :
    (s.releaseRecordingLease key).Books := by
  obtain ⟨hmemories, himages, hbuffers, hedges⟩ :=
    releaseRecordingLease_spec hbooks.memories key
  refine ⟨?_, himages ▸ hbooks.images.release key, hbuffers ▸ hbooks.buffers.release key, hmemories⟩
  have hcountImages : imageLeases.count (imageLeases.release s.retiredImages key) +
      s.retiredImages.toList.countP (fun entry => key ∈ entry.2.leases) =
        imageLeases.count s.retiredImages := LeaseField.count_release
  have hcountBuffers : bufferLeases.count (bufferLeases.release s.retiredBuffers key) +
      s.retiredBuffers.toList.countP (fun entry => key ∈ entry.2.leases) =
        bufferLeases.count s.retiredBuffers := LeaseField.count_release
  rw [hedges, hbooks.edges, leaseCount, leaseCount, himages, hbuffers]
  omega

theorem holds_release_iff (hbooks : s.Books) {key other : LeaseKey} {resource : Resource} :
    (s.releaseRecordingLease key).Holds resource other ↔ s.Holds resource other ∧ other ≠ key := by
  obtain ⟨-, himages, hbuffers, -⟩ := releaseRecordingLease_spec hbooks.memories key
  cases resource with
  | image h =>
    rw [Holds, himages]
    exact LeaseField.heldAt_release_iff hbooks.images
  | buffer h =>
    rw [Holds, hbuffers]
    exact LeaseField.heldAt_release_iff hbooks.buffers

theorem leased_release_iff (hbooks : s.Books) {key other : LeaseKey} :
    (s.releaseRecordingLease key).Leased other ↔ s.Leased other ∧ other ≠ key := by
  simp only [leased_iff, holds_release_iff hbooks, exists_and_right]

theorem mem_leasedGenerations {commandBuffer bound generation : Nat} :
    generation ∈ s.leasedGenerations commandBuffer bound ↔
      s.Leased (commandBuffer, generation) ∧ generation < bound := by
  have hkeys : ∀ key : LeaseKey, key ∈ s.retiredImages.toList.flatMap (·.2.leases) ++
      s.retiredBuffers.toList.flatMap (·.2.leases) ↔ s.Leased key := by
    intro key
    simp only [List.mem_append, List.mem_flatMap, Prod.exists, Table.mem_toList_iff]
    rfl
  simp only [leasedGenerations, List.mem_insertionSort, List.mem_dedup, List.mem_map,
    List.mem_filter, hkeys, decide_eq_true_eq]
  constructor
  · rintro ⟨⟨_, _⟩, ⟨hleased, rfl, hbelow⟩, rfl⟩
    exact ⟨hleased, hbelow⟩
  · rintro ⟨hleased, hbelow⟩
    exact ⟨(commandBuffer, generation), ⟨hleased, rfl, hbelow⟩, rfl⟩

theorem foldl_release (hbooks : s.Books) (commandBuffer : Nat) (generations : List Nat) :
    (generations.foldl (fun t generation => t.releaseRecordingLease (commandBuffer, generation))
        s).Books ∧
      ∀ resource key,
        (generations.foldl (fun t generation => t.releaseRecordingLease (commandBuffer, generation))
          s).Holds resource key ↔
            s.Holds resource key ∧ ¬(key.1 = commandBuffer ∧ key.2 ∈ generations) := by
  induction generations generalizing s with
  | nil => exact ⟨hbooks, fun resource key => by simp⟩
  | cons generation generations ih =>
    obtain ⟨hlast, hheld⟩ := ih (hbooks.release (commandBuffer, generation))
    refine ⟨hlast, fun resource key => ?_⟩
    rw [List.foldl_cons, hheld, holds_release_iff hbooks, and_assoc, List.mem_cons]
    have hne : key ≠ (commandBuffer, generation) ↔
        ¬(key.1 = commandBuffer ∧ key.2 = generation) := by
      rw [ne_eq, Prod.ext_iff]
    rw [hne]
    tauto

/-- A command buffer's leases below a generation are given up, and no others. -/
theorem holds_releases (hbooks : s.Books) (commandBuffer bound : Nat) :
    (s.releaseRecordingLeasesForCommandBuffer commandBuffer bound).Books ∧ ∀ resource key,
        (s.releaseRecordingLeasesForCommandBuffer commandBuffer bound).Holds resource key ↔
          s.Holds resource key ∧ ¬(key.1 = commandBuffer ∧ key.2 < bound) := by
  obtain ⟨hlast, hheld⟩ := foldl_release hbooks commandBuffer
    (s.leasedGenerations commandBuffer bound)
  refine ⟨hlast, fun resource key => (hheld resource key).trans (and_congr_right fun hkey => ?_)⟩
  have hleased := leased_iff.mpr ⟨resource, hkey⟩
  rw [mem_leasedGenerations]
  constructor
  · rintro hnot ⟨rfl, hbelow⟩
    exact hnot ⟨rfl, hleased, hbelow⟩
  · rintro hnot ⟨rfl, -, hbelow⟩
    exact hnot ⟨rfl, hbelow⟩

theorem releases_spec (hbooks : s.Books) (commandBuffer bound : Nat) :
    (s.releaseRecordingLeasesForCommandBuffer commandBuffer bound).Books ∧
      ∀ key : LeaseKey, (s.releaseRecordingLeasesForCommandBuffer commandBuffer bound).Leased key ↔
        s.Leased key ∧ ¬(key.1 = commandBuffer ∧ key.2 < bound) := by
  obtain ⟨hlast, hheld⟩ := holds_releases hbooks commandBuffer bound
  exact ⟨hlast, fun key => by simp only [leased_iff, hheld, exists_and_right]⟩

end Backend

end VkRelay.Session
