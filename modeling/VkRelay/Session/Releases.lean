import VkRelay.Session.Machine

/-!
Giving up leases, step by step. A release takes the lease off every retired resource; the
resources that nobody holds any more go, and with them the memories that only they kept.
-/

namespace VkRelay.Session

open VkRelay.Lib

/-- Only what leases keep alive may differ. -/
def SameButLeases (s t : Backend) : Prop :=
  ∃ (devices : Table Device) (leaves : Table Leaf) (memoryObjects : Table MemoryObject)
    (retiredMemories : Finset Nat) (retiredImages : Table RetiredImage)
    (retiredBuffers : Table RetiredBuffer) (edges : Nat),
    t = { s with
      devices, leaves, memoryObjects, retiredMemories, retiredImages, retiredBuffers
      recordingResourceLeaseEdges := edges }

theorem SameButLeases.refl (s : Backend) : SameButLeases s s :=
  ⟨_, _, _, _, _, _, _, rfl⟩

theorem SameButLeases.trans {s t u : Backend} (hfirst : SameButLeases s t)
    (hsecond : SameButLeases t u) : SameButLeases s u := by
  obtain ⟨_, _, _, _, _, _, _, rfl⟩ := hfirst
  obtain ⟨_, _, _, _, _, _, _, rfl⟩ := hsecond
  exact ⟨_, _, _, _, _, _, _, rfl⟩

namespace Backend

variable (s : Backend)

/-- Collecting a memory touches what belongs to memories only. -/
theorem sameButLeases_releaseRetiredMemoryIfUnused (memory : Nat) :
    ∃ (devices : Table Device) (leaves : Table Leaf) (memoryObjects : Table MemoryObject)
      (retiredMemories : Finset Nat), s.releaseRetiredMemoryIfUnused memory =
        { s with devices, leaves, memoryObjects, retiredMemories } ∧
      (memoryObjects = s.memoryObjects ∨ memoryObjects = s.memoryObjects.erase memory) := by
  unfold releaseRetiredMemoryIfUnused
  split
  · exact ⟨_, _, _, _, rfl, .inl rfl⟩
  · split
    · exact ⟨_, _, _, _, rfl, .inl rfl⟩
    · unfold destroyDeviceLeaf find
      cases s.leaves[memory]? with
      | none => exact ⟨_, _, _, _, rfl, .inr rfl⟩
      | some leaf =>
        by_cases hkind : leaf.kind = .memory
        · simp only [hkind, ne_eq, not_true_eq_false, rejectIf, bind, Except.bind, pure,
            Except.pure, if_false]
          exact ⟨_, _, _, _, rfl, .inr rfl⟩
        · simp only [hkind, ne_eq, not_false_eq_true, rejectIf, bind, Except.bind, if_true]
          exact ⟨_, _, _, _, rfl, .inr rfl⟩

/-- One step of a release: a retired image goes, and perhaps the memory behind it. -/
def dropImage (s : Backend) (entry : Nat × RetiredImage) : Backend :=
  releaseRetiredMemoryIfUnused { s with retiredImages := s.retiredImages.erase entry.1 }
    entry.2.image.boundMemory

def dropBuffer (s : Backend) (entry : Nat × RetiredBuffer) : Backend :=
  releaseRetiredMemoryIfUnused { s with retiredBuffers := s.retiredBuffers.erase entry.1 }
    entry.2.buffer.boundMemory

def withoutLease (s : Backend) (key : LeaseKey) : Backend :=
  { s with
    retiredImages := s.retiredImages.map fun _ r => { r with leases := r.leases.erase key }
    retiredBuffers := s.retiredBuffers.map fun _ r => { r with leases := r.leases.erase key }
    recordingResourceLeaseEdges := s.recordingResourceLeaseEdges -
      (s.retiredImages.toList.countP (fun entry => key ∈ entry.2.leases) +
        s.retiredBuffers.toList.countP (fun entry => key ∈ entry.2.leases)) }

theorem releaseRecordingLease_eq (key : LeaseKey) :
    s.releaseRecordingLease key = (s.buffersToRelease key).foldl dropBuffer
      ((s.imagesToRelease key).foldl dropImage (s.withoutLease key)) := rfl

theorem sameButLeases_dropImage (entry : Nat × RetiredImage) :
    SameButLeases s (s.dropImage entry) := by
  obtain ⟨_, _, _, _, hcollected, -⟩ := sameButLeases_releaseRetiredMemoryIfUnused
    { s with retiredImages := s.retiredImages.erase entry.1 } entry.2.image.boundMemory
  exact ⟨_, _, _, _, _, _, _, hcollected⟩

theorem sameButLeases_dropBuffer (entry : Nat × RetiredBuffer) :
    SameButLeases s (s.dropBuffer entry) := by
  obtain ⟨_, _, _, _, hcollected, -⟩ := sameButLeases_releaseRetiredMemoryIfUnused
    { s with retiredBuffers := s.retiredBuffers.erase entry.1 } entry.2.buffer.boundMemory
  exact ⟨_, _, _, _, _, _, _, hcollected⟩

theorem sameButLeases_releaseRecordingLease (key : LeaseKey) :
    SameButLeases s (s.releaseRecordingLease key) := by
  have hwithout : SameButLeases s (s.withoutLease key) := ⟨_, _, _, _, _, _, _, rfl⟩
  rw [releaseRecordingLease_eq]
  exact (hwithout.trans (foldl_related .refl .trans sameButLeases_dropImage _ _)).trans
    (foldl_related .refl .trans sameButLeases_dropBuffer _ _)

theorem sameButLeases_releases (commandBuffer beforeGeneration : Nat) :
    SameButLeases s (s.releaseRecordingLeasesForCommandBuffer commandBuffer beforeGeneration) :=
  foldl_related .refl .trans
    (fun t generation => t.sameButLeases_releaseRecordingLease (commandBuffer, generation)) _ s

end Backend

theorem SameButLeases.commandBuffers {s t : Backend} (hsame : SameButLeases s t) :
    t.commandBuffers = s.commandBuffers := by
  obtain ⟨_, _, _, _, _, _, _, rfl⟩ := hsame
  rfl

end VkRelay.Session
