import VkRelay.Session.LeaseFrame

/-!
The handles of images, buffers and memories over whole runs. The requests that retire or free a
resource are opened up once; with the others they show that no handle is ever used again.
-/

namespace VkRelay.Session

open VkRelay.Lib

namespace Backend

/-! ## The requests that retire or free -/

/-- A request was refused, and at most its refusal counted. -/
def Refused (s : Backend) (result : Backend × Except String Unit) : Prop :=
  ∃ rejections reason,
    result = ({ s with recordingResourceCapacityRejections := rejections }, .error reason)

theorem freeMemory_cases (s : Backend) (h : Nat) : s.Refused (s.freeMemory h) ∨
      (∃ memory, s.memoryObjects[h]? = some memory ∧ s.retainedByResource h = true ∧
        s.retiredMemoriesOn memory.device < maxRetiredMemoryAllocationsPerDevice ∧
        s.freeMemory h = ({ s with retiredMemories := insert h s.retiredMemories }, .ok ())) ∨
      ∃ freed, s.destroyDeviceLeaf h .memory = .ok freed ∧
        s.freeMemory h = ({ freed with memoryObjects := s.memoryObjects.erase h }, .ok ()) := by
  unfold freeMemory
  split
  · exact .inl ⟨_, _, rfl⟩
  · rename_i memory hmemory
    split
    · exact .inl ⟨_, _, rfl⟩
    · split
      · rename_i hretained
        split
        · exact .inl ⟨_, _, rfl⟩
        · rename_i hroom
          exact .inr (.inl ⟨memory, hmemory, hretained, Nat.lt_of_not_le hroom, rfl⟩)
      · split
        · exact .inl ⟨_, _, rfl⟩
        · rename_i freed hfreed
          exact .inr (.inr ⟨freed, hfreed, rfl⟩)

theorem destroyBufferLeased_cases (s : Backend) (req : LeasedDestroyRequest) :
    s.Refused (s.destroyBufferLeased req) ∨ ∃ buffer, s.buffers[req.handle]? = some buffer ∧
        s.checkLeases buffer.device req.leases "buffer" = .ok () ∧
        ¬s.leaseCapacityExceeded buffer.device req.leases.length = true ∧
        s.destroyBufferLeased req = (s.retireBuffer req.handle buffer req.leases, .ok ()) := by
  unfold destroyBufferLeased
  split
  · exact .inl ⟨_, _, rfl⟩
  · rename_i buffer hbuffer
    split
    · exact .inl ⟨_, _, rfl⟩
    · rename_i hchecked
      split
      · exact .inl ⟨_, _, rfl⟩
      · rename_i hroom
        exact .inr ⟨buffer, hbuffer, hchecked, hroom, rfl⟩

theorem destroyImageLeased_cases (s : Backend) (req : LeasedDestroyRequest) :
    s.Refused (s.destroyImageLeased req) ∨ ∃ image, s.images[req.handle]? = some image ∧
        s.checkLeases image.device req.leases "image" = .ok () ∧
        ¬s.leaseCapacityExceeded image.device req.leases.length = true ∧
        s.destroyImageLeased req = (s.retireImage req.handle image req.leases, .ok ()) := by
  unfold destroyImageLeased
  split
  · exact .inl ⟨_, _, rfl⟩
  · rename_i image himage
    simp only [findDestroyableImage, accept_rules] at himage
    obtain ⟨found, himage, -, -, -, -, rfl⟩ := himage
    split
    · exact .inl ⟨_, _, rfl⟩
    · rename_i hchecked
      split
      · exact .inl ⟨_, _, rfl⟩
      · rename_i hroom
        exact .inr ⟨found, himage, hchecked, hroom, rfl⟩

/-! ## What they do to the handles -/

variable (s : Backend)

theorem steady_freeMemory (h : Nat) : Steady s (s.freeMemory h).1 := by
  rcases s.freeMemory_cases h with ⟨_, _, heq⟩ | ⟨_, -, -, -, heq⟩ | ⟨freed, hfreed, heq⟩
  · rw [heq]
    exact .other le_rfl rfl
  · rw [heq]
    exact .other le_rfl rfl
  · have hsteady := (s.quiet_destroyDeviceLeaf h .memory freed hfreed).steady
    rw [heq]
    exact ⟨hsteady.next, hsteady.places, hsteady.stands,
      fun other m hm => .inl (Table.of_erase hm)⟩

variable (req : LeasedDestroyRequest)

theorem steady_destroyBufferLeased : Steady s (s.destroyBufferLeased req).1 := by
  rcases s.destroyBufferLeased_cases req with ⟨_, _, heq⟩ | ⟨buffer, hbuffer, -, -, heq⟩
  · rw [heq]
    exact .other le_rfl rfl
  · have hquiet := s.quiet_consulted req.handle req.leases
    have hlive := s.live_consulted req.handle req.leases
    have himages : (s.retireBuffer req.handle buffer req.leases).images = s.images := hlive.1
    have hretiredImages : (s.retireBuffer req.handle buffer req.leases).retiredImages =
        s.retiredImages := hquiet.images
    rw [heq]
    refine ⟨hquiet.steady.next, fun h => ?_, fun h hold x hx => ?_, hquiet.steady.memory⟩
    · have hretired := present_retire hbuffer s.retiredBuffers { buffer, leases := req.leases } h
      rw [places, places, himages, hretiredImages]
      simp only [retireBuffer]
      omega
    · cases x with
      | image made => exact ⟨.image made, by rwa [Stands, himages] at hx, .same _⟩
      | retiredImage made =>
        exact ⟨.retiredImage made, by rwa [Stands, hretiredImages] at hx, .same _⟩
      | buffer made => exact ⟨.buffer made, Remains.erase _ _ _ h made hx, .same _⟩
      | retiredBuffer made =>
        rcases stood_of_retired Buffer.made RetiredBuffer.made _ _ hbuffer rfl hx with
          hlive | hretired
        · exact ⟨.buffer made, hlive, .retireBuffer made⟩
        · exact ⟨.retiredBuffer made, hretired, .same _⟩

theorem steady_destroyImageLeased : Steady s (s.destroyImageLeased req).1 := by
  rcases s.destroyImageLeased_cases req with ⟨_, _, heq⟩ | ⟨image, himage, -, -, heq⟩
  · rw [heq]
    exact .other le_rfl rfl
  · rw [heq]
    refine ⟨le_rfl, fun h => ?_, fun h hold x hx => ?_, fun _ _ => .inl⟩
    · have hretired := present_retire himage s.retiredImages { image, leases := req.leases } h
      simp only [places, retireImage, disownAt, invalidateCbsReferencing] at hretired ⊢
      omega
    · cases x with
      | buffer made => exact ⟨.buffer made, hx, .same _⟩
      | retiredBuffer made => exact ⟨.retiredBuffer made, hx, .same _⟩
      | image made => exact ⟨.image made, Remains.erase _ _ _ h made hx, .same _⟩
      | retiredImage made =>
        rcases stood_of_retired Image.made RetiredImage.made _ _ himage rfl hx with hlive | hretired
        · exact ⟨.image made, hlive, .retireImage made⟩
        · exact ⟨.retiredImage made, hretired, .same _⟩

end Backend

theorem steady_perform (s : Backend) (op : Op) : Steady s (perform s op).1 := by
  cases op with
  | freeMemory h => exact s.steady_freeMemory h
  | destroyBufferLeased req => exact s.steady_destroyBufferLeased req
  | destroyImageLeased req => exact s.steady_destroyImageLeased req
  | _ => exact loose_steady.perform s _ rfl

theorem apart_empty (haveDevice : Bool) : Backend.Apart { haveDevice } := fun h => by
  simp [Backend.places, Backend.present]

/-- No handle is used again. In every state of a run a handle resolves in one table of resources
at most. Whatever a handle that was given out stands for at a later time, it stood for already: the
same image or the same buffer, live or, if it was retired since, retired. No handle that was given
out becomes a memory, or another one. -/
theorem handles_not_reused (haveDevice : Bool) (ops more : List Op) :
    let s := performAll { haveDevice } ops
    s.Apart ∧ Steady s (performAll s more) := by
  have hsteady : ∀ s ops, Steady s (performAll s ops) := fun s ops =>
    foldl_related .refl .trans steady_perform ops s
  exact ⟨(hsteady _ ops).apart (apart_empty haveDevice), hsteady _ more⟩

end VkRelay.Session
