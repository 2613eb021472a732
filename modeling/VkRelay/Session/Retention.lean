import VkRelay.Session.LeaseBook

/-!
How much a device can retain. Three requests retire something, and each first counts what its
device retains already; every other request keeps the counts or lowers them. A retired memory
is counted on the device of its memory object, which no request changes.
-/

namespace VkRelay.Session

open VkRelay.Lib

namespace Backend

variable {s t u : Backend}

/-- The retired images and buffers of a device, each with a weight of its leases. -/
def retained (s : Backend) (device : Nat) (weight : List LeaseKey → Nat) : Nat :=
  (s.retiredImages.total fun r => if r.image.device = device then weight r.leases else 0) +
    s.retiredBuffers.total fun r => if r.buffer.device = device then weight r.leases else 0

theorem retiredOnDevice_eq (s : Backend) (device : Nat) :
    s.retiredOnDevice device = s.retained device fun _ => 1 := by
  simp [retiredOnDevice, retained, Table.total_ite, List.countP_eq_length_filter]

theorem leaseEdgesOnDevice_eq (s : Backend) (device : Nat) :
    s.leaseEdgesOnDevice device = s.retained device List.length := by
  simp only [leaseEdgesOnDevice, retained, Table.total_ite]

/-! ## Requests that retire nothing -/

/-- Nothing is retired: every weight that falls with the leases falls. -/
structure Fewer (s t : Backend) : Prop where
  resources : ∀ device weight, (∀ leases key, weight (leases.erase key) ≤ weight leases) →
    t.retained device weight ≤ s.retained device weight
  memories : t.retiredMemories ⊆ s.retiredMemories

theorem Fewer.trans (hfirst : Fewer s t) (hsecond : Fewer t u) : Fewer s u :=
  ⟨fun device weight hweight => (hsecond.resources device weight hweight).trans
    (hfirst.resources device weight hweight), hsecond.memories.trans hfirst.memories⟩

theorem Fewer.same (himages : t.retiredImages = s.retiredImages)
    (hbuffers : t.retiredBuffers = s.retiredBuffers)
    (hmemories : t.retiredMemories = s.retiredMemories) : Fewer s t := by
  refine ⟨fun device weight _ => ?_, hmemories.le⟩
  rw [retained, retained, himages, hbuffers]

theorem fewer_collect (s : Backend) (memory : Nat) :
    Fewer s (s.releaseRetiredMemoryIfUnused memory) := by
  have hmemories := s.retiredMemories_collect memory
  obtain ⟨_, _, _, _, hcollected, -⟩ := s.sameButLeases_releaseRetiredMemoryIfUnused memory
  rw [hcollected] at hmemories ⊢
  refine ⟨fun _ _ _ => le_rfl, hmemories.trans_subset ?_⟩
  split
  · exact subset_rfl
  · exact Finset.erase_subset _ _

theorem fewer_releaseRecordingLease (s : Backend) (key : LeaseKey) :
    Fewer s (s.releaseRecordingLease key) := by
  rw [releaseRecordingLease_eq]
  refine Fewer.trans ?_ (foldl_related (fun _ => .same rfl rfl rfl) .trans
    (fun t entry => Fewer.trans ?_ (fewer_collect _ _)) _ _)
  · refine Fewer.trans ?_ (foldl_related (fun _ => .same rfl rfl rfl) .trans
      (fun t entry => Fewer.trans ?_ (fewer_collect _ _)) _ _)
    · refine ⟨fun device weight hweight => ?_, subset_rfl⟩
      simp only [retained, withoutLease, Table.total, Std.ExtTreeMap.toList_map, List.map_map]
      apply Nat.add_le_add
      all_goals
        refine List.sum_le_sum fun entry _ => ?_
        simp only [Function.comp]
        split
        · exact hweight _ _
        · exact le_rfl
    · exact ⟨fun _ _ _ => Nat.add_le_add_right (Table.total_erase_le _ _) _, subset_rfl⟩
  · exact ⟨fun _ _ _ => Nat.add_le_add_left (Table.total_erase_le _ _) _, subset_rfl⟩

theorem loose_fewer : Loose Fewer where
  quiet hquiet := .same hquiet.images hquiet.buffers hquiet.memories
  trans := .trans
  recordings _ _ := .same rfl rfl rfl
  release := fewer_releaseRecordingLease

/-! ## The caps -/

/-- Every device keeps to its caps, and the handles of memories have been given out. -/
structure Bounded (s : Backend) : Prop where
  resources : ∀ device, s.retained device (fun _ => 1) ≤ maxRetiredRecordingResourcesPerDevice
  edges : ∀ device, s.retained device List.length ≤ maxRecordingResourceLeaseEdgesPerDevice
  memories : ∀ device, s.retiredMemoriesOn device ≤ maxRetiredMemoryAllocationsPerDevice
  given : ∀ h : Nat, h ∈ s.retiredMemories ∨ (s.memoryObjects[h]?).isSome → h < s.nextHandle

/-- No memory is retired: those that are stay on their devices. -/
theorem Bounded.of_memories (hs : s.Bounded) (hsteady : Steady s t)
    (hsubset : t.retiredMemories ⊆ s.retiredMemories)
    (hresources : ∀ device, t.retained device (fun _ => 1) ≤ maxRetiredRecordingResourcesPerDevice)
    (hedges : ∀ device, t.retained device List.length ≤ maxRecordingResourceLeaseEdgesPerDevice) :
    t.Bounded := by
  refine ⟨hresources, hedges, fun device => ?_, ?_⟩
  · refine (Finset.card_le_card fun h hmem => ?_).trans (hs.memories device)
    obtain ⟨hretired, hdevice⟩ := Finset.mem_filter.mp hmem
    obtain ⟨m, hfound, hm⟩ := (Option.any_eq_true _ _).mp hdevice
    refine Finset.mem_filter.mpr ⟨hsubset hretired, ?_⟩
    rcases hsteady.memory h m hfound with hold | hnew
    · simpa [hold] using hm
    · have := hs.given h (.inl (hsubset hretired))
      omega
  · intro h hknown
    have hnext := hsteady.next
    rcases hknown with hretired | hsome
    · have := hs.given h (.inl (hsubset hretired))
      omega
    · obtain ⟨m, hfound⟩ := Option.isSome_iff_exists.mp hsome
      rcases hsteady.memory h m hfound with hold | hnew
      · have := hs.given h (.inr (by simp [hold]))
        omega
      · exact hnew.2

theorem Bounded.fewer (hs : s.Bounded) (hsteady : Steady s t) (hfewer : Fewer s t) : t.Bounded :=
  hs.of_memories hsteady hfewer.memories
    (fun device => (hfewer.resources device _ fun _ _ => le_rfl).trans (hs.resources device))
    fun device => (hfewer.resources device _ fun _ _ => List.length_erase_le).trans
      (hs.edges device)

/-- A resource is retired on a device with room for it and its leases. -/
theorem Bounded.retire (hs : s.Bounded) (hsteady : Steady s t) {device : Nat}
    {leases : List LeaseKey} (hroom : ¬s.leaseCapacityExceeded device leases.length = true)
    (hmemories : t.retiredMemories = s.retiredMemories)
    (hretained : ∀ other weight, t.retained other weight =
      (if device = other then weight leases else 0) + s.retained other weight) : t.Bounded := by
  simp only [leaseCapacityExceeded, Bool.or_eq_true, decide_eq_true_eq, not_or, not_le, not_lt,
    retiredOnDevice_eq, leaseEdgesOnDevice_eq] at hroom
  have hcapped : ∀ weight cap, s.retained device weight + weight leases ≤ cap →
      (∀ other, s.retained other weight ≤ cap) → ∀ other, t.retained other weight ≤ cap := by
    intro weight cap hfits hcap other
    have hother := hcap other
    rw [hretained]
    split
    next hsame =>
      subst hsame
      omega
    next => omega
  exact hs.of_memories hsteady hmemories.le (hcapped _ _ hroom.1 hs.resources)
    (hcapped _ _ hroom.2 hs.edges)

theorem Bounded.freeMemory (hs : s.Bounded) (h : Nat) : (s.freeMemory h).1.Bounded := by
  rcases s.freeMemory_cases h with ⟨_, _, heq⟩ | ⟨memory, hmemory, -, hroom, heq⟩ |
    ⟨freed, hfreed, heq⟩
  · rw [heq]
    exact ⟨hs.resources, hs.edges, hs.memories, hs.given⟩
  · rw [heq]
    refine ⟨hs.resources, hs.edges, fun device => ?_, fun other hknown => ?_⟩
    · have hcount := hs.memories device
      simp only [retiredMemoriesOn, Finset.filter_insert, hmemory, Option.any_some,
        decide_eq_true_eq] at hroom hcount ⊢
      split
      next hsame =>
        subst hsame
        exact (Finset.card_insert_le _ _).trans hroom
      next => exact hcount
    · rw [Finset.mem_insert, or_assoc] at hknown
      rcases hknown with rfl | hknown
      · exact hs.given other (.inr (by simp [hmemory]))
      · exact hs.given other hknown
  · have hquiet := s.quiet_destroyDeviceLeaf h .memory freed hfreed
    have hsteady := s.steady_freeMemory h
    rw [heq] at hsteady ⊢
    exact hs.fewer hsteady (.same hquiet.images hquiet.buffers hquiet.memories)

theorem Bounded.destroyBufferLeased (hs : s.Bounded) (hapart : s.Apart)
    (req : LeasedDestroyRequest) : (s.destroyBufferLeased req).1.Bounded := by
  have hsteady := s.steady_destroyBufferLeased req
  rcases s.destroyBufferLeased_cases req with ⟨_, _, heq⟩ | ⟨buffer, hbuffer, -, hroom, heq⟩
  · rw [heq]
    exact ⟨hs.resources, hs.edges, hs.memories, hs.given⟩
  · have hquiet := s.quiet_consulted req.handle req.leases
    rw [heq] at hsteady ⊢
    refine hs.retire hsteady hroom hquiet.memories fun other weight => ?_
    simp only [retained, retireBuffer, disownAt, hquiet.images,
      Table.total_insert _ (hapart.buffer_not_retired hbuffer).2]
    omega

theorem Bounded.destroyImageLeased (hs : s.Bounded) (hapart : s.Apart)
    (req : LeasedDestroyRequest) : (s.destroyImageLeased req).1.Bounded := by
  have hsteady := s.steady_destroyImageLeased req
  rcases s.destroyImageLeased_cases req with ⟨_, _, heq⟩ | ⟨image, himage, -, hroom, heq⟩
  · rw [heq]
    exact ⟨hs.resources, hs.edges, hs.memories, hs.given⟩
  · rw [heq] at hsteady ⊢
    refine hs.retire hsteady hroom rfl fun other weight => ?_
    simp only [retained, retireImage, disownAt, invalidateCbsReferencing,
      Table.total_insert _ (hapart.image_not_retired himage).1]
    omega

theorem Bounded.perform (hs : s.Bounded) (hapart : s.Apart) (op : Op) :
    (VkRelay.Session.perform s op).1.Bounded := by
  cases op with
  | freeMemory h => exact hs.freeMemory h
  | destroyBufferLeased req => exact hs.destroyBufferLeased hapart req
  | destroyImageLeased req => exact hs.destroyImageLeased hapart req
  | _ => exact hs.fewer (steady_perform s _) (loose_fewer.perform s _ rfl)

end Backend

/-- A request that is refused instead of retiring something leaves every table alone. -/
theorem refused_perform (s : Backend) {op : Op} {reason : String} (hop : op.retires = true)
    (hrefused : (perform s op).2 = .error reason) : s.Refused (perform s op) := by
  cases op with
  | freeMemory h =>
    rcases s.freeMemory_cases h with hcase | ⟨_, -, -, -, heq⟩ | ⟨_, -, heq⟩
    · exact hcase
    · cases (congrArg Prod.snd heq).symm.trans hrefused
    · cases (congrArg Prod.snd heq).symm.trans hrefused
  | destroyBufferLeased req =>
    rcases s.destroyBufferLeased_cases req with hcase | ⟨_, -, -, -, heq⟩
    · exact hcase
    · cases (congrArg Prod.snd heq).symm.trans hrefused
  | destroyImageLeased req =>
    rcases s.destroyImageLeased_cases req with hcase | ⟨_, -, -, -, heq⟩
    · exact hcase
    · cases (congrArg Prod.snd heq).symm.trans hrefused
  | _ => cases hop

/-- In every state of a run each device keeps to the caps on what it retains, and a leased
destroy or a free that is refused changes no table. -/
theorem retention_bounded (haveDevice : Bool) (ops : List Op) :
    (∀ device,
      (performAll { haveDevice } ops).retiredOnDevice device ≤
          maxRetiredRecordingResourcesPerDevice ∧
        (performAll { haveDevice } ops).leaseEdgesOnDevice device ≤
          maxRecordingResourceLeaseEdgesPerDevice ∧
        (performAll { haveDevice } ops).retiredMemoriesOn device ≤
          maxRetiredMemoryAllocationsPerDevice) ∧
      ∀ op reason, op.retires = true →
        (perform (performAll { haveDevice } ops) op).2 = .error reason →
        (performAll { haveDevice } ops).Refused (perform (performAll { haveDevice } ops) op) := by
  have hempty : Backend.Bounded { haveDevice } :=
    ⟨fun _ => Nat.zero_le _, fun _ => Nat.zero_le _, fun _ => Nat.zero_le _, by simp⟩
  obtain ⟨-, hbounded⟩ : (performAll { haveDevice } ops).Kept ∧
      (performAll { haveDevice } ops).Bounded :=
    List.foldlRecOn (motive := fun s => Backend.Kept s ∧ Backend.Bounded s) ops _
      ⟨Backend.kept_empty haveDevice, hempty⟩
      fun s hs op _ => ⟨hs.1.perform op, hs.2.perform hs.1.apart op⟩
  refine ⟨fun device => ?_, fun op reason => refused_perform _⟩
  rw [Backend.retiredOnDevice_eq, Backend.leaseEdgesOnDevice_eq]
  exact ⟨hbounded.resources device, hbounded.edges device, hbounded.memories device⟩

end VkRelay.Session
