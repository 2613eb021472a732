import VkRelay.Session.Places

/-!
The requests that leave the leases alone. Most requests neither retire nor release
anything and free no command buffer; this is shown here for all of them, so that the
few that do remain.
-/

namespace VkRelay.Session

open VkRelay.Lib

structure Backend.SameLeases (s t : Backend) : Prop where
  images : t.retiredImages = s.retiredImages
  buffers : t.retiredBuffers = s.retiredBuffers
  memories : t.retiredMemories = s.retiredMemories
  edges : t.recordingResourceLeaseEdges = s.recordingResourceLeaseEdges

/-- Nothing is retired or released, and no command buffer goes. -/
structure Quiet (s t : Backend) : Prop extends Backend.SameLeases s t where
  kept : ∀ h : Nat, (s.commandBuffers[h]?).isSome → (t.commandBuffers[h]?).isSome
  steady : Steady s t

def Backend.resources (s : Backend) : (Table Image × Table Buffer × Table MemoryObject) ×
    (Table RetiredImage × Table RetiredBuffer × Finset Nat × Nat) × Table CmdBuffer :=
  ((s.images, s.buffers, s.memoryObjects), (s.retiredImages, s.retiredBuffers, s.retiredMemories,
    s.recordingResourceLeaseEdges), s.commandBuffers)

namespace Quiet

variable {s t u : Backend}

theorem other (hnext : s.nextHandle ≤ t.nextHandle) (hsame : t.resources = s.resources) :
    Quiet s t := by
  simp only [Backend.resources, Prod.mk.injEq] at hsame
  obtain ⟨⟨himages, hbuffers, hmemory⟩, ⟨hretired, hretiredBuffers, hmemories, hedges⟩, hcbs⟩ :=
    hsame
  refine ⟨⟨hretired, hretiredBuffers, hmemories, hedges⟩, fun h hsome => hcbs ▸ hsome,
    .other hnext ?_⟩
  rw [himages, hbuffers, hretired, hretiredBuffers, hmemory]

theorem refl (s : Backend) : Quiet s s := other le_rfl rfl

theorem trans (hfirst : Quiet s t) (hsecond : Quiet t u) : Quiet s u :=
  ⟨⟨hsecond.images.trans hfirst.images, hsecond.buffers.trans hfirst.buffers,
    hsecond.memories.trans hfirst.memories, hsecond.edges.trans hfirst.edges⟩,
    fun h hsome => hsecond.kept h (hfirst.kept h hsome), hfirst.steady.trans hsecond.steady⟩

theorem live (hsame : t.resources = ((t.images, t.buffers, s.memoryObjects), s.resources.2))
    (hsteady : t.retiredImages = s.retiredImages → t.retiredBuffers = s.retiredBuffers →
      t.memoryObjects = s.memoryObjects → Steady s t) : Quiet s t := by
  simp only [Backend.resources, Prod.mk.injEq, true_and] at hsame
  obtain ⟨hmemory, ⟨hretired, hretiredBuffers, hmemories, hedges⟩, hcbs⟩ := hsame
  exact ⟨⟨hretired, hretiredBuffers, hmemories, hedges⟩, fun h hsome => hcbs ▸ hsome,
    hsteady hretired hretiredBuffers hmemory⟩

theorem newResource (hnext : t.nextHandle = s.nextHandle + 1)
    (hsame : t.resources = ((t.images, t.buffers, s.memoryObjects), s.resources.2))
    (hnew : (∃ image, t.images = s.images.insert s.nextHandle image ∧ t.buffers = s.buffers) ∨
      ∃ buffer, t.images = s.images ∧ t.buffers = s.buffers.insert s.nextHandle buffer) :
    Quiet s t := by
  refine live hsame fun hretired hretiredBuffers hmemory => ?_
  rcases hnew with ⟨image, himages, hbuffers⟩ | ⟨buffer, himages, hbuffers⟩
  all_goals refine .born hnext (fun h => ?_) (fun h hother x hx => ?_) hmemory
  · have hplaced := Backend.present_insert s.images s.nextHandle image h
    rw [Backend.places, Backend.places, himages, hbuffers, hretired, hretiredBuffers]
    omega
  pick_goal 2
  · have hplaced := Backend.present_insert s.buffers s.nextHandle buffer h
    rw [Backend.places, Backend.places, himages, hbuffers, hretired, hretiredBuffers]
    omega
  all_goals cases x <;>
    simpa [Backend.Stands, himages, hbuffers, hretired, hretiredBuffers, hother.symm] using hx

theorem fewer (hnext : s.nextHandle ≤ t.nextHandle)
    (hsame : t.resources = ((t.images, t.buffers, s.memoryObjects), s.resources.2))
    (himages : Remains Image.made s.images t.images)
    (hbuffers : Remains Buffer.made s.buffers t.buffers) : Quiet s t :=
  live hsame fun hretired hretiredBuffers hmemory => .of_remains hnext himages hbuffers
    (hretired ▸ .refl _ _) (hretiredBuffers ▸ .refl _ _) (hmemory ▸ .refl _ _)

theorem foldl {α : Type} {f : Backend → α → Backend} (hstep : ∀ s a, Quiet s (f s a))
    (items : List α) (s : Backend) : Quiet s (items.foldl f s) :=
  foldl_related refl trans hstep items s

theorem settle {α : Type} {state : α → Backend} {result : Except String α}
    (hquiet : Yields result fun value => Quiet s (state value)) :
    Quiet s (VkRelay.Session.settle s state result).1 := by
  cases result with
  | error => exact refl s
  | ok value => exact hquiet value rfl

end Quiet

namespace Backend

/-! ## The pieces requests are made of -/

variable (s : Backend)

theorem quiet_discard (k : Child) (device handle : Nat) : Quiet s (s.discard k device handle) := by
  cases k with
  | image =>
    exact .fewer le_rfl rfl (.erase _ _ handle) (.refl _ _)
  | buffer =>
    exact .fewer le_rfl rfl (.refl _ _) (.erase _ _ handle)
  | _ => exact .other le_rfl rfl

theorem quiet_invalidate (handle : Nat) (preserved : List LeaseKey) :
    Quiet s (s.invalidateCbsReferencing handle preserved) := by
  refine ⟨⟨rfl, rfl, rfl, rfl⟩, fun h hsome => ?_, s.steady_commandBuffers _⟩
  rw [invalidateCbsReferencing, Std.ExtTreeMap.getElem?_map, Option.isSome_map]
  exact hsome

theorem quiet_invalidateCbsPresenting (swapchain : Nat) :
    Quiet s (s.invalidateCbsPresenting swapchain) := by
  refine ⟨⟨rfl, rfl, rfl, rfl⟩, fun h hsome => ?_, s.steady_commandBuffers _⟩
  rw [invalidateCbsPresenting, Std.ExtTreeMap.getElem?_map, Option.isSome_map]
  exact hsome

theorem quiet_dangle (resource : Nat) (preserved : List LeaseKey) :
    Quiet s (s.dangleSetsReferencing resource preserved) := by
  refine Quiet.trans ?_ (.foldl (fun t set => t.quiet_invalidate set preserved) _ _)
  exact .other le_rfl rfl

theorem quiet_consulted (handle : Nat) (preserved : List LeaseKey) :
    Quiet s ((s.invalidateCbsReferencing handle preserved).dangleSetsReferencing handle
      preserved) :=
  (s.quiet_invalidate handle preserved).trans (quiet_dangle _ handle preserved)

/-- Only recordings and descriptor sets are asked about a handle. -/
theorem live_consulted (handle : Nat) (preserved : List LeaseKey) :
    ((s.invalidateCbsReferencing handle preserved).dangleSetsReferencing handle
        preserved).images = s.images ∧
      ((s.invalidateCbsReferencing handle preserved).dangleSetsReferencing handle
        preserved).buffers = s.buffers :=
  List.foldlRecOn (motive := fun t => Backend.images t = s.images ∧ Backend.buffers t = s.buffers)
    _ _ ⟨rfl, rfl⟩ fun _ ht _ _ => ht

theorem quiet_mintCommandBuffers (pool device count : Nat) (s : Backend) :
    Quiet s (mintCommandBuffers pool device count s) := by
  induction count generalizing s with
  | zero => exact .refl s
  | succ count ih =>
    refine Quiet.trans ?_ (ih _)
    refine ⟨⟨rfl, rfl, rfl, rfl⟩, fun h hsome => ?_, .other (Nat.le_succ _) rfl⟩
    rw [Table.getElem?_insert_eq]
    split
    · rfl
    · exact hsome

theorem quiet_mintSwapchainImages (handle : Nat) (sc : Swapchain) (count : Nat) (s : Backend) :
    Quiet s (mintSwapchainImages handle sc count s) := by
  induction count generalizing s with
  | zero => exact .refl s
  | succ count ih =>
    refine Quiet.trans ?_ (ih _)
    exact .newResource rfl rfl (.inl ⟨_, rfl, rfl⟩)

theorem quiet_ensureSwapchainImages (handle : Nat) (sc : Swapchain) :
    Quiet s (s.ensureSwapchainImages handle sc) := by
  unfold ensureSwapchainImages
  split
  · exact quiet_mintSwapchainImages handle sc sc.imageCount s
  · exact .refl s

theorem quiet_createDeviceLeaf (device : Nat) (leaf : Leaf) :
    Yields (s.createDeviceLeaf device leaf) fun value => Quiet s value.1 :=
  .bind fun _ => .ok (.other (Nat.le_succ _) rfl)

theorem quiet_destroyDeviceLeaf (handle : Nat) (kind : LeafKind) :
    Yields (s.destroyDeviceLeaf handle kind) (Quiet s) :=
  .bind fun _ => .bind fun _ => .ok (s.quiet_discard .leaf _ handle)

theorem quiet_modifyLeaf (handle : Nat) (change : Leaf → Leaf) :
    Quiet s (s.modifyLeaf handle change) :=
  .other le_rfl rfl

theorem quiet_setEventState (handle : Nat) (state : Bool) :
    Yields (s.setEventState handle state) (Quiet s) :=
  .bind fun _ => .bind fun _ => .ok (s.quiet_modifyLeaf handle _)

theorem quiet_mintSet (req : AllocateDescriptorSetsRequest) (s : Backend) (entry : Nat × Nat) :
    Quiet s (mintSet req s entry) :=
  .other (Nat.le_succ _) rfl

theorem quiet_showTarget (entry : PresentEntry) : Quiet s (s.showTarget entry) := by
  unfold showTarget
  split
  · exact .other le_rfl rfl
  · exact .refl s

theorem quiet_signalFence (device fence : Nat) : Quiet s (s.signalFence device fence).1 := by
  unfold signalFence
  split
  · exact .refl s
  · split
    · exact .refl s
    · exact s.quiet_modifyLeaf fence _

theorem quiet_submitBatches (device : Nat) (submits : List SubmitInfo2) (s : Backend) :
    Quiet s (submitBatches device submits s).1 := by
  induction submits generalizing s with
  | nil => exact .refl s
  | cons si submits ih =>
    unfold submitBatches
    split
    · exact .refl s
    · exact (Quiet.foldl (fun t signal => t.quiet_modifyLeaf _ _) si.signals s).trans (ih _)

end Backend

/-! ## Requests -/

/-- The requests that retire or release something, or free command buffers. -/
def Op.leasing : Op → Bool
  | .destroyCommandPool _ | .freeCommandBuffers _ _ | .freeMemory _ | .destroyBufferLeased _
  | .destroyImageLeased _ | .recordCommandBuffer _ | .retireCommandBufferRecordings _ => true
  | _ => false

theorem quiet_perform (s : Backend) (op : Op) (hop : op.leasing = false) :
    Quiet s (perform s op).1 := by
  cases op with
  | destroyCommandPool | freeCommandBuffers | freeMemory | destroyBufferLeased
  | destroyImageLeased | recordCommandBuffer | retireCommandBufferRecordings => cases hop
  | debugMarkSurfaceDirty | setAuthority => exact .other le_rfl rfl
  | queueWaitIdle | deviceWaitIdle => exact .settle fun _ _ => .refl s
  -- only other tables change
  | destroyInstance | destroyDevice | destroyShaderModule | destroyDescriptorSetLayout
  | destroySurface | signalSemaphore =>
    refine .settle ?_
    repeat refine .bind fun _ => ?_
    exact .ok (.other le_rfl rfl)
  | createInstance | createCommandPool | createSampler | createQueryPool | createShaderModule
  | createRenderPass | createFramebuffer | createPipelineLayout | createDescriptorSetLayout
  | createDescriptorPool | createComputePipelines | createSurface =>
    refine .settle ?_
    repeat refine .bind fun _ => ?_
    exact .ok (.other (Nat.le_succ _) rfl)
  -- live resources
  | createBuffer =>
    refine .settle ?_
    repeat refine .bind fun _ => ?_
    exact .ok (.newResource rfl rfl (.inr ⟨_, rfl, rfl⟩))
  | bindBufferMemory =>
    refine .settle fun next hok => ?_
    simp only [Backend.bindBufferMemory, accept_rules] at hok
    obtain ⟨buffer, hbuffer, -, -, -, -, -, -, -, -, -, -, -, -, -, -, rfl⟩ := hok
    exact .fewer le_rfl rfl (.refl _ _) (.replace hbuffer rfl)
  | bindImageMemory =>
    refine .settle fun next hok => ?_
    simp only [Backend.bindImageMemory, accept_rules] at hok
    obtain ⟨image, himage, -, -, -, -, -, -, -, -, -, -, -, -, rfl⟩ := hok
    exact .fewer le_rfl rfl (.replace himage rfl) (.refl _ _)
  | createImageView =>
    refine .settle ?_
    repeat refine .bind fun _ => ?_
    exact .ok (.fewer (Nat.le_succ _) rfl (.modify _ _ fun image => by split <;> rfl) (.refl _ _))
  | createFence | createSemaphore | createEvent => exact .settle (s.quiet_createDeviceLeaf _ _)
  -- an object goes with the recordings that named it
  | destroyQueryPool | destroyRenderPass | destroyFramebuffer | destroyPipelineLayout
  | destroyPipeline =>
    refine .settle ?_
    repeat refine .bind fun _ => ?_
    exact .ok ((s.quiet_invalidate _ _).trans (Backend.quiet_discard _ _ _ _))
  | destroyBuffer =>
    refine .settle ?_
    repeat refine .bind fun _ => ?_
    exact .ok ((s.quiet_consulted _ _).trans (Backend.quiet_discard _ _ _ _))
  | destroySampler =>
    refine .settle ?_
    repeat refine .bind fun _ => ?_
    exact .ok ((s.quiet_dangle _ _).trans (Backend.quiet_discard _ _ _ _))
  | destroyFence | destroySemaphore | destroyEvent =>
    exact .settle (s.quiet_destroyDeviceLeaf _ _)
  | setEvent | resetEvent => exact .settle (s.quiet_setEventState _ _)
  | destroyImage =>
    refine .settle (.bind fun image => .ok ?_)
    exact (s.quiet_invalidate _ _).trans (.fewer le_rfl rfl (.erase _ _ _) (.refl _ _))
  | destroyImageView =>
    refine .settle (.bind fun view => .ok ?_)
    refine (s.quiet_consulted _ _).trans (.fewer le_rfl rfl ?_ (.refl _ _))
    rw [(s.live_consulted _ _).1]
    exact .modify _ _ fun _ => rfl
  | destroyBufferView =>
    refine .settle (.bind fun view => .ok ?_)
    exact (s.quiet_consulted _ _).trans (.other le_rfl rfl)
  | destroyDescriptorPool =>
    refine .settle (.bind fun pool => .ok ?_)
    refine (Quiet.foldl (fun t set => ?_) pool.sets s).trans (Backend.quiet_discard _ _ _ _)
    exact (t.quiet_invalidate set _).trans (.other le_rfl rfl)
  | destroySwapchain =>
    refine .settle (.bind fun sc => .bind fun _ => .ok ?_)
    refine Quiet.trans ?_ (Backend.quiet_discard _ _ _ _)
    refine Quiet.trans ?_ (.foldl (fun t image => ?_) _ _)
    case refine_2 =>
      exact .fewer le_rfl rfl (.erase _ _ _) (.refl _ _)
    refine Quiet.trans ?_ (Backend.quiet_invalidateCbsPresenting _ _)
    exact .other le_rfl rfl
  -- the handler branches before it answers
  | enumeratePhysicalDevices =>
    refine .settle (.bind fun inst => ?_)
    split
    · exact .ok (.other (Nat.le_succ _) rfl)
    · exact .ok (.refl s)
  | createDevice req =>
    change Quiet s (s.createDevice req).1
    unfold Backend.createDevice
    split
    · exact .refl s
    · split
      · exact .refl s
      · split
        · exact .other (Nat.le_succ _) rfl
        · exact .other (Nat.le_succ _) rfl
  | getDeviceQueue =>
    refine .settle (.bind fun dev => .bind fun _ => .bind fun _ => ?_)
    split
    · exact .ok (.refl s)
    · exact .ok (.other (Nat.le_succ _) rfl)
  | createImage =>
    refine .settle ?_
    repeat refine .bind fun _ => ?_
    dsimp only
    split
    · exact .bind fun _ => .ok (.newResource rfl rfl (.inl ⟨_, rfl, rfl⟩))
    · exact .bind fun _ => .ok (.newResource rfl rfl (.inl ⟨_, rfl, rfl⟩))
  | createBufferView =>
    refine .settle (.bind fun buffer => .bind fun _ => ?_)
    dsimp only
    split
    · exact .bind fun _ => .ok (.other (Nat.le_succ _) rfl)
    · exact .bind fun _ => .ok (.other (Nat.le_succ _) rfl)
  | createGraphicsPipelines =>
    refine .settle ?_
    repeat refine .bind fun _ => ?_
    dsimp only
    split
    · exact .bind fun _ => .bind fun _ => .ok (.other (Nat.le_succ _) rfl)
    · exact .bind fun _ => .bind fun _ => .ok (.other (Nat.le_succ _) rfl)
  | createSwapchain =>
    refine .settle (.bind fun dev => .bind fun surface => .bind fun _ => .bind fun _ => ?_)
    split
    · exact .ok (.refl s)
    · exact .ok (.other (Nat.le_succ _) rfl)
  -- objects are made or changed one after the other
  | allocateMemory =>
    refine .settle fun value hok => ?_
    simp only [Backend.allocateMemory, Backend.createDeviceLeaf, ok_rules] at hok
    obtain ⟨-, -, -, -, -, -, -, -, -, -, -, ⟨-, -, rfl⟩, rfl⟩ := hok
    refine ⟨⟨rfl, rfl, rfl, rfl⟩, fun _ => id, Nat.le_succ _, fun h => Nat.le_add_right _ _,
      fun h _ x hx => ⟨x, hx, .same x⟩, fun h m hfound => ?_⟩
    rcases Table.insert_cases hfound with ⟨rfl, -⟩ | hfound
    · exact .inr ⟨le_rfl, Nat.lt_succ_self _⟩
    · exact .inl hfound
  | allocateCommandBuffers =>
    exact .settle (.bind fun p => .bind fun _ => .ok (Backend.quiet_mintCommandBuffers _ _ _ s))
  | allocateDescriptorSets req =>
    have hsets := Quiet.foldl (Backend.quiet_mintSet req)
      (req.setLayouts.mapIdx fun i layout => (layout, req.variableCounts.getD i 0)) s
    refine .settle ?_
    repeat refine .bind fun _ => ?_
    exact .ok (hsets.trans (.other le_rfl rfl))
  | updateDescriptorSets req =>
    change Quiet s (s.updateDescriptorSets req).1
    unfold Backend.updateDescriptorSets
    split
    · exact .refl s
    · split
      · refine .foldl (fun t set => ?_) _ s
        exact (t.quiet_invalidate set _).trans (.other le_rfl rfl)
      · refine .foldl (fun t w => ?_) _ s
        exact .other le_rfl rfl
  | getSwapchainImages =>
    exact .settle (.bind fun sc => .ok (s.quiet_ensureSwapchainImages _ sc))
  | acquireNextImage handle =>
    refine .settle (.bind fun sc => ?_)
    split
    · exact .ok (.refl s)
    · exact .ok ((s.quiet_ensureSwapchainImages handle sc).trans (.other le_rfl rfl))
  | queuePresent =>
    refine .settle ?_
    repeat refine .bind fun _ => ?_
    split
    · exact .ok (.refl s)
    · exact .ok (.foldl Backend.quiet_showTarget _ s)
  | resetFences =>
    exact .settle (.bind fun _ => .ok (.foldl (fun t fence => t.quiet_modifyLeaf fence _) _ s))
  | queueSubmit req =>
    change Quiet s (s.queueSubmit req).1
    unfold Backend.queueSubmit
    split
    · exact .refl s
    · exact (Quiet.foldl (fun t entry => t.quiet_modifyLeaf _ _) _ s).trans
        (Backend.quiet_signalFence _ _ _)
  | queueSubmit2 req =>
    change Quiet s (s.queueSubmit2 req).1
    unfold Backend.queueSubmit2
    split
    · exact .refl s
    · rename_i device hdevice
      have hbatches := Backend.quiet_submitBatches device req.submits s
      split
      next next reason hrefused =>
          rw [hrefused] at hbatches
          exact hbatches
      next next haccepted =>
          rw [haccepted] at hbatches
          exact hbatches.trans (next.quiet_signalFence device req.fence)

/-! ## Releases -/

/-- The requests that can retire something. -/
def Op.retires : Op → Bool
  | .freeMemory _ | .destroyBufferLeased _ | .destroyImageLeased _ => true
  | _ => false

/-- A preorder in which quiet changes, changes of recordings and releases lie. -/
structure Loose (R : Backend → Backend → Prop) : Prop where
  quiet : ∀ {s t}, Quiet s t → R s t
  trans : ∀ {s t u}, R s t → R t u → R s u
  recordings : ∀ (s : Backend) cbs, R s { s with commandBuffers := cbs }
  release : ∀ (s : Backend) key, R s (s.releaseRecordingLease key)

namespace Loose

variable {R : Backend → Backend → Prop} (hR : Loose R)
include hR

theorem foldl {α : Type} {f : Backend → α → Backend} (hstep : ∀ s a, R s (f s a))
    (items : List α) (s : Backend) : R s (items.foldl f s) :=
  foldl_related (fun s => hR.quiet (.refl s)) hR.trans hstep items s

variable (s : Backend)

theorem releases (commandBuffer bound : Nat) :
    R s (s.releaseRecordingLeasesForCommandBuffer commandBuffer bound) :=
  hR.foldl (fun t generation => hR.release t (commandBuffer, generation)) _ s

theorem freeCommandBuffer (h : Nat) : R s (s.freeCommandBuffer h) :=
  hR.trans (hR.releases s h _) (hR.recordings _ _)

theorem supersedeOlder (req : RecordCommandBufferRequest) (cb : CmdBuffer) :
    R s (s.supersedeOlder req cb) := by
  unfold Backend.supersedeOlder
  split
  · exact hR.trans (hR.releases s _ _) (hR.recordings _ _)
  · exact hR.quiet (.refl s)

/-- Every request that retires nothing lies in the preorder. -/
theorem perform (op : Op) (hop : op.retires = false) : R s (VkRelay.Session.perform s op).1 := by
  have hrefl : R s s := hR.quiet (.refl s)
  have hsettled : ∀ {result : Except String Backend}, Yields result (R s) →
      R s (settle s id result).1 := by
    intro result hyields
    cases result with
    | error => exact hrefl
    | ok value => exact hyields value rfl
  cases op with
  | freeMemory | destroyBufferLeased | destroyImageLeased => cases hop
  | destroyCommandPool h =>
    refine hsettled (.bind fun pool => .ok ?_)
    exact hR.trans (hR.foldl hR.freeCommandBuffer pool.buffers s)
      (hR.quiet (Backend.quiet_discard _ .pool _ h))
  | freeCommandBuffers pool handles =>
    refine hsettled (.bind fun _ => .bind fun _ => .bind fun _ => .ok ?_)
    refine hR.foldl (fun t h => hR.trans (hR.freeCommandBuffer t h) (hR.quiet ?_)) handles s
    exact .other le_rfl rfl
  | recordCommandBuffer req =>
    change R s (s.recordCommandBuffer req).1
    unfold Backend.recordCommandBuffer
    split
    · exact hrefl
    · split
      · exact hrefl
      · split
        · exact hR.supersedeOlder s req _
        · exact hR.trans (hR.supersedeOlder s req _) (hR.recordings _ _)
  | retireCommandBufferRecordings recordings =>
    refine hsettled (.bind fun _ => .bind fun _ => .ok (hR.foldl (fun t key => ?_) _ s))
    exact hR.trans (hR.release t key) (hR.recordings _ _)
  | _ => exact hR.quiet (quiet_perform s _ rfl)

end Loose

theorem loose_steady : Loose Steady :=
  ⟨Quiet.steady, .trans, Backend.steady_commandBuffers, Backend.steady_releaseRecordingLease⟩

end VkRelay.Session
