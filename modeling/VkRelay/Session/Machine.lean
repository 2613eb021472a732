import VkRelay.Session.Presentation

/-!
The mock backend as a machine: every request that can change its state, the
window events that reach it from outside, and the states that runs from the empty
backend lead to. Requests that only read (queries of capabilities, formats,
fences and counters) have no operation of their own, except the waits on a queue
or device.
-/

namespace VkRelay.Session

open VkRelay.Lib

inductive Op where
  | createInstance
  | enumeratePhysicalDevices (handle : Nat)
  | destroyInstance (handle : Nat)
  | createDevice (req : CreateDeviceRequest)
  | destroyDevice (handle : Nat)
  | getDeviceQueue (device : Nat) (family index : Int)
  | createCommandPool (device : Nat) (family : Int)
  | destroyCommandPool (handle : Nat)
  | allocateCommandBuffers (pool : Nat) (count : Int)
  | freeCommandBuffers (pool : Nat) (handles : List Nat)
  | createFence (device : Nat) (signaled : Bool)
  | createSemaphore (device : Nat) (semaphoreType : Int) (initialValue : Nat)
  | createEvent (device : Nat)
  | destroyFence (handle : Nat)
  | destroySemaphore (handle : Nat)
  | destroyEvent (handle : Nat)
  | setEvent (handle : Nat)
  | resetEvent (handle : Nat)
  | allocateMemory (req : AllocateMemoryRequest)
  | freeMemory (handle : Nat)
  | createBuffer (req : CreateBufferRequest)
  | destroyBuffer (handle : Nat)
  | destroyBufferLeased (req : LeasedDestroyRequest)
  | bindBufferMemory (req : BindRequest)
  | createImage (req : CreateImageRequest)
  | destroyImage (handle : Nat)
  | destroyImageLeased (req : LeasedDestroyRequest)
  | bindImageMemory (req : BindRequest)
  | createImageView (req : CreateImageViewRequest)
  | destroyImageView (handle : Nat)
  | createBufferView (req : CreateBufferViewRequest)
  | destroyBufferView (handle : Nat)
  | createSampler (req : CreateSamplerRequest)
  | destroySampler (handle : Nat)
  | createQueryPool (device : Nat) (queryType : Int) (queryCount : UInt32)
  | destroyQueryPool (handle : Nat)
  | createShaderModule (req : CreateShaderModuleRequest)
  | destroyShaderModule (handle : Nat)
  | createRenderPass (req : CreateRenderPassRequest)
  | destroyRenderPass (handle : Nat)
  | createFramebuffer (req : CreateFramebufferRequest)
  | destroyFramebuffer (handle : Nat)
  | createPipelineLayout (req : CreatePipelineLayoutRequest)
  | destroyPipelineLayout (handle : Nat)
  | createDescriptorSetLayout (req : CreateDescriptorSetLayoutRequest)
  | destroyDescriptorSetLayout (handle : Nat)
  | createDescriptorPool (req : CreateDescriptorPoolRequest)
  | destroyDescriptorPool (handle : Nat)
  | allocateDescriptorSets (req : AllocateDescriptorSetsRequest)
  | updateDescriptorSets (req : UpdateDescriptorSetsRequest)
  | createGraphicsPipelines (req : CreateGraphicsPipelinesRequest)
  | createComputePipelines (req : CreateComputePipelinesRequest)
  | destroyPipeline (handle : Nat)
  | createSurface (instanceHandle xid : Nat)
  | destroySurface (handle : Nat)
  | debugMarkSurfaceDirty (handle : Nat)
  | setAuthority (xid : Nat) (extent : Option (Nat × Nat))
  | createSwapchain (req : CreateSwapchainRequest)
  | destroySwapchain (handle : Nat)
  | getSwapchainImages (handle : Nat)
  | acquireNextImage (handle : Nat)
  | recordCommandBuffer (req : RecordCommandBufferRequest)
  | retireCommandBufferRecordings (recordings : List LeaseKey)
  | queueSubmit (req : QueueSubmitRequest)
  | queueSubmit2 (req : QueueSubmit2Request)
  | queuePresent (req : QueuePresentRequest)
  | resetFences (fences : List Nat)
  | queueWaitIdle (queue : Nat)
  | deviceWaitIdle (device : Nat)
  | signalSemaphore (device semaphore value : Nat)

/-- A request that changes the state only when it is answered ok. -/
def settle {α : Type} (s : Backend) (state : α → Backend) (result : Except String α) :
    Backend × Except String Unit :=
  match result with
  | .error reason => (s, .error reason)
  | .ok value => (state value, .ok ())

def perform (s : Backend) : Op → Backend × Except String Unit
  | .createInstance => settle s Prod.fst s.createInstance
  | .enumeratePhysicalDevices h => settle s Prod.fst (s.enumeratePhysicalDevices h)
  | .destroyInstance h => settle s id (s.destroyInstance h)
  | .createDevice req =>
    let (next, answer) := s.createDevice req
    (next, answer.map fun _ => ())
  | .destroyDevice h => settle s id (s.destroyDevice h)
  | .getDeviceQueue d family index => settle s Prod.fst (s.getDeviceQueue d family index)
  | .createCommandPool d family => settle s Prod.fst (s.createCommandPool d family)
  | .destroyCommandPool h => settle s id (s.destroyCommandPool h)
  | .allocateCommandBuffers pool count => settle s id (s.allocateCommandBuffers pool count)
  | .freeCommandBuffers pool hs => settle s id (s.freeCommandBuffers pool hs)
  | .createFence d signaled => settle s Prod.fst (s.createFence d signaled)
  | .createSemaphore d type value => settle s Prod.fst (s.createSemaphore d type value)
  | .createEvent d => settle s Prod.fst (s.createEvent d)
  | .destroyFence h => settle s id (s.destroyFence h)
  | .destroySemaphore h => settle s id (s.destroySemaphore h)
  | .destroyEvent h => settle s id (s.destroyEvent h)
  | .setEvent h => settle s id (s.setEvent h)
  | .resetEvent h => settle s id (s.resetEvent h)
  | .allocateMemory req => settle s Prod.fst (s.allocateMemory req)
  | .freeMemory h => s.freeMemory h
  | .createBuffer req => settle s Prod.fst (s.createBuffer req)
  | .destroyBuffer h => settle s id (s.destroyBuffer h)
  | .destroyBufferLeased req => s.destroyBufferLeased req
  | .bindBufferMemory req => settle s id (s.bindBufferMemory req)
  | .createImage req => settle s Prod.fst (s.createImage req)
  | .destroyImage h => settle s id (s.destroyImage h)
  | .destroyImageLeased req => s.destroyImageLeased req
  | .bindImageMemory req => settle s id (s.bindImageMemory req)
  | .createImageView req => settle s Prod.fst (s.createImageView req)
  | .destroyImageView h => settle s id (s.destroyImageView h)
  | .createBufferView req => settle s Prod.fst (s.createBufferView req)
  | .destroyBufferView h => settle s id (s.destroyBufferView h)
  | .createSampler req => settle s Prod.fst (s.createSampler req)
  | .destroySampler h => settle s id (s.destroySampler h)
  | .createQueryPool d type count => settle s Prod.fst (s.createQueryPool d type count)
  | .destroyQueryPool h => settle s id (s.destroyQueryPool h)
  | .createShaderModule req => settle s Prod.fst (s.createShaderModule req)
  | .destroyShaderModule h => settle s id (s.destroyShaderModule h)
  | .createRenderPass req => settle s Prod.fst (s.createRenderPass req)
  | .destroyRenderPass h => settle s id (s.destroyRenderPass h)
  | .createFramebuffer req => settle s Prod.fst (s.createFramebuffer req)
  | .destroyFramebuffer h => settle s id (s.destroyFramebuffer h)
  | .createPipelineLayout req => settle s Prod.fst (s.createPipelineLayout req)
  | .destroyPipelineLayout h => settle s id (s.destroyPipelineLayout h)
  | .createDescriptorSetLayout req => settle s Prod.fst (s.createDescriptorSetLayout req)
  | .destroyDescriptorSetLayout h => settle s id (s.destroyDescriptorSetLayout h)
  | .createDescriptorPool req => settle s Prod.fst (s.createDescriptorPool req)
  | .destroyDescriptorPool h => settle s id (s.destroyDescriptorPool h)
  | .allocateDescriptorSets req => settle s id (s.allocateDescriptorSets req)
  | .updateDescriptorSets req => s.updateDescriptorSets req
  | .createGraphicsPipelines req => settle s Prod.fst (s.createGraphicsPipelines req)
  | .createComputePipelines req => settle s Prod.fst (s.createComputePipelines req)
  | .destroyPipeline h => settle s id (s.destroyPipeline h)
  | .createSurface inst xid => settle s Prod.fst (s.createSurface inst xid)
  | .destroySurface h => settle s id (s.destroySurface h)
  | .debugMarkSurfaceDirty h => (s.debugMarkSurfaceDirty h, .ok ())
  | .setAuthority xid extent => (s.setAuthority xid extent, .ok ())
  | .createSwapchain req => settle s Prod.fst (s.createSwapchain req)
  | .destroySwapchain h => settle s id (s.destroySwapchain h)
  | .getSwapchainImages h => settle s id (s.getSwapchainImages h)
  | .acquireNextImage h => settle s Prod.fst (s.acquireNextImage h)
  | .recordCommandBuffer req => s.recordCommandBuffer req
  | .retireCommandBufferRecordings keys => settle s id (s.retireCommandBufferRecordings keys)
  | .queueSubmit req => s.queueSubmit req
  | .queueSubmit2 req => s.queueSubmit2 req
  | .queuePresent req => settle s Prod.fst (s.queuePresent req)
  | .resetFences fences => settle s id (s.resetFences fences)
  | .queueWaitIdle queue => settle s (fun _ => s) (s.queueWaitIdle queue)
  | .deviceWaitIdle d => settle s (fun _ => s) (s.deviceWaitIdle d)
  | .signalSemaphore d semaphore value => settle s id (s.signalSemaphore d semaphore value)

/-- Every operation is answered, so every run is defined. -/
def step (s : Backend) (op : Op) : Option Backend :=
  some (perform s op).1

def performAll (s : Backend) (ops : List Op) : Backend :=
  ops.foldl (fun t op => (perform t op).1) s

theorem run_step (s : Backend) (ops : List Op) : run step s ops = some (performAll s ops) := by
  induction ops generalizing s with
  | nil => rfl
  | cons op ops ih => exact (run_cons step s op ops).trans (ih _)

def Reachable (s : Backend) : Prop :=
  ∃ (haveDevice : Bool) (ops : List Op), run step { haveDevice } ops = some s

theorem reachable_performAll (ops : List Op) : Reachable (performAll {} ops) :=
  ⟨true, ops, run_step _ ops⟩

/-- What holds of the empty backend and is kept by every operation holds in every
reachable state. -/
theorem Reachable.invariant {P : Backend → Prop} {s : Backend} (hreach : Reachable s)
    (hstart : ∀ haveDevice, P { haveDevice }) (hstep : ∀ s op, P s → P (perform s op).1) : P s := by
  obtain ⟨haveDevice, ops, hrun⟩ := hreach
  apply run_invariant _ (hstart haveDevice) hrun
  intro s op next hs hnext
  rw [← Option.some.inj hnext]
  exact hstep s op hs

/-- The requests that set up a device with a queue, a pool and a command buffer;
the handles are 1 for the instance, then 3 for the device and 4, 5 and 6. -/
def setUp (req : CreateDeviceRequest) : List Op :=
  [.createInstance, .enumeratePhysicalDevices 1,
   .createDevice { req with instanceHandle := 1, physicalDevice := 2 }, .getDeviceQueue 3 0 0,
   .createCommandPool 3 0, .allocateCommandBuffers 5 1]

end VkRelay.Session
