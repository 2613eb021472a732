import VkRelay.Session.Record

/-!
Instances, devices, queues, command pools and the leaves of the object graph.
Creation enters the new handle in its table and in the records of its device;
destruction takes it out of both. A device goes only when all its recorded
children are gone; its queues are not among them.
-/

namespace VkRelay.Session

open VkRelay.Lib

def outsideMask (bits mask : Nat) : Bool :=
  bits &&& mask != bits

structure CreateDeviceRequest where
  instanceHandle : Nat := 0
  physicalDevice : Nat := 0
  enabledExtensions : List Extension := []
  dynamicRenderingFeatureEnabled : Int := 0
  synchronization2FeatureEnabled : Int := 0
  hostQueryResetFeatureEnabled : Int := 0
  multiviewFeatureEnabled : Int := 0
  bufferDeviceAddressFeatureEnabled : Int := 0
  geometryStreamsFeatureEnabled : Int := -1
  enabledFeatureBits : Nat := 0
  drawIndirectCountEnabled : Int := -1
  descriptorIndexingFeatureBits : Nat := 0
  vk13DeviceEnabled : Int := 0
  vk13FeatureBits : Nat := 0

def threeStateScalarOmitted : Int := -1

/-- A scalar that is 0, 1 or absent; an absent one takes the derived value. -/
def decodeThreeStateScalar (encoded : Int) (derived : Bool) (fieldName : String) :
    Except String Bool :=
  if encoded = threeStateScalarOmitted then .ok derived
  else if encoded = 0 ∨ encoded = 1 then .ok (encoded == 1)
  else .error (fieldName ++
    " must be 0 or 1 when present (omission is wire-key absence, not a transmittable value)")

def featureMultiDrawIndirect : Nat := 2 ^ 9
def diFeatureServedBits : Nat := 0xFC3
def vk13FeatureServedBits : Nat := 0xFDFB
def vk13MemoryModelBits : Nat := 0xE000

/-- The record of a new device, after every gate on what it enables. -/
def CreateDeviceRequest.device (req : CreateDeviceRequest) : Except String Device := do
  let geometryStreams ← decodeThreeStateScalar req.geometryStreamsFeatureEnabled false
    "geometry_streams_feature_enabled"
  rejectIf (geometryStreams ∧ Extension.transformFeedback ∉ req.enabledExtensions)
    "geometryStreams enabled without VK_EXT_transform_feedback"
  let drawIndirectCount ← decodeThreeStateScalar req.drawIndirectCountEnabled
    (Extension.drawIndirectCount ∈ req.enabledExtensions) "draw_indirect_count_enabled"
  rejectIf (outsideMask req.descriptorIndexingFeatureBits diFeatureServedBits)
    "descriptor_indexing_feature_bits outside the served set"
  rejectIf (outsideMask req.vk13FeatureBits vk13FeatureServedBits)
    "vk13_feature_bits outside the served set"
  rejectIf (outsideMask req.vk13FeatureBits vk13MemoryModelBits ∧ req.vk13DeviceEnabled = 0)
    "vk13 features enabled without the vk13 device (only the memory-model bits are reported off it)"
  return { instanceHandle := req.instanceHandle
           queueFamily := 0
           queueCount := 1
           enabledExts := req.enabledExtensions
           dynamicRenderingFeatureEnabled := req.dynamicRenderingFeatureEnabled != 0
           synchronization2FeatureEnabled := req.synchronization2FeatureEnabled != 0
           hostQueryResetFeatureEnabled := req.hostQueryResetFeatureEnabled != 0
           multiviewFeatureEnabled := req.multiviewFeatureEnabled != 0
           bufferDeviceAddressFeatureEnabled := req.bufferDeviceAddressFeatureEnabled != 0
           multiDrawIndirectFeatureEnabled :=
             hasFlag req.enabledFeatureBits featureMultiDrawIndirect
           drawIndirectCountEnabled := drawIndirectCount
           descriptorIndexingFeatureBits := req.descriptorIndexingFeatureBits
           vk13FeatureBits := req.vk13FeatureBits
           vk13Device := req.vk13DeviceEnabled != 0 }

namespace Backend

/-! ## Instances and devices -/

def createInstance (s : Backend) : Except String (Backend × Nat) := do
  rejectIf (!s.haveDevice) "no usable device selected for this worker"
  return ({ s.bump with instances := s.instances.insert s.nextHandle {} }, s.nextHandle)

/-- The physical device is minted on the first enumeration. -/
def enumeratePhysicalDevices (s : Backend) (handle : Nat) : Except String (Backend × Nat) := do
  let inst ← find s.instances handle "unknown instance handle"
  if inst.physicalDevice = 0 then
    .ok ({ s.bump with
           instances := s.instances.insert handle { inst with physicalDevice := s.nextHandle } },
         s.nextHandle)
  else .ok (s, inst.physicalDevice)

/-- The handle is taken before the gates, so a refused request uses one up. -/
def createDevice (s : Backend) (req : CreateDeviceRequest) : Backend × Except String Nat :=
  match s.instances[req.instanceHandle]? with
  | none => (s, .error "unknown instance handle")
  | some inst =>
    if req.physicalDevice = 0 ∨ req.physicalDevice ≠ inst.physicalDevice then
      (s, .error ("physical device not enumerated from this instance " ++
        "(call enumerate_physical_devices before create_device)"))
    else
      match req.device with
      | .error reason => (s.bump, .error reason)
      | .ok dev =>
        ({ s.bump with
           devices := s.devices.insert s.nextHandle dev
           instances := s.instances.insert req.instanceHandle
             { inst with devices := insert s.nextHandle inst.devices } },
         .ok s.nextHandle)

/-- The children that block a device, in the order they are asked about. -/
def blockingChildren : List (List Child × String) :=
  [([.pool], "device has live command pools; destroy them first"),
   ([.leaf], "device has live fences/semaphores/memory; destroy them first"),
   ([.swapchain], "device has live swapchains; destroy them first"),
   ([.imageView, .shaderModule, .renderPass, .framebuffer, .pipelineLayout, .pipeline],
    ("device has live draw-surface objects (image views / shaders / render passes / " ++
     "framebuffers / pipeline layouts / pipelines); destroy them first")),
   ([.buffer], "device has live buffers; destroy them first"),
   ([.descriptorSetLayout, .descriptorPool],
    "device has live descriptor set layouts / pools; destroy them first"),
   ([.image], "device has live images; destroy them first"),
   ([.sampler], "device has live samplers; destroy them first"),
   ([.queryPool], "device has live query pools; destroy them first")]

def destroyDevice (s : Backend) (handle : Nat) : Except String Backend := do
  let dev ← find s.devices handle "unknown device handle"
  checkAll blockingChildren fun group =>
    rejectIf (group.1.any fun kind => dev.children kind ≠ ∅) group.2
  return { s with
           instances := s.instances.modify dev.instanceHandle fun inst =>
             { inst with devices := inst.devices.erase handle }
           devices := s.devices.erase handle }

def destroyInstance (s : Backend) (handle : Nat) : Except String Backend := do
  let inst ← find s.instances handle "unknown instance handle"
  rejectIf (inst.devices ≠ ∅) "instance has live devices; destroy them first"
  rejectIf (inst.surfaces ≠ ∅) "instance has live surfaces; destroy them first"
  return { s with instances := s.instances.erase handle }

def queueKey (family index : Int) : Nat :=
  toU32 family * 2 ^ 32 + toU32 index

/-- A queue is looked up, not made: the first lookup mints its handle. -/
def getDeviceQueue (s : Backend) (device : Nat) (family index : Int) :
    Except String (Backend × Nat) := do
  let dev ← find s.devices device "unknown device handle"
  rejectIf (family ≠ dev.queueFamily)
    "queue family was not created on this device (use the family reported by create_device)"
  rejectIf (index < 0 ∨ index ≥ dev.queueCount) "queue index out of range for the created family"
  match dev.queues[queueKey family index]? with
  | some queue => .ok (s, queue)
  | none =>
    .ok ({ s.bump with
           devices := s.devices.insert device
             { dev with queues := dev.queues.insert (queueKey family index) s.nextHandle }
           queueToDevice := s.queueToDevice.insert s.nextHandle device },
         s.nextHandle)

/-! ## Command pools and buffers -/

def createCommandPool (s : Backend) (device : Nat) (family : Int) :
    Except String (Backend × Nat) := do
  let dev ← find s.devices device "unknown device handle"
  rejectIf (family ≠ dev.queueFamily)
    "queue family was not created on this device (use the family reported by create_device)"
  return (s.create .pool device { device }, s.nextHandle)

/-- Free one command buffer, giving up its leases first. -/
def freeCommandBuffer (s : Backend) (handle : Nat) : Backend :=
  let released := s.releaseRecordingLeasesForCommandBuffer handle
  { released with commandBuffers := released.commandBuffers.erase handle }

def destroyCommandPool (s : Backend) (handle : Nat) : Except String Backend := do
  let pool ← find s.pools handle "unknown command pool handle"
  return (pool.buffers.foldl freeCommandBuffer s).discard .pool pool.device handle

def mintCommandBuffers (pool device : Nat) : Nat → Backend → Backend
  | 0, s => s
  | count + 1, s =>
    mintCommandBuffers pool device count
      { s.bump with
        commandBuffers := s.commandBuffers.insert s.nextHandle { pool, device }
        pools := s.pools.modify pool fun p => { p with buffers := p.buffers ++ [s.nextHandle] } }

def allocateCommandBuffers (s : Backend) (pool : Nat) (count : Int) : Except String Backend := do
  let p ← find s.pools pool "unknown command pool handle"
  rejectIf (count ≤ 0 ∨ count > 4096) "invalid command buffer count"
  return mintCommandBuffers pool p.device count.toNat s

/-- Each handle is looked up before it is compared with those seen so far. -/
def checkFreed (s : Backend) (pool : Nat) (seen : List Nat) : List Nat → Except String Unit
  | [] => .ok ()
  | h :: handles => do
    let _ ← findOn CmdBuffer.pool s.commandBuffers h pool
      "command buffer not allocated from this pool"
    rejectIf (h ∈ seen) "duplicate command buffer in free request"
    s.checkFreed pool (h :: seen) handles

def freeCommandBuffers (s : Backend) (pool : Nat) (handles : List Nat) : Except String Backend := do
  let _ ← find s.pools pool "unknown command pool handle"
  rejectIf handles.isEmpty "no command buffers specified"
  s.checkFreed pool [] handles
  return handles.foldl
    (fun t h =>
      let freed := t.freeCommandBuffer h
      { freed with
        pools := freed.pools.modify pool fun p => { p with buffers := p.buffers.erase h } })
    s

/-! ## Leaves -/

def createDeviceLeaf (s : Backend) (device : Nat) (leaf : Leaf) :
    Except String (Backend × Nat) := do
  let _ ← find s.devices device "unknown device handle"
  return (s.create .leaf device { leaf with device }, s.nextHandle)

def createFence (s : Backend) (device : Nat) (signaled : Bool) : Except String (Backend × Nat) :=
  s.createDeviceLeaf device { kind := .fence, isSignaled := signaled }

/-- Type 1 is a timeline semaphore. -/
def createSemaphore (s : Backend) (device : Nat) (semaphoreType : Int) (initialValue : Nat) :
    Except String (Backend × Nat) :=
  s.createDeviceLeaf device
    (if semaphoreType = 1 then
      { kind := .semaphore, isTimeline := true, timelineValue := initialValue }
     else { kind := .semaphore })

def createEvent (s : Backend) (device : Nat) : Except String (Backend × Nat) :=
  s.createDeviceLeaf device { kind := .event }

def destroyFence (s : Backend) (handle : Nat) : Except String Backend :=
  s.destroyDeviceLeaf handle .fence

def destroySemaphore (s : Backend) (handle : Nat) : Except String Backend :=
  s.destroyDeviceLeaf handle .semaphore

/-- Unlike the other objects a stream can name, an event goes without a word to
the recordings that baked it in. -/
def destroyEvent (s : Backend) (handle : Nat) : Except String Backend :=
  s.destroyDeviceLeaf handle .event

def modifyLeaf (s : Backend) (handle : Nat) (change : Leaf → Leaf) : Backend :=
  { s with leaves := s.leaves.modify handle change }

def setEventState (s : Backend) (handle : Nat) (state : Bool) : Except String Backend := do
  let leaf ← find s.leaves handle "unknown handle for this object type"
  rejectIf (leaf.kind ≠ .event) "unknown handle for this object type"
  return s.modifyLeaf handle fun l => { l with isSet := state }

def setEvent (s : Backend) (handle : Nat) : Except String Backend :=
  s.setEventState handle true

def resetEvent (s : Backend) (handle : Nat) : Except String Backend :=
  s.setEventState handle false

end Backend

end VkRelay.Session
