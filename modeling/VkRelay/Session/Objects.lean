import VkRelay.Lib.Machine
import VkRelay.Lib.Table

/-!
The object tables of the mock Vulkan backend: every handle the backend hands
out names an entry of one of these tables, and one counter feeds all of them.
Fields that no modelled request reads are left out, as are the bytes behind a
memory object, which `VkRelay.Worker.Memory` models.

Two fields are not in the source. A command buffer keeps the stream it was
recorded with, and a pipeline keeps the set layouts its layout declared when the
pipeline was created; no request reads either, they are there so that theorems
can speak about them.
-/

namespace VkRelay.Session

open VkRelay.Lib

/-- The kinds of object a device owns; each blocks the device's destruction. -/
inductive Child where
  | pool | leaf | swapchain | imageView | shaderModule | renderPass | framebuffer
  | pipelineLayout | pipeline | buffer | descriptorSetLayout | descriptorPool | image
  | sampler | queryPool
  deriving DecidableEq, Repr

/-- The extensions that some request asks about, and the names of all others. -/
inductive Extension where
  | transformFeedback | conditionalRendering | extendedDynamicState | dynamicRendering
  | synchronization2 | drawIndirectCount
  | other (name : String)
  deriving DecidableEq, Repr

/-- Leaves of the object graph: they have a device and no children. -/
inductive LeafKind where
  | fence | semaphore | memory | event
  deriving DecidableEq, Repr

/-- A command buffer together with one of its recording generations. -/
abbrev LeaseKey := Nat × Nat

/-- One instance for all modules about leases. -/
scoped instance instLawfulBEqLeaseKey : LawfulBEq LeaseKey := inferInstance

structure Instance where
  physicalDevice : Nat := 0
  devices : Finset Nat := ∅
  surfaces : Finset Nat := ∅

structure Device where
  instanceHandle : Nat := 0
  queueFamily : Int := 0
  queueCount : Int := 0
  children : Child → Finset Nat := fun _ => ∅
  queues : Table Nat := {}
  enabledExts : List Extension := []
  dynamicRenderingFeatureEnabled : Bool := false
  synchronization2FeatureEnabled : Bool := false
  hostQueryResetFeatureEnabled : Bool := false
  multiviewFeatureEnabled : Bool := false
  bufferDeviceAddressFeatureEnabled : Bool := false
  multiDrawIndirectFeatureEnabled : Bool := false
  drawIndirectCountEnabled : Bool := false
  descriptorIndexingFeatureBits : Nat := 0
  vk13FeatureBits : Nat := 0
  vk13Device : Bool := false

/-- A command pool. Its buffers are listed in the order they were allocated in,
which is the ascending order a set would give them. -/
structure Pool where
  device : Nat := 0
  buffers : List Nat := []

structure Leaf where
  device : Nat := 0
  kind : LeafKind := .fence
  isTimeline : Bool := false
  timelineValue : Nat := 0
  isSignaled : Bool := false
  isSet : Bool := false

structure Surface where
  instanceHandle : Nat := 0
  swapchains : Finset Nat := ∅
  geometryDirty : Bool := false
  shown : Bool := false
  xid : Nat := 0

structure Swapchain where
  device : Nat := 0
  surface : Nat := 0
  images : List Nat := []
  imageCount : Nat := 0
  nextImage : Nat := 0
  transferDst : Bool := false
  imageFormat : Int := 0
  width : Int := 0
  height : Int := 0
  imageViews : Finset Nat := ∅

/-- A swapchain image or an image the application created; only the latter has
an extent of its own. The source keeps the extent and the counts as positive
integers. -/
structure Image where
  device : Nat := 0
  swapchain : Nat := 0
  surface : Nat := 0
  transferDst : Bool := false
  format : Int := 0
  appCreated : Bool := false
  aspect : Nat := 0
  usage : Nat := 0
  width : UInt32 := 0
  height : UInt32 := 0
  mipLevels : UInt32 := 1
  arrayLayers : UInt32 := 1
  alignment : Nat := 0
  memoryTypeBits : Nat := 0
  boundMemory : Nat := 0
  boundOffset : Nat := 0
  imageViews : Finset Nat := ∅

structure ImageView where
  device : Nat := 0
  image : Nat := 0
  swapchain : Nat := 0
  format : Int := 0

structure BufferView where
  device : Nat := 0
  buffer : Nat := 0

structure ShaderModule where
  device : Nat := 0

/-- A colour attachment reference of a subpass; a negative index is a hole. -/
structure ColorRefDesc where
  attachment : Int := -1
  layout : Int := 0

structure RenderPass where
  device : Nat := 0
  colorFormat : Int := 0
  depthFormat : Int := 0
  colorRefs : List ColorRefDesc := []
  attachmentFormats : List Int := []
  viewMask : Int := 0

structure Framebuffer where
  device : Nat := 0
  renderPass : Nat := 0
  compatColorFormat : Int := 0
  compatDepthFormat : Int := 0
  imageView : Nat := 0
  depthImageView : Nat := 0
  width : Int32 := 0
  height : Int32 := 0
  imageless : Bool := false
  attachmentCount : Nat := 0
  attachmentViews : List Nat := []

structure PipelineLayout where
  device : Nat := 0
  setLayouts : List Nat := []

/-- A pipeline; `declaredSets` is not in the source, see the header. -/
structure Pipeline where
  device : Nat := 0
  layout : Nat := 0
  renderPass : Nat := 0
  vertexBindingCount : Nat := 0
  compute : Bool := false
  dynamicRendering : Bool := false
  viewMask : Int := 0
  colorFormats : List Int := []
  depthFormat : Int := 0
  stencilFormat : Int := 0
  declaredSets : List Nat := []

structure MemoryObject where
  device : Nat := 0
  size : Nat := 0
  typeIndex : Nat := 0
  allocateFlags : Nat := 0

structure Buffer where
  device : Nat := 0
  size : Nat := 0
  usage : Nat := 0
  alignment : Nat := 0
  memoryTypeBits : Nat := 0
  boundMemory : Nat := 0
  boundOffset : Nat := 0

structure DescriptorSetLayoutBinding where
  binding : Int := 0
  descriptorType : Int := 0
  descriptorCount : Int := 0
  bindingFlags : Nat := 0

structure DescriptorSetLayout where
  device : Nat := 0
  layoutFlags : Nat := 0
  bindings : List DescriptorSetLayoutBinding := []

structure DescriptorPool where
  device : Nat := 0
  maxSets : Int := 0
  setsRemaining : Int := 0
  updateAfterBind : Bool := false
  sets : List Nat := []

/-- One element of a binding: written or not, and what the last write named. -/
structure DescriptorSlot where
  initialized : Bool := false
  buffer : Nat := 0
  sampler : Nat := 0
  imageView : Nat := 0
  bufferView : Nat := 0
  deriving DecidableEq, Repr

structure DescriptorSet where
  device : Nat := 0
  pool : Nat := 0
  layout : Nat := 0
  slots : Std.ExtTreeMap Int (List DescriptorSlot) compare := {}

structure Sampler where
  device : Nat := 0

structure QueryPool where
  device : Nat := 0
  type : Int := 0
  count : UInt32 := 0

/-- An image that was destroyed while recordings held leases on it; no key is
listed twice. -/
structure RetiredImage where
  image : Image := {}
  leases : List LeaseKey := []

structure RetiredBuffer where
  buffer : Buffer := {}
  leases : List LeaseKey := []

/-- Why an image handle no longer resolves; kept for diagnostics only. -/
inductive ImageDestroyCause where
  | destroyImage | destroySwapchain
  deriving DecidableEq, Repr

inductive ImageOrigin where
  | app | swapchain
  deriving DecidableEq, Repr

structure ImageTombstone where
  image : Nat := 0
  origin : ImageOrigin := .app
  cause : ImageDestroyCause := .destroyImage
  swapchain : Nat := 0

end VkRelay.Session
