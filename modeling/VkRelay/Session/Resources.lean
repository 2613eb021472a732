import VkRelay.Session.Devices

/-!
Memory, buffers, images, their views, samplers and query pools. A resource that
recordings still hold a lease on is retired instead of destroyed: it leaves the
tables, but its record and, if need be, the memory behind it are kept until the
last lease is given up.
-/

namespace VkRelay.Session

open VkRelay.Lib

/-! ## Memory -/

def memoryPropertyDeviceLocal : Nat := 0x1
def memoryPropertyHostVisible : Nat := 0x2
def memoryPropertyHostCoherent : Nat := 0x4
def memoryPropertyProtected : Nat := 0x20
def memoryAllocateDeviceAddressBit : Nat := 0x2
def maxRetiredMemoryAllocationsPerDevice : Nat := 4096

/-- The property flags of the memory types the mock reports. -/
def mockMemoryTypes : List Nat :=
  [memoryPropertyDeviceLocal, memoryPropertyHostVisible ||| memoryPropertyHostCoherent, 0]

structure AllocateMemoryRequest where
  device : Nat := 0
  allocationSize : Nat := 0
  memoryTypeIndex : Int := -1
  allocateFlags : Nat := 0

def sharingModeExclusive : Int := 0

namespace Backend

def checkAllocateFlags (s : Backend) (req : AllocateMemoryRequest) : Except String Unit :=
  if req.allocateFlags = 0 then .ok ()
  else do
    rejectIf (outsideMask req.allocateFlags memoryAllocateDeviceAddressBit)
      "memory allocate flags outside the supported set (only DEVICE_ADDRESS)"
    rejectIf (!(s.devices[req.device]?).any (·.bufferDeviceAddressFeatureEnabled))
      "DEVICE_ADDRESS allocate flag requires the enabled bufferDeviceAddress feature"

/-- A memory is a leaf and, under the same handle, a memory object. -/
def allocateMemory (s : Backend) (req : AllocateMemoryRequest) :
    Except String (Backend × Nat) := do
  rejectIf (req.allocationSize = 0) "invalid allocation size"
  rejectIf (req.memoryTypeIndex < 0 ∨ req.memoryTypeIndex ≥ mockMemoryTypes.length)
    "invalid memory type index"
  let flags := mockMemoryTypes.getD req.memoryTypeIndex.toNat 0
  rejectIf (hasFlag flags memoryPropertyProtected)
    "protected memory is not supported (no protected queue/submit path)"
  rejectIf (hasFlag flags memoryPropertyHostVisible ∧ !hasFlag flags memoryPropertyHostCoherent)
    ("host-visible memory without HOST_COHERENT is not yet supported (needs " ++
     "Tier 2 flush/invalidate)")
  s.checkAllocateFlags req
  let (next, handle) ← s.createDeviceLeaf req.device { kind := .memory }
  let object : MemoryObject :=
    { device := req.device, size := req.allocationSize, typeIndex := req.memoryTypeIndex.toNat,
      allocateFlags := req.allocateFlags }
  return ({ next with memoryObjects := s.memoryObjects.insert handle object }, handle)

/-- The memories of a device that were freed while a retired resource held them. -/
def retiredMemoriesOn (s : Backend) (device : Nat) : Nat :=
  (s.retiredMemories.filter fun h =>
    (s.memoryObjects[h]?).any fun memory => memory.device = device).card

/-- Only retired resources keep a memory: a live one that is bound to it is not
looked for. -/
def freeMemory (s : Backend) (handle : Nat) : Backend × Except String Unit :=
  match s.memoryObjects[handle]? with
  | none => (s, .error "unknown handle for this object type")
  | some memory =>
    if handle ∈ s.retiredMemories then (s, .error "unknown handle for this object type")
    else if s.retainedByResource handle then
      if s.retiredMemoriesOn memory.device ≥ maxRetiredMemoryAllocationsPerDevice then
        ({ s with recordingResourceCapacityRejections :=
             s.recordingResourceCapacityRejections + 1 },
         .error "recording resource retired-memory capacity exceeded")
      else ({ s with retiredMemories := insert handle s.retiredMemories }, .ok ())
    else
      match s.destroyDeviceLeaf handle .memory with
      | .error reason => (s, .error reason)
      | .ok freed => ({ freed with memoryObjects := s.memoryObjects.erase handle }, .ok ())

end Backend

/-! ## Buffers -/

def bufferUsageShaderDeviceAddress : Nat := 0x20000
def bufferUsageSubset : Nat := 0x21BFF

structure CreateBufferRequest where
  device : Nat := 0
  size : UInt64 := 0
  usage : Nat := 0
  sharingMode : Int := -1

/-- Buffers and images are bound by the same request. -/
structure BindRequest where
  resource : Nat := 0
  memory : Nat := 0
  memoryOffset : Nat := 0

def memoryTypeRefused (memoryTypeBits typeIndex : Nat) : Bool :=
  memoryTypeBits != 0 && !hasFlag memoryTypeBits (2 ^ typeIndex)

def alignmentRefused (alignment offset : Nat) : Bool :=
  alignment != 0 && offset % alignment != 0

def maxRetiredRecordingResourcesPerDevice : Nat := 4096
def maxRecordingResourceLeaseEdgesPerDevice : Nat := 16384

structure LeasedDestroyRequest where
  handle : Nat := 0
  leases : List LeaseKey := []

namespace Backend

def createBuffer (s : Backend) (req : CreateBufferRequest) : Except String (Backend × Nat) := do
  let _ ← find s.devices req.device "unknown device handle"
  rejectIf (req.size = 0) "buffer size must be > 0"
  rejectIf (req.usage = 0 ∨ outsideMask req.usage bufferUsageSubset)
    "buffer usage must be a nonzero subset of \x7bVERTEX_BUFFER, UNIFORM_BUFFER, TRANSFER_SRC\x7d"
  rejectIf (req.sharingMode ≠ sharingModeExclusive) "buffer sharing mode must be EXCLUSIVE"
  return (s.create .buffer req.device
    { device := req.device, size := req.size.toNat, usage := req.usage, alignment := 16,
      memoryTypeBits := 2 ^ mockMemoryTypes.length - 1 }, s.nextHandle)

def destroyBuffer (s : Backend) (handle : Nat) : Except String Backend := do
  let buffer ← find s.buffers handle "unknown buffer handle"
  let consulted := (s.invalidateCbsReferencing handle).dangleSetsReferencing handle
  return consulted.discard .buffer buffer.device handle

def findBindableMemory (s : Backend) (handle : Nat) : Except String MemoryObject := do
  let memory ← find s.memoryObjects handle "unknown memory handle"
  rejectIf (handle ∈ s.retiredMemories) "unknown memory handle"
  return memory

def bindBufferMemory (s : Backend) (req : BindRequest) : Except String Backend := do
  let buffer ← find s.buffers req.resource "unknown buffer handle"
  let memory ← s.findBindableMemory req.memory
  rejectIf (buffer.device ≠ memory.device) "buffer and memory are on different devices"
  rejectIf (buffer.boundMemory ≠ 0) "buffer is already bound to memory"
  rejectIf (memoryTypeRefused buffer.memoryTypeBits memory.typeIndex)
    "memory type is not in the buffer's supported memoryTypeBits"
  rejectIf (alignmentRefused buffer.alignment req.memoryOffset)
    "bind offset does not satisfy the buffer's alignment"
  rejectIf (req.memoryOffset > memory.size ∨ req.memoryOffset > 2 ^ 64 - 1 - buffer.size ∨
      (req.memoryOffset + buffer.size) % 2 ^ 64 > memory.size)
    "bind range does not fit within the allocation"
  rejectIf (hasFlag buffer.usage bufferUsageShaderDeviceAddress ∧
      !hasFlag memory.allocateFlags memoryAllocateDeviceAddressBit)
    "SHADER_DEVICE_ADDRESS buffer requires DEVICE_ADDRESS-allocated memory (VUID 03339)"
  let bound := { buffer with boundMemory := req.memory, boundOffset := req.memoryOffset }
  return { s with buffers := s.buffers.insert req.resource bound }

/-! ### Leased destroys -/

/-- The leases a destroy may name: no two alike, each of a command buffer of the
device and of a generation that is not past. -/
def checkLeases (s : Backend) (device : Nat) (leases : List LeaseKey) (name : String) :
    Except String Unit := do
  rejectIf (leases.isEmpty ∨ leases.length > maxRecordingResourceLeasesPerRequest)
    ("leased " ++ name ++ " destroy has an invalid lease count")
  checkAll leases fun lease => do
    let cb ← findOn CmdBuffer.device s.commandBuffers lease.1 device
      ("leased " ++ name ++ " destroy references an invalid command-buffer generation")
    rejectIf (lease.2 = 0 ∨ lease.2 < cb.recordingGeneration)
      ("leased " ++ name ++ " destroy references an invalid command-buffer generation")
  rejectIf (¬leases.Nodup)
    ("leased " ++ name ++ " destroy references an invalid command-buffer generation")

def retiredOnDevice (s : Backend) (device : Nat) : Nat :=
  s.retiredImages.toList.countP (fun entry => entry.2.image.device = device) +
    s.retiredBuffers.toList.countP fun entry => entry.2.buffer.device = device

def leaseEdgesOnDevice (s : Backend) (device : Nat) : Nat :=
  ((s.retiredImages.toList.filter fun entry => entry.2.image.device = device).map
      (·.2.leases.length)).sum +
    ((s.retiredBuffers.toList.filter fun entry => entry.2.buffer.device = device).map
      (·.2.leases.length)).sum

def leaseCapacityExceeded (s : Backend) (device count : Nat) : Bool :=
  s.retiredOnDevice device ≥ maxRetiredRecordingResourcesPerDevice ||
    s.leaseEdgesOnDevice device + count > maxRecordingResourceLeaseEdgesPerDevice

def refuseForCapacity (s : Backend) : Backend × Except String Unit :=
  ({ s with recordingResourceCapacityRejections := s.recordingResourceCapacityRejections + 1 },
   .error "recording resource lease capacity exceeded")

/-- Recordings that hold a lease keep running with the buffer; it is not retired
yet, or its handle would not have resolved. -/
def retireBuffer (s : Backend) (handle : Nat) (buffer : Buffer) (leases : List LeaseKey) :
    Backend :=
  let consulted := (s.invalidateCbsReferencing handle leases).dangleSetsReferencing handle leases
  { consulted.disownAt buffer.device .buffer handle with
    retiredBuffers := s.retiredBuffers.insert handle { buffer, leases }
    recordingResourceLeaseEdges := s.recordingResourceLeaseEdges + leases.length
    buffers := s.buffers.erase handle }

def destroyBufferLeased (s : Backend) (req : LeasedDestroyRequest) :
    Backend × Except String Unit :=
  match s.buffers[req.handle]? with
  | none => (s, .error "unknown buffer handle")
  | some buffer =>
    match s.checkLeases buffer.device req.leases "buffer" with
    | .error reason => (s, .error reason)
    | .ok () =>
      if s.leaseCapacityExceeded buffer.device req.leases.length then s.refuseForCapacity
      else (s.retireBuffer req.handle buffer req.leases, .ok ())

end Backend

/-! ## Images -/

def formatR8G8B8A8Unorm : Int := 37
def formatD16Unorm : Int := 124

def hasDepthAspect (format : Int) : Bool :=
  format ∈ [124, 125, 126, 128, 129, 130]

def hasStencilAspect (format : Int) : Bool :=
  format ∈ [127, 128, 129, 130]

def formatAspectMask (format : Int) : Nat :=
  let mask := (if hasDepthAspect format then imageAspectDepth.toNat else 0) +
    if hasStencilAspect format then imageAspectStencil.toNat else 0
  if mask = 0 then imageAspectColor.toNat else mask

def isDepthStencilFormat (format : Int) : Bool :=
  hasDepthAspect format || hasStencilAspect format

def imageType2D : Int := 1
def imageTilingOptimal : Int := 0
def imageTilingLinear : Int := 1
def imageLayoutUndefined : Int := 0
def imageLayoutPreinitialized : Int := 8
def imageUsageDepthStencilAttachment : Nat := 0x20
def imageUsageSubset : Nat := 0x37
def depthStencilUsageAllowed : Nat := 0x27
def sampleCount1 : Int := 1

structure CreateImageRequest where
  device : Nat := 0
  imageType : Int := -1
  format : Int := -1
  width : Int32 := -1
  height : Int32 := -1
  depth : Int := -1
  mipLevels : Int32 := -1
  arrayLayers : Int32 := -1
  samples : Int := -1
  tiling : Int := -1
  usage : Nat := 0
  sharingMode : Int := -1
  initialLayout : Int := -1

/-- Linear images bind host-visible memory, optimal ones device-local memory. -/
def imageTypeBits (tiling : Int) : Nat :=
  (mockMemoryTypes.zipIdx.map fun entry =>
    let host := hasFlag entry.1 memoryPropertyHostVisible &&
      hasFlag entry.1 memoryPropertyHostCoherent
    let deviceLocal := hasFlag entry.1 memoryPropertyDeviceLocal
    if (tiling = imageTilingLinear ∧ host) ∨
        (tiling = imageTilingOptimal ∧ deviceLocal ∧ !host) then 2 ^ entry.2
    else 0).sum

def checkDepthStencilImage (req : CreateImageRequest) : Except String Unit :=
  rejectIf (req.tiling ≠ imageTilingOptimal ∨ req.usage = 0 ∨
      outsideMask req.usage depthStencilUsageAllowed ∨ req.initialLayout ≠ imageLayoutUndefined)
    ("depth/stencil image must be OPTIMAL, initial layout UNDEFINED, usage a nonzero subset of " ++
     "\x7bDEPTH_STENCIL_ATTACHMENT, TRANSFER_SRC, TRANSFER_DST, SAMPLED\x7d")

def checkColorImage (req : CreateImageRequest) : Except String Unit := do
  rejectIf (hasFlag req.usage imageUsageDepthStencilAttachment)
    "color image must not have DEPTH_STENCIL_ATTACHMENT usage"
  rejectIf (req.initialLayout ≠ imageLayoutUndefined ∧
      req.initialLayout ≠ imageLayoutPreinitialized)
    "image initial layout must be UNDEFINED or PREINITIALIZED"
  rejectIf (req.initialLayout = imageLayoutPreinitialized ∧ req.tiling ≠ imageTilingLinear)
    "PREINITIALIZED initial layout requires LINEAR tiling"

def CreateImageRequest.image (req : CreateImageRequest) : Image :=
  { device := req.device
    appCreated := true
    format := req.format
    aspect := formatAspectMask req.format
    usage := req.usage
    transferDst := hasFlag req.usage imageUsageTransferDst
    width := req.width.toUInt32
    height := req.height.toUInt32
    mipLevels := req.mipLevels.toUInt32
    arrayLayers := req.arrayLayers.toUInt32
    alignment := 256
    memoryTypeBits := imageTypeBits req.tiling }

def imageTombstoneCapacity : Nat := 64

def forgetTombstone (tombstones : List ImageTombstone) (image : Nat) : List ImageTombstone :=
  tombstones.filter (·.image ≠ image)

/-- The ring keeps the latest entries, at most one for each image. -/
def rememberTombstone (tombstones : List ImageTombstone) (tombstone : ImageTombstone) :
    List ImageTombstone :=
  let others := forgetTombstone tombstones tombstone.image
  (if others.length = imageTombstoneCapacity then others.tail else others) ++ [tombstone]

namespace Backend

def createImage (s : Backend) (req : CreateImageRequest) : Except String (Backend × Nat) := do
  let _ ← find s.devices req.device "unknown device handle"
  rejectIf (req.imageType ≠ imageType2D) "image must be 2D"
  rejectIf (!isDepthStencilFormat req.format ∧ req.format ≠ formatR8G8B8A8Unorm)
    "image format must be R8G8B8A8_UNORM or a depth/stencil format"
  rejectIf (req.width ≤ 0 ∨ req.height ≤ 0 ∨ req.depth ≠ 1 ∨ req.mipLevels < 1 ∨
      req.mipLevels > 16 ∨ req.arrayLayers < 1 ∨ req.arrayLayers > 2048 ∨
      req.samples ≠ sampleCount1)
    "image must be a 2D image (mips 1..16, layers 1..2048, samples 1)"
  rejectIf (req.tiling ≠ imageTilingOptimal ∧ req.tiling ≠ imageTilingLinear)
    "image tiling must be OPTIMAL or LINEAR"
  rejectIf (req.usage = 0 ∨ outsideMask req.usage imageUsageSubset)
    ("image usage must be a nonzero subset of \x7bSAMPLED, TRANSFER_SRC, TRANSFER_DST, " ++
     "DEPTH_STENCIL_ATTACHMENT, COLOR_ATTACHMENT\x7d")
  rejectIf (req.sharingMode ≠ sharingModeExclusive) "image sharing mode must be EXCLUSIVE"
  if isDepthStencilFormat req.format then checkDepthStencilImage req else checkColorImage req
  return ({ s.create .image req.device req.image with
            imageTombstones := forgetTombstone s.imageTombstones s.nextHandle }, s.nextHandle)

/-- An image of the application without live views. -/
def findDestroyableImage (s : Backend) (handle : Nat) : Except String Image := do
  let image ← find s.images handle "unknown image handle (must be an app-created image)"
  rejectIf (!image.appCreated) "unknown image handle (must be an app-created image)"
  rejectIf (image.imageViews ≠ ∅) "image has live image views; destroy them first"
  return image

def destroyImage (s : Backend) (handle : Nat) : Except String Backend := do
  let image ← s.findDestroyableImage handle
  return { (s.invalidateCbsReferencing handle).discard .image image.device handle with
           imageTombstones := rememberTombstone s.imageTombstones { image := handle } }

def retireImage (s : Backend) (handle : Nat) (image : Image) (leases : List LeaseKey) : Backend :=
  { (s.invalidateCbsReferencing handle leases).disownAt image.device .image handle with
    imageTombstones := rememberTombstone s.imageTombstones { image := handle }
    retiredImages := s.retiredImages.insert handle { image, leases }
    recordingResourceLeaseEdges := s.recordingResourceLeaseEdges + leases.length
    images := s.images.erase handle }

def destroyImageLeased (s : Backend) (req : LeasedDestroyRequest) :
    Backend × Except String Unit :=
  match s.findDestroyableImage req.handle with
  | .error reason => (s, .error reason)
  | .ok image =>
    match s.checkLeases image.device req.leases "image" with
    | .error reason => (s, .error reason)
    | .ok () =>
      if s.leaseCapacityExceeded image.device req.leases.length then s.refuseForCapacity
      else (s.retireImage req.handle image req.leases, .ok ())

/-- Unlike a buffer's, the range of an image is not compared with the memory. -/
def bindImageMemory (s : Backend) (req : BindRequest) : Except String Backend := do
  let image ← find s.images req.resource "unknown image handle (must be an app-created image)"
  rejectIf (!image.appCreated) "unknown image handle (must be an app-created image)"
  let memory ← s.findBindableMemory req.memory
  rejectIf (image.device ≠ memory.device) "image and memory are on different devices"
  rejectIf (image.boundMemory ≠ 0) "image is already bound to memory"
  rejectIf (memoryTypeRefused image.memoryTypeBits memory.typeIndex)
    "memory type is not in the image's supported memoryTypeBits"
  rejectIf (alignmentRefused image.alignment req.memoryOffset)
    "bind offset does not satisfy the image's alignment"
  let bound := { image with boundMemory := req.memory, boundOffset := req.memoryOffset }
  return { s with images := s.images.insert req.resource bound }

end Backend

/-! ## Views -/

structure CreateImageViewRequest where
  image : Nat := 0
  format : Int := 0

structure CreateBufferViewRequest where
  buffer : Nat := 0
  offset : Nat := 0
  range : Nat := 0

namespace Backend

/-- The view blocks the destruction of its swapchain or of its application image. -/
def createImageView (s : Backend) (req : CreateImageViewRequest) :
    Except String (Backend × Nat) := do
  let image ← find s.images req.image
    "unknown image handle (must be a live swapchain or app image)"
  rejectIf (RecordContext.unboundAppImage image)
    "image view over an app image that is not bound to memory"
  let view : ImageView :=
    { device := image.device, image := req.image, swapchain := image.swapchain,
      format := req.format }
  return ({ s.bump.adoptAt image.device .imageView s.nextHandle with
            imageViews := s.imageViews.insert s.nextHandle view
            swapchains := s.swapchains.modify image.swapchain fun sc =>
              { sc with imageViews := insert s.nextHandle sc.imageViews }
            images := s.images.modify req.image fun im =>
              if im.appCreated then { im with imageViews := insert s.nextHandle im.imageViews }
              else im },
          s.nextHandle)

def destroyImageView (s : Backend) (handle : Nat) : Except String Backend := do
  let view ← find s.imageViews handle "unknown image view handle"
  let consulted := (s.invalidateCbsReferencing handle).dangleSetsReferencing handle
  return { consulted.discard .imageView view.device handle with
           swapchains := s.swapchains.modify view.swapchain fun sc =>
             { sc with imageViews := sc.imageViews.erase handle }
           images := s.images.modify view.image fun im =>
             { im with imageViews := im.imageViews.erase handle } }

/-- A buffer view is entered in no record but its own table. -/
def createBufferView (s : Backend) (req : CreateBufferViewRequest) :
    Except String (Backend × Nat) := do
  let buffer ← find s.buffers req.buffer "unknown buffer handle"
  rejectIf (buffer.boundMemory = 0) "buffer view over a buffer not bound to memory"
  if req.range = vkWholeSize then
    rejectIf (req.offset ≥ buffer.size)
      "buffer view VK_WHOLE_SIZE offset is outside the logical buffer"
  else
    rejectIf (req.range = 0 ∨ req.offset > buffer.size ∨ req.range > buffer.size - req.offset)
      "buffer view range is outside the logical buffer"
  let view : BufferView := { device := buffer.device, buffer := req.buffer }
  return ({ s.bump with bufferViews := s.bufferViews.insert s.nextHandle view }, s.nextHandle)

def destroyBufferView (s : Backend) (handle : Nat) : Except String Backend := do
  let _ ← find s.bufferViews handle "unknown buffer view handle"
  let consulted := (s.invalidateCbsReferencing handle).dangleSetsReferencing handle
  return { consulted with bufferViews := s.bufferViews.erase handle }

end Backend

/-! ## Samplers and query pools -/

structure CreateSamplerRequest where
  device : Nat := 0
  magFilter : Int := -1
  minFilter : Int := -1
  mipmapMode : Int := -1
  addressModeU : Int := -1
  addressModeV : Int := -1
  addressModeW : Int := -1
  anisotropyEnable : Int := -1
  compareEnable : Int := -1

def queryTypeOcclusion : Int := 0
def queryTypePipelineStatistics : Int := 1
def queryTypeTimestamp : Int := 2

namespace Backend

def createSampler (s : Backend) (req : CreateSamplerRequest) : Except String (Backend × Nat) := do
  let _ ← find s.devices req.device "unknown device handle"
  rejectIf (req.magFilter < 0 ∨ req.minFilter < 0 ∨ req.mipmapMode < 0 ∨ req.addressModeU < 0 ∨
      req.addressModeV < 0 ∨ req.addressModeW < 0 ∨ req.anisotropyEnable < 0 ∨
      req.compareEnable < 0)
    "sampler create-info has a missing/malformed field"
  return (s.create .sampler req.device { device := req.device }, s.nextHandle)

def destroySampler (s : Backend) (handle : Nat) : Except String Backend := do
  let sampler ← find s.samplers handle "unknown sampler handle"
  return (s.dangleSetsReferencing handle).discard .sampler sampler.device handle

def createQueryPool (s : Backend) (device : Nat) (queryType : Int) (queryCount : UInt32) :
    Except String (Backend × Nat) := do
  let _ ← find s.devices device "unknown device handle"
  rejectIf (queryType ≠ queryTypeOcclusion ∧ queryType ≠ queryTypePipelineStatistics ∧
      queryType ≠ queryTypeTimestamp)
    "unsupported query type"
  rejectIf (queryCount = 0) "query pool needs a non-zero query count"
  return (s.create .queryPool device { device, type := queryType, count := queryCount },
          s.nextHandle)

def destroyQueryPool (s : Backend) (handle : Nat) : Except String Backend := do
  let pool ← find s.queryPools handle "unknown query pool handle"
  return (s.invalidateCbsReferencing handle).discard .queryPool pool.device handle

end Backend

end VkRelay.Session
