import VkRelay.Session.Command

/-!
The state of the mock backend and the operations its requests are made of: who
owns what, which recordings a destroyed object takes with it, and how a retired
resource is kept for the recordings that hold a lease on it.

Handles come from one counter that is taken not to run out.
-/

namespace VkRelay.Session

open VkRelay.Lib

/-- A command buffer; `commands` is not in the source, see `Session.Objects`. -/
structure CmdBuffer where
  pool : Nat := 0
  device : Nat := 0
  recordingGeneration : Nat := 0
  recorded : Bool := false
  referencedSurfaces : Finset Nat := ∅
  referencedSwapchains : Finset Nat := ∅
  referencedDrawObjects : Finset Nat := ∅
  commands : List RecordedCommand := []

/-- The mock backend. `authority` is the part of the window registry that
swapchain creation reads: the extent the sidecar has authored for a window. -/
structure Backend where
  haveDevice : Bool := true
  nextHandle : Nat := 1
  instances : Table Instance := {}
  devices : Table Device := {}
  pools : Table Pool := {}
  commandBuffers : Table CmdBuffer := {}
  queueToDevice : Table Nat := {}
  leaves : Table Leaf := {}
  surfaces : Table Surface := {}
  swapchains : Table Swapchain := {}
  images : Table Image := {}
  imageViews : Table ImageView := {}
  bufferViews : Table BufferView := {}
  shaderModules : Table ShaderModule := {}
  renderPasses : Table RenderPass := {}
  framebuffers : Table Framebuffer := {}
  pipelineLayouts : Table PipelineLayout := {}
  pipelines : Table Pipeline := {}
  memoryObjects : Table MemoryObject := {}
  buffers : Table Buffer := {}
  descriptorSetLayouts : Table DescriptorSetLayout := {}
  descriptorPools : Table DescriptorPool := {}
  descriptorSets : Table DescriptorSet := {}
  samplers : Table Sampler := {}
  queryPools : Table QueryPool := {}
  retiredImages : Table RetiredImage := {}
  retiredBuffers : Table RetiredBuffer := {}
  retiredMemories : Finset Nat := ∅
  recordingResourceLeaseEdges : Nat := 0
  recordingResourceCapacityRejections : Nat := 0
  imageTombstones : List ImageTombstone := []
  authority : Table (Nat × Nat) := {}

/-! ## Ownership -/

def Device.adopt (dev : Device) (kind : Child) (handle : Nat) : Device :=
  { dev with children := Function.update dev.children kind (insert handle (dev.children kind)) }

def Device.disown (dev : Device) (kind : Child) (handle : Nat) : Device :=
  { dev with children := Function.update dev.children kind ((dev.children kind).erase handle) }

namespace Backend

/-- Enter a child in the records of its device, when that device is live. -/
def adopt (s : Backend) (device : Nat) (kind : Child) (handle : Nat) : Backend :=
  { s with devices := s.devices.modify device (·.adopt kind handle) }

def disown (s : Backend) (device : Nat) (kind : Child) (handle : Nat) : Backend :=
  { s with devices := s.devices.modify device (·.disown kind handle) }

/-- The same through the map's subscript, which makes an empty record where
there is none. -/
def adoptAt (s : Backend) (device : Nat) (kind : Child) (handle : Nat) : Backend :=
  { s with devices := s.devices.alter device fun dev? => some ((dev?.getD {}).adopt kind handle) }

def disownAt (s : Backend) (device : Nat) (kind : Child) (handle : Nat) : Backend :=
  { s with devices := s.devices.alter device fun dev? => some ((dev?.getD {}).disown kind handle) }

def bump (s : Backend) : Backend :=
  { s with nextHandle := s.nextHandle + 1 }

end Backend

/-! ## The tables of the objects a device owns -/

namespace Child

abbrev Obj : Child → Type
  | .pool => Pool
  | .leaf => Leaf
  | .swapchain => Swapchain
  | .imageView => ImageView
  | .shaderModule => ShaderModule
  | .renderPass => RenderPass
  | .framebuffer => Framebuffer
  | .pipelineLayout => PipelineLayout
  | .pipeline => Pipeline
  | .buffer => Buffer
  | .descriptorSetLayout => DescriptorSetLayout
  | .descriptorPool => DescriptorPool
  | .image => Image
  | .sampler => Sampler
  | .queryPool => QueryPool

end Child

namespace Backend

def table (s : Backend) : (k : Child) → Table k.Obj
  | .pool => s.pools
  | .leaf => s.leaves
  | .swapchain => s.swapchains
  | .imageView => s.imageViews
  | .shaderModule => s.shaderModules
  | .renderPass => s.renderPasses
  | .framebuffer => s.framebuffers
  | .pipelineLayout => s.pipelineLayouts
  | .pipeline => s.pipelines
  | .buffer => s.buffers
  | .descriptorSetLayout => s.descriptorSetLayouts
  | .descriptorPool => s.descriptorPools
  | .image => s.images
  | .sampler => s.samplers
  | .queryPool => s.queryPools

def withTable (s : Backend) : (k : Child) → Table k.Obj → Backend
  | .pool, t => { s with pools := t }
  | .leaf, t => { s with leaves := t }
  | .swapchain, t => { s with swapchains := t }
  | .imageView, t => { s with imageViews := t }
  | .shaderModule, t => { s with shaderModules := t }
  | .renderPass, t => { s with renderPasses := t }
  | .framebuffer, t => { s with framebuffers := t }
  | .pipelineLayout, t => { s with pipelineLayouts := t }
  | .pipeline, t => { s with pipelines := t }
  | .buffer, t => { s with buffers := t }
  | .descriptorSetLayout, t => { s with descriptorSetLayouts := t }
  | .descriptorPool, t => { s with descriptorPools := t }
  | .image, t => { s with images := t }
  | .sampler, t => { s with samplers := t }
  | .queryPool, t => { s with queryPools := t }

def create (s : Backend) (k : Child) (device : Nat) (obj : k.Obj) : Backend :=
  (s.bump.adopt device k s.nextHandle).withTable k ((s.table k).insert s.nextHandle obj)

def discard (s : Backend) (k : Child) (device handle : Nat) : Backend :=
  (s.disown device k handle).withTable k ((s.table k).erase handle)

end Backend

/-! ## Recordings -/

/-- Forget a recording: the buffer has to be recorded again before it runs. -/
def CmdBuffer.drop (cb : CmdBuffer) : CmdBuffer :=
  { cb with
    recorded := false
    referencedSurfaces := ∅
    referencedSwapchains := ∅
    referencedDrawObjects := ∅ }

namespace Backend

/-- Drop every recording that baked the handle in, except the preserved ones. -/
def invalidateCbsReferencing (s : Backend) (handle : Nat) (preserved : List LeaseKey := []) :
    Backend :=
  { s with
    commandBuffers := s.commandBuffers.map fun h cb =>
      if handle ∈ cb.referencedDrawObjects ∧ (h, cb.recordingGeneration) ∉ preserved then cb.drop
      else cb }

/-! ## Leases -/

def destroyDeviceLeaf (s : Backend) (handle : Nat) (kind : LeafKind) : Except String Backend := do
  let leaf ← find s.leaves handle "unknown handle for this object type"
  rejectIf (leaf.kind ≠ kind) "unknown handle for this object type"
  return s.discard .leaf leaf.device handle

def retainedByResource (s : Backend) (memory : Nat) : Bool :=
  s.retiredImages.toList.any (·.2.image.boundMemory == memory) ||
    s.retiredBuffers.toList.any (·.2.buffer.boundMemory == memory)

def releaseRetiredMemoryIfUnused (s : Backend) (memory : Nat) : Backend :=
  if memory = 0 ∨ memory ∉ s.retiredMemories then s
  else if s.retainedByResource memory then s
  else
    let freed := match s.destroyDeviceLeaf memory .memory with
      | .ok next => next
      | .error _ => s
    { freed with
      memoryObjects := s.memoryObjects.erase memory
      retiredMemories := s.retiredMemories.erase memory }

def imagesToRelease (s : Backend) (key : LeaseKey) : List (Nat × RetiredImage) :=
  s.retiredImages.toList.filter fun entry =>
    key ∈ entry.2.leases ∧ entry.2.leases.erase key = []

def buffersToRelease (s : Backend) (key : LeaseKey) : List (Nat × RetiredBuffer) :=
  s.retiredBuffers.toList.filter fun entry =>
    key ∈ entry.2.leases ∧ entry.2.leases.erase key = []

/-- Give up one lease: resources nobody holds any more go, and with the last
resource bound to it a retired memory goes too. -/
def releaseRecordingLease (s : Backend) (key : LeaseKey) : Backend :=
  let images := s.imagesToRelease key
  let buffers := s.buffersToRelease key
  let edges := s.retiredImages.toList.countP (fun entry => key ∈ entry.2.leases) +
    s.retiredBuffers.toList.countP (fun entry => key ∈ entry.2.leases)
  let released : Backend :=
    { s with
      retiredImages := s.retiredImages.map fun _ r => { r with leases := r.leases.erase key }
      retiredBuffers := s.retiredBuffers.map fun _ r => { r with leases := r.leases.erase key }
      recordingResourceLeaseEdges := s.recordingResourceLeaseEdges - edges }
  let afterImages := images.foldl
    (fun t entry => Backend.releaseRetiredMemoryIfUnused
      { t with retiredImages := t.retiredImages.erase entry.1 } entry.2.image.boundMemory)
    released
  buffers.foldl
    (fun t entry => Backend.releaseRetiredMemoryIfUnused
      { t with retiredBuffers := t.retiredBuffers.erase entry.1 } entry.2.buffer.boundMemory)
    afterImages

/-- The generations of a command buffer below a bound that hold some lease, in
ascending order. -/
def leasedGenerations (s : Backend) (commandBuffer beforeGeneration : Nat) : List Nat :=
  let keys := s.retiredImages.toList.flatMap (·.2.leases) ++
    s.retiredBuffers.toList.flatMap (·.2.leases)
  let held := keys.filter fun key => key.1 = commandBuffer ∧ key.2 < beforeGeneration
  (held.map Prod.snd).dedup.insertionSort (· ≤ ·)

/-- Give up a command buffer's leases below a generation. The default bound is
the largest generation there is, which it excludes. -/
def releaseRecordingLeasesForCommandBuffer (s : Backend) (commandBuffer : Nat)
    (beforeGeneration : Nat := 2 ^ 64 - 1) : Backend :=
  (s.leasedGenerations commandBuffer beforeGeneration).foldl
    (fun t generation => t.releaseRecordingLease (commandBuffer, generation)) s

end Backend

end VkRelay.Session
