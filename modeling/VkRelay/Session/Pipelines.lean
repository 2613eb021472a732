import VkRelay.Session.Resources

/-!
Shader modules, render passes, framebuffers, pipeline layouts and pipelines. A
framebuffer is made in one of three ways, each with checks of its own; a pipeline
is checked against the layout and render pass it names, which may both be gone by
the time it is drawn with.

The checks of a pipeline request that look at nothing but the request and the
feature bits of the device (specialization data, entry names, vertex divisors,
rasterization streams) are carried as the verdict they come to.
-/

namespace VkRelay.Session

open VkRelay.Lib

/-! ## Shader modules -/

def maxShaderCodeBytes : Nat := 1024 * 1024

structure CreateShaderModuleRequest where
  device : Nat := 0
  codeSize : Nat := 0
  code : List UInt8 := []

namespace Backend

def createShaderModule (s : Backend) (req : CreateShaderModuleRequest) :
    Except String (Backend × Nat) := do
  let _ ← find s.devices req.device "unknown device handle"
  rejectIf (req.codeSize = 0 ∨ req.codeSize % 4 ≠ 0 ∨ req.codeSize > maxShaderCodeBytes ∨
      req.code.length ≠ req.codeSize)
    ("malformed SPIR-V (size must be > 0, a multiple of 4, within the cap, and match the " ++
     "payload length)")
  return (s.create .shaderModule req.device { device := req.device }, s.nextHandle)

def destroyShaderModule (s : Backend) (handle : Nat) : Except String Backend := do
  let shader ← find s.shaderModules handle "unknown shader module handle"
  return s.discard .shaderModule shader.device handle

end Backend

/-! ## Render passes -/

structure AttachmentDesc where
  format : Int := -1
  samples : Int := -1
  loadOp : Int := -1
  storeOp : Int := -1
  stencilLoadOp : Int := -1
  stencilStoreOp : Int := -1
  initialLayout : Int := -1
  finalLayout : Int := -1
  deriving DecidableEq

structure SubpassDependencyDesc where
  srcSubpass : Int := -1
  dstSubpass : Int := -1
  srcStage : Int := -1
  dstStage : Int := -1
  srcAccess : Int := -1
  dstAccess : Int := -1
  dependencyFlags : Int := -1

structure CreateRenderPassRequest where
  device : Nat := 0
  attachments : List AttachmentDesc := []
  colorAttachment : Int := -1
  colorLayout : Int := -1
  depthAttachment : Int := -1
  depthLayout : Int := -1
  colorRefs : List ColorRefDesc := []
  dependencies : List SubpassDependencyDesc := []
  viewMask : Int := 0

def attachmentLoadOpClear : Int := 1
def attachmentLoadOpDontCare : Int := 2
def attachmentStoreOpStore : Int := 0
def attachmentStoreOpDontCare : Int := 1
def imageLayoutColorAttachmentOptimal : Int := 2
def imageLayoutDepthStencilAttachmentOptimal : Int := 3
def imageLayoutPresentSrcKhr : Int := 1000001002
def subpassExternal : Int := 0xFFFFFFFF
def dependencyByRegionBit : Int := 1
def maxColorAttachments : Nat := 8

def ColorRefDesc.used (ref : ColorRefDesc) : Bool :=
  ref.attachment != -1

def checkColorRef (attachments : Nat) (ref : ColorRefDesc) : Except String Unit :=
  rejectIf (ref.used ∧ (ref.attachment < 0 ∨ ref.attachment ≥ attachments ∨ ref.layout < 0))
    "render pass color ref out of range or with an invalid layout"

def CreateRenderPassRequest.format (req : CreateRenderPassRequest) (attachment : Int) : Int :=
  ((req.attachments[attachment.toNat]?).map (·.format)).getD 0

/-- A render pass with a vector of colour references; the first used one gives
the format that pipelines and framebuffers are compared with. -/
def CreateRenderPassRequest.mrtPass (req : CreateRenderPassRequest) : Except String RenderPass := do
  rejectIf (req.colorRefs.length > maxColorAttachments)
    "render pass color attachment count exceeds the device limit"
  checkAll req.colorRefs (checkColorRef req.attachments.length)
  let hasDepth := 0 ≤ req.depthAttachment
  rejectIf (req.attachments.isEmpty ∨ (!req.colorRefs.any (·.used) ∧ ¬hasDepth) ∨
      (hasDepth ∧ req.depthAttachment ≥ req.attachments.length))
    "render pass needs >=1 attachment and an in-range colour/depth ref"
  return { device := req.device
           colorFormat :=
             ((req.colorRefs.find? (·.used)).map fun ref => req.format ref.attachment).getD 0
           depthFormat := if hasDepth then req.format req.depthAttachment else 0
           colorRefs := req.colorRefs
           attachmentFormats := req.attachments.map (·.format)
           viewMask := req.viewMask }

/-- The attachment apart from its format is the one given. -/
def AttachmentDesc.like (a shape : AttachmentDesc) : Bool :=
  a = { shape with format := a.format }

def colorAttachmentShape : AttachmentDesc :=
  { samples := sampleCount1, loadOp := attachmentLoadOpClear, storeOp := attachmentStoreOpStore,
    stencilLoadOp := attachmentLoadOpDontCare, stencilStoreOp := attachmentStoreOpDontCare,
    initialLayout := imageLayoutUndefined, finalLayout := imageLayoutPresentSrcKhr }

def depthAttachmentShape : AttachmentDesc :=
  { colorAttachmentShape with
    storeOp := attachmentStoreOpDontCare
    finalLayout := imageLayoutDepthStencilAttachmentOptimal }

def checkDependency (d : SubpassDependencyDesc) : Except String Unit :=
  rejectIf ((d.srcSubpass ≠ 0 ∧ d.srcSubpass ≠ subpassExternal) ∨
      (d.dstSubpass ≠ 0 ∧ d.dstSubpass ≠ subpassExternal) ∨ !validStageMask d.srcStage ∨
      !validStageMask d.dstStage ∨ !validAccessMask d.srcAccess ∨ !validAccessMask d.dstAccess ∨
      d.dependencyFlags < 0 ∨ d.dependencyFlags > dependencyByRegionBit)
    ("render pass dependency outside the supported subset (subpass in \x7bEXTERNAL, 0\x7d, " ++
     "valid masks, flags in \x7b0, BY_REGION\x7d)")

/-- A render pass of the older shape: one colour attachment and at most one depth
attachment, both with fixed operations. -/
def CreateRenderPassRequest.plainPass (req : CreateRenderPassRequest) :
    Except String RenderPass := do
  let hasDepth := 0 ≤ req.depthAttachment
  let color := req.attachments.getD 0 {}
  let depth := req.attachments.getD 1 {}
  rejectIf (req.attachments.length ≠ if hasDepth then 2 else 1)
    "render pass attachment count must be 1 (color) or 2 (color + depth)"
  rejectIf (color.format < 0 ∨ !color.like colorAttachmentShape)
    ("render pass color attachment outside the subset (samples 1, loadOp CLEAR, storeOp STORE, " ++
     "stencil DONT_CARE, UNDEFINED -> PRESENT_SRC_KHR)")
  rejectIf (req.colorAttachment ≠ 0 ∨ req.colorLayout ≠ imageLayoutColorAttachmentOptimal)
    "render pass subpass must reference attachment 0 as COLOR_ATTACHMENT_OPTIMAL"
  rejectIf (hasDepth ∧ (req.depthAttachment ≠ 1 ∨
      req.depthLayout ≠ imageLayoutDepthStencilAttachmentOptimal))
    "render pass depth ref must be attachment 1 as DEPTH_STENCIL_ATTACHMENT_OPTIMAL"
  rejectIf (hasDepth ∧ (depth.format ≠ formatD16Unorm ∨ !depth.like depthAttachmentShape))
    ("render pass depth attachment outside the subset (D16_UNORM, samples 1, loadOp CLEAR, " ++
     "storeOp DONT_CARE, stencil DONT_CARE, UNDEFINED -> DEPTH_STENCIL_ATTACHMENT_OPTIMAL)")
  rejectIf (req.dependencies.length > 2) "render pass allows at most two dependencies"
  checkAll req.dependencies checkDependency
  return { device := req.device
           colorFormat := color.format
           depthFormat := if hasDepth then depth.format else 0
           viewMask := req.viewMask }

def CreateRenderPassRequest.renderPass (req : CreateRenderPassRequest) :
    Except String RenderPass :=
  if req.colorRefs.isEmpty then req.plainPass else req.mrtPass

namespace Backend

def createRenderPass (s : Backend) (req : CreateRenderPassRequest) :
    Except String (Backend × Nat) := do
  let dev ← find s.devices req.device "unknown device handle"
  rejectIf (req.viewMask ≠ 0 ∧ !dev.multiviewFeatureEnabled)
    "render pass viewMask (multiview) requires the multiview feature enabled"
  rejectIf (req.viewMask < 0) "render pass viewMask is negative (malformed)"
  let rp ← req.renderPass
  return (s.create .renderPass req.device rp, s.nextHandle)

def destroyRenderPass (s : Backend) (handle : Nat) : Except String Backend := do
  let rp ← find s.renderPasses handle "unknown render pass handle"
  return (s.invalidateCbsReferencing handle).discard .renderPass rp.device handle

end Backend

/-! ## Framebuffers -/

structure CreateFramebufferRequest where
  device : Nat := 0
  renderPass : Nat := 0
  imageView : Nat := 0
  depthImageView : Nat := 0
  width : Int32 := -1
  height : Int32 := -1
  layers : Int := -1
  imageless : Bool := false
  attachmentCount : Int := 0
  attachmentInfos : Nat := 0
  attachmentViews : List Nat := []

/-- What every framebuffer keeps of its request and its render pass. -/
def CreateFramebufferRequest.base (req : CreateFramebufferRequest) (rp : RenderPass) :
    Framebuffer :=
  { device := req.device, renderPass := req.renderPass, compatColorFormat := rp.colorFormat,
    compatDepthFormat := rp.depthFormat, width := req.width, height := req.height }

/-- An imageless framebuffer gets its views when a render pass begins. -/
def CreateFramebufferRequest.imagelessFramebuffer (req : CreateFramebufferRequest)
    (rp : RenderPass) : Except String Framebuffer := do
  rejectIf (req.width ≤ 0 ∨ req.height ≤ 0 ∨ req.layers ≤ 0 ∨ req.attachmentCount ≤ 0)
    "imageless framebuffer has invalid dimensions or attachment count"
  rejectIf (req.attachmentInfos ≠ 0 ∧ (req.attachmentInfos : Int) ≠ req.attachmentCount)
    "imageless framebuffer attachment count disagrees with attachment metadata"
  return { req.base rp with imageless := true, attachmentCount := req.attachmentCount.toNat }

namespace Backend

/-- One position of a view vector against the format the pass gives it. -/
def checkAttachmentView (s : Backend) (device : Nat) (requiredLayers : Int) (view : Nat)
    (format : Int) : Except String Unit := do
  let iv ← findOn ImageView.device s.imageViews view device
    "framebuffer attachment view is unknown or on a different device"
  let image ← find s.images iv.image
    "framebuffer view format does not match the render pass attachment (position)"
  rejectIf (image.format ≠ format)
    "framebuffer view format does not match the render pass attachment (position)"
  rejectIf ((image.arrayLayers.toNat : Int) < requiredLayers)
    "framebuffer attachment has too few array layers for the render pass viewMask (multiview)"

/-- A framebuffer with a view for every attachment. Its extent is compared with
nothing, and only the first view is kept where a render pass looks for it. -/
def mrtFramebuffer (s : Backend) (req : CreateFramebufferRequest) (rp : RenderPass) :
    Except String Framebuffer := do
  rejectIf (req.attachmentViews.length ≠ rp.attachmentFormats.length)
    "framebuffer view count does not match the render pass attachment count"
  rejectIf (req.width ≤ 0 ∨ req.height ≤ 0 ∨ req.layers ≠ 1)
    "framebuffer outside the supported subset (one layer, positive extent)"
  checkAll (req.attachmentViews.zip rp.attachmentFormats) fun entry =>
    s.checkAttachmentView req.device (multiviewRequiredLayers rp.viewMask) entry.1 entry.2
  return { req.base rp with
           imageView := req.attachmentViews.headD 0
           attachmentViews := req.attachmentViews }

def checkColorView (s : Backend) (req : CreateFramebufferRequest) (rp : RenderPass) :
    Except String Unit := do
  let iv ← findOn ImageView.device s.imageViews req.imageView req.device
    "framebuffer image view is unknown or on a different device"
  let image ← find s.images iv.image
    "framebuffer image view format does not match the render pass attachment"
  rejectIf (image.format ≠ rp.colorFormat)
    "framebuffer image view format does not match the render pass attachment"
  rejectIf ((image.arrayLayers.toNat : Int) < multiviewRequiredLayers rp.viewMask)
    "framebuffer color attachment has too few array layers for the render pass viewMask (multiview)"
  rejectIf (req.width ≤ 0 ∨ req.height ≤ 0 ∨ req.layers ≠ 1)
    "framebuffer outside the supported subset (one layer, positive extent)"
  let sc ← find s.swapchains image.swapchain
    "framebuffer extent does not match the swapchain extent"
  rejectIf (req.width.toInt ≠ sc.width ∨ req.height.toInt ≠ sc.height)
    "framebuffer extent does not match the swapchain extent"

def checkDepthView (s : Backend) (req : CreateFramebufferRequest) (rp : RenderPass) :
    Except String Unit :=
  if rp.depthFormat = 0 then
    rejectIf (req.depthImageView ≠ 0)
      "framebuffer carries a depth view but the render pass has no depth attachment"
  else do
    rejectIf (req.depthImageView = 0)
      "framebuffer for a depth render pass needs a depth view on the device"
    let iv ← findOn ImageView.device s.imageViews req.depthImageView req.device
      "framebuffer for a depth render pass needs a depth view on the device"
    let image ← find s.images iv.image
      "framebuffer depth view does not match the render pass depth attachment"
    rejectIf (!image.appCreated ∨ image.format ≠ rp.depthFormat ∨
        (image.aspect : Int) ≠ imageAspectDepth)
      "framebuffer depth view does not match the render pass depth attachment"
    rejectIf ((image.arrayLayers.toNat : Int) < multiviewRequiredLayers rp.viewMask)
      ("framebuffer depth attachment has too few array layers for the render pass viewMask " ++
       "(multiview)")
    rejectIf ((image.width.toNat : Int) ≠ req.width.toInt ∨
        (image.height.toNat : Int) ≠ req.height.toInt)
      "framebuffer depth view extent does not match the framebuffer extent"

/-- A framebuffer of the older shape, over a swapchain image and a depth image of
the same extent. -/
def plainFramebuffer (s : Backend) (req : CreateFramebufferRequest) (rp : RenderPass) :
    Except String Framebuffer := do
  s.checkColorView req rp
  s.checkDepthView req rp
  return { req.base rp with
           imageView := req.imageView
           depthImageView := req.depthImageView }

def framebuffer (s : Backend) (req : CreateFramebufferRequest) (rp : RenderPass) :
    Except String Framebuffer :=
  if req.imageless then req.imagelessFramebuffer rp
  else if req.attachmentViews.isEmpty then s.plainFramebuffer req rp
  else s.mrtFramebuffer req rp

def createFramebuffer (s : Backend) (req : CreateFramebufferRequest) :
    Except String (Backend × Nat) := do
  let _ ← find s.devices req.device "unknown device handle"
  let rp ← findOn RenderPass.device s.renderPasses req.renderPass req.device
    "framebuffer render pass is unknown or on a different device"
  let fb ← s.framebuffer req rp
  return (s.create .framebuffer req.device fb, s.nextHandle)

def destroyFramebuffer (s : Backend) (handle : Nat) : Except String Backend := do
  let fb ← find s.framebuffers handle "unknown framebuffer handle"
  return (s.invalidateCbsReferencing handle).discard .framebuffer fb.device handle

end Backend

/-! ## Pipeline layouts -/

structure PushConstantRange where
  stageFlags : Nat := 0
  offset : Nat := 0
  size : Nat := 0

structure CreatePipelineLayoutRequest where
  device : Nat := 0
  setLayoutCount : Int := 0
  setLayouts : List Nat := []
  pushConstantRangeCount : Int := 0
  pushConstantRanges : List PushConstantRange := []

def maxPipelineLayoutSetLayouts : Nat := 32
def maxPushConstantRanges : Nat := 8
def maxPushConstantBytes : Nat := 256

def checkPushConstantRange (pc : PushConstantRange) : Except String Unit :=
  rejectIf (pc.stageFlags = 0 ∨ pc.size = 0 ∨ pc.offset % 4 ≠ 0 ∨ pc.size % 4 ≠ 0 ∨
      pc.offset > maxPushConstantBytes ∨ pc.size > maxPushConstantBytes ∨
      pc.offset + pc.size > maxPushConstantBytes)
    "push-constant range out of subset (stage/align/size bound)"

namespace Backend

def createPipelineLayout (s : Backend) (req : CreatePipelineLayoutRequest) :
    Except String (Backend × Nat) := do
  let _ ← find s.devices req.device "unknown device handle"
  rejectIf (req.pushConstantRangeCount ≠ req.pushConstantRanges.length)
    "pipeline layout push_constant_range_count disagrees with the carried list"
  rejectIf (req.pushConstantRanges.length > maxPushConstantRanges)
    "pipeline layout has too many push-constant ranges"
  checkAll req.pushConstantRanges checkPushConstantRange
  rejectIf (req.setLayoutCount ≠ req.setLayouts.length)
    "pipeline layout set_layout_count disagrees with the carried set-layout list"
  rejectIf (req.setLayouts.length > maxPipelineLayoutSetLayouts)
    "pipeline layout has too many set layouts"
  checkAll req.setLayouts fun layout => do
    let _ ← findOn DescriptorSetLayout.device s.descriptorSetLayouts layout req.device
      "pipeline layout references a set layout not on the device"
    .ok ()
  return (s.create .pipelineLayout req.device
    { device := req.device, setLayouts := req.setLayouts }, s.nextHandle)

def destroyPipelineLayout (s : Backend) (handle : Nat) : Except String Backend := do
  let layout ← find s.pipelineLayouts handle "unknown pipeline layout handle"
  return (s.invalidateCbsReferencing handle).discard .pipelineLayout layout.device handle

end Backend

/-! ## Pipelines -/

structure ShaderStageDesc where
  stage : Int := 0
  shaderModule : Nat := 0
  stageFlags : Int := 0
  requiredSubgroupSize : Int := 0
  entryVerdict : Except String Unit := .ok ()

structure CreateGraphicsPipelinesRequest where
  device : Nat := 0
  pipelineCache : Nat := 0
  stages : List ShaderStageDesc := []
  topology : Int := 0
  patchControlPoints : Int := 0
  vertexBindingCount : Int := 0
  vertexAttributeCount : Int := 0
  vertexBindingStrides : List Nat := []
  vertexAttributeOffsets : List Nat := []
  dynamicStates : List Int := []
  cullMode : Int := 0
  frontFace : Int := 0
  layout : Nat := 0
  renderPass : Nat := 0
  subpass : Int := 0
  colorBlendAttachments : Nat := 0
  hasDepthStencil : Bool := false
  depthTestEnable : Int := 0
  depthWriteEnable : Int := 0
  depthCompareOp : Int := 0
  hasDynamicRendering : Bool := false
  drViewMask : Int := 0
  drColorFormats : List Int := []
  drDepthFormat : Int := 0
  drStencilFormat : Int := 0
  specializationVerdict : Except String Unit := .ok ()
  divisorVerdict : Except String Unit := .ok ()
  streamVerdict : Except String Unit := .ok ()

structure CreateComputePipelinesRequest where
  device : Nat := 0
  pipelineCache : Nat := 0
  shaderModule : Nat := 0
  layout : Nat := 0
  entryPointEmpty : Bool := false
  stageFlags : Int := 0
  requiredSubgroupSize : Int := 0
  specializationVerdict : Except String Unit := .ok ()
  entryVerdict : Except String Unit := .ok ()

def shaderStageVertex : Int := 1
def shaderStageTessControl : Int := 2
def shaderStageTessEvaluation : Int := 4
def graphicsStages : List Int := [1, 2, 4, 8, 16]
def topologyPatchList : Int := 10
def cullModeMaxSubset : Int := 2
def frontFaceClockwise : Int := 1
def compareOpLessOrEqual : Int := 3
def vk13FeatureSubgroupSizeControl : Nat := 2 ^ 7
def vk13FeatureComputeFullSubgroups : Nat := 2 ^ 8

/-- The subgroup shape of a stage, gated on the 1.3 features. -/
def checkStageShape (dev : Device) (stageFlags requiredSubgroupSize : Int) (allowed : List Int)
    (featureReason flagsReason : String) : Except String Unit :=
  if stageFlags = 0 ∧ requiredSubgroupSize = 0 then .ok ()
  else do
    rejectIf (!hasFlag dev.vk13FeatureBits vk13FeatureSubgroupSizeControl) featureReason
    rejectIf (stageFlags ∉ allowed) flagsReason

namespace Backend

def checkGraphicsStage (s : Backend) (device : Nat) (stage : ShaderStageDesc) :
    Except String Unit := do
  stage.entryVerdict
  rejectIf (stage.stage ∉ graphicsStages)
    "graphics pipeline stage is not a single graphics stage bit"
  let _ ← findOn ShaderModule.device s.shaderModules stage.shaderModule device
    "pipeline stage references a shader module not on the device"
  .ok ()

/-- The stages of a graphics pipeline. The source looks for a duplicate stage in
the same pass; only which of two reasons is named depends on that. -/
def checkGraphicsStages (s : Backend) (req : CreateGraphicsPipelinesRequest) :
    Except String Unit := do
  let kinds := req.stages.map (·.stage)
  rejectIf req.stages.isEmpty "graphics pipeline has no shader stages"
  checkAll req.stages (s.checkGraphicsStage req.device)
  rejectIf (¬kinds.Nodup) "graphics pipeline has duplicate shader stages"
  rejectIf (shaderStageVertex ∉ kinds) "graphics pipeline requires a VERTEX stage"
  rejectIf (¬(shaderStageTessControl ∈ kinds ↔ shaderStageTessEvaluation ∈ kinds))
    "graphics pipeline needs both tessellation stages or neither"
  rejectIf (req.topology < 0 ∨ req.topology > topologyPatchList)
    "graphics pipeline topology out of range"
  rejectIf (¬(shaderStageTessControl ∈ kinds ↔ req.topology = topologyPatchList))
    "tessellation stages require PATCH_LIST topology (and vice versa)"
  rejectIf (req.topology = topologyPatchList ∧
      (req.patchControlPoints < 1 ∨ req.patchControlPoints > 32))
    "PATCH_LIST requires patchControlPoints in [1, 32]"

def checkVertexInput (req : CreateGraphicsPipelinesRequest) : Except String Unit := do
  rejectIf (req.vertexBindingCount ≠ req.vertexBindingStrides.length ∨
      req.vertexAttributeCount ≠ req.vertexAttributeOffsets.length)
    "vertex binding/attribute counts disagree with the carried arrays"
  checkAll req.vertexBindingStrides fun stride =>
    rejectIf ((stride : Int) > vkFlagsMax) "vertex binding stride exceeds UINT32_MAX"
  checkAll req.vertexAttributeOffsets fun offset =>
    rejectIf ((offset : Int) > vkFlagsMax) "vertex attribute offset exceeds UINT32_MAX"

def checkDynamicRenderingPipeline (dev : Device) (req : CreateGraphicsPipelinesRequest) :
    Except String Unit := do
  rejectIf ((Extension.dynamicRendering ∉ dev.enabledExts ∧ !dev.vk13Device) ∨
      !dev.dynamicRenderingFeatureEnabled)
    ("dynamic-rendering pipeline requires VK_KHR_dynamic_rendering AND the dynamicRendering " ++
     "feature enabled on the device")
  rejectIf (req.renderPass ≠ 0) "dynamic-rendering pipeline must not also target a render pass"
  rejectIf (req.drViewMask ≠ 0 ∧ !dev.multiviewFeatureEnabled)
    "dynamic-rendering pipeline viewMask (multiview) requires the multiview feature enabled"
  rejectIf (req.drViewMask < 0) "dynamic-rendering pipeline viewMask is negative (malformed)"
  rejectIf ((req.drColorFormats.length : Int) > maxDynamicRenderingColorAttachments)
    "dynamic-rendering pipeline color attachment count out of range"
  rejectIf (req.subpass > 0) "dynamic-rendering pipeline subpass must be 0"
  rejectIf (req.colorBlendAttachments ≠ 0 ∧
      req.colorBlendAttachments ≠ req.drColorFormats.length)
    ("pipeline color blend attachment count does not match the dynamic-rendering color " ++
     "attachment count")
  rejectIf ((req.drDepthFormat ≠ 0 ∨ req.drStencilFormat ≠ 0) ∧ !req.hasDepthStencil)
    "dynamic-rendering pipeline declares a depth/stencil format but carries no depth-stencil state"

/-- The number of colour attachments of the subpass, holes included. -/
def colorRefCount (rp : RenderPass) : Nat :=
  if rp.colorRefs.isEmpty then (if rp.colorFormat = 0 then 0 else 1) else rp.colorRefs.length

def checkRenderPassPipeline (s : Backend) (req : CreateGraphicsPipelinesRequest) :
    Except String Unit := do
  let rp ← findOn RenderPass.device s.renderPasses req.renderPass req.device
    "pipeline render pass is unknown or on a different device"
  rejectIf (req.subpass ≠ 0) "graphics pipeline targets subpass 0"
  rejectIf (req.colorBlendAttachments ≠ 0 ∧ req.colorBlendAttachments ≠ colorRefCount rp)
    ("pipeline color blend attachment count does not match the render pass subpass color " ++
     "attachment count")
  rejectIf (req.hasDepthStencil ≠ (rp.depthFormat != 0))
    ("graphics pipeline depth-stencil state must be present iff the render pass has a depth " ++
     "attachment")

def checkDepthStencilState (req : CreateGraphicsPipelinesRequest) : Except String Unit :=
  rejectIf (req.hasDepthStencil ∧ ((req.depthTestEnable ≠ 0 ∧ req.depthTestEnable ≠ 1) ∨
      (req.depthWriteEnable ≠ 0 ∧ req.depthWriteEnable ≠ 1) ∨
      req.depthCompareOp ≠ compareOpLessOrEqual))
    "depth-stencil state is test/write in \x7b0,1\x7d, compare LESS_OR_EQUAL, no stencil/bounds"

/-- The compatibility key of a dynamic-rendering pipeline is its own formats. -/
def graphicsPipeline (req : CreateGraphicsPipelinesRequest) (layout : PipelineLayout) : Pipeline :=
  let base : Pipeline :=
    { device := req.device, layout := req.layout, renderPass := req.renderPass,
      vertexBindingCount := req.vertexBindingStrides.length, declaredSets := layout.setLayouts }
  if req.hasDynamicRendering then
    { base with dynamicRendering := true, viewMask := req.drViewMask,
                colorFormats := req.drColorFormats, depthFormat := req.drDepthFormat,
                stencilFormat := req.drStencilFormat }
  else base

def createGraphicsPipelines (s : Backend) (req : CreateGraphicsPipelinesRequest) :
    Except String (Backend × Nat) := do
  let dev ← find s.devices req.device "unknown device handle"
  req.specializationVerdict
  checkAll req.stages fun stage =>
    checkStageShape dev stage.stageFlags stage.requiredSubgroupSize [0, 1]
      "pipeline stage subgroup-size shape requires the enabled subgroupSizeControl feature"
      "pipeline stage flags outside the served set"
  rejectIf (req.pipelineCache ≠ 0) "graphics pipeline requires pipelineCache == VK_NULL_HANDLE"
  s.checkGraphicsStages req
  checkVertexInput req
  req.divisorVerdict
  req.streamVerdict
  rejectIf (req.dynamicStates ≠ [0, 1])
    "graphics pipeline requires dynamic state \x7bVIEWPORT, SCISSOR\x7d"
  rejectIf (req.cullMode < 0 ∨ req.cullMode > cullModeMaxSubset ∨ req.frontFace < 0 ∨
      req.frontFace > frontFaceClockwise)
    "graphics pipeline has an out-of-range cull mode / front face"
  let layout ← findOn PipelineLayout.device s.pipelineLayouts req.layout req.device
    "pipeline layout is unknown or on a different device"
  if req.hasDynamicRendering then checkDynamicRenderingPipeline dev req
  else s.checkRenderPassPipeline req
  checkDepthStencilState req
  return (s.create .pipeline req.device (graphicsPipeline req layout), s.nextHandle)

def createComputePipelines (s : Backend) (req : CreateComputePipelinesRequest) :
    Except String (Backend × Nat) := do
  let dev ← find s.devices req.device "unknown device handle"
  req.specializationVerdict
  checkStageShape dev req.stageFlags req.requiredSubgroupSize
    (if hasFlag dev.vk13FeatureBits vk13FeatureComputeFullSubgroups then [0, 1, 2, 3] else [0, 1])
    "compute stage subgroup-size shape requires the enabled subgroupSizeControl feature"
    "compute stage flags outside the served set"
  rejectIf (req.pipelineCache ≠ 0) "compute pipeline requires pipelineCache == VK_NULL_HANDLE"
  let _ ← findOn ShaderModule.device s.shaderModules req.shaderModule req.device
    "compute pipeline references a shader module not on the device"
  let layout ← findOn PipelineLayout.device s.pipelineLayouts req.layout req.device
    "compute pipeline references a pipeline layout not on the device"
  rejectIf req.entryPointEmpty "compute pipeline entry point must be non-empty"
  req.entryVerdict
  return (s.create .pipeline req.device
    { device := req.device, layout := req.layout, compute := true,
      declaredSets := layout.setLayouts }, s.nextHandle)

def destroyPipeline (s : Backend) (handle : Nat) : Except String Backend := do
  let pipeline ← find s.pipelines handle "unknown pipeline handle"
  return (s.invalidateCbsReferencing handle).discard .pipeline pipeline.device handle

end Backend

end VkRelay.Session
