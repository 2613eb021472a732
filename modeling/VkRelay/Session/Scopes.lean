import VkRelay.Session.Descriptors

/-!
The record pass, first half: the state it threads through a command stream, and
the commands that open and close scopes, bind state, draw and dispatch. Each
command kind is one function that either names the reason it refuses the stream
or returns the next state.
-/

namespace VkRelay.Session

open VkRelay.Lib

inductive RenderScope where
  | none | renderPass | dynamicRendering
  deriving DecidableEq, Repr

inductive BindPoint where
  | graphics | compute
  deriving DecidableEq, Repr

/-- What the pass knows after a prefix of the stream. -/
structure Recording where
  referencedSurfaces : Finset Nat := ∅
  referencedSwapchains : Finset Nat := ∅
  referencedDrawObjects : Finset Nat := ∅
  activeScope : RenderScope := .none
  activeRpFormat : Int := 0
  activeRpDepthFormat : Int := 0
  activeDrColorFormats : List Int := []
  activeDrDepthFormat : Int := 0
  activeDrStencilFormat : Int := 0
  activeDrViewMask : Int := 0
  boundPipeline : BindPoint → Nat := fun _ => 0
  boundDescLayout : BindPoint → Nat := fun _ => 0
  boundDescSets : BindPoint → List Nat := fun _ => []
  viewportSet : Bool := false
  scissorSet : Bool := false
  boundVertexBindings : Finset Int := ∅
  indexBound : Bool := false
  xfbActive : Bool := false
  condRenderActive : Bool := false
  condRenderBeganInRp : Bool := false
  activeQueries : Finset (Nat × Nat) := ∅

namespace Recording

/-- Bake handles into the recording: destroying one of them drops it. -/
def bake (r : Recording) (handles : List Nat) : Recording :=
  { r with referencedDrawObjects := r.referencedDrawObjects ∪ handles.toFinset }

/-- Note the surface and swapchain behind an image. -/
def noteImage (r : Recording) (image : Image) : Recording :=
  { r with
    referencedSurfaces := insert image.surface r.referencedSurfaces
    referencedSwapchains := insert image.swapchain r.referencedSwapchains }

end Recording

/-- What the pass reads: the object tables, with the leased resources exposed,
and the device of the command buffer. -/
structure RecordContext where
  backend : Backend
  device : Nat
  mdev : Device

namespace RecordContext

def findImage (ctx : RecordContext) (handle : Nat) (reason : String) : Except String Image :=
  findOn Image.device ctx.backend.images handle ctx.device reason

def findBuffer (ctx : RecordContext) (handle : Nat) (reason : String) : Except String Buffer :=
  findOn Buffer.device ctx.backend.buffers handle ctx.device reason

def findBoundBuffer (ctx : RecordContext) (handle : Nat) (reason : String) :
    Except String Buffer := do
  let buffer ← ctx.findBuffer handle reason
  rejectIf (buffer.boundMemory = 0) reason
  return buffer

variable {ctx : RecordContext} {handle : Nat} {reason : String}

@[simp] theorem findImage_eq_ok {image : Image} : ctx.findImage handle reason = .ok image ↔
      ctx.backend.images[handle]? = some image ∧ image.device = ctx.device := by
  simp [findImage]

@[simp] theorem findBuffer_eq_ok {buffer : Buffer} : ctx.findBuffer handle reason = .ok buffer ↔
      ctx.backend.buffers[handle]? = some buffer ∧ buffer.device = ctx.device := by
  simp [findBuffer]

@[simp] theorem findBoundBuffer_eq_ok {buffer : Buffer} :
    ctx.findBoundBuffer handle reason = .ok buffer ↔
      ctx.backend.buffers[handle]? = some buffer ∧ buffer.device = ctx.device ∧
        buffer.boundMemory ≠ 0 := by
  simp only [findBoundBuffer, findBuffer_eq_ok, accept_rules]
  constructor
  · rintro ⟨found, ⟨hfound, hdevice⟩, -, hbound, rfl⟩
    exact ⟨hfound, hdevice, hbound⟩
  · rintro ⟨hfound, hdevice, hbound⟩
    exact ⟨buffer, ⟨hfound, hdevice⟩, (), hbound, rfl⟩

/-- An image the application created and never bound to memory. -/
def unboundAppImage (image : Image) : Bool :=
  image.appCreated && image.boundMemory == 0

end RecordContext

open RecordContext

/-! ## Image barriers and clears -/

def recordPipelineBarrier (ctx : RecordContext) (c : RecordedCommand) (r : Recording) :
    Except String Recording := do
  let image ← ctx.findImage c.image "command references an image not on the command buffer's device"
  rejectIf (unboundAppImage image) "command references an app image not bound to memory"
  rejectIf (c.oldLayout < 0 ∨ c.newLayout < 0 ∨ c.aspect < 1 ∨ !validStageMask c.srcStage ∨
      !validStageMask c.dstStage ∨ !validAccessMask c.srcAccess ∨ !validAccessMask c.dstAccess)
    "malformed pipeline_barrier command"
  return (r.noteImage image).bake [c.image]

def recordClearColorImage (ctx : RecordContext) (c : RecordedCommand) (r : Recording) :
    Except String Recording := do
  let image ← ctx.findImage c.image "command references an image not on the command buffer's device"
  rejectIf (unboundAppImage image) "command references an app image not bound to memory"
  rejectIf (c.layout < 0) "malformed clear_color_image command"
  rejectIf (!image.transferDst) "clear_color_image target image lacks TRANSFER_DST usage"
  return (r.noteImage image).bake [c.image]

/-! ## Render passes -/

/-- The depth clear lies outside the unit interval; NaN does not. -/
def depthClearOutside (c : RecordedCommand) : Bool :=
  match c.depthClear with
  | some q => q < 0 || 1 < q
  | none => false

def checkDepthClear (c : RecordedCommand) (rp : RenderPass) : Except String Unit := do
  rejectIf (rp.depthFormat ≠ 0 ∧ (!c.hasDepthClear ∨ depthClearOutside c))
    "begin_render_pass on a depth render pass needs a depth clear in [0,1]"
  rejectIf (rp.depthFormat = 0 ∧ c.hasDepthClear)
    "begin_render_pass carries a depth clear but the render pass has no depth attachment"

/-- The render area as the source compares it, in 32-bit arithmetic. -/
def renderAreaRefused (c : RecordedCommand) (fb : Framebuffer) : Bool :=
  c.renderAreaX.toInt < 0 || c.renderAreaY.toInt < 0 || c.renderAreaW.toInt ≤ 0 ||
    c.renderAreaH.toInt ≤ 0 || addI32 c.renderAreaX.toInt c.renderAreaW.toInt > fb.width.toInt ||
    addI32 c.renderAreaY.toInt c.renderAreaH.toInt > fb.height.toInt

/-- Note what is behind the image of a view, when that image resolves. -/
def noteViewImage (ctx : RecordContext) (r : Recording) (image : Nat) : Recording :=
  match ctx.backend.images[image]? with
  | some img => r.noteImage img
  | none => r

def noteView (ctx : RecordContext) (r : Recording) (view : Nat) : Recording :=
  match ctx.backend.imageViews[view]? with
  | some iv => noteViewImage ctx r iv.image
  | none => r

/-- The attachments of the framebuffer: the views the command supplies for an
imageless one, otherwise the colour view and the depth view it was made with. -/
def beginAttachments (ctx : RecordContext) (c : RecordedCommand) (fb : Framebuffer)
    (r : Recording) : Except String Recording :=
  if fb.imageless then do
    rejectIf (c.argsU64.length ≠ fb.attachmentCount)
      "imageless begin_render_pass view count mismatch"
    checkAll c.handles fun view => do
      let _ ← findOn ImageView.device ctx.backend.imageViews view ctx.device
        "imageless begin_render_pass view not on the device"
      .ok ()
    return (c.handles.foldl (noteView ctx) r).bake c.handles
  else do
    let iv ← find ctx.backend.imageViews fb.imageView
      "begin_render_pass framebuffer color view has been destroyed"
    rejectIf (fb.depthImageView ≠ 0 ∧ (ctx.backend.imageViews[fb.depthImageView]?).isNone)
      "begin_render_pass framebuffer depth view has been destroyed"
    return (noteViewImage ctx r iv.image).bake
      (fb.imageView :: if fb.depthImageView = 0 then [] else [fb.depthImageView])

def recordBeginRenderPass (ctx : RecordContext) (c : RecordedCommand) (r : Recording) :
    Except String Recording := do
  rejectIf (r.activeScope ≠ .none) "begin_render_pass inside an active render pass"
  let rp ← findOn RenderPass.device ctx.backend.renderPasses c.renderPass ctx.device
    "begin_render_pass references a render pass not on the device"
  let fb ← findOn Framebuffer.device ctx.backend.framebuffers c.framebuffer ctx.device
    "begin_render_pass references a framebuffer not on the device"
  rejectIf (fb.compatColorFormat ≠ rp.colorFormat ∨ fb.compatDepthFormat ≠ rp.depthFormat)
    "begin_render_pass framebuffer is incompatible with the render pass"
  checkDepthClear c rp
  rejectIf (renderAreaRefused c fb)
    "begin_render_pass render area is empty or outside the framebuffer"
  let attached ← beginAttachments ctx c fb r
  return { attached.bake [c.renderPass, c.framebuffer] with
           activeScope := .renderPass
           activeRpFormat := rp.colorFormat
           activeRpDepthFormat := rp.depthFormat }

/-- What the two commands that close a scope check. -/
def checkScopeEnd (scope : RenderScope) (name what place : String) (r : Recording) :
    Except String Unit := do
  rejectIf (r.activeScope ≠ scope) (name ++ " without an active " ++ what)
  rejectIf r.xfbActive (name ++ " with active transform feedback")
  rejectIf (r.condRenderActive ∧ r.condRenderBeganInRp)
    (name ++ " with conditional rendering begun inside the " ++ place)

def recordEndRenderPass (r : Recording) : Except String Recording := do
  checkScopeEnd .renderPass "end_render_pass" "render pass" "render pass" r
  return { r with activeScope := .none }

/-! ## Dynamic rendering -/

def maxDynamicRenderingColorAttachments : Int := 8

def clearValueBytes : Nat := 16

/-- The array layers a view mask addresses: its highest bit and all below. -/
def multiviewRequiredLayers (viewMask : Int) : Int :=
  if viewMask = 0 then 1 else Nat.log2 (toU32 viewMask) + 1

/-- The low 32 bits of a signed value, read as signed again. -/
def toI32 (v : Int) : Int :=
  Int.bmod v (2 ^ 32)

def viewFormat (ctx : RecordContext) (view : Nat) : Int :=
  if view = 0 then 0 else ((ctx.backend.imageViews[view]?).map (·.format)).getD 0

def checkRenderingAttachment (ctx : RecordContext) (viewMask : Int) (view : Nat) :
    Except String Unit :=
  if view = 0 then .ok ()
  else do
    let iv ← findOn ImageView.device ctx.backend.imageViews view ctx.device
      "begin_rendering attachment view not on the device"
    rejectIf ((ctx.backend.images[iv.image]?).any fun image =>
        (image.arrayLayers.toNat : Int) < multiviewRequiredLayers (toI32 viewMask))
      "begin_rendering attachment has too few array layers for the viewMask (multiview)"

def renderingAttachmentCount (c : RecordedCommand) : Nat :=
  (c.i64 7).toNat + (if c.i64 8 % 2 = 1 then 1 else 0) + (if 2 ≤ c.i64 8 then 1 else 0)

def recordBeginRendering (ctx : RecordContext) (c : RecordedCommand) (r : Recording) :
    Except String Recording := do
  rejectIf ((Extension.dynamicRendering ∉ ctx.mdev.enabledExts ∧ !ctx.mdev.vk13Device) ∨
      !ctx.mdev.dynamicRenderingFeatureEnabled)
    ("begin_rendering requires VK_KHR_dynamic_rendering AND the dynamicRendering feature " ++
     "enabled on the device")
  rejectIf (r.activeScope ≠ .none) "begin_rendering inside an active render scope"
  rejectIf (c.argsI64.length < 9) "malformed begin_rendering header"
  let viewMask := c.i64 6
  let colorCount := c.i64 7
  let dsPresence := c.i64 8
  rejectIf (c.i64 0 ≠ 0) "begin_rendering flags not supported (no suspend/resume/secondary)"
  rejectIf (viewMask ≠ 0 ∧ !ctx.mdev.multiviewFeatureEnabled)
    "begin_rendering viewMask (multiview) requires the multiview feature enabled"
  rejectIf (viewMask < 0) "begin_rendering viewMask is negative (malformed)"
  rejectIf (c.i64 5 ≤ 0) "begin_rendering layerCount must be positive"
  rejectIf (colorCount < 0 ∨ colorCount > maxDynamicRenderingColorAttachments ∨ dsPresence < 0 ∨
      dsPresence > 3)
    "begin_rendering color attachment count / depth-stencil presence out of range"
  let hasDepth := dsPresence % 2 = 1
  let hasStencil := 2 ≤ dsPresence
  let attachments := renderingAttachmentCount c
  rejectIf (c.argsI64.length ≠ 9 + attachments * 3 ∨ c.argsU64.length ≠ attachments ∨
      c.argsBlob.length ≠ attachments * clearValueBytes)
    "malformed begin_rendering attachment payload"
  checkAll c.handles (checkRenderingAttachment ctx viewMask)
  let formats := c.handles.map (viewFormat ctx)
  return { r.bake (c.handles.filter (· ≠ 0)) with
           activeScope := .dynamicRendering
           activeDrColorFormats := formats.take colorCount.toNat
           activeDrDepthFormat := if hasDepth then formats.getD colorCount.toNat 0 else 0
           activeDrStencilFormat := if hasStencil then formats.getLastD 0 else 0
           activeDrViewMask := toI32 viewMask }

def recordEndRendering (r : Recording) : Except String Recording := do
  checkScopeEnd .dynamicRendering "end_rendering" "dynamic-rendering scope" "scope" r
  return { r with
           activeScope := .none
           activeDrColorFormats := []
           activeDrDepthFormat := 0
           activeDrStencilFormat := 0
           activeDrViewMask := 0 }

/-! ## Binds -/

/-- The bind point a command carries; an absent one is the graphics point. -/
def carriedBindPoint (c : RecordedCommand) (reason : String) : Except String BindPoint := do
  let point := if c.argsI64.isEmpty then 0 else c.i64 0
  rejectIf (point ≠ 0 ∧ point ≠ 1) reason
  return if point = 1 then .compute else .graphics

def recordBindPipeline (ctx : RecordContext) (c : RecordedCommand) (r : Recording) :
    Except String Recording := do
  let pp ← findOn Pipeline.device ctx.backend.pipelines c.pipeline ctx.device
    "bind_pipeline references a pipeline not on the device"
  let point ← carriedBindPoint c "bind_pipeline bind point must be GRAPHICS or COMPUTE"
  rejectIf ((point == .compute) ≠ pp.compute)
    "bind_pipeline bind point does not match the pipeline's kind"
  return { r.bake [c.pipeline] with
           boundPipeline := Function.update r.boundPipeline point c.pipeline }

def bufferUsageTransferSrc : Nat := 0x1
def bufferUsageVertexBuffer : Nat := 0x80

def recordBindVertexBuffers (ctx : RecordContext) (c : RecordedCommand) (r : Recording) :
    Except String Recording := do
  rejectIf (c.firstBinding ≠ 0) "bind_vertex_buffers requires firstBinding 0"
  rejectIf (c.vertexBuffers.isEmpty ∨ c.vertexBuffers.length ≠ c.vertexBufferOffsets.length)
    "bind_vertex_buffers buffers/offsets are empty or mismatched"
  checkAll c.vertexBuffers fun handle => do
    let buffer ← ctx.findBuffer handle "bind_vertex_buffers references a buffer not on the device"
    rejectIf (!hasFlag buffer.usage bufferUsageVertexBuffer)
      "bind_vertex_buffers buffer lacks VERTEX_BUFFER usage"
  return { r.bake c.vertexBuffers with
           boundVertexBindings := r.boundVertexBindings ∪
             ((List.range c.vertexBuffers.length).map fun i => c.firstBinding + i).toFinset }

/-- Read a positional argument whose index comes from a declared count. -/
def readArg (c : RecordedCommand) (i : Nat) : Except String Nat :=
  match c.argsU64[i]? with
  | some value => .ok value.toNat
  | none => .error outOfRangeRead

def checkVertexBuffer2 (ctx : RecordContext) (c : RecordedCommand) (count handle i : Nat) :
    Except String Unit := do
  let buffer ← ctx.findBoundBuffer handle
    "bind_vertex_buffers2 references a buffer not live/bound on the device"
  rejectIf (!hasFlag buffer.usage bufferUsageVertexBuffer)
    "bind_vertex_buffers2 buffer lacks VERTEX_BUFFER usage"
  let offset ← readArg c ((count + i) % 2 ^ 64)
  rejectIf (offset ≥ buffer.size) "bind_vertex_buffers2 offset is outside the logical buffer"
  if c.i64 2 = 1 then do
    let size ← readArg c ((count * 2 + i) % 2 ^ 64)
    rejectIf (size ≠ vkWholeSize ∧ (size = 0 ∨ size > buffer.size - offset))
      "bind_vertex_buffers2 size is outside the logical buffer"

/-- The extended-dynamic-state commands are core on a 1.3 device. -/
def checkExtendedDynamicState (ctx : RecordContext) : Except String Unit :=
  rejectIf (Extension.extendedDynamicState ∉ ctx.mdev.enabledExts ∧ !ctx.mdev.vk13Device)
    "extended-dynamic-state set requires VK_EXT_extended_dynamic_state or an honest 1.3 device"

def recordBindVertexBuffers2 (ctx : RecordContext) (c : RecordedCommand) (r : Recording) :
    Except String Recording := do
  checkExtendedDynamicState ctx
  rejectIf (c.argsI64.length ≠ 4 ∨ c.i64 0 < 0 ∨ c.i64 1 ≤ 0 ∨ (c.i64 2 ≠ 0 ∧ c.i64 2 ≠ 1) ∨
      (c.i64 3 ≠ 0 ∧ c.i64 3 ≠ 1))
    "malformed bind_vertex_buffers2"
  let count := sizeT (c.i64 1)
  let groups := 2 + sizeT (c.i64 2) + sizeT (c.i64 3)
  rejectIf (c.argsU64.length ≠ count * groups % 2 ^ 64) "bind_vertex_buffers2 payload malformed"
  checkFirst c.handles.zipIdx count fun entry => checkVertexBuffer2 ctx c count entry.1 entry.2
  return { r.bake (c.handles.take count) with
           boundVertexBindings := r.boundVertexBindings ∪
             ((List.range (min count c.argsU64.length)).map fun i =>
               addI32 (toI32 (c.i64 0)) (toI32 i)).toFinset }

def recordBindDescriptorSets (ctx : RecordContext) (c : RecordedCommand) (r : Recording) :
    Except String Recording := do
  rejectIf (c.firstSet ≠ 0) "bind_descriptor_sets requires firstSet 0"
  let pl ← findOn PipelineLayout.device ctx.backend.pipelineLayouts c.descLayout ctx.device
    "bind_descriptor_sets references a pipeline layout not on the device"
  rejectIf pl.setLayouts.isEmpty
    "bind_descriptor_sets against a pipeline layout with no set layouts"
  rejectIf (c.descriptorSets.length ≠ pl.setLayouts.length)
    "bind_descriptor_sets count must equal the pipeline layout's setLayoutCount"
  checkAll (c.descriptorSets.zip pl.setLayouts) fun entry => do
    let set ← findOn DescriptorSet.device ctx.backend.descriptorSets entry.1 ctx.device
      "bind_descriptor_sets references a set not on the device"
    rejectIf (set.layout ≠ entry.2)
      "bound descriptor set was not allocated from the pipeline layout's set layout at that index"
  let point ← carriedBindPoint c "bind_descriptor_sets bind point must be GRAPHICS or COMPUTE"
  return { r.bake (c.descLayout :: c.descriptorSets) with
           boundDescLayout := Function.update r.boundDescLayout point c.descLayout
           boundDescSets := Function.update r.boundDescSets point c.descriptorSets }

def recordBindIndexBuffer (ctx : RecordContext) (c : RecordedCommand) (r : Recording) :
    Except String Recording := do
  rejectIf (c.argsU64.length < 2 ∨ c.argsI64.isEmpty) "malformed bind_index_buffer"
  let _ ← ctx.findBoundBuffer (c.u64 0)
    "bind_index_buffer references a buffer not live/bound on the device"
  return { r.bake [c.u64 0] with indexBound := true }

/-! ## Draws and dispatches -/

/-- The pipeline's formats are those of the active scope. -/
def drawCompatible (ctx : RecordContext) (r : Recording) (pp : Pipeline) : Except String Unit :=
  if r.activeScope = .dynamicRendering then
    rejectIf (!pp.dynamicRendering ∨ pp.colorFormats ≠ r.activeDrColorFormats ∨
        pp.depthFormat ≠ r.activeDrDepthFormat ∨ pp.stencilFormat ≠ r.activeDrStencilFormat ∨
        pp.viewMask ≠ r.activeDrViewMask)
      "draw's bound pipeline is incompatible with the active dynamic-rendering scope"
  else do
    rejectIf pp.dynamicRendering "draw's bound pipeline is incompatible with the active render pass"
    let rp ← find ctx.backend.renderPasses pp.renderPass
      "draw's bound pipeline is incompatible with the active render pass"
    rejectIf (rp.colorFormat ≠ r.activeRpFormat ∨ rp.depthFormat ≠ r.activeRpDepthFormat)
      "draw's bound pipeline is incompatible with the active render pass"

/-- The descriptor test of a draw or dispatch. A layout that has been destroyed
since the pipeline was made asks for nothing. -/
def descriptorsReady (ctx : RecordContext) (r : Recording) (point : BindPoint) (pp : Pipeline)
    (reason : String) : Except String Unit :=
  match ctx.backend.pipelineLayouts[pp.layout]? with
  | none => .ok ()
  | some pl =>
    if pl.setLayouts.isEmpty then .ok ()
    else do
      rejectIf (r.boundDescLayout point ≠ pp.layout ∨
          (r.boundDescSets point).length ≠ pl.setLayouts.length) reason
      checkAll (r.boundDescSets point) fun set =>
        ctx.backend.descriptorSetDrawReady set ctx.device

def drawReady (ctx : RecordContext) (r : Recording) : Except String Unit := do
  rejectIf (r.boundPipeline .graphics = 0) "draw without a bound graphics pipeline"
  let pp ← find ctx.backend.pipelines (r.boundPipeline .graphics)
    "draw's bound graphics pipeline is gone"
  drawCompatible ctx r pp
  rejectIf (!r.viewportSet ∨ !r.scissorSet)
    "draw without the required dynamic viewport/scissor set"
  checkAll (List.range pp.vertexBindingCount) fun vb =>
    rejectIf ((vb : Int) ∉ r.boundVertexBindings)
      "draw with a pipeline that needs a vertex buffer, but the binding was not bound"
  descriptorsReady ctx r .graphics pp
    "draw without a descriptor bind matching the pipeline's layout"

/-- The payload of a draw: the buffers it names and the arguments it carries. -/
def drawPayload (ctx : RecordContext) (c : RecordedCommand) : Except String (List Nat) :=
  match c.kind with
  | .drawIndirectByteCount => do
    rejectIf (c.argsU64.length ≠ 1 ∨ c.argsI64.length ≠ 5 ∨ c.i64 4 ≤ 0)
      "malformed draw_indirect_byte_count command"
    let _ ← ctx.findBoundBuffer (c.u64 0)
      "draw_indirect_byte_count counter buffer is not live/bound on the device"
    return [c.u64 0]
  | .drawIndirect | .drawIndexedIndirect => do
    let args ← coreIndirectDrawArgs c
    coreIndirectDrawOk
      (indirectBufferState ctx.backend.buffers c.srcBuffer ctx.device bufferUsageIndirectBuffer)
      args.offset args.drawCount args.stride
      (if c.kind = .drawIndexedIndirect then drawIndexedIndirectCommandBytes
       else drawIndirectCommandBytes)
      ctx.mdev.multiDrawIndirectFeatureEnabled
    return [c.srcBuffer]
  | .drawIndirectCount | .drawIndexedIndirectCount => do
    let args ← coreIndirectCountDrawArgs c
    coreIndirectCountDrawOk ctx.mdev.drawIndirectCountEnabled
      (indirectBufferState ctx.backend.buffers c.srcBuffer ctx.device bufferUsageIndirectBuffer)
      (indirectBufferState ctx.backend.buffers args.countBuffer ctx.device
        bufferUsageIndirectBuffer)
      args.offset args.countBufferOffset args.maxDrawCount args.stride
      (if c.kind = .drawIndexedIndirectCount then drawIndexedIndirectCommandBytes
       else drawIndirectCommandBytes)
    return [c.srcBuffer, args.countBuffer]
  | _ => do
    rejectIf (c.vertexCount < 0 ∨ c.instanceCount < 0 ∨ c.firstVertex < 0 ∨ c.firstInstance < 0)
      "malformed draw command"
    return []

def recordDraw (ctx : RecordContext) (c : RecordedCommand) (r : Recording) :
    Except String Recording := do
  rejectIf (r.activeScope = .none) "draw outside an active render pass"
  rejectIf (c.kind = .drawIndexedIndirect ∧ !r.indexBound)
    "draw_indexed_indirect without a bound index buffer"
  rejectIf (c.kind = .drawIndexedIndirectCount ∧ !r.indexBound)
    "draw_indexed_indirect_count without a bound index buffer"
  rejectIf (c.kind = .drawIndirectByteCount ∧
      Extension.transformFeedback ∉ ctx.mdev.enabledExts)
    "draw_indirect_byte_count requires VK_EXT_transform_feedback enabled on the device"
  drawReady ctx r
  let handles ← drawPayload ctx c
  return r.bake handles

def dispatchReady (ctx : RecordContext) (r : Recording) : Except String Unit := do
  rejectIf (r.activeScope ≠ .none) "dispatch inside an active render pass"
  rejectIf (r.boundPipeline .compute = 0) "dispatch without a bound compute pipeline"
  let pp ← find ctx.backend.pipelines (r.boundPipeline .compute)
    "dispatch's bound compute pipeline is gone"
  descriptorsReady ctx r .compute pp
    "dispatch without a descriptor bind matching the pipeline's layout"

def recordDispatch (ctx : RecordContext) (c : RecordedCommand) (r : Recording) :
    Except String Recording := do
  dispatchReady ctx r
  rejectIf (c.argsU64.length ≠ 3) "malformed dispatch command"
  checkAll c.handles fun groups =>
    rejectIf (groups > 65535) "dispatch group count exceeds the spec-minimum limit"
  return r

def recordDispatchIndirect (ctx : RecordContext) (c : RecordedCommand) (r : Recording) :
    Except String Recording := do
  dispatchReady ctx r
  rejectIf (c.argsU64.length ≠ 1) "malformed dispatch_indirect command"
  dispatchIndirectOk
    (indirectBufferState ctx.backend.buffers c.srcBuffer ctx.device bufferUsageIndirectBuffer)
    (c.u64 0)
  return r.bake [c.srcBuffer]

end VkRelay.Session
