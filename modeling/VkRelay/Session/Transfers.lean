import VkRelay.Session.Scopes

/-!
The record pass, second half: barriers, events, copies, queries, transform
feedback, conditional rendering and dynamic state.
-/

namespace VkRelay.Session

open VkRelay.Lib
open RecordContext

/-! ## Barriers and events -/

def barrierMasksRefused (c : RecordedCommand) : Bool :=
  !validStageMaskOrNone c.srcStage || !validStageMaskOrNone c.dstStage ||
    !validAccessMask c.srcAccess || !validAccessMask c.dstAccess

def recordMemoryBarrier (c : RecordedCommand) (r : Recording) : Except String Recording := do
  rejectIf (r.activeScope ≠ .none) "memory_barrier inside an active render pass"
  rejectIf (barrierMasksRefused c) "malformed memory_barrier command"
  return r

def recordBufferMemoryBarrier (ctx : RecordContext) (c : RecordedCommand) (r : Recording) :
    Except String Recording := do
  rejectIf (r.activeScope ≠ .none) "buffer_memory_barrier inside an active render pass"
  rejectIf (barrierMasksRefused c ∨ c.argsU64.length ≠ 2) "malformed buffer_memory_barrier command"
  let buffer ← ctx.findBoundBuffer c.srcBuffer
    "buffer_memory_barrier buffer is not live/bound on the device"
  rejectIf (bufferRangeRefused buffer.size (c.u64 0) (c.u64 1))
    "buffer_memory_barrier range is out of the buffer's bounds"
  return r.bake [c.srcBuffer]

def RecordContext.findEvent (ctx : RecordContext) (handle : Nat) (reason : String) :
    Except String Leaf := do
  let leaf ← findOn Leaf.device ctx.backend.leaves handle ctx.device reason
  rejectIf (leaf.kind ≠ .event) reason
  return leaf

def recordEvent (ctx : RecordContext) (c : RecordedCommand) (r : Recording) :
    Except String Recording := do
  rejectIf (r.activeScope ≠ .none) "set_event/reset_event inside an active render pass"
  rejectIf (c.argsU64.length ≠ 1 ∨ !validStageMask c.srcStage)
    "malformed set_event/reset_event command"
  let _ ← ctx.findEvent (c.u64 0) "command references an event not on the command buffer's device"
  return r.bake [c.u64 0]

/-! ### The atomic wait: events, then three arrays of fixed-width barriers -/

def waitEventsHeaderSlots : Nat := 4
def waitEventsMemorySlots : Nat := 2
def waitEventsBufferSlots : Nat := 5
def waitEventsImageSlots : Nat := 10
def maxWaitEventsBarriers : Nat := 256

def waitEventsMemoryBase (c : RecordedCommand) : Nat :=
  waitEventsHeaderSlots + c.u64 0

def waitEventsBufferBase (c : RecordedCommand) : Nat :=
  waitEventsMemoryBase c + c.u64 1 * waitEventsMemorySlots

def waitEventsImageBase (c : RecordedCommand) : Nat :=
  waitEventsBufferBase c + c.u64 2 * waitEventsBufferSlots

def waitEventsLength (c : RecordedCommand) : Nat :=
  waitEventsImageBase c + c.u64 3 * waitEventsImageSlots

def waitEventsBufferHandle (c : RecordedCommand) (i : Nat) : Nat :=
  c.u64 (waitEventsBufferBase c + i * waitEventsBufferSlots + 2)

def waitEventsImageHandle (c : RecordedCommand) (i : Nat) : Nat :=
  c.u64 (waitEventsImageBase c + i * waitEventsImageSlots + 4)

def checkWaitBufferBarrier (ctx : RecordContext) (c : RecordedCommand) (i : Nat) :
    Except String Unit := do
  let base := waitEventsBufferBase c + i * waitEventsBufferSlots
  rejectIf (!validAccessMask (toI64 (c.u64 base)) ∨ !validAccessMask (toI64 (c.u64 (base + 1))))
    "wait_events buffer barrier has an out-of-range access mask"
  let buffer ← ctx.findBoundBuffer (waitEventsBufferHandle c i)
    "wait_events buffer barrier buffer is not live/bound on the device"
  rejectIf (bufferRangeRefused buffer.size (c.u64 (base + 3)) (c.u64 (base + 4)))
    "wait_events buffer barrier range is out of bounds"

def checkWaitImageBarrier (ctx : RecordContext) (c : RecordedCommand) (i : Nat) :
    Except String Unit := do
  let base := waitEventsImageBase c + i * waitEventsImageSlots
  rejectIf (!validAccessMask (toI64 (c.u64 base)) ∨ !validAccessMask (toI64 (c.u64 (base + 1))) ∨
      c.u64 (base + 5) < 1)
    "wait_events image barrier is malformed"
  let image ← ctx.findImage (waitEventsImageHandle c i)
    "wait_events image barrier references an image not on the device"
  rejectIf (unboundAppImage image) "wait_events image barrier references an app image not bound"

def recordWaitEvents (ctx : RecordContext) (c : RecordedCommand) (r : Recording) :
    Except String Recording := do
  rejectIf (r.activeScope ≠ .none) "wait_events inside an active render pass"
  rejectIf (c.argsU64.length < waitEventsHeaderSlots ∨ !validStageMask c.srcStage ∨
      !validStageMask c.dstStage)
    "malformed wait_events command"
  rejectIf (c.u64 0 > maxWaitEventsBarriers ∨ c.u64 1 > maxWaitEventsBarriers ∨
      c.u64 2 > maxWaitEventsBarriers ∨ c.u64 3 > maxWaitEventsBarriers ∨ c.u64 0 = 0)
    "wait_events count is zero or exceeds the supported cap"
  rejectIf (c.argsU64.length ≠ waitEventsLength c % 2 ^ 64)
    "wait_events payload length does not match its header counts"
  checkAll (List.range (c.u64 0)) fun i => do
    let _ ← ctx.findEvent (c.u64 (waitEventsHeaderSlots + i))
      "wait_events references an event not on the device"
    .ok ()
  checkAll (List.range (c.u64 1)) fun i =>
    let base := waitEventsMemoryBase c + i * waitEventsMemorySlots
    rejectIf (!validAccessMask (toI64 (c.u64 base)) ∨ !validAccessMask (toI64 (c.u64 (base + 1))))
      "wait_events memory barrier has an out-of-range access mask"
  checkAll (List.range (c.u64 2)) (checkWaitBufferBarrier ctx c)
  checkAll (List.range (c.u64 3)) (checkWaitImageBarrier ctx c)
  return r.bake ((List.range (c.u64 0)).map (fun i => c.u64 (waitEventsHeaderSlots + i)) ++
    (List.range (c.u64 2)).map (waitEventsBufferHandle c) ++
    (List.range (c.u64 3)).map (waitEventsImageHandle c))

/-! ### Synchronization2 -/

def checkSync2 (ctx : RecordContext) : Except String Unit :=
  rejectIf ((Extension.synchronization2 ∉ ctx.mdev.enabledExts ∧ !ctx.mdev.vk13Device) ∨
      !ctx.mdev.synchronization2FeatureEnabled)
    "synchronization2 command requires the synchronization2 feature"

/-- Why an image of a sync2 barrier does not resolve. -/
def describeMissingSync2Image (tombstones : List ImageTombstone) (image : Nat) : String :=
  match tombstones.reverse.find? (·.image == image) with
  | none =>
    "sync2 image barrier references unknown image handle " ++ toString image ++
      " (never seen or tombstone expired)"
  | some tombstone =>
    let cause := match tombstone.cause with
      | .destroyImage => "destroy_image"
      | .destroySwapchain => "destroy_swapchain"
    match tombstone.origin with
    | .app =>
      "sync2 image barrier references destroyed app image " ++ toString image ++
        " (" ++ cause ++ ")"
    | .swapchain =>
      "sync2 image barrier references destroyed swapchain image " ++ toString image ++
        " (swapchain " ++ toString tombstone.swapchain ++ ", " ++ cause ++ ")"

def checkBufferBarrier2 (ctx : RecordContext) (b : BufferMemoryBarrier2) :
    Except String Unit := do
  let buffer ← ctx.findBoundBuffer b.buffer
    "sync2 buffer barrier buffer is not live/bound on the device"
  rejectIf (bufferRangeRefused buffer.size b.offset.toNat b.size.toNat)
    "sync2 buffer barrier range is out of bounds"

def checkImageBarrier2 (ctx : RecordContext) (im : ImageMemoryBarrier2) : Except String Unit := do
  let image ← find ctx.backend.images im.image
    (describeMissingSync2Image ctx.backend.imageTombstones im.image)
  rejectIf (image.device ≠ ctx.device)
    ("sync2 image barrier references image " ++ toString im.image ++ " on device " ++
      toString image.device ++ ", command buffer device is " ++ toString ctx.device)
  rejectIf (unboundAppImage image) "sync2 image barrier references an app image not bound"

def checkDep2 (ctx : RecordContext) (d : DependencyInfo2) : Except String Unit := do
  validateDependencyInfo2 d
  checkAll d.buffer (checkBufferBarrier2 ctx)
  checkAll d.image (checkImageBarrier2 ctx)

def DependencyInfo2.handles (d : DependencyInfo2) : List Nat :=
  d.buffer.map (·.buffer) ++ d.image.map (·.image)

def recordPipelineBarrier2 (ctx : RecordContext) (c : RecordedCommand) (r : Recording) :
    Except String Recording := do
  checkSync2 ctx
  rejectIf (c.deps2.length ≠ 1 ∨ !c.argsU64.isEmpty) "malformed pipeline_barrier2 command"
  checkAll c.deps2 (checkDep2 ctx)
  return r.bake (c.deps2.flatMap (·.handles))

def RecordContext.findQueryPool (ctx : RecordContext) (handle : Nat) (reason : String) :
    Except String QueryPool :=
  findOn QueryPool.device ctx.backend.queryPools handle ctx.device reason

@[simp] theorem findQueryPool_eq_ok {ctx : RecordContext} {handle : Nat} {reason : String}
    {pool : QueryPool} : ctx.findQueryPool handle reason = .ok pool ↔
      ctx.backend.queryPools[handle]? = some pool ∧ pool.device = ctx.device := by
  simp [findQueryPool]

/-- The query index test of the source, which narrows before it compares. -/
def queryIndexOk (pool : QueryPool) (q : Int) : Bool :=
  0 ≤ q && toU32 q < pool.count.toNat

def recordWriteTimestamp2 (ctx : RecordContext) (c : RecordedCommand) (r : Recording) :
    Except String Recording := do
  checkSync2 ctx
  rejectIf (c.argsU64.length ≠ 2 ∨ c.argsI64.length ≠ 1 ∨ !c.deps2.isEmpty ∨
      !validTimestampStage2 (c.u64 1))
    "malformed write_timestamp2 command"
  let pool ← ctx.findQueryPool (c.u64 0)
    "write_timestamp2 references a query pool not on the device"
  rejectIf (!queryIndexOk pool (c.i64 0)) "write_timestamp2 index out of bounds"
  return r.bake [c.u64 0]

def checkEvent2Scope (r : Recording) : Except String Unit :=
  rejectIf (r.activeScope ≠ .none) "sync2 event command inside an active render pass"

def recordSetEvent2 (ctx : RecordContext) (c : RecordedCommand) (r : Recording) :
    Except String Recording := do
  checkSync2 ctx
  checkEvent2Scope r
  rejectIf (c.argsU64.length ≠ 1 ∨ c.deps2.length ≠ 1) "malformed set_event2 command"
  let _ ← ctx.findEvent (c.u64 0) "set_event2 references an event not on the device"
  checkAll c.deps2 (checkDep2 ctx)
  return r.bake (c.u64 0 :: c.deps2.flatMap (·.handles))

def recordResetEvent2 (ctx : RecordContext) (c : RecordedCommand) (r : Recording) :
    Except String Recording := do
  checkSync2 ctx
  checkEvent2Scope r
  rejectIf (c.argsU64.length ≠ 2 ∨ !c.deps2.isEmpty) "malformed reset_event2 command"
  let _ ← ctx.findEvent (c.u64 0) "reset_event2 references an event not on the device"
  return r.bake [c.u64 0]

def recordWaitEvents2 (ctx : RecordContext) (c : RecordedCommand) (r : Recording) :
    Except String Recording := do
  checkSync2 ctx
  checkEvent2Scope r
  rejectIf (c.argsU64.isEmpty ∨ c.deps2.length ≠ c.argsU64.length ∨
      c.deps2.length > maxSync2Dependencies)
    "malformed wait_events2 command"
  checkAll (c.handles.zip c.deps2) fun entry => do
    let _ ← ctx.findEvent entry.1 "wait_events2 references an event not on the device"
    checkDep2 ctx entry.2
  return r.bake (c.handles ++ c.deps2.flatMap (·.handles))

/-! ## Copies -/

def imageUsageTransferDst : Nat := 0x2
def imageLayoutGeneral : Int := 1
def imageLayoutTransferDstOptimal : Int := 7
def imageAspectColor : Int := 1
def imageAspectDepth : Int := 2
def imageAspectStencil : Int := 4

/-- Component `k` of the copy region `ri`, after the two leading words. -/
def copyRegion (c : RecordedCommand) (ri k : Nat) : Int :=
  c.i64 (2 + ri * 13 + k)

def mipExtent (extent : UInt32) (mip : Int) : Nat :=
  max 1 (extent.toNat >>> mip.toNat)

def checkCopyRegion (c : RecordedCommand) (image : Image) (source : Buffer) (ri : Nat) :
    Except String Unit := do
  let r := copyRegion c ri
  let aspect := r 3
  let mip := r 4
  let extW := r 10
  let extH := r 11
  rejectIf ((aspect ≠ imageAspectColor ∧ aspect ≠ imageAspectDepth ∧ aspect ≠ imageAspectStencil) ∨
      aspect.toNat &&& image.aspect ≠ aspect.toNat)
    "copy_buffer_to_image region aspect must be a single aspect present in the destination image"
  rejectIf (mip < 0 ∨ mip ≥ image.mipLevels.toNat)
    "copy_buffer_to_image region mip level is out of the image's range"
  rejectIf (r 5 < 0 ∨ r 6 < 1 ∨ addI64 (r 5) (r 6) > image.arrayLayers.toNat)
    "copy_buffer_to_image region layer range is out of the image's range"
  rejectIf (r 7 < 0 ∨ r 8 < 0 ∨ r 9 ≠ 0 ∨ extW < 1 ∨ extH < 1 ∨ r 12 ≠ 1 ∨
      (sizeT (r 7) + sizeT extW) % 2 ^ 64 > mipExtent image.width mip ∨
      (sizeT (r 8) + sizeT extH) % 2 ^ 64 > mipExtent image.height mip)
    "copy_buffer_to_image region is out of the mip level's bounds"
  rejectIf (r 0 < 0 ∨ sizeT (r 0) ≥ source.size ∨ (r 1 ≠ 0 ∧ r 1 < extW) ∨ (r 2 ≠ 0 ∧ r 2 < extH))
    "copy_buffer_to_image region buffer offset/stride is invalid"

def recordCopyBufferToImage (ctx : RecordContext) (c : RecordedCommand) (r : Recording) :
    Except String Recording := do
  rejectIf (r.activeScope ≠ .none) "copy_buffer_to_image inside an active render pass"
  let image ← ctx.findImage c.image
    "copy_buffer_to_image dest is not an app image on the device"
  rejectIf (!image.appCreated) "copy_buffer_to_image dest is not an app image on the device"
  rejectIf (image.boundMemory = 0) "copy_buffer_to_image dest image is not bound to memory"
  rejectIf (!hasFlag image.usage imageUsageTransferDst)
    "copy_buffer_to_image dest image lacks TRANSFER_DST usage"
  let source ← ctx.findBuffer c.srcBuffer "copy_buffer_to_image source buffer is not on the device"
  rejectIf (!hasFlag source.usage bufferUsageTransferSrc)
    "copy_buffer_to_image source buffer lacks TRANSFER_SRC usage"
  rejectIf (source.boundMemory = 0) "copy_buffer_to_image source buffer is not bound to memory"
  rejectIf (c.argsI64.length < 2) "malformed copy_buffer_to_image"
  rejectIf (c.i64 0 ≠ imageLayoutTransferDstOptimal ∧ c.i64 0 ≠ imageLayoutGeneral)
    "copy_buffer_to_image dst layout must be TRANSFER_DST_OPTIMAL or GENERAL"
  -- The count is compared with the quotient, so no product of it is formed.
  let tail := c.argsI64.length - 2
  rejectIf (sizeT (c.i64 1) = 0 ∨ tail % 13 ≠ 0 ∨ sizeT (c.i64 1) ≠ tail / 13)
    "copy_buffer_to_image region payload malformed"
  checkAll (List.range (tail / 13)) (checkCopyRegion c image source)
  return r.bake [c.srcBuffer, c.image]

def recordCopyBuffer (ctx : RecordContext) (c : RecordedCommand) (r : Recording) :
    Except String Recording := do
  rejectIf (r.activeScope ≠ .none) "copy_buffer inside an active render pass"
  rejectIf (c.argsU64.length < 5 ∨ (c.argsU64.length - 2) % 3 ≠ 0) "copy_buffer payload malformed"
  let _ ← ctx.findBoundBuffer (c.u64 0)
    "copy_buffer references a buffer not live/bound on the device"
  let _ ← ctx.findBoundBuffer (c.u64 1)
    "copy_buffer references a buffer not live/bound on the device"
  return r.bake [c.u64 0, c.u64 1]

def recordFillBuffer (ctx : RecordContext) (c : RecordedCommand) (r : Recording) :
    Except String Recording := do
  rejectIf (r.activeScope ≠ .none) "fill_buffer inside an active render pass"
  rejectIf (c.argsU64.length ≠ 4) "fill_buffer payload malformed"
  rejectIf (c.u64 1 % 4 ≠ 0 ∨ (c.u64 2 ≠ vkWholeSize ∧ (c.u64 2 = 0 ∨ c.u64 2 % 4 ≠ 0)))
    "fill_buffer offset/size violates the 4-byte alignment rule"
  let _ ← ctx.findBoundBuffer (c.u64 0)
    "fill_buffer references a buffer not live/bound on the device"
  return r.bake [c.u64 0]

def recordCopyImageToBuffer (ctx : RecordContext) (c : RecordedCommand) (r : Recording) :
    Except String Recording := do
  rejectIf (r.activeScope ≠ .none) "copy_image_to_buffer inside an active render pass"
  rejectIf (c.argsU64.length < 2 ∨ c.argsI64.length < 2) "malformed copy_image_to_buffer"
  let image ← ctx.findImage (c.u64 0)
    "copy_image_to_buffer source is not a live image on the device"
  rejectIf (unboundAppImage image) "copy_image_to_buffer source is not a live image on the device"
  let _ ← ctx.findBoundBuffer (c.u64 1)
    "copy_image_to_buffer dest buffer is not live/bound on the device"
  let tail := c.argsI64.length - 2
  rejectIf (tail % 13 ≠ 0 ∨ sizeT (c.i64 1) ≠ tail / 13)
    "copy_image_to_buffer region payload malformed"
  -- Neither the surface nor the swapchain of a swapchain image is noted here.
  return r.bake [c.u64 0, c.u64 1]

def recordImagePair (ctx : RecordContext) (name : String) (c : RecordedCommand) (r : Recording) :
    Except String Recording := do
  let source ← ctx.findImage (c.u64 0) (name ++ " references an image not on the device")
  let target ← ctx.findImage (c.u64 1) (name ++ " references an image not on the device")
  rejectIf (unboundAppImage source ∨ unboundAppImage target)
    (name ++ " references an app image not bound to memory")
  return ((r.noteImage source).noteImage target).bake [c.u64 0, c.u64 1]

def recordBlitImage (ctx : RecordContext) (c : RecordedCommand) (r : Recording) :
    Except String Recording := do
  rejectIf (r.activeScope ≠ .none) "blit_image inside an active render pass"
  rejectIf (c.argsU64.length ≠ 2 ∨ c.argsI64.length < 4) "malformed blit_image"
  let regionCount := sizeT (c.i64 3)
  rejectIf (regionCount = 0 ∨ c.argsI64.length ≠ (4 + regionCount * 20) % 2 ^ 64 ∨
      (c.i64 2 ≠ 0 ∧ c.i64 2 ≠ 1))
    "blit_image payload malformed"
  recordImagePair ctx "blit_image" c r

/-- Copy and resolve carry the same payload. -/
def recordRegionTransfer (ctx : RecordContext) (name : String) (c : RecordedCommand)
    (r : Recording) : Except String Recording := do
  rejectIf (r.activeScope ≠ .none) (name ++ " inside an active render pass")
  rejectIf (c.argsU64.length ≠ 2 ∨ c.argsI64.length < 3) ("malformed " ++ name)
  let regionCount := sizeT (c.i64 2)
  rejectIf (regionCount = 0 ∨ c.argsI64.length ≠ (3 + regionCount * 17) % 2 ^ 64)
    (name ++ " payload malformed")
  recordImagePair ctx name c r

def recordCopyImage (ctx : RecordContext) (c : RecordedCommand) (r : Recording) :
    Except String Recording :=
  recordRegionTransfer ctx "copy_image" c r

def recordResolveImage (ctx : RecordContext) (c : RecordedCommand) (r : Recording) :
    Except String Recording :=
  recordRegionTransfer ctx "resolve_image" c r

def recordClearAttachments (c : RecordedCommand) (r : Recording) : Except String Recording := do
  rejectIf (r.activeScope = .none) "clear_attachments outside an active render pass"
  rejectIf (c.argsI64.length < 2) "malformed clear_attachments"
  let attCount := sizeT (c.i64 0)
  let rectCount := sizeT (c.i64 1)
  rejectIf (attCount = 0 ∨ rectCount = 0 ∨
      c.argsI64.length ≠ (2 + attCount * 2 + rectCount * 6) % 2 ^ 64 ∨
      c.argsU64.length ≠ attCount * 4 % 2 ^ 64)
    "clear_attachments payload malformed"
  return r

/-! ## Transform feedback and conditional rendering -/

def recordBindTransformFeedbackBuffers (ctx : RecordContext) (c : RecordedCommand)
    (r : Recording) : Except String Recording := do
  rejectIf (Extension.transformFeedback ∉ ctx.mdev.enabledExts)
    "bind_transform_feedback_buffers requires VK_EXT_transform_feedback enabled on the device"
  rejectIf r.xfbActive "bind_transform_feedback_buffers while transform feedback is active"
  rejectIf (c.argsI64.length ≠ 3 ∨ c.i64 1 ≤ 0 ∨ (c.i64 2 ≠ 0 ∧ c.i64 2 ≠ 1))
    "malformed bind_transform_feedback_buffers"
  let count := sizeT (c.i64 1)
  rejectIf (c.argsU64.length ≠ count * (if c.i64 2 = 1 then 3 else 2) % 2 ^ 64)
    "bind_transform_feedback_buffers payload malformed"
  checkFirst c.handles count fun handle => do
    let _ ← ctx.findBoundBuffer handle
      "bind_transform_feedback_buffers references a buffer not live/bound on the device"
    .ok ()
  return r.bake (c.handles.take count)

/-- The shared checks of the two transform feedback scope commands; a zero handle
stands for no counter. -/
def checkTransformFeedbackScope (ctx : RecordContext) (c : RecordedCommand) :
    Except String (List Nat) := do
  rejectIf (c.argsI64.length ≠ 3 ∨ c.i64 1 < 0 ∨ (c.i64 2 ≠ 0 ∧ c.i64 2 ≠ 1))
    "malformed transform feedback scope command"
  let count := sizeT (c.i64 1)
  rejectIf (c.argsU64.length ≠ count * (if c.i64 2 = 1 then 2 else 1) % 2 ^ 64)
    "transform feedback scope payload malformed"
  checkFirst c.handles count fun handle =>
    if handle = 0 then .ok ()
    else do
      let _ ← ctx.findBoundBuffer handle
        "transform feedback counter buffer is not live/bound on the device"
      .ok ()
  return (c.handles.take count).filter (· ≠ 0)

def checkTransformFeedbackUse (ctx : RecordContext) (r : Recording) : Except String Unit := do
  rejectIf (Extension.transformFeedback ∉ ctx.mdev.enabledExts)
    "transform feedback requires VK_EXT_transform_feedback enabled on the device"
  rejectIf (r.activeScope = .none) "transform feedback outside an active render pass"

def recordBeginTransformFeedback (ctx : RecordContext) (c : RecordedCommand) (r : Recording) :
    Except String Recording := do
  checkTransformFeedbackUse ctx r
  rejectIf r.xfbActive "begin_transform_feedback while transform feedback is active"
  let handles ← checkTransformFeedbackScope ctx c
  return { r.bake handles with xfbActive := true }

def recordEndTransformFeedback (ctx : RecordContext) (c : RecordedCommand) (r : Recording) :
    Except String Recording := do
  checkTransformFeedbackUse ctx r
  rejectIf (!r.xfbActive) "end_transform_feedback without active transform feedback"
  let handles ← checkTransformFeedbackScope ctx c
  return { r.bake handles with xfbActive := false }

def checkConditionalRendering (ctx : RecordContext) : Except String Unit :=
  rejectIf (Extension.conditionalRendering ∉ ctx.mdev.enabledExts)
    "conditional rendering requires VK_EXT_conditional_rendering enabled on the device"

def recordBeginConditionalRendering (ctx : RecordContext) (c : RecordedCommand) (r : Recording) :
    Except String Recording := do
  checkConditionalRendering ctx
  rejectIf r.condRenderActive "begin_conditional_rendering while conditional rendering is active"
  rejectIf (c.argsU64.length ≠ 1 ∨ c.argsI64.length ≠ 2 ∨ c.i64 0 < 0 ∨ c.i64 0 % 4 ≠ 0)
    "malformed begin_conditional_rendering"
  let _ ← ctx.findBoundBuffer (c.u64 0)
    "begin_conditional_rendering buffer is not live/bound on the device"
  return { r.bake [c.u64 0] with
           condRenderActive := true
           condRenderBeganInRp := r.activeScope != .none }

def recordEndConditionalRendering (ctx : RecordContext) (r : Recording) :
    Except String Recording := do
  checkConditionalRendering ctx
  rejectIf (!r.condRenderActive) "end_conditional_rendering without active conditional rendering"
  rejectIf (r.condRenderBeganInRp ≠ (r.activeScope != .none))
    "end_conditional_rendering in a different render-pass scope than its begin"
  return { r with condRenderActive := false }

/-! ## Queries -/

def queryCommandPool (ctx : RecordContext) (c : RecordedCommand) : Except String QueryPool := do
  rejectIf (c.argsU64.length ≠ 1) "malformed query command (missing pool handle)"
  ctx.findQueryPool (c.u64 0) "query command references a query pool not on the device"

def queryRangeRefused (pool : QueryPool) (first count : Int) : Bool :=
  first < 0 || count ≤ 0 || (sizeT first + sizeT count) % 2 ^ 64 > pool.count.toNat

def recordResetQueryPool (ctx : RecordContext) (c : RecordedCommand) (r : Recording) :
    Except String Recording := do
  let pool ← queryCommandPool ctx c
  rejectIf (c.argsI64.length ≠ 2 ∨ queryRangeRefused pool (c.i64 0) (c.i64 1))
    "reset_query_pool range out of bounds"
  return r.bake [c.u64 0]

/-- A query as the pass keys it: the pool and the narrowed index. -/
def queryKey (c : RecordedCommand) : Nat × Nat :=
  (c.u64 0, toU32 (c.i64 0))

def recordBeginQuery (ctx : RecordContext) (c : RecordedCommand) (r : Recording) :
    Except String Recording := do
  let pool ← queryCommandPool ctx c
  rejectIf (c.argsI64.length ≠ 2 ∨ !queryIndexOk pool (c.i64 0)) "begin_query index out of bounds"
  rejectIf (queryKey c ∈ r.activeQueries)
    "begin_query on a query already active in this command buffer"
  return { r.bake [c.u64 0] with activeQueries := insert (queryKey c) r.activeQueries }

def recordEndQuery (ctx : RecordContext) (c : RecordedCommand) (r : Recording) :
    Except String Recording := do
  let pool ← queryCommandPool ctx c
  rejectIf (c.argsI64.length ≠ 1 ∨ !queryIndexOk pool (c.i64 0)) "end_query index out of bounds"
  rejectIf (queryKey c ∉ r.activeQueries) "end_query without a matching active begin_query"
  return { r.bake [c.u64 0] with activeQueries := r.activeQueries.erase (queryKey c) }

def recordWriteTimestamp (ctx : RecordContext) (c : RecordedCommand) (r : Recording) :
    Except String Recording := do
  let pool ← queryCommandPool ctx c
  rejectIf (c.argsI64.length ≠ 2 ∨ !queryIndexOk pool (c.i64 1))
    "write_timestamp index out of bounds"
  return r.bake [c.u64 0]

def recordCopyQueryPoolResults (ctx : RecordContext) (c : RecordedCommand) (r : Recording) :
    Except String Recording := do
  rejectIf (r.activeScope ≠ .none) "copy_query_pool_results inside an active render pass"
  rejectIf (c.argsU64.length ≠ 2 ∨ c.argsI64.length ≠ 5) "malformed copy_query_pool_results"
  let pool ← ctx.findQueryPool (c.u64 0)
    "copy_query_pool_results references a query pool not on the device"
  rejectIf (queryRangeRefused pool (c.i64 0) (c.i64 1))
    "copy_query_pool_results query range out of bounds"
  let _ ← ctx.findBoundBuffer (c.u64 1)
    "copy_query_pool_results dest buffer is not live/bound on the device"
  return r.bake [c.u64 0, c.u64 1]

/-! ## Dynamic state -/

/-- The setters that carry one word. -/
def recordDynamicState (ctx : RecordContext) (c : RecordedCommand) (r : Recording) :
    Except String Recording := do
  checkExtendedDynamicState ctx
  rejectIf (c.argsI64.length ≠ 1) "malformed extended-dynamic-state set command"
  return r

def recordSetStencilOp (ctx : RecordContext) (c : RecordedCommand) (r : Recording) :
    Except String Recording := do
  checkExtendedDynamicState ctx
  rejectIf (c.argsI64.length ≠ 5) "malformed set_stencil_op"
  return r

/-- The setters only a 1.3 device has. -/
def recordCore13State (ctx : RecordContext) (c : RecordedCommand) (r : Recording) :
    Except String Recording := do
  rejectIf (!ctx.mdev.vk13Device) "core-1.3 dynamic state requires the honest 1.3 device"
  rejectIf (c.argsI64.length ≠ 1) "malformed core-1.3 dynamic-state set command"
  return r

def checkWithCount (ctx : RecordContext) (c : RecordedCommand) : Except String Unit := do
  checkExtendedDynamicState ctx
  rejectIf (c.argsI64.isEmpty ∨ c.i64 0 < 1) "malformed with-count dynamic-state set command"

def recordSetViewportWithCount (ctx : RecordContext) (c : RecordedCommand) (r : Recording) :
    Except String Recording := do
  checkWithCount ctx c
  rejectIf (c.argsI64.length ≠ 1 ∨ c.argsF64.length ≠ sizeT (c.i64 0) * 6 % 2 ^ 64)
    "with-count dynamic-state payload malformed"
  return { r with viewportSet := true }

def recordSetScissorWithCount (ctx : RecordContext) (c : RecordedCommand) (r : Recording) :
    Except String Recording := do
  checkWithCount ctx c
  rejectIf (c.argsI64.length ≠ (1 + sizeT (c.i64 0) * 4) % 2 ^ 64)
    "with-count dynamic-state payload malformed"
  return { r with scissorSet := true }

end VkRelay.Session
