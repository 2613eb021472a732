import VkRelay.Lib.Check
import VkRelay.Session.Objects

/-!
A recorded command as the worker receives it, and the checks that need no
object table: masks, barrier dependencies and the payloads of the indirect
draws. The kind is the one the source resolves from the wire name; positional
arguments keep their machine types, so a count ranges over every value the wire
can carry.
-/

namespace VkRelay.Session

open VkRelay.Lib

inductive CmdKind where
  | unknown | pipelineBarrier | clearColorImage | beginRenderPass | endRenderPass | bindPipeline
  | setViewport | setScissor | draw | drawIndexed | drawIndirectByteCount | bindVertexBuffers
  | bindDescriptorSets | bindIndexBuffer | pushConstants | dispatch | dispatchIndirect
  | memoryBarrierGlobal | bufferMemoryBarrier | copyBufferToImage | copyBuffer
  | copyImageToBuffer | clearAttachments | blitImage | copyImage | bindTransformFeedbackBuffers
  | beginTransformFeedback | endTransformFeedback | beginConditionalRendering
  | endConditionalRendering | resetQueryPool | beginQuery | endQuery | writeTimestamp
  | copyQueryPoolResults | setLineWidth | setDepthBias | setBlendConstants | setDepthBounds
  | setStencilCompareMask | setStencilWriteMask | setStencilReference | setCullMode
  | setFrontFace | setPrimitiveTopology | setDepthTestEnable | setDepthWriteEnable
  | setDepthCompareOp | beginRendering | endRendering | cmdSetEvent | cmdResetEvent
  | cmdWaitEvents | pipelineBarrier2 | writeTimestamp2 | cmdSetEvent2 | cmdResetEvent2
  | cmdWaitEvents2 | setViewportWithCount | setScissorWithCount | bindVertexBuffers2
  | setDepthBoundsTestEnable | setStencilTestEnable | setStencilOp | setRasterizerDiscardEnable
  | setDepthBiasEnable | setPrimitiveRestartEnable | resolveImage | fillBuffer | drawIndirect
  | drawIndexedIndirect | drawIndirectCount | drawIndexedIndirectCount
  deriving DecidableEq, Repr

structure MemoryBarrier2 where
  srcStage : Nat := 0
  srcAccess : Nat := 0
  dstStage : Nat := 0
  dstAccess : Nat := 0

structure BufferMemoryBarrier2 where
  srcStage : Nat := 0
  srcAccess : Nat := 0
  dstStage : Nat := 0
  dstAccess : Nat := 0
  srcQueueFamily : Int := 0
  dstQueueFamily : Int := 0
  buffer : Nat := 0
  offset : UInt64 := 0
  size : UInt64 := 0

structure ImageMemoryBarrier2 where
  srcStage : Nat := 0
  srcAccess : Nat := 0
  dstStage : Nat := 0
  dstAccess : Nat := 0
  oldLayout : Int := 0
  newLayout : Int := 0
  srcQueueFamily : Int := 0
  dstQueueFamily : Int := 0
  image : Nat := 0
  aspect : Int := 0

structure DependencyInfo2 where
  memory : List MemoryBarrier2 := []
  buffer : List BufferMemoryBarrier2 := []
  image : List ImageMemoryBarrier2 := []

/-- One recorded command. A depth clear of `none` is the NaN that every
comparison of the source lets through; the floating-point payload keeps its bit
patterns, only its length is ever read. -/
structure RecordedCommand where
  kind : CmdKind
  image : Nat := 0
  oldLayout : Int := 0
  newLayout : Int := 0
  srcStage : Int := 0
  dstStage : Int := 0
  srcAccess : Int := 0
  dstAccess : Int := 0
  aspect : Int := 0
  layout : Int := 0
  renderPass : Nat := 0
  framebuffer : Nat := 0
  hasDepthClear : Bool := false
  depthClear : Option ℚ := some 0
  pipeline : Nat := 0
  renderAreaX : Int32 := 0
  renderAreaY : Int32 := 0
  renderAreaW : Int32 := -1
  renderAreaH : Int32 := -1
  vertexCount : Int := -1
  instanceCount : Int := -1
  firstVertex : Int := -1
  firstInstance : Int := -1
  firstBinding : Int := -1
  vertexBuffers : List Nat := []
  vertexBufferOffsets : List Nat := []
  descLayout : Nat := 0
  firstSet : Int := -1
  descriptorSets : List Nat := []
  srcBuffer : Nat := 0
  indirectOffset : UInt64 := 0
  indirectDrawCount : Int64 := -1
  indirectStride : Int64 := -1
  indirectCountBuffer : Nat := 0
  indirectCountBufferOffset : UInt64 := 0
  indirectIndexed : Bool := false
  indirectCounted : Bool := false
  argsU64 : List UInt64 := []
  argsI64 : List Int64 := []
  argsF64 : List UInt64 := []
  argsBlob : List UInt8 := []
  deps2 : List DependencyInfo2 := []

namespace RecordedCommand

/-- The positional argument at an index; the size checks come first. -/
def u64 (c : RecordedCommand) (i : Nat) : Nat :=
  (c.argsU64.getD i 0).toNat

def i64 (c : RecordedCommand) (i : Nat) : Int :=
  (c.argsI64.getD i 0).toInt

variable (c : RecordedCommand) (i : Nat)

theorem u64_lt : c.u64 i < 2 ^ 64 :=
  UInt64.toNat_lt _

theorem i64_lt : c.i64 i < 2 ^ 63 :=
  Int64.toInt_lt _

theorem le_i64 : -2 ^ 63 ≤ c.i64 i :=
  Int64.le_toInt _

def handles (c : RecordedCommand) : List Nat :=
  c.argsU64.map UInt64.toNat

@[simp] theorem length_handles : c.handles.length = c.argsU64.length := by
  simp [handles]

end RecordedCommand

/-! ## Casts -/

/-- A signed 64-bit value converted to an unsigned 64-bit type. -/
def sizeT (v : Int) : Nat :=
  (v % 2 ^ 64).toNat

/-- A signed 64-bit value narrowed to an unsigned 32-bit type. -/
def toU32 (v : Int) : Nat :=
  (v % 2 ^ 32).toNat

/-- An unsigned 64-bit value reinterpreted as a signed one. -/
def toI64 (v : Nat) : Int :=
  Int.bmod v (2 ^ 64)

/-- Two's complement addition of 32-bit integers, which is what an overflowing
signed sum of the source computes on the targets it is built for. -/
def addI32 (a b : Int) : Int :=
  Int.bmod (a + b) (2 ^ 32)

def addI64 (a b : Int) : Int :=
  Int.bmod (a + b) (2 ^ 64)

theorem sizeT_of_nonneg {v : Int} (hnonneg : 0 ≤ v) (hlt : v < 2 ^ 63) : (sizeT v : Int) = v := by
  unfold sizeT
  omega

/-! ## Masks -/

def vkFlagsMax : Int := 0xFFFFFFFF

def validStageMask (m : Int) : Bool :=
  0 < m && m ≤ vkFlagsMax

def validAccessMask (m : Int) : Bool :=
  0 ≤ m && m ≤ vkFlagsMax

def validStageMaskOrNone (m : Int) : Bool :=
  0 ≤ m && m ≤ vkFlagsMax

/-- Exactly one bit of a 64-bit stage mask. -/
def validTimestampStage2 (m : Nat) : Bool :=
  m != 0 && m &&& (m - 1) == 0

def hasFlag (bits flag : Nat) : Bool :=
  bits &&& flag != 0

/-! ## Barrier dependencies -/

def maxSync2Dependencies : Nat := 256

def maxSync2BarriersPerDep : Nat := 256

def vkQueueFamilyIgnored : Int := 0xFFFFFFFF

def vkWholeSize : Nat := 2 ^ 64 - 1

def queueFamiliesOk (src dst : Int) : Bool :=
  (src == vkQueueFamilyIgnored && dst == vkQueueFamilyIgnored) || (src == 0 && dst == 0)

/-- The handle-independent part of a dependency; 64-bit masks are never refused. -/
def validateDependencyInfo2 (d : DependencyInfo2) : Except String Unit := do
  rejectIf (d.memory.length > maxSync2BarriersPerDep ∨ d.buffer.length > maxSync2BarriersPerDep ∨
      d.image.length > maxSync2BarriersPerDep)
    "sync2 dependency barrier count exceeds the supported cap"
  checkAll d.buffer fun b =>
    rejectIf (!queueFamiliesOk b.srcQueueFamily b.dstQueueFamily)
      "sync2 buffer barrier queue-family ownership transfer not supported"
  checkAll d.image fun im => do
    rejectIf (!queueFamiliesOk im.srcQueueFamily im.dstQueueFamily)
      "sync2 image barrier queue-family ownership transfer not supported"
    rejectIf (im.oldLayout < 0 ∨ im.newLayout < 0 ∨ im.aspect < 1)
      "sync2 image barrier has a malformed layout/aspect"

/-- The range test that every buffer barrier goes through, in 64-bit arithmetic:
true when the range is refused. -/
def bufferRangeRefused (size off sz : Nat) : Bool :=
  size ≤ off || (sz != vkWholeSize && ((off + sz) % 2 ^ 64 > size || (off + sz) % 2 ^ 64 < off)) ||
    sz == 0

/-! ## Indirect draws -/

def drawIndirectCommandBytes : Nat := 16

def drawIndexedIndirectCommandBytes : Nat := 20

structure IndirectBufferState where
  live : Bool := false
  bound : Bool := false
  hasIndirectUsage : Bool := false
  size : Nat := 0

def bufferUsageIndirectBuffer : Nat := 0x100

/-- The four facts about a buffer that indirect admission reads. -/
def indirectBufferState (buffers : Table Buffer) (handle device indirectUsage : Nat) :
    IndirectBufferState :=
  match buffers[handle]? with
  | some b =>
    if b.device = device then
      { live := true, bound := b.boundMemory != 0,
        hasIndirectUsage := hasFlag b.usage indirectUsage, size := b.size }
    else {}
  | none => {}

def indirectBufferOk (buffer : IndirectBufferState) (liveReason boundReason usageReason : String) :
    Except String Unit := do
  rejectIf (!buffer.live) liveReason
  rejectIf (!buffer.bound) boundReason
  rejectIf (!buffer.hasIndirectUsage) usageReason

/-- Every operation is proven before it is performed: nothing here wraps. -/
def indirectRangeOk (bufferSize offset repeats stride commandSize : Nat)
    (overflowReason rangeReason : String) : Except String Unit := do
  rejectIf (repeats ≠ 0 ∧ stride > (2 ^ 64 - 1 - offset) / repeats) overflowReason
  let last := (offset + repeats * stride) % 2 ^ 64
  rejectIf (commandSize > 2 ^ 64 - 1 - last) overflowReason
  rejectIf ((last + commandSize) % 2 ^ 64 > bufferSize) rangeReason

def dispatchIndirectOk (buffer : IndirectBufferState) (offset : Nat) : Except String Unit := do
  rejectIf (!buffer.live ∨ !buffer.bound) "dispatch_indirect buffer is not live/bound on the device"
  rejectIf (!buffer.hasIndirectUsage) "dispatch_indirect buffer lacks INDIRECT_BUFFER usage"
  rejectIf (offset % 4 ≠ 0 ∨ offset > buffer.size ∨ 12 > buffer.size - offset)
    "dispatch_indirect offset misaligned or out of range"

/-- A 32-bit count carried wide. -/
def outsideUint32 (v : Int) : Bool :=
  v < 0 || v > 0xFFFFFFFF

def coreIndirectDrawOk (buffer : IndirectBufferState) (offset : Nat) (drawCount stride : Int)
    (commandSize : Nat) (multiDrawIndirectEnabled : Bool) : Except String Unit := do
  indirectBufferOk buffer "indirect draw buffer is not live on the device"
    "indirect draw buffer is not bound to memory"
    "indirect draw buffer lacks INDIRECT_BUFFER usage"
  rejectIf (outsideUint32 drawCount) "indirect drawCount is outside the uint32 range"
  rejectIf (outsideUint32 stride) "indirect draw stride is outside the uint32 range"
  rejectIf (drawCount > 1 ∧ !multiDrawIndirectEnabled)
    "indirect drawCount > 1 requires the enabled multiDrawIndirect feature"
  rejectIf (offset % 4 ≠ 0) "indirect draw offset is not 4-byte aligned"
  -- No parameter bytes are read when nothing is drawn.
  if drawCount = 0 then
    .ok ()
  else do
    rejectIf (drawCount > 1 ∧ (stride.toNat % 4 ≠ 0 ∨ stride.toNat < commandSize))
      "multi-draw indirect stride is misaligned or smaller than the command"
    indirectRangeOk buffer.size offset (drawCount.toNat - 1) stride.toNat commandSize
      "indirect draw range overflows" "indirect draw range exceeds the buffer"

def coreIndirectCountDrawOk (commandEnabled : Bool) (buffer countBuffer : IndirectBufferState)
    (offset countBufferOffset : Nat) (maxDrawCount stride : Int) (commandSize : Nat) :
    Except String Unit := do
  rejectIf (!commandEnabled)
    "indirect-count draw requires the enabled core feature or KHR extension"
  indirectBufferOk buffer "indirect-count draw buffer is not live on the device"
    "indirect-count draw buffer is not bound to memory"
    "indirect-count draw buffer lacks INDIRECT_BUFFER usage"
  indirectBufferOk countBuffer "indirect-count count buffer is not live on the device"
    "indirect-count count buffer is not bound to memory"
    "indirect-count count buffer lacks INDIRECT_BUFFER usage"
  rejectIf (offset % 4 ≠ 0) "indirect-count draw offset is not 4-byte aligned"
  rejectIf (countBufferOffset % 4 ≠ 0) "indirect-count countBufferOffset is not 4-byte aligned"
  rejectIf (countBufferOffset > countBuffer.size ∨ 4 > countBuffer.size - countBufferOffset)
    "indirect-count four-byte count slot exceeds the count buffer"
  rejectIf (outsideUint32 maxDrawCount) "indirect-count maxDrawCount is outside the uint32 range"
  rejectIf (outsideUint32 stride) "indirect-count stride is outside the uint32 range"
  rejectIf (stride.toNat % 4 ≠ 0 ∨ stride.toNat < commandSize)
    "indirect-count stride is misaligned or smaller than the command"
  if maxDrawCount = 0 then
    .ok ()
  else
    indirectRangeOk buffer.size offset (maxDrawCount.toNat - 1) stride.toNat commandSize
      "indirect-count draw range overflows" "indirect-count draw range exceeds the buffer"

structure CoreIndirectDrawArgs where
  offset : Nat := 0
  drawCount : Int := -1
  stride : Int := -1

/-- The base indirect draws carry either scalars or the older positional payload,
never both. -/
def coreIndirectDrawArgs (c : RecordedCommand) : Except String CoreIndirectDrawArgs := do
  rejectIf (c.indirectCounted ∨ c.indirectCountBuffer ≠ 0 ∨ c.indirectCountBufferOffset ≠ 0)
    "base indirect draw carries count-buffer fields"
  let hasScalars : Bool := c.indirectDrawCount != -1 || c.indirectStride != -1
  let hasLegacy : Bool := !c.argsU64.isEmpty || !c.argsI64.isEmpty
  rejectIf (hasScalars ∧ hasLegacy) "core indirect draw mixes scalar and legacy payloads"
  rejectIf (!hasScalars ∧ !hasLegacy) "core indirect draw payload is missing"
  if hasScalars then
    .ok { offset := c.indirectOffset.toNat, drawCount := c.indirectDrawCount.toInt,
          stride := c.indirectStride.toInt }
  else do
    rejectIf (c.argsU64.length ≠ 1 ∨ c.argsI64.length ≠ 2)
      "malformed legacy core indirect draw payload"
    .ok { offset := c.u64 0, drawCount := c.i64 0, stride := c.i64 1 }

structure CoreIndirectCountDrawArgs where
  offset : Nat := 0
  maxDrawCount : Int := -1
  stride : Int := -1
  countBuffer : Nat := 0
  countBufferOffset : Nat := 0

def coreIndirectCountDrawArgs (c : RecordedCommand) : Except String CoreIndirectCountDrawArgs := do
  rejectIf (!c.argsU64.isEmpty ∨ !c.argsI64.isEmpty)
    "indirect-count draw carries a legacy or mixed positional payload"
  rejectIf (c.indirectDrawCount = -1 ∨ c.indirectStride = -1 ∨ c.indirectCountBuffer = 0)
    "indirect-count draw payload is missing or partial"
  .ok { offset := c.indirectOffset.toNat, maxDrawCount := c.indirectDrawCount.toInt,
        stride := c.indirectStride.toInt, countBuffer := c.indirectCountBuffer,
        countBufferOffset := c.indirectCountBufferOffset.toNat }

end VkRelay.Session
