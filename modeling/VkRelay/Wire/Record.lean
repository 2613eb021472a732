import VkRelay.Wire.Reader

/-!
The binary record body: `RecordCommandBufferRequest::to_wire` and `from_wire`. A
command is its kind, a presence mask and the field groups whose bit is set; an
absent group decodes to the defaults. The fields of one group stand together in a
structure here, in the order in which they are written.

The decoder is generic in the type of the `int` fields and in the cast that reads
them: `from_wire` narrows the wire's 64-bit words with `static_cast<int>`, and the
same decoder with no cast reads the words as they are carried.
-/

namespace VkRelay.Wire.Record

open VkRelay.Lib VkRelay.Json

def kMaxSync2Dependencies : Nat := 256

def kMaxSync2BarriersPerDep : Nat := 256

section Ints

variable {ι : Type} (cast : Int64 → ι)

def getInt : Reader ι := cast <$> getI64

def putInt (v : Int32) : Bytes := putI64 v.toInt64

end Ints

/-! ## Field groups -/

@[ext] structure BarrierCore (ι : Type) where
  image : UInt64
  oldLayout : ι
  newLayout : ι
  srcStage : Int64
  dstStage : Int64
  srcAccess : Int64
  dstAccess : Int64
  aspect : ι
  layout : ι
deriving DecidableEq

namespace BarrierCore

variable {ι : Type} (cast : Int64 → ι)

def unset : BarrierCore ι := ⟨0, cast 0, cast 0, 0, 0, 0, 0, cast 0, cast 0⟩

def present (g : BarrierCore Int32) : Bool :=
  g.image ≠ 0 ∨ g.oldLayout ≠ 0 ∨ g.newLayout ≠ 0 ∨ g.srcStage ≠ 0 ∨ g.dstStage ≠ 0 ∨
    g.srcAccess ≠ 0 ∨ g.dstAccess ≠ 0 ∨ g.aspect ≠ 0 ∨ g.layout ≠ 0

def put (g : BarrierCore Int32) : Bytes :=
  [putU64 g.image, putInt g.oldLayout, putInt g.newLayout, putI64 g.srcStage, putI64 g.dstStage,
    putI64 g.srcAccess, putI64 g.dstAccess, putInt g.aspect, putInt g.layout].flatten

def get : Reader (BarrierCore ι) := do
  let image ← getU64
  let oldLayout ← getInt cast
  let newLayout ← getInt cast
  let srcStage ← getI64
  let dstStage ← getI64
  let srcAccess ← getI64
  let dstAccess ← getI64
  let aspect ← getInt cast
  let layout ← getInt cast
  pure ⟨image, oldLayout, newLayout, srcStage, dstStage, srcAccess, dstAccess, aspect, layout⟩

end BarrierCore

@[ext] structure ClearColor where
  r : Double := ⟨0⟩
  g : Double := ⟨0⟩
  b : Double := ⟨0⟩
  a : Double := ⟨0⟩
deriving DecidableEq

namespace ClearColor

def present (c : ClearColor) : Bool :=
  c.r.bits ≠ 0 ∨ c.g.bits ≠ 0 ∨ c.b.bits ≠ 0 ∨ c.a.bits ≠ 0

def put (c : ClearColor) : Bytes := [putF64 c.r, putF64 c.g, putF64 c.b, putF64 c.a].flatten

def get : Reader ClearColor := do
  let r ← getF64
  let g ← getF64
  let b ← getF64
  let a ← getF64
  pure ⟨r, g, b, a⟩

end ClearColor

@[ext] structure RenderPassBegin (ι : Type) where
  renderPass : UInt64
  framebuffer : UInt64
  hasDepthClear : Bool
  depthClear : Double
  renderAreaX : ι
  renderAreaY : ι
  renderAreaW : ι
  renderAreaH : ι
deriving DecidableEq

namespace RenderPassBegin

variable {ι : Type} (cast : Int64 → ι)

def unset : RenderPassBegin ι :=
  ⟨0, 0, false, ⟨0⟩, cast 0, cast 0, cast (-1), cast (-1)⟩

def present (g : RenderPassBegin Int32) : Bool :=
  g.renderPass ≠ 0 ∨ g.framebuffer ≠ 0 ∨ g.hasDepthClear ∨ g.depthClear.bits ≠ 0 ∨
    g.renderAreaX ≠ 0 ∨ g.renderAreaY ≠ 0 ∨ g.renderAreaW ≠ -1 ∨ g.renderAreaH ≠ -1

def put (g : RenderPassBegin Int32) : Bytes :=
  [putU64 g.renderPass, putU64 g.framebuffer, putU64 (if g.hasDepthClear then 1 else 0),
    putF64 g.depthClear, putInt g.renderAreaX, putInt g.renderAreaY, putInt g.renderAreaW,
    putInt g.renderAreaH].flatten

def get : Reader (RenderPassBegin ι) := do
  let renderPass ← getU64
  let framebuffer ← getU64
  let hasDepthClear ← getU64
  let depthClear ← getF64
  let renderAreaX ← getInt cast
  let renderAreaY ← getInt cast
  let renderAreaW ← getInt cast
  let renderAreaH ← getInt cast
  pure ⟨renderPass, framebuffer, hasDepthClear ≠ 0, depthClear, renderAreaX, renderAreaY,
    renderAreaW, renderAreaH⟩

end RenderPassBegin

@[ext] structure Viewport where
  x : Double := ⟨0⟩
  y : Double := ⟨0⟩
  w : Double := ⟨0⟩
  h : Double := ⟨0⟩
  minDepth : Double := ⟨0⟩
  maxDepth : Double := ⟨0⟩
deriving DecidableEq

namespace Viewport

def present (v : Viewport) : Bool :=
  v.x.bits ≠ 0 ∨ v.y.bits ≠ 0 ∨ v.w.bits ≠ 0 ∨ v.h.bits ≠ 0 ∨ v.minDepth.bits ≠ 0 ∨
    v.maxDepth.bits ≠ 0

def put (v : Viewport) : Bytes :=
  [putF64 v.x, putF64 v.y, putF64 v.w, putF64 v.h, putF64 v.minDepth, putF64 v.maxDepth].flatten

def get : Reader Viewport := do
  let x ← getF64
  let y ← getF64
  let w ← getF64
  let h ← getF64
  let minDepth ← getF64
  let maxDepth ← getF64
  pure ⟨x, y, w, h, minDepth, maxDepth⟩

end Viewport

@[ext] structure Scissor (ι : Type) where
  x : ι
  y : ι
  w : ι
  h : ι
deriving DecidableEq

namespace Scissor

variable {ι : Type} (cast : Int64 → ι)

def unset : Scissor ι := ⟨cast 0, cast 0, cast (-1), cast (-1)⟩

def present (s : Scissor Int32) : Bool := s.x ≠ 0 ∨ s.y ≠ 0 ∨ s.w ≠ -1 ∨ s.h ≠ -1

def put (s : Scissor Int32) : Bytes := [putInt s.x, putInt s.y, putInt s.w, putInt s.h].flatten

def get : Reader (Scissor ι) := do
  let x ← getInt cast
  let y ← getInt cast
  let w ← getInt cast
  let h ← getInt cast
  pure ⟨x, y, w, h⟩

end Scissor

@[ext] structure Draw where
  vertexCount : Int64 := -1
  instanceCount : Int64 := -1
  firstVertex : Int64 := -1
  firstInstance : Int64 := -1
deriving DecidableEq

namespace Draw

def present (d : Draw) : Bool :=
  d.vertexCount ≠ -1 ∨ d.instanceCount ≠ -1 ∨ d.firstVertex ≠ -1 ∨ d.firstInstance ≠ -1

def put (d : Draw) : Bytes :=
  [putI64 d.vertexCount, putI64 d.instanceCount, putI64 d.firstVertex,
    putI64 d.firstInstance].flatten

def get : Reader Draw := do
  let vertexCount ← getI64
  let instanceCount ← getI64
  let firstVertex ← getI64
  let firstInstance ← getI64
  pure ⟨vertexCount, instanceCount, firstVertex, firstInstance⟩

end Draw

@[ext] structure VertexBufs (ι : Type) where
  firstBinding : ι
  vertexBuffers : List UInt64
  vertexBufferOffsets : List UInt64
deriving DecidableEq

namespace VertexBufs

variable {ι : Type} (cast : Int64 → ι)

def unset : VertexBufs ι := ⟨cast (-1), [], []⟩

def present (g : VertexBufs Int32) : Bool :=
  g.firstBinding ≠ -1 ∨ g.vertexBuffers ≠ [] ∨ g.vertexBufferOffsets ≠ []

def put (g : VertexBufs Int32) : Bytes :=
  [putInt g.firstBinding, putVecU64 g.vertexBuffers, putVecU64 g.vertexBufferOffsets].flatten

def get : Reader (VertexBufs ι) := do
  let firstBinding ← getInt cast
  let vertexBuffers ← getVecU64
  let vertexBufferOffsets ← getVecU64
  pure ⟨firstBinding, vertexBuffers, vertexBufferOffsets⟩

end VertexBufs

@[ext] structure DescSets (ι : Type) where
  descLayout : UInt64
  firstSet : ι
  descriptorSets : List UInt64
deriving DecidableEq

namespace DescSets

variable {ι : Type} (cast : Int64 → ι)

def unset : DescSets ι := ⟨0, cast (-1), []⟩

def present (g : DescSets Int32) : Bool :=
  g.descLayout ≠ 0 ∨ g.firstSet ≠ -1 ∨ g.descriptorSets ≠ []

def put (g : DescSets Int32) : Bytes :=
  [putU64 g.descLayout, putInt g.firstSet, putVecU64 g.descriptorSets].flatten

def get : Reader (DescSets ι) := do
  let descLayout ← getU64
  let firstSet ← getInt cast
  let descriptorSets ← getVecU64
  pure ⟨descLayout, firstSet, descriptorSets⟩

end DescSets

@[ext] structure Copy where
  srcBuffer : UInt64 := 0
  copyWidth : Int64 := -1
  copyHeight : Int64 := -1
  copyDepth : Int64 := -1
deriving DecidableEq

namespace Copy

def present (c : Copy) : Bool :=
  c.srcBuffer ≠ 0 ∨ c.copyWidth ≠ -1 ∨ c.copyHeight ≠ -1 ∨ c.copyDepth ≠ -1

def put (c : Copy) : Bytes :=
  [putU64 c.srcBuffer, putI64 c.copyWidth, putI64 c.copyHeight, putI64 c.copyDepth].flatten

def get : Reader Copy := do
  let srcBuffer ← getU64
  let copyWidth ← getI64
  let copyHeight ← getI64
  let copyDepth ← getI64
  pure ⟨srcBuffer, copyWidth, copyHeight, copyDepth⟩

end Copy

@[ext] structure BarrierRange (ι : Type) where
  baseMip : ι
  levelCount : ι
  baseLayer : ι
  layerCount : ι
deriving DecidableEq

namespace BarrierRange

variable {ι : Type} (cast : Int64 → ι)

def unset : BarrierRange ι := ⟨cast (-1), cast (-1), cast (-1), cast (-1)⟩

def present (g : BarrierRange Int32) : Bool :=
  g.baseMip ≠ -1 ∨ g.levelCount ≠ -1 ∨ g.baseLayer ≠ -1 ∨ g.layerCount ≠ -1

def put (g : BarrierRange Int32) : Bytes :=
  [putInt g.baseMip, putInt g.levelCount, putInt g.baseLayer, putInt g.layerCount].flatten

def get : Reader (BarrierRange ι) := do
  let baseMip ← getInt cast
  let levelCount ← getInt cast
  let baseLayer ← getInt cast
  let layerCount ← getInt cast
  pure ⟨baseMip, levelCount, baseLayer, layerCount⟩

end BarrierRange

structure IndirectDraw where
  offset : UInt64 := 0
  drawCount : Int64 := -1
  stride : Int64 := -1
deriving DecidableEq

namespace IndirectDraw

def put (g : IndirectDraw) : Bytes :=
  [putU64 g.offset, putI64 g.drawCount, putI64 g.stride].flatten

def get : Reader IndirectDraw := do
  let offset ← getU64
  let drawCount ← getI64
  let stride ← getI64
  pure ⟨offset, drawCount, stride⟩

end IndirectDraw

@[ext] structure IndirectCount where
  countBuffer : UInt64 := 0
  countBufferOffset : UInt64 := 0
deriving DecidableEq

namespace IndirectCount

def put (g : IndirectCount) : Bytes := [putU64 g.countBuffer, putU64 g.countBufferOffset].flatten

def get : Reader IndirectCount := do
  let countBuffer ← getU64
  let countBufferOffset ← getU64
  pure ⟨countBuffer, countBufferOffset⟩

end IndirectCount

/-! ## Dependencies -/

structure MemoryBarrier2 where
  srcStage : UInt64 := 0
  srcAccess : UInt64 := 0
  dstStage : UInt64 := 0
  dstAccess : UInt64 := 0
deriving DecidableEq

namespace MemoryBarrier2

def put (m : MemoryBarrier2) : Bytes :=
  [putU64 m.srcStage, putU64 m.srcAccess, putU64 m.dstStage, putU64 m.dstAccess].flatten

def get : Reader MemoryBarrier2 := do
  let srcStage ← getU64
  let srcAccess ← getU64
  let dstStage ← getU64
  let dstAccess ← getU64
  pure ⟨srcStage, srcAccess, dstStage, dstAccess⟩

end MemoryBarrier2

structure BufferMemoryBarrier2 where
  srcStage : UInt64 := 0
  srcAccess : UInt64 := 0
  dstStage : UInt64 := 0
  dstAccess : UInt64 := 0
  srcQueueFamily : Int64 := 0
  dstQueueFamily : Int64 := 0
  buffer : UInt64 := 0
  offset : UInt64 := 0
  size : UInt64 := 0
deriving DecidableEq

namespace BufferMemoryBarrier2

def put (b : BufferMemoryBarrier2) : Bytes :=
  [putU64 b.srcStage, putU64 b.srcAccess, putU64 b.dstStage, putU64 b.dstAccess,
    putI64 b.srcQueueFamily, putI64 b.dstQueueFamily, putU64 b.buffer, putU64 b.offset,
    putU64 b.size].flatten

def get : Reader BufferMemoryBarrier2 := do
  let srcStage ← getU64
  let srcAccess ← getU64
  let dstStage ← getU64
  let dstAccess ← getU64
  let srcQueueFamily ← getI64
  let dstQueueFamily ← getI64
  let buffer ← getU64
  let offset ← getU64
  let size ← getU64
  pure ⟨srcStage, srcAccess, dstStage, dstAccess, srcQueueFamily, dstQueueFamily, buffer, offset,
    size⟩

end BufferMemoryBarrier2

structure ImageMemoryBarrier2 (ι : Type) where
  srcStage : UInt64
  srcAccess : UInt64
  dstStage : UInt64
  dstAccess : UInt64
  oldLayout : ι
  newLayout : ι
  srcQueueFamily : Int64
  dstQueueFamily : Int64
  image : UInt64
  aspect : Int64
  baseMip : Int64
  levelCount : Int64
  baseLayer : Int64
  layerCount : Int64
deriving DecidableEq

namespace ImageMemoryBarrier2

variable {ι : Type} (cast : Int64 → ι)

def put (m : ImageMemoryBarrier2 Int32) : Bytes :=
  [putU64 m.srcStage, putU64 m.srcAccess, putU64 m.dstStage, putU64 m.dstAccess,
    putInt m.oldLayout, putInt m.newLayout, putI64 m.srcQueueFamily, putI64 m.dstQueueFamily,
    putU64 m.image, putI64 m.aspect, putI64 m.baseMip, putI64 m.levelCount, putI64 m.baseLayer,
    putI64 m.layerCount].flatten

def get : Reader (ImageMemoryBarrier2 ι) := do
  let srcStage ← getU64
  let srcAccess ← getU64
  let dstStage ← getU64
  let dstAccess ← getU64
  let oldLayout ← getInt cast
  let newLayout ← getInt cast
  let srcQueueFamily ← getI64
  let dstQueueFamily ← getI64
  let image ← getU64
  let aspect ← getI64
  let baseMip ← getI64
  let levelCount ← getI64
  let baseLayer ← getI64
  let layerCount ← getI64
  pure ⟨srcStage, srcAccess, dstStage, dstAccess, oldLayout, newLayout, srcQueueFamily,
    dstQueueFamily, image, aspect, baseMip, levelCount, baseLayer, layerCount⟩

end ImageMemoryBarrier2

/-- A count within the cap and within what is left, and that many items. -/
def getCapped {α : Type} (cap unit : Nat) (item : Reader α) : Reader (List α) := do
  let n ← getU64
  if n.toNat > cap then Parser.fail
  else
    guardCount n.toNat unit
    item.times n.toNat

structure DependencyInfo2 (ι : Type) where
  dependencyFlags : UInt64
  memory : List MemoryBarrier2
  buffer : List BufferMemoryBarrier2
  image : List (ImageMemoryBarrier2 ι)
deriving DecidableEq

namespace DependencyInfo2

variable {ι : Type} (cast : Int64 → ι)

/-- `wire_put_dep2`. -/
def put (d : DependencyInfo2 Int32) : Bytes :=
  [putU64 d.dependencyFlags, putVec MemoryBarrier2.put d.memory,
    putVec BufferMemoryBarrier2.put d.buffer, putVec ImageMemoryBarrier2.put d.image].flatten

/-- `wire_get_dep2`. -/
def get : Reader (DependencyInfo2 ι) := do
  let dependencyFlags ← getU64
  let memory ← getCapped kMaxSync2BarriersPerDep 32 MemoryBarrier2.get
  let buffer ← getCapped kMaxSync2BarriersPerDep 72 BufferMemoryBarrier2.get
  let image ← getCapped kMaxSync2BarriersPerDep 112 (ImageMemoryBarrier2.get cast)
  pure ⟨dependencyFlags, memory, buffer, image⟩

end DependencyInfo2

/-! ## Commands -/

structure RecordedCommand (ι : Type) where
  kind : Bytes
  barrierCore : BarrierCore ι
  clearColor : ClearColor
  begin : RenderPassBegin ι
  pipeline : UInt64
  viewport : Viewport
  scissor : Scissor ι
  draw : Draw
  vertexBufs : VertexBufs ι
  descSets : DescSets ι
  copy : Copy
  barrierRange : BarrierRange ι
  argsU64 : List UInt64
  argsI64 : List Int64
  argsF64 : List Double
  argsBlob : Bytes
  deps2 : List (DependencyInfo2 ι)
  indirectDraw : IndirectDraw
  indirectCount : IndirectCount
  /-- Producer hints: they choose the name of a command whose kind is empty. -/
  indirectIndexed : Bool
  indirectCounted : Bool
deriving DecidableEq

/-- A command with every field at its default. -/
def RecordedCommand.unset {ι : Type} (cast : Int64 → ι) (kind : Bytes) : RecordedCommand ι where
  kind
  barrierCore := .unset cast
  clearColor := {}
  begin := .unset cast
  pipeline := 0
  viewport := {}
  scissor := .unset cast
  draw := {}
  vertexBufs := .unset cast
  descSets := .unset cast
  copy := {}
  barrierRange := .unset cast
  argsU64 := []
  argsI64 := []
  argsF64 := []
  argsBlob := []
  deps2 := []
  indirectDraw := {}
  indirectCount := {}
  indirectIndexed := false
  indirectCounted := false

def drawIndirect : Bytes := ascii "draw_indirect"
def drawIndexedIndirect : Bytes := ascii "draw_indexed_indirect"
def drawIndirectCount : Bytes := ascii "draw_indirect_count"
def drawIndexedIndirectCount : Bytes := ascii "draw_indexed_indirect_count"

/-- The kinds that must not carry the count group. -/
def isBaseIndirect (kind : Bytes) : Bool := kind = drawIndirect ∨ kind = drawIndexedIndirect

/-- The kinds that need both indirect groups. -/
def isIndirectCount (kind : Bytes) : Bool :=
  kind = drawIndirectCount ∨ kind = drawIndexedIndirectCount

section Encode

variable (c : RecordedCommand Int32)

/-- `recorded_command_kind_name`. -/
def kindName : Bytes :=
  if c.kind = [] ∧ (c.indirectDraw.drawCount ≠ -1 ∨ c.indirectDraw.stride ≠ -1) then
    if c.indirectCounted then
      if c.indirectIndexed then drawIndexedIndirectCount else drawIndirectCount
    else if c.indirectIndexed then drawIndexedIndirect else drawIndirect
  else c.kind

def countPayload : Bool :=
  c.indirectCounted ∨ c.indirectCount.countBuffer ≠ 0 ∨ c.indirectCount.countBufferOffset ≠ 0

/-- The presence test of the indirect-draw group. It does not ask for the offset. -/
def indirectDrawPresent : Bool :=
  countPayload c ∨ c.indirectDraw.drawCount ≠ -1 ∨ c.indirectDraw.stride ≠ -1

/-- Which groups are present, from bit 0 on. -/
def presence : List Bool :=
  [c.barrierCore.present, c.clearColor.present, c.begin.present, c.pipeline ≠ 0,
    c.viewport.present, c.scissor.present, c.draw.present, c.vertexBufs.present,
    c.descSets.present, c.copy.present, c.barrierRange.present, c.argsU64 ≠ [], c.argsI64 ≠ [],
    c.argsF64 ≠ [], c.argsBlob ≠ [], c.deps2 ≠ [], indirectDrawPresent c, countPayload c]

def maskOf : UInt64 :=
  UInt64.ofNat (Nat.ofBits fun i : Fin 18 => (presence c).getD i false)

/-- A group is written when its bit is set. -/
def putIf (present : Bool) (word : Bytes) : Bytes := if present then word else []

/-- The field groups of a command, in bit order. -/
def groupWords : List Bytes :=
  [putIf c.barrierCore.present c.barrierCore.put, putIf c.clearColor.present c.clearColor.put,
    putIf c.begin.present c.begin.put, putIf (c.pipeline ≠ 0) (putU64 c.pipeline),
    putIf c.viewport.present c.viewport.put, putIf c.scissor.present c.scissor.put,
    putIf c.draw.present c.draw.put, putIf c.vertexBufs.present c.vertexBufs.put,
    putIf c.descSets.present c.descSets.put, putIf c.copy.present c.copy.put,
    putIf c.barrierRange.present c.barrierRange.put, putIf (c.argsU64 ≠ []) (putVecU64 c.argsU64),
    putIf (c.argsI64 ≠ []) (putVec putI64 c.argsI64),
    putIf (c.argsF64 ≠ []) (putVec putF64 c.argsF64), putIf (c.argsBlob ≠ []) (putStr c.argsBlob),
    putIf (c.deps2 ≠ []) (putVec DependencyInfo2.put c.deps2),
    putIf (indirectDrawPresent c) c.indirectDraw.put,
    putIf (countPayload c) c.indirectCount.put]

def putGroups : Bytes := (groupWords c).flatten

def putCommand : Bytes := putStr (kindName c) ++ (putU64 (maskOf c) ++ putGroups c)

end Encode

section Decode

variable {ι : Type} (cast : Int64 → ι)

/-- The bit of a group in the mask. -/
def hasGroup (mask : UInt64) (bit : Nat) : Bool := mask.toNat.testBit bit

/-- A group whose bit is clear keeps its default. -/
def getIf {α : Type} (mask : UInt64) (bit : Nat) (get : Reader α) (unset : α) : Reader α :=
  if hasGroup mask bit then get else pure unset

def getGroups (kind : Bytes) (mask : UInt64) : Reader (RecordedCommand ι) := do
  let barrierCore ← getIf mask 0 (BarrierCore.get cast) (.unset cast)
  let clearColor ← getIf mask 1 ClearColor.get {}
  let begin ← getIf mask 2 (RenderPassBegin.get cast) (.unset cast)
  let pipeline ← getIf mask 3 getU64 0
  let viewport ← getIf mask 4 Viewport.get {}
  let scissor ← getIf mask 5 (Scissor.get cast) (.unset cast)
  let draw ← getIf mask 6 Draw.get {}
  let vertexBufs ← getIf mask 7 (VertexBufs.get cast) (.unset cast)
  let descSets ← getIf mask 8 (DescSets.get cast) (.unset cast)
  let copy ← getIf mask 9 Copy.get {}
  let barrierRange ← getIf mask 10 (BarrierRange.get cast) (.unset cast)
  let argsU64 ← getIf mask 11 getVecU64 []
  let argsI64 ← getIf mask 12 (getVec getI64) []
  let argsF64 ← getIf mask 13 (getVec getF64) []
  let argsBlob ← getIf mask 14 getStr []
  let deps2 ← getIf mask 15 (getCapped kMaxSync2Dependencies 32 (DependencyInfo2.get cast)) []
  let indirectDraw ← getIf mask 16 IndirectDraw.get {}
  let indirectCount ← getIf mask 17 IndirectCount.get {}
  pure { kind, barrierCore, clearColor, begin, pipeline, viewport, scissor, draw, vertexBufs,
         descSets, copy, barrierRange, argsU64, argsI64, argsF64, argsBlob, deps2, indirectDraw,
         indirectCount, indirectIndexed := false, indirectCounted := false }

/-- Bits beyond the known groups. -/
def hasUnknownGroup (mask : UInt64) : Bool := mask.toNat ≥ 2 ^ 18

/-- The policing of the indirect groups' shape. It reads only the kind and the mask,
so it also runs after a failed read. -/
def checkIndirectShape (kind : Bytes) (mask : UInt64) : Except String Unit :=
  if hasGroup mask 16 ∨ hasGroup mask 17 then
    if isBaseIndirect kind ∧ hasGroup mask 17 then
      .error "base indirect draw carries count-only field group"
    else if isIndirectCount kind ∧ (!hasGroup mask 16 ∨ !hasGroup mask 17) then
      .error "indirect-count draw is missing required field groups"
    else .ok ()
  else .ok ()

def truncated : String := "record command stream truncated or malformed"

def getCommand (body : Bytes) : Except String (RecordedCommand ι × Bytes) :=
  match getStr.run body with
  | none => .error truncated
  | some (kind, body) =>
    match getU64.run body with
    | none => .error truncated
    | some (mask, body) =>
      if hasUnknownGroup mask then .error "record command carries an unknown field group"
      else do
        checkIndirectShape kind mask
        match (getGroups cast kind mask).run body with
        | none => .error truncated
        | some result => .ok result

def getCommands : Nat → Bytes → Except String (List (RecordedCommand ι) × Bytes)
  | 0, body => .ok ([], body)
  | count + 1, body => do
    let (c, body) ← getCommand cast body
    let (rest, body) ← getCommands count body
    .ok (c :: rest, body)

end Decode

/-! ## Requests -/

structure RecordCommandBufferRequest (ι : Type) where
  commandBuffer : UInt64
  recordingGeneration : UInt64
  oneTimeSubmit : Bool
  commands : List (RecordedCommand ι)
deriving DecidableEq

namespace RecordCommandBufferRequest

def header (r : RecordCommandBufferRequest Int32) : Value :=
  .object [(ascii "v", .number 2), (ascii "command_buffer", handleValue r.commandBuffer.toNat),
    (ascii "recording_generation", handleValue r.recordingGeneration.toNat),
    (ascii "one_time_submit", .bool r.oneTimeSubmit),
    (ascii "count", .number r.commands.length)]

def tail (r : RecordCommandBufferRequest Int32) : Bytes := r.commands.flatMap putCommand

/-- The estimate the envelope is started with. -/
def reserve (r : RecordCommandBufferRequest Int32) : Nat :=
  if r.commands.length ≤ (kMaxFrameBytes - kRpcHeaderBytes) / 16 then r.commands.length * 16
  else kMaxFrameBytes

/-- The body of the call; empty where it does not fit the frame. -/
def toWire (r : RecordCommandBufferRequest Int32) : Bytes :=
  match startBinaryEnvelope r.header r.reserve "record" with
  | .error _ => []
  | .ok out =>
    if (out ++ r.tail).length > kMaxFrameBytes - kRpcHeaderBytes then [] else out ++ r.tail

end RecordCommandBufferRequest

section Header

/-- `llround` of a double that is whole; what it returns outside the 64-bit range is
not defined, and never a small number. -/
def asInt (q : ℚ) : Int :=
  if -2 ^ 63 ≤ q.num ∧ q.num < 2 ^ 63 then q.num else -2 ^ 63

def getIntField (obj : Value) (key : Bytes) (fallback : Int) : Int :=
  match obj.find key with
  | some (.number q) => if q.den = 1 then (asInt q).bmod (2 ^ 32) else fallback
  | _ => fallback

/-- `json_i64_value`: a whole number in the 64-bit range. -/
def i64Value : Value → Option Int
  | .number q => if q.den = 1 ∧ -2 ^ 63 ≤ q ∧ q < 2 ^ 63 then some q.num else none
  | _ => none

def getI64Field (obj : Value) (key : Bytes) (fallback : Int) : Int :=
  ((obj.find key).bind i64Value).getD fallback

def getBoolField (obj : Value) (key : Bytes) : Bool :=
  match obj.find key with
  | some (.bool b) => b
  | _ => false

end Header

def decodeTail {ι : Type} (cast : Int64 → ι) (h : Value) (tail : Bytes) :
    Except String (RecordCommandBufferRequest ι) :=
  if getIntField h (ascii "v") (-1) ≠ 2 then .error "record wire version not supported"
  else
    let count := getI64Field h (ascii "count") (-1)
    if count < 0 then .error "record header count missing"
    else if count.toNat > tail.length / 16 then .error "record header count exceeds body"
    else do
      let (commands, rest) ← getCommands cast count.toNat tail
      if rest ≠ [] then .error "record command stream carries trailing bytes"
      else
        .ok { commandBuffer := UInt64.ofNat (getHandle h (ascii "command_buffer"))
              recordingGeneration := UInt64.ofNat (getHandle h (ascii "recording_generation"))
              oneTimeSubmit := getBoolField h (ascii "one_time_submit")
              commands }

/-- `from_wire`, with the cast of the `int` fields. -/
def decodeRequest {ι : Type} (cast : Int64 → ι) (body : Bytes) :
    Except String (RecordCommandBufferRequest ι) := do
  let (h, tailOffset) ← decodeBinaryEnvelope body "record"
  decodeTail cast h (body.drop tailOffset)

/-- `from_wire`: the `int` fields are narrowed with `static_cast<int>`. -/
def fromWire (body : Bytes) : Except String (RecordCommandBufferRequest Int32) :=
  decodeRequest Int64.toInt32 body

end VkRelay.Wire.Record
