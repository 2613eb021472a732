import VkRelay.Wire.BodyFields
import VkRelay.Wire.JsonIndent
import VkRelay.Wire.RecordCodec

/-!
The JSON record body, the fallback of the packed one: every field of every command
under its own key, handles as decimal strings, blobs in hexadecimal and barriers as
positional arrays. Decoding is total. Where the text can be read at all, both paths
decode to the same request, floating-point fields apart.
-/

namespace VkRelay.Wire.Record

open VkRelay.Lib VkRelay.Json

/-! ## Encoding -/

def MemoryBarrier2.toBody (m : MemoryBarrier2) : Value :=
  .array [ofHandle m.srcStage, ofHandle m.srcAccess, ofHandle m.dstStage, ofHandle m.dstAccess]

def BufferMemoryBarrier2.toBody (b : BufferMemoryBarrier2) : Value :=
  .array [ofHandle b.srcStage, ofHandle b.srcAccess, ofHandle b.dstStage, ofHandle b.dstAccess,
    ofI64 b.srcQueueFamily, ofI64 b.dstQueueFamily, ofHandle b.buffer, ofHandle b.offset,
    ofHandle b.size]

def ImageMemoryBarrier2.toBody (m : ImageMemoryBarrier2 Int32) : Value :=
  .array [ofHandle m.srcStage, ofHandle m.srcAccess, ofHandle m.dstStage, ofHandle m.dstAccess,
    ofI64 m.oldLayout.toInt64, ofI64 m.newLayout.toInt64, ofI64 m.srcQueueFamily,
    ofI64 m.dstQueueFamily, ofHandle m.image, ofI64 m.aspect, ofI64 m.baseMip, ofI64 m.levelCount,
    ofI64 m.baseLayer, ofI64 m.layerCount]

def DependencyInfo2.toBody (d : DependencyInfo2 Int32) : Value :=
  .object [(ascii "flags", ofHandle d.dependencyFlags),
    (ascii "mem", .array (d.memory.map MemoryBarrier2.toBody)),
    (ascii "buf", .array (d.buffer.map BufferMemoryBarrier2.toBody)),
    (ascii "img", .array (d.image.map ImageMemoryBarrier2.toBody))]

section Encode

variable (c : RecordedCommand Int32)

def fixedMembers : List (Bytes × Value) :=
  [(ascii "kind", .string (kindName c)),
    (ascii "image", ofHandle c.barrierCore.image),
    (ascii "old_layout", ofInt c.barrierCore.oldLayout),
    (ascii "new_layout", ofInt c.barrierCore.newLayout),
    (ascii "src_stage", ofI64 c.barrierCore.srcStage),
    (ascii "dst_stage", ofI64 c.barrierCore.dstStage),
    (ascii "src_access", ofI64 c.barrierCore.srcAccess),
    (ascii "dst_access", ofI64 c.barrierCore.dstAccess),
    (ascii "aspect", ofInt c.barrierCore.aspect),
    (ascii "layout", ofInt c.barrierCore.layout),
    (ascii "r", c.clearColor.r.value),
    (ascii "g", c.clearColor.g.value),
    (ascii "b", c.clearColor.b.value),
    (ascii "a", c.clearColor.a.value),
    (ascii "render_pass", ofHandle c.begin.renderPass),
    (ascii "framebuffer", ofHandle c.begin.framebuffer),
    (ascii "has_depth_clear", .bool c.begin.hasDepthClear),
    (ascii "depth_clear", c.begin.depthClear.value),
    (ascii "pipeline", ofHandle c.pipeline),
    (ascii "render_area_x", ofInt c.begin.renderAreaX),
    (ascii "render_area_y", ofInt c.begin.renderAreaY),
    (ascii "render_area_w", ofInt c.begin.renderAreaW),
    (ascii "render_area_h", ofInt c.begin.renderAreaH),
    (ascii "vp_x", c.viewport.x.value),
    (ascii "vp_y", c.viewport.y.value),
    (ascii "vp_w", c.viewport.w.value),
    (ascii "vp_h", c.viewport.h.value),
    (ascii "vp_min_depth", c.viewport.minDepth.value),
    (ascii "vp_max_depth", c.viewport.maxDepth.value),
    (ascii "sc_x", ofInt c.scissor.x),
    (ascii "sc_y", ofInt c.scissor.y),
    (ascii "sc_w", ofInt c.scissor.w),
    (ascii "sc_h", ofInt c.scissor.h),
    (ascii "vertex_count", ofI64 c.draw.vertexCount),
    (ascii "instance_count", ofI64 c.draw.instanceCount),
    (ascii "first_vertex", ofI64 c.draw.firstVertex),
    (ascii "first_instance", ofI64 c.draw.firstInstance),
    (ascii "first_binding", ofInt c.vertexBufs.firstBinding),
    (ascii "vertex_buffers", handleArray c.vertexBufs.vertexBuffers),
    (ascii "vertex_buffer_offsets", handleArray c.vertexBufs.vertexBufferOffsets),
    (ascii "desc_layout", ofHandle c.descSets.descLayout),
    (ascii "first_set", ofInt c.descSets.firstSet),
    (ascii "descriptor_sets", handleArray c.descSets.descriptorSets),
    (ascii "src_buffer", ofHandle c.copy.srcBuffer),
    (ascii "indirect_offset", ofHandle c.indirectDraw.offset),
    (ascii "indirect_draw_count", ofI64 c.indirectDraw.drawCount),
    (ascii "indirect_stride", ofI64 c.indirectDraw.stride),
    (ascii "indirect_count_buffer", ofHandle c.indirectCount.countBuffer),
    (ascii "indirect_count_buffer_offset", ofHandle c.indirectCount.countBufferOffset),
    (ascii "copy_width", ofI64 c.copy.copyWidth),
    (ascii "copy_height", ofI64 c.copy.copyHeight),
    (ascii "copy_depth", ofI64 c.copy.copyDepth),
    (ascii "barrier_base_mip", ofInt c.barrierRange.baseMip),
    (ascii "barrier_level_count", ofInt c.barrierRange.levelCount),
    (ascii "barrier_base_layer", ofInt c.barrierRange.baseLayer),
    (ascii "barrier_layer_count", ofInt c.barrierRange.layerCount),
    (ascii "args_u64", handleArray c.argsU64),
    (ascii "args_i64", .array (c.argsI64.map ofI64)),
    (ascii "args_f64", .array (c.argsF64.map Double.value)),
    (ascii "args_blob", .string (toHex c.argsBlob))]

def commandMembers : List (Bytes × Value) :=
  fixedMembers c ++
    if c.deps2 = [] then [] else [(ascii "deps2", .array (c.deps2.map DependencyInfo2.toBody))]

def RecordedCommand.toBody : Value := .object (commandMembers c)

end Encode

def RecordCommandBufferRequest.toBody (r : RecordCommandBufferRequest Int32) : Value :=
  .object [(ascii "command_buffer", ofHandle r.commandBuffer),
    (ascii "recording_generation", ofHandle r.recordingGeneration),
    (ascii "one_time_submit", .bool r.oneTimeSubmit),
    (ascii "commands", .array (r.commands.map RecordedCommand.toBody))]

/-! ## Decoding -/

section Positional

variable (a : List Value) (i : Nat)

def u64At : UInt64 := ((a[i]?).map u64Of).getD 0

def i64At : Int64 := ((a[i]?).map i64Of).getD 0

end Positional

/-- A barrier that is no array is skipped. -/
def MemoryBarrier2.ofBody : Value → Option MemoryBarrier2
  | .array a => some ⟨u64At a 0, u64At a 1, u64At a 2, u64At a 3⟩
  | _ => none

def BufferMemoryBarrier2.ofBody : Value → Option BufferMemoryBarrier2
  | .array a =>
    some ⟨u64At a 0, u64At a 1, u64At a 2, u64At a 3, i64At a 4, i64At a 5, u64At a 6, u64At a 7,
      u64At a 8⟩
  | _ => none

def ImageMemoryBarrier2.ofBody : Value → Option (ImageMemoryBarrier2 Int32)
  | .array a =>
    some ⟨u64At a 0, u64At a 1, u64At a 2, u64At a 3, (i64At a 4).toInt32, (i64At a 5).toInt32,
      i64At a 6, i64At a 7, u64At a 8, i64At a 9, i64At a 10, i64At a 11, i64At a 12, i64At a 13⟩
  | _ => none

/-- A dependency that is no object is skipped. -/
def DependencyInfo2.ofBody (dv : Value) : Option (DependencyInfo2 Int32) :=
  if dv.isObject then
    some ⟨getHandle64 dv "flags", (getItems dv "mem").filterMap MemoryBarrier2.ofBody,
      (getItems dv "buf").filterMap BufferMemoryBarrier2.ofBody,
      (getItems dv "img").filterMap ImageMemoryBarrier2.ofBody⟩
  else none

section Decode

variable (e : Value)

def BarrierCore.ofBody : BarrierCore Int32 where
  image := getHandle64 e "image"
  oldLayout := getIndex e "old_layout"
  newLayout := getIndex e "new_layout"
  srcStage := getInt64 e "src_stage" (-1)
  dstStage := getInt64 e "dst_stage" (-1)
  srcAccess := getInt64 e "src_access" (-1)
  dstAccess := getInt64 e "dst_access" (-1)
  aspect := getIndex e "aspect"
  layout := getIndex e "layout"

def ClearColor.ofBody : ClearColor :=
  ⟨getNumber e "r", getNumber e "g", getNumber e "b", getNumber e "a"⟩

def RenderPassBegin.ofBody : RenderPassBegin Int32 where
  renderPass := getHandle64 e "render_pass"
  framebuffer := getHandle64 e "framebuffer"
  hasDepthClear := getBoolField e (ascii "has_depth_clear")
  depthClear := getNumber e "depth_clear"
  renderAreaX := getInt32 e "render_area_x" 0
  renderAreaY := getInt32 e "render_area_y" 0
  renderAreaW := getIndex e "render_area_w"
  renderAreaH := getIndex e "render_area_h"

def Viewport.ofBody : Viewport :=
  ⟨getNumber e "vp_x", getNumber e "vp_y", getNumber e "vp_w", getNumber e "vp_h",
    getNumber e "vp_min_depth", getNumber e "vp_max_depth"⟩

def Scissor.ofBody : Scissor Int32 :=
  ⟨getInt32 e "sc_x" 0, getInt32 e "sc_y" 0, getIndex e "sc_w", getIndex e "sc_h"⟩

def Draw.ofBody : Draw :=
  ⟨getInt64 e "vertex_count" (-1), getInt64 e "instance_count" (-1),
    getInt64 e "first_vertex" (-1), getInt64 e "first_instance" (-1)⟩

def VertexBufs.ofBody : VertexBufs Int32 :=
  ⟨getIndex e "first_binding", getHandleArray e "vertex_buffers",
    getHandleArray e "vertex_buffer_offsets"⟩

def DescSets.ofBody : DescSets Int32 :=
  ⟨getHandle64 e "desc_layout", getIndex e "first_set", getHandleArray e "descriptor_sets"⟩

def Copy.ofBody : Copy :=
  ⟨getHandle64 e "src_buffer", getInt64 e "copy_width" (-1), getInt64 e "copy_height" (-1),
    getInt64 e "copy_depth" (-1)⟩

def BarrierRange.ofBody : BarrierRange Int32 :=
  ⟨getIndex e "barrier_base_mip", getIndex e "barrier_level_count",
    getIndex e "barrier_base_layer", getIndex e "barrier_layer_count"⟩

def IndirectDraw.ofBody : IndirectDraw :=
  ⟨getHandle64 e "indirect_offset", getInt64 e "indirect_draw_count" (-1),
    getInt64 e "indirect_stride" (-1)⟩

def IndirectCount.ofBody : IndirectCount :=
  ⟨getHandle64 e "indirect_count_buffer", getHandle64 e "indirect_count_buffer_offset"⟩

/-- The hints are no fields of the body. -/
def RecordedCommand.ofBody : RecordedCommand Int32 where
  kind := getString e "kind"
  barrierCore := .ofBody e
  clearColor := .ofBody e
  begin := .ofBody e
  pipeline := getHandle64 e "pipeline"
  viewport := .ofBody e
  scissor := .ofBody e
  draw := .ofBody e
  vertexBufs := .ofBody e
  descSets := .ofBody e
  copy := .ofBody e
  barrierRange := .ofBody e
  argsU64 := getHandleArray e "args_u64"
  argsI64 := (getItems e "args_i64").map i64Of
  argsF64 := (getItems e "args_f64").map numberOf
  argsBlob := getHexBlob e "args_blob"
  deps2 := (getItems e "deps2").filterMap DependencyInfo2.ofBody
  indirectDraw := .ofBody e
  indirectCount := .ofBody e
  indirectIndexed := false
  indirectCounted := false

end Decode

def fromBody (body : Value) : RecordCommandBufferRequest Int32 where
  commandBuffer := getHandle64 body "command_buffer"
  recordingGeneration := getHandle64 body "recording_generation"
  oneTimeSubmit := getBoolField body (ascii "one_time_submit")
  commands := (getItems body "commands").map RecordedCommand.ofBody

/-! ## Looking up members -/

section Members

theorem lookup_of_mem {members : List (Bytes × Value)} (hkeys : (members.map Prod.fst).Nodup)
    {key : Bytes} {v : Value} (hmem : (key, v) ∈ members) : members.lookup key = some v := by
  induction members with
  | nil => cases hmem
  | cons m members ih =>
    obtain ⟨name, w⟩ := m
    rw [List.map_cons, List.nodup_cons] at hkeys
    rcases List.mem_cons.mp hmem with heq | hrest
    · obtain ⟨rfl, rfl⟩ := Prod.mk.inj heq
      simp
    · have hne : (key == name) = false := by
        rw [beq_eq_false_iff_ne]
        rintro rfl
        exact hkeys.1 (List.mem_map.mpr ⟨(key, v), hrest, rfl⟩)
      rw [List.lookup_cons, hne]
      exact ih hkeys.2 hrest

variable (c : RecordedCommand Int32)

/-- The keys do not depend on the command. -/
def commandKeys : List Bytes :=
  (fixedMembers (RecordedCommand.unset Int64.toInt32 [])).map Prod.fst ++ [ascii "deps2"]

theorem nodup_commandKeys : commandKeys.Nodup := by decide +kernel

theorem nodup_keys : ((commandMembers c).map Prod.fst).Nodup := by
  refine nodup_commandKeys.sublist ?_
  have hfixed : (fixedMembers c).map Prod.fst =
      (fixedMembers (RecordedCommand.unset Int64.toInt32 [])).map Prod.fst := rfl
  rw [commandMembers, List.map_append, commandKeys, hfixed]
  refine List.Sublist.append (List.Sublist.refl _) ?_
  split_ifs
  · exact List.nil_sublist _
  · exact List.Sublist.refl _

/-- A member is found under its key; it is named by its place in the list. -/
theorem find_toBody (i : Nat) {key : Bytes} {v : Value}
    (hmember : (fixedMembers c)[i]? = some (key, v)) : c.toBody.find key = some v :=
  lookup_of_mem (nodup_keys c)
    (List.mem_append_left _ (List.mem_of_getElem? hmember))

end Members

/-! ## Decoding what was encoded -/

section Fields

def DependencyInfo2.wideInts (d : DependencyInfo2 Int32) : List Int64 :=
  d.buffer.flatMap (fun b => [b.srcQueueFamily, b.dstQueueFamily]) ++
    d.image.flatMap fun m => [m.srcQueueFamily, m.dstQueueFamily, m.aspect, m.baseMip, m.levelCount,
      m.baseLayer, m.layerCount]

namespace RecordedCommand

variable (c : RecordedCommand Int32)

def wideInts : List Int64 :=
  [c.barrierCore.srcStage, c.barrierCore.dstStage, c.barrierCore.srcAccess,
    c.barrierCore.dstAccess, c.draw.vertexCount, c.draw.instanceCount, c.draw.firstVertex,
    c.draw.firstInstance, c.copy.copyWidth, c.copy.copyHeight, c.copy.copyDepth,
    c.indirectDraw.drawCount, c.indirectDraw.stride] ++
    (c.argsI64 ++ c.deps2.flatMap DependencyInfo2.wideInts)

/-- The `int` fields that are read as an index, an extent or an enumerator. -/
def indices : List Int32 :=
  [c.barrierCore.oldLayout, c.barrierCore.newLayout, c.barrierCore.aspect, c.barrierCore.layout,
    c.begin.renderAreaW, c.begin.renderAreaH, c.scissor.w, c.scissor.h, c.vertexBufs.firstBinding,
    c.descSets.firstSet, c.barrierRange.baseMip, c.barrierRange.levelCount,
    c.barrierRange.baseLayer, c.barrierRange.layerCount]

def doubles : List Double :=
  [c.clearColor.r, c.clearColor.g, c.clearColor.b, c.clearColor.a, c.begin.depthClear,
    c.viewport.x, c.viewport.y, c.viewport.w, c.viewport.h, c.viewport.minDepth,
    c.viewport.maxDepth] ++ c.argsF64

/-- The `int` fields are below ten to the fifteenth anyway. -/
def IntsBelow : Prop := ∀ v ∈ c.wideInts, Small v

/-- Every index-like field is non-negative or the -1 that stands for a missing one. -/
def IndicesInRange : Prop := ∀ v ∈ c.indices, 0 ≤ v ∨ v = -1

variable {c}

theorem IntsBelow.small (hints : c.IntsBelow) (i : Nat) {v : Int64}
    (hv : c.wideInts[i]? = some v) : Small v := hints v (List.mem_of_getElem? hv)

theorem IndicesInRange.inRange (hindex : c.IndicesInRange) (i : Nat) {v : Int32}
    (hv : c.indices[i]? = some v) : 0 ≤ v ∨ v = -1 := hindex v (List.mem_of_getElem? hv)

variable (c)

/-- The command with its floating-point fields cleared; the number of arguments stays. -/
def dropFloats : RecordedCommand Int32 :=
  { c with
    clearColor := {}
    begin := { c.begin with depthClear := ⟨0⟩ }
    viewport := {}
    argsF64 := c.argsF64.map fun _ => ⟨0⟩ }

end RecordedCommand

end Fields

section ReadBack

/-- What holds of all of a list that is written out, as one entry of a simp set. -/
theorem forall_listed : (∀ {α : Type} {p : α → Prop} {x : α} {xs : List α},
      (∀ y ∈ x :: xs, p y) ↔ p x ∧ ∀ y ∈ xs, p y) ∧
    (∀ {α : Type} {p : α → Prop}, (∀ y ∈ ([] : List α), p y) ↔ True) ∧
      ∀ {q : Prop}, q ∧ True ↔ q := by
  simp

theorem MemoryBarrier2.ofBody_toBody (m : MemoryBarrier2) : ofBody m.toBody = some m := by
  simp [toBody, ofBody, u64At, u64Of_ofHandle]

theorem BufferMemoryBarrier2.ofBody_toBody {b : BufferMemoryBarrier2}
    (hints : ∀ v ∈ [b.srcQueueFamily, b.dstQueueFamily], Small v) :
    ofBody b.toBody = some b := by
  simp only [forall_listed] at hints
  simp [toBody, ofBody, u64At, i64At, u64Of_ofHandle, i64Of_ofI64, hints]

theorem ImageMemoryBarrier2.ofBody_toBody {m : ImageMemoryBarrier2 Int32}
    (hints : ∀ v ∈ [m.srcQueueFamily, m.dstQueueFamily, m.aspect, m.baseMip, m.levelCount,
      m.baseLayer, m.layerCount], Small v) : ofBody m.toBody = some m := by
  simp only [forall_listed] at hints
  simp [toBody, ofBody, u64At, i64At, u64Of_ofHandle, i64Of_ofI64, hints, small_toInt64]

/-- A list of bodies none of which is skipped. -/
theorem filterMap_ofBody {α : Type} {put : α → Value} {get : Value → Option α} {xs : List α}
    (hget : ∀ x ∈ xs, get (put x) = some x) : (xs.map put).filterMap get = xs := by
  induction xs with
  | nil => rfl
  | cons x xs ih =>
    obtain ⟨hx, hrest⟩ := List.forall_mem_cons.mp hget
    rw [List.map_cons, List.filterMap_cons, hx, ih hrest]

theorem DependencyInfo2.ofBody_toBody {d : DependencyInfo2 Int32}
    (hints : ∀ v ∈ d.wideInts, Small v) : ofBody d.toBody = some d := by
  have hflags : getHandle64 d.toBody "flags" = d.dependencyFlags := getHandle64_eq rfl
  have hmem : getItems d.toBody "mem" = d.memory.map MemoryBarrier2.toBody := getItems_eq rfl
  have hbuf : getItems d.toBody "buf" = d.buffer.map BufferMemoryBarrier2.toBody := getItems_eq rfl
  have himg : getItems d.toBody "img" = d.image.map ImageMemoryBarrier2.toBody := getItems_eq rfl
  have hbuffers : ∀ b ∈ d.buffer, BufferMemoryBarrier2.ofBody b.toBody = some b := by
    intro b hb
    refine BufferMemoryBarrier2.ofBody_toBody fun v hv => hints v ?_
    exact List.mem_append_left _ (List.mem_flatMap.mpr ⟨b, hb, hv⟩)
  have himages : ∀ m ∈ d.image, ImageMemoryBarrier2.ofBody m.toBody = some m := by
    intro m hm
    refine ImageMemoryBarrier2.ofBody_toBody fun v hv => hints v ?_
    exact List.mem_append_right _ (List.mem_flatMap.mpr ⟨m, hm, hv⟩)
  have hobject : d.toBody.isObject = true := rfl
  rw [ofBody, if_pos hobject, hflags, hmem, hbuf, himg,
    filterMap_ofBody fun m _ => MemoryBarrier2.ofBody_toBody m, filterMap_ofBody hbuffers,
    filterMap_ofBody himages]

variable {c : RecordedCommand Int32}

theorem BarrierCore.ofBody_toBody (hints : c.IntsBelow) (hindex : c.IndicesInRange) :
    ofBody c.toBody = c.barrierCore := by
  rw [ofBody, getHandle64_eq (find_toBody c 1 rfl),
    getIndex_eq (hindex.inRange 0 rfl) (find_toBody c 2 rfl),
    getIndex_eq (hindex.inRange 1 rfl) (find_toBody c 3 rfl),
    getInt64_eq (hints.small 0 rfl) (-1) (find_toBody c 4 rfl),
    getInt64_eq (hints.small 1 rfl) (-1) (find_toBody c 5 rfl),
    getInt64_eq (hints.small 2 rfl) (-1) (find_toBody c 6 rfl),
    getInt64_eq (hints.small 3 rfl) (-1) (find_toBody c 7 rfl),
    getIndex_eq (hindex.inRange 2 rfl) (find_toBody c 8 rfl),
    getIndex_eq (hindex.inRange 3 rfl) (find_toBody c 9 rfl)]

theorem RenderPassBegin.ofBody_toBody (hindex : c.IndicesInRange) :
    { ofBody c.toBody with depthClear := ⟨0⟩ } = { c.begin with depthClear := ⟨0⟩ } := by
  rw [ofBody, getHandle64_eq (find_toBody c 14 rfl), getHandle64_eq (find_toBody c 15 rfl),
    getBoolField_eq (find_toBody c 16 rfl), getInt32_eq 0 (find_toBody c 19 rfl),
    getInt32_eq 0 (find_toBody c 20 rfl), getIndex_eq (hindex.inRange 4 rfl) (find_toBody c 21 rfl),
    getIndex_eq (hindex.inRange 5 rfl) (find_toBody c 22 rfl)]

theorem Scissor.ofBody_toBody (hindex : c.IndicesInRange) : ofBody c.toBody = c.scissor := by
  rw [ofBody, getInt32_eq 0 (find_toBody c 29 rfl), getInt32_eq 0 (find_toBody c 30 rfl),
    getIndex_eq (hindex.inRange 6 rfl) (find_toBody c 31 rfl),
    getIndex_eq (hindex.inRange 7 rfl) (find_toBody c 32 rfl)]

theorem Draw.ofBody_toBody (hints : c.IntsBelow) : ofBody c.toBody = c.draw := by
  rw [ofBody, getInt64_eq (hints.small 4 rfl) (-1) (find_toBody c 33 rfl),
    getInt64_eq (hints.small 5 rfl) (-1) (find_toBody c 34 rfl),
    getInt64_eq (hints.small 6 rfl) (-1) (find_toBody c 35 rfl),
    getInt64_eq (hints.small 7 rfl) (-1) (find_toBody c 36 rfl)]

theorem VertexBufs.ofBody_toBody (hindex : c.IndicesInRange) : ofBody c.toBody = c.vertexBufs := by
  rw [ofBody, getIndex_eq (hindex.inRange 8 rfl) (find_toBody c 37 rfl),
    getHandleArray_eq (find_toBody c 38 rfl), getHandleArray_eq (find_toBody c 39 rfl)]

theorem DescSets.ofBody_toBody (hindex : c.IndicesInRange) : ofBody c.toBody = c.descSets := by
  rw [ofBody, getHandle64_eq (find_toBody c 40 rfl),
    getIndex_eq (hindex.inRange 9 rfl) (find_toBody c 41 rfl),
    getHandleArray_eq (find_toBody c 42 rfl)]

theorem Copy.ofBody_toBody (hints : c.IntsBelow) : ofBody c.toBody = c.copy := by
  rw [ofBody, getHandle64_eq (find_toBody c 43 rfl),
    getInt64_eq (hints.small 8 rfl) (-1) (find_toBody c 49 rfl),
    getInt64_eq (hints.small 9 rfl) (-1) (find_toBody c 50 rfl),
    getInt64_eq (hints.small 10 rfl) (-1) (find_toBody c 51 rfl)]

theorem BarrierRange.ofBody_toBody (hindex : c.IndicesInRange) :
    ofBody c.toBody = c.barrierRange := by
  rw [ofBody, getIndex_eq (hindex.inRange 10 rfl) (find_toBody c 52 rfl),
    getIndex_eq (hindex.inRange 11 rfl) (find_toBody c 53 rfl),
    getIndex_eq (hindex.inRange 12 rfl) (find_toBody c 54 rfl),
    getIndex_eq (hindex.inRange 13 rfl) (find_toBody c 55 rfl)]

theorem IndirectDraw.ofBody_toBody (hints : c.IntsBelow) : ofBody c.toBody = c.indirectDraw := by
  rw [ofBody, getHandle64_eq (find_toBody c 44 rfl),
    getInt64_eq (hints.small 11 rfl) (-1) (find_toBody c 45 rfl),
    getInt64_eq (hints.small 12 rfl) (-1) (find_toBody c 46 rfl)]

theorem IndirectCount.ofBody_toBody : ofBody c.toBody = c.indirectCount := by
  rw [ofBody, getHandle64_eq (find_toBody c 47 rfl), getHandle64_eq (find_toBody c 48 rfl)]

theorem getItems_deps2 : getItems c.toBody "deps2" = c.deps2.map DependencyInfo2.toBody := by
  by_cases hnil : c.deps2 = []
  · have hfind : c.toBody.find (ascii "deps2") = none := by
      rw [RecordedCommand.toBody, commandMembers, if_pos hnil, List.append_nil]
      rfl
    rw [getItems, hfind, hnil]
    rfl
  · have hmem : (ascii "deps2", .array (c.deps2.map DependencyInfo2.toBody)) ∈
        commandMembers c := by
      rw [commandMembers, if_neg hnil]
      exact List.mem_append_right _ (List.mem_singleton_self _)
    have hfind : c.toBody.find (ascii "deps2") = some (.array (c.deps2.map _)) :=
      lookup_of_mem (nodup_keys c) hmem
    exact getItems_eq hfind

theorem deps2_ofBody_toBody (hints : c.IntsBelow) :
    (getItems c.toBody "deps2").filterMap DependencyInfo2.ofBody = c.deps2 := by
  rw [getItems_deps2]
  refine filterMap_ofBody fun d hd => DependencyInfo2.ofBody_toBody fun v hv => hints v ?_
  exact List.mem_append_right _ (List.mem_append_right _ (List.mem_flatMap.mpr ⟨d, hd, hv⟩))

theorem argsI64_ofBody_toBody (hints : c.IntsBelow) :
    (getItems c.toBody "args_i64").map i64Of = c.argsI64 := by
  rw [getItems_eq (find_toBody c 57 rfl), List.map_map]
  have hid : ∀ v ∈ c.argsI64, (i64Of ∘ ofI64) v = id v := fun v hv =>
    i64Of_ofI64 (hints v (List.mem_append_right _ (List.mem_append_left _ hv)))
  rw [List.map_congr_left hid, List.map_id]

/-- Every group is read as it was, floating-point fields apart. -/
theorem RecordedCommand.dropFloats_ofBody_toBody (hints : c.IntsBelow)
    (hindex : c.IndicesInRange) : (ofBody c.toBody).dropFloats = c.named.dropFloats := by
  have hfloats : ((getItems c.toBody "args_f64").map numberOf).map (fun _ => (⟨0⟩ : Double)) =
      c.argsF64.map fun _ => ⟨0⟩ := by
    rw [getItems_eq (find_toBody c 58 rfl), List.map_map, List.map_map]
    rfl
  simp only [dropFloats, named, ofBody, getString_eq (find_toBody c 0 rfl),
    BarrierCore.ofBody_toBody hints hindex, RenderPassBegin.ofBody_toBody hindex,
    getHandle64_eq (find_toBody c 18 rfl), Scissor.ofBody_toBody hindex,
    Draw.ofBody_toBody hints, VertexBufs.ofBody_toBody hindex, DescSets.ofBody_toBody hindex,
    Copy.ofBody_toBody hints, BarrierRange.ofBody_toBody hindex,
    getHandleArray_eq (find_toBody c 56 rfl), argsI64_ofBody_toBody hints, hfloats,
    getHexBlob_eq (find_toBody c 59 rfl), deps2_ofBody_toBody hints,
    IndirectDraw.ofBody_toBody hints, IndirectCount.ofBody_toBody]

def RecordCommandBufferRequest.dropFloats (r : RecordCommandBufferRequest Int32) :
    RecordCommandBufferRequest Int32 :=
  { r with commands := r.commands.map RecordedCommand.dropFloats }

theorem dropFloats_fromBody_toBody {r : RecordCommandBufferRequest Int32}
    (hints : ∀ c ∈ r.commands, c.IntsBelow) (hindex : ∀ c ∈ r.commands, c.IndicesInRange) :
    (fromBody r.toBody).dropFloats = r.named.dropFloats := by
  have hbuffer : getHandle64 r.toBody "command_buffer" = r.commandBuffer := getHandle64_eq rfl
  have hgeneration : getHandle64 r.toBody "recording_generation" = r.recordingGeneration :=
    getHandle64_eq rfl
  have hitems : getItems r.toBody "commands" = r.commands.map RecordedCommand.toBody :=
    getItems_eq rfl
  have hone : getBoolField r.toBody (ascii "one_time_submit") = r.oneTimeSubmit := rfl
  have hcommands : ∀ c ∈ r.commands, (RecordedCommand.ofBody c.toBody).dropFloats =
      c.named.dropFloats :=
    fun c hc => RecordedCommand.dropFloats_ofBody_toBody (hints c hc) (hindex c hc)
  simp only [RecordCommandBufferRequest.dropFloats, RecordCommandBufferRequest.named, fromBody,
    hbuffer, hgeneration, hitems, hone, List.map_map, RecordCommandBufferRequest.mk.injEq, true_and]
  exact List.map_congr_left hcommands

end ReadBack

/-! ## Which bodies can be read -/

section Readable

theorem BufferMemoryBarrier2.reparse_toBody {b : BufferMemoryBarrier2}
    (hints : ∀ v ∈ [b.srcQueueFamily, b.dstQueueFamily], Small v) :
    reparse b.toBody = some b.toBody := by
  simp only [forall_listed] at hints
  refine reparse_array ?_
  simp [reparse_ofHandle, reparse_ofI64, hints]

theorem ImageMemoryBarrier2.reparse_toBody {m : ImageMemoryBarrier2 Int32}
    (hints : ∀ v ∈ [m.srcQueueFamily, m.dstQueueFamily, m.aspect, m.baseMip, m.levelCount,
      m.baseLayer, m.layerCount], Small v) : reparse m.toBody = some m.toBody := by
  simp only [forall_listed] at hints
  refine reparse_array ?_
  simp [reparse_ofHandle, reparse_ofI64, hints, small_toInt64]

theorem DependencyInfo2.reparse_toBody {d : DependencyInfo2 Int32}
    (hints : ∀ v ∈ d.wideInts, Small v) : reparse d.toBody = some d.toBody := by
  have hmem : reparse (.array (d.memory.map MemoryBarrier2.toBody)) = some _ :=
    reparse_arrayMap fun m _ => rfl
  have hbuf : reparse (.array (d.buffer.map BufferMemoryBarrier2.toBody)) = some _ :=
    reparse_arrayMap fun b hb => BufferMemoryBarrier2.reparse_toBody fun v hv =>
      hints v (List.mem_append_left _ (List.mem_flatMap.mpr ⟨b, hb, hv⟩))
  have himg : reparse (.array (d.image.map ImageMemoryBarrier2.toBody)) = some _ :=
    reparse_arrayMap fun m hm => ImageMemoryBarrier2.reparse_toBody fun v hv =>
      hints v (List.mem_append_right _ (List.mem_flatMap.mpr ⟨m, hm, hv⟩))
  refine reparse_object ?_
  simp only [forall_listed]
  exact ⟨rfl, hmem, hbuf, himg⟩

variable {c : RecordedCommand Int32}

theorem reparse_fixedMembers (hints : c.IntsBelow) (hread : ∀ d ∈ c.doubles, d.Readable) :
    ∀ m ∈ fixedMembers c, reparse m.2 = some m.2 := by
  simp only [RecordedCommand.IntsBelow, RecordedCommand.wideInts, List.forall_mem_append,
    forall_listed] at hints
  simp only [RecordedCommand.doubles, List.forall_mem_append, forall_listed] at hread
  have hargs : reparse (.array (c.argsI64.map ofI64)) = some (.array (c.argsI64.map ofI64)) :=
    reparse_arrayMap fun v hv => reparse_ofI64 (hints.2.1 v hv)
  have hfloats : reparse (.array (c.argsF64.map Double.value)) =
      some (.array (c.argsF64.map Double.value)) :=
    reparse_arrayMap fun d hd => Double.reparse_value (hread.2 d hd)
  have htext : ∀ text, reparse (.string text) = some (.string text) := fun _ => rfl
  have hbool : ∀ b, reparse (.bool b) = some (.bool b) := fun _ => rfl
  simp only [fixedMembers, forall_listed, reparse_ofHandle, reparse_ofInt, reparse_handleArray,
    reparse_ofI64, Double.reparse_value, hints, hread, hargs, hfloats, htext, hbool]

theorem RecordedCommand.reparse_toBody (hints : c.IntsBelow)
    (hread : ∀ d ∈ c.doubles, d.Readable) : reparse c.toBody = some c.toBody := by
  refine reparse_object (List.forall_mem_append.mpr ⟨reparse_fixedMembers hints hread, ?_⟩)
  split_ifs
  · simp
  · refine List.forall_mem_singleton.mpr (reparse_arrayMap fun d hd => ?_)
    refine DependencyInfo2.reparse_toBody fun v hv => hints v ?_
    exact List.mem_append_right _ (List.mem_append_right _ (List.mem_flatMap.mpr ⟨d, hd, hv⟩))

/-- One double whose text is not read, and the command's is not. -/
theorem RecordedCommand.reparse_toBody_eq_none {d : Double} (hd : d ∈ c.doubles)
    (hread : ¬ d.Readable) : reparse c.toBody = none := by
  have hnone := Double.reparse_value_eq_none hread
  have hmember : ∃ m ∈ fixedMembers c, reparse m.2 = none := by
    rcases List.mem_append.mp hd with hd | hd
    · have hplace : ∀ d ∈ [c.clearColor.r, c.clearColor.g, c.clearColor.b, c.clearColor.a,
          c.begin.depthClear, c.viewport.x, c.viewport.y, c.viewport.w, c.viewport.h,
          c.viewport.minDepth, c.viewport.maxDepth], ∃ (i : Nat) (key : Bytes),
          (fixedMembers c)[i]? = some (key, d.value) := by
        simp only [forall_listed]
        exact ⟨⟨10, _, rfl⟩, ⟨11, _, rfl⟩, ⟨12, _, rfl⟩, ⟨13, _, rfl⟩, ⟨17, _, rfl⟩, ⟨23, _, rfl⟩,
          ⟨24, _, rfl⟩, ⟨25, _, rfl⟩, ⟨26, _, rfl⟩, ⟨27, _, rfl⟩, ⟨28, _, rfl⟩⟩
      obtain ⟨i, key, hi⟩ := hplace d hd
      exact ⟨(key, d.value), List.mem_of_getElem? hi, hnone⟩
    · refine ⟨_, List.mem_of_getElem? (i := 58) rfl, ?_⟩
      rw [reparse, reparseItems_eq_none (List.mem_map_of_mem hd) hnone, Option.map_none]
  obtain ⟨m, hm, hm_none⟩ := hmember
  have hmem : m ∈ commandMembers c := List.mem_append_left _ hm
  rw [toBody, reparse, reparseMembers_eq_none hmem hm_none, Option.map_none]

/-- The JSON body of a request with small integers can be read exactly when all its
doubles can. -/
theorem reparse_toBody {r : RecordCommandBufferRequest Int32}
    (hints : ∀ c ∈ r.commands, c.IntsBelow) :
    reparse r.toBody =
      if ∀ c ∈ r.commands, ∀ d ∈ c.doubles, d.Readable then some r.toBody else none := by
  split_ifs with hread
  · have hcommands : reparse (.array (r.commands.map RecordedCommand.toBody)) = some _ :=
      reparse_arrayMap fun c hc => RecordedCommand.reparse_toBody (hints c hc) (hread c hc)
    refine reparse_object ?_
    simp only [forall_listed]
    exact ⟨rfl, rfl, rfl, hcommands⟩
  · push Not at hread
    obtain ⟨c, hc, d, hd, hbad⟩ := hread
    have hnone : reparse (.array (r.commands.map RecordedCommand.toBody)) = none := by
      rw [reparse, reparseItems_eq_none (List.mem_map_of_mem hc)
        (RecordedCommand.reparse_toBody_eq_none hd hbad), Option.map_none]
    have hmem : (ascii "commands", Value.array (r.commands.map RecordedCommand.toBody)) ∈
        [(ascii "command_buffer", ofHandle r.commandBuffer),
          (ascii "recording_generation", ofHandle r.recordingGeneration),
          (ascii "one_time_submit", .bool r.oneTimeSubmit),
          (ascii "commands", .array (r.commands.map RecordedCommand.toBody))] := by simp
    rw [RecordCommandBufferRequest.toBody, reparse, reparseMembers_eq_none hmem hnone,
      Option.map_none]

end Readable

/-! ## The two paths -/

section Agreement

/-- An indirect offset comes with a draw count or a stride. -/
def RecordedCommand.OffsetPlaced (c : RecordedCommand Int32) : Prop :=
  c.indirectDraw.offset ≠ 0 → c.indirectDraw.drawCount ≠ -1 ∨ c.indirectDraw.stride ≠ -1

instance (c : RecordedCommand Int32) : Decidable c.OffsetPlaced :=
  inferInstanceAs (Decidable (_ → _))

variable (r : RecordCommandBufferRequest Int32)

/-- Both encodings, the packed one and the JSON text, are decoded, and to the same request in every
field that is not floating-point. -/
def PathsAgree (text : Bytes) : Prop :=
  ∃ raw body, fromWire r.toWire = .ok raw ∧ parseDocument text = .ok body ∧
    raw.dropFloats = (fromBody body).dropFloats

variable {r}

theorem carried_eq_named {c : RecordedCommand Int32} (hoffset : c.OffsetPlaced) :
    c.carried = c.named := by
  refine RecordedCommand.carried_eq_named_iff.mpr fun hne => ?_
  rw [indirectDrawPresent, decide_eq_true_eq]
  exact Or.inr (hoffset hne)

/-- What the packed path makes of a request: the request with its kinds named, or
nothing. -/
theorem toOption_fromWire_named (hdeps : ∀ c ∈ r.commands, c.Capped)
    (hoffset : ∀ c ∈ r.commands, c.OffsetPlaced)
    (hplaced : ∀ c ∈ r.commands, c.CountFieldsPlaced) :
    (fromWire r.toWire).toOption =
      if r.WithinCaps ∧ ∀ c ∈ r.commands, c.IndirectKept then some r.named else none := by
  have hkept : (∀ c ∈ r.commands, c.IndirectKept) ↔ ∀ c ∈ r.commands, c.shapeAccepted = true := by
    refine forall₂_congr fun c hc => ?_
    rw [RecordedCommand.indirectKept_iff (hplaced c hc),
      and_iff_right (carried_eq_named (hoffset c hc))]
  by_cases hcaps : r.WithinCaps
  · rw [RecordCommandBufferRequest.toOption_fromWire_of_capped hcaps hdeps,
      List.map_congr_left fun c hc => carried_eq_named (hoffset c hc)]
    simp only [hcaps, true_and, hkept]
    rfl
  · have hempty : r.toWire = [] := by
      by_contra hne
      exact hcaps (RecordCommandBufferRequest.toWire_ne_nil_iff.mp hne)
    rw [hempty, if_neg fun hboth => hcaps hboth.1]
    rfl

/-- The two record paths agree on a request, whose text is printed at any indent,
exactly when it fits the packed body, its indirect groups have a shape the packed
decoder takes, and no double is infinite, a NaN or subnormal. -/
theorem paths_agree_iff (r : RecordCommandBufferRequest Int32) {indent : Fin (2 ^ 31)}
    {text : Bytes} (htext : dump32 r.toBody indent = some text)
    (hints : ∀ c ∈ r.commands, c.IntsBelow) (hindex : ∀ c ∈ r.commands, c.IndicesInRange)
    (hdeps : ∀ c ∈ r.commands, c.Capped) (hoffset : ∀ c ∈ r.commands, c.OffsetPlaced)
    (hplaced : ∀ c ∈ r.commands, c.CountFieldsPlaced) :
    PathsAgree r text ↔
      r.WithinCaps ∧ (∀ c ∈ r.commands, c.IndirectKept) ∧
        ∀ c ∈ r.commands, ∀ d ∈ c.doubles, d.Readable := by
  have hwire := toOption_fromWire_named hdeps hoffset hplaced
  have hjson := toOption_parseDocument_dump r.toBody indent
  rw [dump32_eq, Option.ite_none_right_eq_some, Option.some_inj] at htext
  rw [htext.2, reparse_toBody hints] at hjson
  rw [← and_assoc]
  constructor
  · rintro ⟨raw, body, hraw, hbody, -⟩
    rw [hraw] at hwire
    rw [hbody] at hjson
    constructor
    · by_contra hno
      rw [if_neg hno] at hwire
      cases hwire
    · by_contra hno
      rw [if_neg hno] at hjson
      cases hjson
  · rintro ⟨hkept, hread⟩
    rw [if_pos hkept, toOption_eq_some_iff] at hwire
    rw [if_pos hread, toOption_eq_some_iff] at hjson
    exact ⟨_, _, hwire, hjson, (dropFloats_fromBody_toBody hints hindex).symm⟩

/-- A counted draw with a viewport, a dependency and arguments of every kind. -/
def fullRequest : RecordCommandBufferRequest Int32 where
  commandBuffer := 7
  recordingGeneration := 18446744073709551615
  oneTimeSubmit := true
  commands :=
    [{ RecordedCommand.unset Int64.toInt32 [] with
        viewport :=
          ⟨⟨0⟩, ⟨0⟩, ⟨0x4094000000000000⟩, ⟨0x4086800000000000⟩, ⟨0⟩, ⟨0x3ff0000000000000⟩⟩
        argsU64 := [18446744073709551615]
        argsI64 := [-999999999999999]
        argsF64 := [⟨0x3fb999999999999a⟩]
        argsBlob := [0, 255]
        deps2 := [⟨1, [⟨1, 2, 3, 4⟩], [⟨1, 2, 3, 4, -1, -1, 5, 6, 7⟩],
          [⟨1, 2, 3, 4, 0, 5, -1, -1, 9, 1, 0, 1, 0, 1⟩]⟩]
        indirectDraw := ⟨64, 3, 16⟩, indirectCount := ⟨9, 0⟩, indirectCounted := true }]

theorem fullRequest_paths_agree :
    ∃ text, dump32 fullRequest.toBody 0 = some text ∧ PathsAgree fullRequest text := by
  have htext := dump32_zero fullRequest.toBody
  refine ⟨_, htext, (paths_agree_iff fullRequest htext ?_ ?_ (by decide +kernel)
    (by decide +kernel) (by decide +kernel)).mpr
    ⟨by decide +kernel, by decide +kernel, by decide +kernel⟩⟩
  · simp [fullRequest, RecordedCommand.IntsBelow, RecordedCommand.wideInts, RecordedCommand.unset,
      BarrierCore.unset, DependencyInfo2.wideInts]
    decide
  · simp [fullRequest, RecordedCommand.IndicesInRange, RecordedCommand.indices,
      RecordedCommand.unset, BarrierCore.unset, RenderPassBegin.unset, Scissor.unset,
      VertexBufs.unset, DescSets.unset, BarrierRange.unset]

/-- An image is cleared to positive infinity. -/
def infiniteClear : RecordCommandBufferRequest Int32 where
  commandBuffer := 7
  recordingGeneration := 1
  oneTimeSubmit := true
  commands := [{ RecordedCommand.unset Int64.toInt32 (ascii "clear_color_image") with
    clearColor := { r := ⟨0x7ff0000000000000⟩ } }]

theorem intsBelow_infiniteClear : ∀ c ∈ infiniteClear.commands, c.IntsBelow := by
  simp [infiniteClear, RecordedCommand.IntsBelow, RecordedCommand.wideInts, RecordedCommand.unset,
    BarrierCore.unset]
  decide

/-- The packed body carries the infinity; the JSON text says `inf` and is refused. -/
theorem infinite_clear_is_not_read :
    (∀ c ∈ infiniteClear.commands, c.IntsBelow) ∧
      (∀ c ∈ infiniteClear.commands, c.IndicesInRange) ∧
      (∀ c ∈ infiniteClear.commands, c.Capped) ∧
      (∀ c ∈ infiniteClear.commands, c.OffsetPlaced) ∧
      (∀ c ∈ infiniteClear.commands, c.CountFieldsPlaced) ∧
      fromWire infiniteClear.toWire = .ok infiniteClear ∧
      ∃ text, dump32 infiniteClear.toBody 0 = some text ∧
        ∀ body, parseDocument text ≠ .ok body := by
  refine ⟨intsBelow_infiniteClear, ?_, by decide +kernel, by decide +kernel, by decide +kernel,
    by decide +kernel, _, dump32_zero _, fun body hbody => ?_⟩
  · simp [infiniteClear, RecordedCommand.IndicesInRange, RecordedCommand.indices,
      RecordedCommand.unset, BarrierCore.unset, RenderPassBegin.unset, Scissor.unset,
      VertexBufs.unset, DescSets.unset, BarrierRange.unset]
  · have hjson := toOption_parseDocument_dump infiniteClear.toBody 0
    rw [reparse_toBody intsBelow_infiniteClear, if_neg (by decide +kernel), hbody] at hjson
    cases hjson

end Agreement

end VkRelay.Wire.Record
