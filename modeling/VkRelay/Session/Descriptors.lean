import VkRelay.Session.Backend

/-!
Descriptor set layouts, pools and sets: the requests that create and fill them,
the test a draw makes of a bound set, and what happens to a slot when the
resource it names is destroyed.

Binding and layout flags are bit patterns, so a negative wire value is the large
one with the same bits.
-/

namespace VkRelay.Session

open VkRelay.Lib

def descriptorTypeUniformTexelBuffer : Int := 4
def descriptorTypeStorageTexelBuffer : Int := 5
def descriptorTypeUniformBuffer : Int := 6
def descriptorTypeStorageBuffer : Int := 7
def descriptorTypeUniformBufferDynamic : Int := 8
def descriptorTypeStorageBufferDynamic : Int := 9
def descriptorTypeInlineUniformBlock : Int := 1000138000

def descriptorBindingUpdateAfterBind : Nat := 0x1
def descriptorBindingUpdateUnusedWhilePending : Nat := 0x2
def descriptorBindingPartiallyBound : Nat := 0x4
def descriptorBindingVariableDescriptorCount : Nat := 0x8
def descriptorBindingKnownFlags : Nat := 0xF
def descriptorSetLayoutCreateUpdateAfterBindPool : Nat := 0x2
def descriptorPoolCreateUpdateAfterBind : Nat := 0x2

def maxDescriptorSetLayoutBindings : Nat := 4096
def maxDescriptorCount : Int := 65536
def maxDescriptorPoolSets : Int := 65536
def maxAllocateDescriptorSets : Nat := 4096
def maxDescriptorWrites : Nat := 4096
def maxInlineUniformBlockBytes : Int := 4096

def diFeatureUpdateUnusedWhilePending : Nat := 2 ^ 6
def diFeaturePartiallyBound : Nat := 2 ^ 7
def diFeatureVariableDescriptorCount : Nat := 2 ^ 8
def vk13FeatureInlineUniformBlock : Nat := 2 ^ 1

/-! ## Layouts -/

/-- The feature bit that admits UPDATE_AFTER_BIND on a descriptor type; zero for
the types that never admit it. -/
def diUpdateAfterBindFeatureForType (descriptorType : Int) : Nat :=
  if descriptorType = descriptorTypeUniformBuffer then 2 ^ 0
  else if descriptorType = descriptorTypeStorageBuffer then 2 ^ 1
  else if descriptorType = 0 ∨ descriptorType = 1 ∨ descriptorType = 2 then 2 ^ 2
  else if descriptorType = 3 then 2 ^ 3
  else if descriptorType = descriptorTypeUniformTexelBuffer then 2 ^ 4
  else if descriptorType = descriptorTypeStorageTexelBuffer then 2 ^ 5
  else 0

def isDynamicDescriptorType (descriptorType : Int) : Bool :=
  descriptorType == descriptorTypeUniformBufferDynamic ||
    descriptorType == descriptorTypeStorageBufferDynamic

def descriptorIndexingLayoutOk (layoutFlags : Nat) (binds : List DescriptorSetLayoutBinding)
    (diBits : Nat) : Except String Unit := do
  let highestBinding := binds.foldl (fun highest b => max highest b.binding) (-1)
  rejectIf ((binds.any fun b => hasFlag b.bindingFlags descriptorBindingUpdateAfterBind) ∧
      binds.any fun b => isDynamicDescriptorType b.descriptorType)
    ("a layout with an UPDATE_AFTER_BIND binding cannot contain DYNAMIC descriptor types " ++
     "(VUID 03001)")
  checkAll binds fun b =>
    if b.bindingFlags = 0 then .ok ()
    else do
      rejectIf (b.bindingFlags / (descriptorBindingKnownFlags + 1) ≠ 0)
        "descriptor binding flags outside the supported set"
      if hasFlag b.bindingFlags descriptorBindingUpdateAfterBind then do
        let need := diUpdateAfterBindFeatureForType b.descriptorType
        rejectIf (need = 0)
          ("UPDATE_AFTER_BIND not admissible for this descriptor type " ++
           "(dynamic/input-attachment/unwired types fail closed)")
        rejectIf (!hasFlag diBits need)
          "UPDATE_AFTER_BIND requires the per-type UpdateAfterBind feature"
        rejectIf (!hasFlag layoutFlags descriptorSetLayoutCreateUpdateAfterBindPool)
          "UPDATE_AFTER_BIND binding requires the layout UPDATE_AFTER_BIND_POOL flag"
      rejectIf (hasFlag b.bindingFlags descriptorBindingUpdateUnusedWhilePending ∧
          !hasFlag diBits diFeatureUpdateUnusedWhilePending)
        "UPDATE_UNUSED_WHILE_PENDING requires its enabled feature"
      rejectIf (hasFlag b.bindingFlags descriptorBindingPartiallyBound ∧
          !hasFlag diBits diFeaturePartiallyBound)
        "PARTIALLY_BOUND requires its enabled feature"
      if hasFlag b.bindingFlags descriptorBindingVariableDescriptorCount then do
        rejectIf (!hasFlag diBits diFeatureVariableDescriptorCount)
          "VARIABLE_DESCRIPTOR_COUNT requires its enabled feature"
        rejectIf (b.binding ≠ highestBinding)
          "VARIABLE_DESCRIPTOR_COUNT only on the highest-numbered binding"
        rejectIf (isDynamicDescriptorType b.descriptorType)
          "VARIABLE_DESCRIPTOR_COUNT not admissible on a DYNAMIC descriptor type"

def inlineUniformBlockLayoutOk (binds : List DescriptorSetLayoutBinding) (vk13Bits : Nat) :
    Except String Unit :=
  checkAll binds fun b =>
    if b.descriptorType ≠ descriptorTypeInlineUniformBlock then .ok ()
    else do
      rejectIf (!hasFlag vk13Bits vk13FeatureInlineUniformBlock)
        "inline uniform block requires the enabled inlineUniformBlock feature"
      rejectIf (b.descriptorCount ≤ 0 ∨ b.descriptorCount % 4 ≠ 0)
        "inline uniform block byte size must be a positive multiple of 4"
      rejectIf (b.descriptorCount > maxInlineUniformBlockBytes)
        "inline uniform block byte size out of bounds"

structure CreateDescriptorSetLayoutRequest where
  device : Nat := 0
  layoutFlags : Nat := 0
  bindings : List DescriptorSetLayoutBinding := []

structure DescriptorPoolSizeDesc where
  type : Int := 0
  descriptorCount : Int := 0

structure CreateDescriptorPoolRequest where
  device : Nat := 0
  maxSets : Int := 0
  flags : Nat := 0
  poolSizes : List DescriptorPoolSizeDesc := []
  maxInlineUniformBlockBindings : Int := 0

structure AllocateDescriptorSetsRequest where
  device : Nat := 0
  pool : Nat := 0
  setLayouts : List Nat := []
  variableCounts : List Nat := []

namespace Backend

def createDescriptorSetLayout (s : Backend) (req : CreateDescriptorSetLayoutRequest) :
    Except String (Backend × Nat) := do
  let dev ← find s.devices req.device "unknown device handle"
  rejectIf (req.bindings.length > maxDescriptorSetLayoutBindings)
    "descriptor set layout binding count out of bounds"
  descriptorIndexingLayoutOk req.layoutFlags req.bindings dev.descriptorIndexingFeatureBits
  inlineUniformBlockLayoutOk req.bindings dev.vk13FeatureBits
  checkAll req.bindings fun b =>
    rejectIf (b.binding < 0 ∨ b.descriptorCount < 0 ∨ b.descriptorCount > maxDescriptorCount)
      "descriptor binding has an invalid binding number or descriptor count"
  return (s.create .descriptorSetLayout req.device
    { device := req.device, layoutFlags := req.layoutFlags, bindings := req.bindings },
    s.nextHandle)

/-- A layout stays while a pipeline layout lists it or a set was made from it. -/
def destroyDescriptorSetLayout (s : Backend) (handle : Nat) : Except String Backend := do
  let layout ← find s.descriptorSetLayouts handle "unknown descriptor set layout handle"
  rejectIf (s.pipelineLayouts.toList.any fun entry => handle ∈ entry.2.setLayouts)
    "descriptor set layout is referenced by a live pipeline layout"
  rejectIf (s.descriptorSets.toList.any fun entry => entry.2.layout == handle)
    "descriptor set layout has live sets allocated from it"
  return s.discard .descriptorSetLayout layout.device handle

/-! ## Pools and sets -/

def createDescriptorPool (s : Backend) (req : CreateDescriptorPoolRequest) :
    Except String (Backend × Nat) := do
  let dev ← find s.devices req.device "unknown device handle"
  rejectIf (req.maxSets < 1 ∨ req.maxSets > maxDescriptorPoolSets)
    "descriptor pool maxSets must be 1..65536"
  rejectIf req.poolSizes.isEmpty "descriptor pool must have at least one pool size"
  checkAll req.poolSizes fun ps =>
    rejectIf (ps.descriptorCount < 1) "descriptor pool size must have count >= 1"
  checkAll req.poolSizes fun ps =>
    rejectIf (ps.type = descriptorTypeInlineUniformBlock ∧ ps.descriptorCount % 4 ≠ 0)
      "inline-uniform-block pool size must be a multiple of 4 (a byte budget)"
  let anyIubPoolSize := req.poolSizes.any fun ps => ps.type == descriptorTypeInlineUniformBlock
  rejectIf ((anyIubPoolSize ∨ req.maxInlineUniformBlockBindings > 0) ∧
      !hasFlag dev.vk13FeatureBits vk13FeatureInlineUniformBlock)
    "inline uniform block requires the enabled inlineUniformBlock feature"
  rejectIf (anyIubPoolSize ∧ req.maxInlineUniformBlockBindings ≤ 0)
    "an inline-uniform-block pool size requires VkDescriptorPoolInlineUniformBlockCreateInfo"
  return (s.create .descriptorPool req.device
    { device := req.device, maxSets := req.maxSets, setsRemaining := req.maxSets,
      updateAfterBind := hasFlag req.flags descriptorPoolCreateUpdateAfterBind }, s.nextHandle)

def freeDescriptorSet (s : Backend) (set : Nat) : Backend :=
  { s.invalidateCbsReferencing set with descriptorSets := s.descriptorSets.erase set }

/-- A pool takes its sets with it, and each set the recordings that bound it. -/
def destroyDescriptorPool (s : Backend) (handle : Nat) : Except String Backend := do
  let pool ← find s.descriptorPools handle "unknown descriptor pool handle"
  return (pool.sets.foldl freeDescriptorSet s).discard .descriptorPool pool.device handle

def freshSlots (bindings : List DescriptorSetLayoutBinding) (variableCount : Nat) :
    Std.ExtTreeMap Int (List DescriptorSlot) compare :=
  bindings.foldl
    (fun slots b =>
      let count := if hasFlag b.bindingFlags descriptorBindingVariableDescriptorCount then
        variableCount else b.descriptorCount.toNat
      slots.insert b.binding (List.replicate count {}))
    {}

def mintSet (req : AllocateDescriptorSetsRequest) (s : Backend) (entry : Nat × Nat) : Backend :=
  let layout := (s.descriptorSetLayouts[entry.1]?).getD {}
  let set : DescriptorSet :=
    { device := req.device, pool := req.pool, layout := entry.1,
      slots := freshSlots layout.bindings entry.2 }
  { s.bump with
    descriptorSets := s.descriptorSets.insert s.nextHandle set
    descriptorPools := s.descriptorPools.modify req.pool fun pool =>
      { pool with sets := pool.sets ++ [s.nextHandle] } }

def allocateDescriptorSets (s : Backend) (req : AllocateDescriptorSetsRequest) :
    Except String Backend := do
  let _ ← find s.devices req.device "unknown device handle"
  let pool ← findOn DescriptorPool.device s.descriptorPools req.pool req.device
    "descriptor pool is unknown or on a different device"
  rejectIf (req.setLayouts.isEmpty ∨ req.setLayouts.length > maxAllocateDescriptorSets)
    "allocate descriptor sets needs 1..4096 set layouts"
  rejectIf (!req.variableCounts.isEmpty ∧ req.variableCounts.length ≠ req.setLayouts.length)
    "variable_counts must parallel set_layouts (or be absent)"
  checkAll (List.range req.setLayouts.length) fun i => do
    let layout ← findOn DescriptorSetLayout.device s.descriptorSetLayouts
      (req.setLayouts.getD i 0) req.device "allocate references a set layout not on the device"
    rejectIf (hasFlag layout.layoutFlags descriptorSetLayoutCreateUpdateAfterBindPool ∧
        !pool.updateAfterBind)
      "UPDATE_AFTER_BIND_POOL layout requires an UPDATE_AFTER_BIND pool"
    checkAll layout.bindings fun b =>
      rejectIf (!req.variableCounts.isEmpty ∧
          hasFlag b.bindingFlags descriptorBindingVariableDescriptorCount ∧
          (req.variableCounts.getD i 0 : Int) > b.descriptorCount)
        "variable descriptor count exceeds the layout's declared max"
  rejectIf ((req.setLayouts.length : Int) > pool.setsRemaining)
    "descriptor pool has no room for this many sets (maxSets exceeded)"
  let entries := req.setLayouts.mapIdx fun i layout => (layout, req.variableCounts.getD i 0)
  let minted := entries.foldl (mintSet req) s
  return { minted with
           descriptorPools := minted.descriptorPools.modify req.pool fun p =>
             { p with setsRemaining := p.setsRemaining - req.setLayouts.length } }

end Backend

/-! ## Updates -/

structure DescriptorBufferInfoDesc where
  buffer : Nat := 0
  offset : Nat := 0
  range : Nat := 0

structure DescriptorImageInfoDesc where
  sampler : Nat := 0
  imageView : Nat := 0

structure WriteDescriptorSetDesc where
  dstSet : Nat := 0
  dstBinding : Int := 0
  dstArrayElement : Int := 0
  descriptorCount : Int := 0
  descriptorType : Int := 0
  bufferInfos : List DescriptorBufferInfoDesc := []
  imageInfos : List DescriptorImageInfoDesc := []
  texelBufferViews : List Nat := []
  inlineData : List UInt8 := []

structure UpdateDescriptorSetsRequest where
  device : Nat := 0
  writes : List WriteDescriptorSetDesc := []

def isBufferDescriptorType (t : Int) : Bool :=
  t == descriptorTypeUniformBuffer || t == descriptorTypeStorageBuffer ||
    t == descriptorTypeUniformBufferDynamic || t == descriptorTypeStorageBufferDynamic

def isTexelDescriptorType (t : Int) : Bool :=
  t == descriptorTypeUniformTexelBuffer || t == descriptorTypeStorageTexelBuffer

/-- What a write leaves in its `i`-th slot: the first of the three lists that
has an entry there, whatever the descriptor type. -/
def WriteDescriptorSetDesc.slot (w : WriteDescriptorSetDesc) (i : Nat) : DescriptorSlot :=
  match w.bufferInfos[i]?, w.imageInfos[i]?, w.texelBufferViews[i]? with
  | some b, _, _ => { initialized := true, buffer := b.buffer }
  | none, some ii, _ => { initialized := true, sampler := ii.sampler, imageView := ii.imageView }
  | none, none, some view => { initialized := true, bufferView := view }
  | none, none, none => { initialized := true }

def WriteDescriptorSetDesc.fill (w : WriteDescriptorSetDesc) (slots : List DescriptorSlot) :
    List DescriptorSlot :=
  slots.mapIdx fun j old =>
    if w.dstArrayElement ≤ j ∧ j < w.dstArrayElement + w.descriptorCount then
      w.slot (j - w.dstArrayElement.toNat)
    else old

def DescriptorSet.poison (set : DescriptorSet) : DescriptorSet :=
  { set with slots := set.slots.map fun _ slots => slots.map fun _ => {} }

namespace Backend

/-- The descriptor type a set's layout gives a binding, `-1` when it has none. -/
def bindingType (s : Backend) (set : DescriptorSet) (binding : Int) : Int :=
  match s.descriptorSetLayouts[set.layout]? with
  | some layout =>
    layout.bindings.foldl (fun t b => if b.binding = binding then b.descriptorType else t) (-1)
  | none => -1

def validateInlineWrite (w : WriteDescriptorSetDesc) : Except String Unit := do
  rejectIf (w.dstArrayElement % 4 ≠ 0)
    "inline uniform block write dstArrayElement must be a multiple of 4 (a byte offset)"
  rejectIf (w.descriptorCount % 4 ≠ 0)
    "inline uniform block write descriptorCount must be a multiple of 4 (a byte count)"
  rejectIf (w.inlineData.length ≠ w.descriptorCount.toNat)
    "inline uniform block write must carry exactly descriptorCount bytes"
  rejectIf (!w.bufferInfos.isEmpty ∨ !w.imageInfos.isEmpty ∨ !w.texelBufferViews.isEmpty)
    "inline uniform block write must not carry buffer/image/texel infos"

def validateBufferWrite (s : Backend) (device : Nat) (w : WriteDescriptorSetDesc) :
    Except String Unit := do
  rejectIf (w.bufferInfos.length ≠ w.descriptorCount.toNat)
    "descriptor write count disagrees with the buffer-info list"
  checkAll w.bufferInfos fun bi => do
    let bf ← findOn Buffer.device s.buffers bi.buffer device
      "descriptor write references a buffer not on the device"
    rejectIf (bf.boundMemory = 0) "descriptor write buffer is not bound to memory"
    rejectIf (bi.offset ≥ bf.size) "descriptor write buffer offset is outside the logical buffer"
    rejectIf (bi.range ≠ vkWholeSize ∧ (bi.range = 0 ∨ bi.range > bf.size - bi.offset))
      "descriptor write buffer range is outside the logical buffer"

def validateTexelWrite (s : Backend) (device : Nat) (w : WriteDescriptorSetDesc) :
    Except String Unit := do
  rejectIf (w.texelBufferViews.length ≠ w.descriptorCount.toNat)
    "descriptor write count disagrees with the texel-view list"
  checkAll w.texelBufferViews fun view => do
    let _ ← findOn BufferView.device s.bufferViews view device
      "descriptor write references a buffer view not on the device"
    .ok ()

def validateImageWrite (s : Backend) (device : Nat) (w : WriteDescriptorSetDesc) :
    Except String Unit := do
  rejectIf (w.imageInfos.length ≠ w.descriptorCount.toNat)
    "descriptor write count disagrees with the image-info list"
  checkAll w.imageInfos fun ii => do
    if ii.sampler ≠ 0 then
      let _ ← findOn Sampler.device s.samplers ii.sampler device
        "descriptor write references a sampler not on the device"
    if ii.imageView ≠ 0 then
      let _ ← findOn ImageView.device s.imageViews ii.imageView device
        "descriptor write references an image view not on the device"

/-- One write of a batch: the target and range first, then the one info list that
belongs to the descriptor type. -/
def validateWrite (s : Backend) (device : Nat) (w : WriteDescriptorSetDesc) :
    Except String Unit := do
  let set ← findOn DescriptorSet.device s.descriptorSets w.dstSet device
    "descriptor write targets a set not on the device"
  match set.slots[w.dstBinding]? with
  | none => .error "descriptor write targets a binding not in the set's layout"
  | some slots => do
    rejectIf (w.descriptorCount < 1 ∨ w.descriptorCount > maxDescriptorCount)
      "descriptor write descriptor count is invalid"
    rejectIf (w.dstArrayElement < 0 ∨ w.dstArrayElement + w.descriptorCount > slots.length)
      "descriptor write array range exceeds the binding's descriptor count"
    let t := w.descriptorType
    rejectIf ((t == descriptorTypeInlineUniformBlock) ≠
        (s.bindingType set w.dstBinding == descriptorTypeInlineUniformBlock))
      "descriptor write and binding disagree on the INLINE_UNIFORM_BLOCK type"
    if t = descriptorTypeInlineUniformBlock then validateInlineWrite w
    else if isBufferDescriptorType t then s.validateBufferWrite device w
    else if isTexelDescriptorType t then s.validateTexelWrite device w
    else s.validateImageWrite device w

def validateWrites (s : Backend) (req : UpdateDescriptorSetsRequest) : Except String Unit := do
  rejectIf (req.writes.length > maxDescriptorWrites)
    "too many descriptor writes in one update batch"
  checkAll req.writes (s.validateWrite req.device)

/-- The sets a rejected batch poisons: those it names that exist on its device. -/
def targets (s : Backend) (req : UpdateDescriptorSetsRequest) : List Nat :=
  (req.writes.map (·.dstSet)).filter fun h =>
    (s.descriptorSets[h]?).any fun set => set.device == req.device

def poisonSet (s : Backend) (handle : Nat) : Backend :=
  { s.invalidateCbsReferencing handle with
    descriptorSets := s.descriptorSets.modify handle (·.poison) }

def applyWrite (s : Backend) (w : WriteDescriptorSetDesc) : Backend :=
  { s with
    descriptorSets := s.descriptorSets.modify w.dstSet fun set =>
      { set with slots := set.slots.modify w.dstBinding w.fill } }

/-- Validate every write, then apply them all; a rejected batch poisons its
targets. The source collects the targets in a set, which poisoning one twice
cannot tell from a list. -/
def updateDescriptorSets (s : Backend) (req : UpdateDescriptorSetsRequest) :
    Backend × Except String Unit :=
  match s.devices[req.device]? with
  | none => (s, .error "unknown device handle")
  | some _ =>
    match s.validateWrites req with
    | .error reason => ((s.targets req).foldl poisonSet s, .error reason)
    | .ok () => (req.writes.foldl applyWrite s, .ok ())

/-! ## Readiness and destruction -/

def hostOwnedFlags : Nat :=
  descriptorBindingPartiallyBound ||| descriptorBindingUpdateAfterBind

/-- Every slot that a classic binding of the layout declares has been written. -/
def descriptorSetDrawReady (s : Backend) (handle device : Nat) : Except String Unit := do
  let set ← findOn DescriptorSet.device s.descriptorSets handle device
    "draw bound a descriptor set not on the device"
  let layout ← find s.descriptorSetLayouts set.layout
    "draw bound a descriptor set whose layout no longer exists"
  checkAll layout.bindings fun b =>
    match set.slots[b.binding]? with
    | none => .error "draw bound a descriptor set missing a layout-required binding"
    | some slots =>
      rejectIf (!hasFlag b.bindingFlags hostOwnedFlags ∧ slots.any fun slot => !slot.initialized)
        "draw bound a descriptor set with an uninitialized (or dangling) slot"

def bindingFlags (s : Backend) (set : DescriptorSet) (binding : Int) : Nat :=
  match s.descriptorSetLayouts[set.layout]? with
  | some layout => ((layout.bindings.find? (·.binding == binding)).map (·.bindingFlags)).getD 0
  | none => 0

end Backend

def DescriptorSlot.refersTo (slot : DescriptorSlot) (resource : Nat) : Bool :=
  slot.initialized && (slot.buffer == resource || slot.sampler == resource ||
    slot.imageView == resource || slot.bufferView == resource)

def DescriptorSlot.dangle (slot : DescriptorSlot) (resource : Nat) : DescriptorSlot :=
  if slot.refersTo resource then {} else slot

def DescriptorSet.dangle (set : DescriptorSet) (resource : Nat) : DescriptorSet :=
  { set with slots := set.slots.map fun _ slots => slots.map (·.dangle resource) }

namespace Backend

/-- Some slot of a classic binding was written with the resource. -/
def affectedBy (s : Backend) (resource : Nat) (set : DescriptorSet) : Bool :=
  set.slots.toList.any fun entry =>
    !hasFlag (s.bindingFlags set entry.1) hostOwnedFlags && entry.2.any (·.refersTo resource)

/-- Unwrite the slots that name a resource that goes away, and drop the
recordings that bound their sets unless the host answers for the binding. -/
def dangleSetsReferencing (s : Backend) (resource : Nat) (preserved : List LeaseKey := []) :
    Backend :=
  let affected := (s.descriptorSets.toList.filter fun entry => s.affectedBy resource entry.2).map
    Prod.fst
  affected.foldl (fun t set => t.invalidateCbsReferencing set preserved)
    { s with descriptorSets := s.descriptorSets.map fun _ set => set.dangle resource }

end Backend

end VkRelay.Session
