import VkRelay.Wire.RecordCodec

/-!
What the record decoder does to the words of the stream. The decoder is natural in
the cast of its `int` fields, so `from_wire` is the wide decoder followed by
`static_cast<int>` on each of them: a word that does not fit is cut to its low 32
bits and accepted.
-/

namespace VkRelay.Wire.Record

open VkRelay.Lib VkRelay.Json

section Maps

variable {ι κ : Type} (f : ι → κ)

def BarrierCore.map (g : BarrierCore ι) : BarrierCore κ :=
  ⟨g.image, f g.oldLayout, f g.newLayout, g.srcStage, g.dstStage, g.srcAccess, g.dstAccess,
    f g.aspect, f g.layout⟩

def RenderPassBegin.map (g : RenderPassBegin ι) : RenderPassBegin κ :=
  ⟨g.renderPass, g.framebuffer, g.hasDepthClear, g.depthClear, f g.renderAreaX, f g.renderAreaY,
    f g.renderAreaW, f g.renderAreaH⟩

def Scissor.map (s : Scissor ι) : Scissor κ := ⟨f s.x, f s.y, f s.w, f s.h⟩

def VertexBufs.map (g : VertexBufs ι) : VertexBufs κ :=
  ⟨f g.firstBinding, g.vertexBuffers, g.vertexBufferOffsets⟩

def DescSets.map (g : DescSets ι) : DescSets κ := ⟨g.descLayout, f g.firstSet, g.descriptorSets⟩

def BarrierRange.map (g : BarrierRange ι) : BarrierRange κ :=
  ⟨f g.baseMip, f g.levelCount, f g.baseLayer, f g.layerCount⟩

def ImageMemoryBarrier2.map (m : ImageMemoryBarrier2 ι) : ImageMemoryBarrier2 κ :=
  ⟨m.srcStage, m.srcAccess, m.dstStage, m.dstAccess, f m.oldLayout, f m.newLayout,
    m.srcQueueFamily, m.dstQueueFamily, m.image, m.aspect, m.baseMip, m.levelCount, m.baseLayer,
    m.layerCount⟩

def DependencyInfo2.map (d : DependencyInfo2 ι) : DependencyInfo2 κ :=
  ⟨d.dependencyFlags, d.memory, d.buffer, d.image.map (ImageMemoryBarrier2.map f)⟩

def RecordedCommand.map (c : RecordedCommand ι) : RecordedCommand κ where
  kind := c.kind
  barrierCore := c.barrierCore.map f
  clearColor := c.clearColor
  begin := c.begin.map f
  pipeline := c.pipeline
  viewport := c.viewport
  scissor := c.scissor.map f
  draw := c.draw
  vertexBufs := c.vertexBufs.map f
  descSets := c.descSets.map f
  copy := c.copy
  barrierRange := c.barrierRange.map f
  argsU64 := c.argsU64
  argsI64 := c.argsI64
  argsF64 := c.argsF64
  argsBlob := c.argsBlob
  deps2 := c.deps2.map (DependencyInfo2.map f)
  indirectDraw := c.indirectDraw
  indirectCount := c.indirectCount
  indirectIndexed := c.indirectIndexed
  indirectCounted := c.indirectCounted

def RecordCommandBufferRequest.map (r : RecordCommandBufferRequest ι) :
    RecordCommandBufferRequest κ :=
  ⟨r.commandBuffer, r.recordingGeneration, r.oneTimeSubmit, r.commands.map (RecordedCommand.map f)⟩

end Maps

section Ints

variable {ι : Type}

/-- The `int` fields of a command, which the decoder narrows. -/
def RecordedCommand.ints (c : RecordedCommand ι) : List ι :=
  [c.barrierCore.oldLayout, c.barrierCore.newLayout, c.barrierCore.aspect, c.barrierCore.layout,
    c.begin.renderAreaX, c.begin.renderAreaY, c.begin.renderAreaW, c.begin.renderAreaH,
    c.scissor.x, c.scissor.y, c.scissor.w, c.scissor.h, c.vertexBufs.firstBinding,
    c.descSets.firstSet, c.barrierRange.baseMip, c.barrierRange.levelCount,
    c.barrierRange.baseLayer, c.barrierRange.layerCount] ++
  c.deps2.flatMap fun d => d.image.flatMap fun m => [m.oldLayout, m.newLayout]

def RecordCommandBufferRequest.ints (r : RecordCommandBufferRequest ι) : List ι :=
  r.commands.flatMap RecordedCommand.ints

variable {κ : Type} (f : ι → κ)

theorem RecordedCommand.ints_map (c : RecordedCommand ι) : (c.map f).ints = c.ints.map f := by
  simp [ints, map, BarrierCore.map, RenderPassBegin.map, Scissor.map, VertexBufs.map, DescSets.map,
    BarrierRange.map, DependencyInfo2.map, ImageMemoryBarrier2.map, List.flatMap_map,
    List.map_flatMap]

theorem RecordCommandBufferRequest.ints_map (r : RecordCommandBufferRequest ι) :
    (r.map f).ints = r.ints.map f := by
  simp [ints, map, List.flatMap_map, List.map_flatMap, RecordedCommand.ints_map]

variable {τ : Type} (g : κ → τ)

theorem DependencyInfo2.map_map (d : DependencyInfo2 ι) : (d.map f).map g = d.map (g ∘ f) := by
  simp only [DependencyInfo2.map, List.map_map]
  rfl

theorem RecordedCommand.map_map (c : RecordedCommand ι) : (c.map f).map g = c.map (g ∘ f) := by
  have hdeps : DependencyInfo2.map g ∘ DependencyInfo2.map f = DependencyInfo2.map (g ∘ f) :=
    funext (DependencyInfo2.map_map f g)
  simp only [RecordedCommand.map, List.map_map, hdeps]
  rfl

theorem RecordCommandBufferRequest.map_map (r : RecordCommandBufferRequest ι) :
    (r.map f).map g = r.map (g ∘ f) := by
  have hcommands :
      RecordedCommand.map g ∘ RecordedCommand.map f = RecordedCommand.map (g ∘ f) :=
    funext (RecordedCommand.map_map f g)
  simp only [RecordCommandBufferRequest.map, List.map_map, hcommands]

end Ints

section Natural

variable {ι κ : Type} (cast : Int64 → ι) (f : ι → κ)

theorem getInt_map : getInt (f ∘ cast) = f <$> getInt cast := comp_map cast f getI64

variable {α γ : Type} (body : Bytes) (g : α → γ)

theorem times_map (p : Reader α) (n : Nat) : (g <$> p).times n = List.map g <$> p.times n := by
  induction n with
  | zero => rfl
  | succ n ih =>
    rw [Parser.times, Parser.times, ih]
    simp only [map_bind, bind_map_left, map_pure, List.map_cons]

theorem getCapped_map (cap unit : Nat) (item : Reader α) :
    getCapped cap unit (g <$> item) = List.map g <$> getCapped cap unit item := by
  rw [getCapped, getCapped, map_bind]
  refine congrArg _ (funext fun n => ?_)
  by_cases hcap : n.toNat > cap
  · rw [if_pos hcap, if_pos hcap]
    rfl
  · rw [if_neg hcap, if_neg hcap, times_map, map_bind]

theorem getIf_map (mask : UInt64) (bit : Nat) (get : Reader α) (unset : α) :
    getIf mask bit (g <$> get) (g unset) = g <$> getIf mask bit get unset := by
  rw [getIf, getIf]
  split <;> rfl

theorem DependencyInfo2.get_map :
    DependencyInfo2.get (f ∘ cast) = DependencyInfo2.map f <$> DependencyInfo2.get cast := by
  have himage : ImageMemoryBarrier2.get (f ∘ cast) =
      ImageMemoryBarrier2.map f <$> ImageMemoryBarrier2.get cast := by
    simp only [ImageMemoryBarrier2.get, getInt_map, map_bind, bind_map_left, map_pure]
    rfl
  simp only [DependencyInfo2.get, himage, getCapped_map, map_bind, bind_map_left, map_pure]
  rfl

theorem getGroups_map (kind : Bytes) (mask : UInt64) :
    getGroups (f ∘ cast) kind mask = RecordedCommand.map f <$> getGroups cast kind mask := by
  have hcore : getIf mask 0 (BarrierCore.get (f ∘ cast)) (.unset (f ∘ cast)) =
      BarrierCore.map f <$> getIf mask 0 (BarrierCore.get cast) (.unset cast) := by
    rw [← getIf_map]
    congr 1
    simp only [BarrierCore.get, getInt_map, map_bind, bind_map_left, map_pure]
    rfl
  have hbegin : getIf mask 2 (RenderPassBegin.get (f ∘ cast)) (.unset (f ∘ cast)) =
      RenderPassBegin.map f <$> getIf mask 2 (RenderPassBegin.get cast) (.unset cast) := by
    rw [← getIf_map]
    congr 1
    simp only [RenderPassBegin.get, getInt_map, map_bind, bind_map_left, map_pure]
    rfl
  have hscissor : getIf mask 5 (Scissor.get (f ∘ cast)) (.unset (f ∘ cast)) =
      Scissor.map f <$> getIf mask 5 (Scissor.get cast) (.unset cast) := by
    rw [← getIf_map]
    congr 1
    simp only [Scissor.get, getInt_map, map_bind, bind_map_left, map_pure]
    rfl
  have hvertex : getIf mask 7 (VertexBufs.get (f ∘ cast)) (.unset (f ∘ cast)) =
      VertexBufs.map f <$> getIf mask 7 (VertexBufs.get cast) (.unset cast) := by
    rw [← getIf_map]
    congr 1
    simp only [VertexBufs.get, getInt_map, map_bind, bind_map_left, map_pure]
    rfl
  have hsets : getIf mask 8 (DescSets.get (f ∘ cast)) (.unset (f ∘ cast)) =
      DescSets.map f <$> getIf mask 8 (DescSets.get cast) (.unset cast) := by
    rw [← getIf_map]
    congr 1
    simp only [DescSets.get, getInt_map, map_bind, bind_map_left, map_pure]
    rfl
  have hrange : getIf mask 10 (BarrierRange.get (f ∘ cast)) (.unset (f ∘ cast)) =
      BarrierRange.map f <$> getIf mask 10 (BarrierRange.get cast) (.unset cast) := by
    rw [← getIf_map]
    congr 1
    simp only [BarrierRange.get, getInt_map, map_bind, bind_map_left, map_pure]
    rfl
  have hdeps : getIf mask 15
        (getCapped kMaxSync2Dependencies 32 (DependencyInfo2.get (f ∘ cast))) [] =
      List.map (DependencyInfo2.map f) <$>
        getIf mask 15 (getCapped kMaxSync2Dependencies 32 (DependencyInfo2.get cast)) [] := by
    rw [← getIf_map, ← getCapped_map, DependencyInfo2.get_map]
    rfl
  simp only [getGroups, hcore, hbegin, hscissor, hvertex, hsets, hrange, hdeps, map_bind,
    bind_map_left, map_pure]
  rfl

theorem getCommand_map :
    getCommand (f ∘ cast) body = Prod.map (RecordedCommand.map f) id <$> getCommand cast body := by
  rw [getCommand, getCommand]
  cases getStr.run body with
  | none => rfl
  | some front =>
    obtain ⟨kind, body⟩ := front
    simp only
    cases getU64.run body with
    | none => rfl
    | some front =>
      obtain ⟨mask, body⟩ := front
      simp only
      by_cases hunknown : hasUnknownGroup mask = true
      · rw [if_pos hunknown, if_pos hunknown]
        rfl
      · rw [if_neg hunknown, if_neg hunknown, getGroups_map, StateT.run_map]
        cases checkIndirectShape kind mask with
        | error message => rfl
        | ok _ => cases (getGroups cast kind mask).run body <;> rfl

theorem getCommands_map (count : Nat) (body : Bytes) :
    getCommands (f ∘ cast) count body =
      Prod.map (List.map (RecordedCommand.map f)) id <$> getCommands cast count body := by
  induction count generalizing body with
  | zero => rfl
  | succ count ih =>
    simp only [getCommands, getCommand_map, ih, map_bind, bind_map_left]
    rfl

theorem decodeRequest_map :
    decodeRequest (f ∘ cast) body =
      RecordCommandBufferRequest.map f <$> decodeRequest cast body := by
  have htail : ∀ h tail, decodeTail (f ∘ cast) h tail =
      RecordCommandBufferRequest.map f <$> decodeTail cast h tail := by
    intro h tail
    simp only [decodeTail, getCommands_map, bind_map_left]
    split_ifs <;> try rfl
    rw [map_bind]
    refine congrArg _ (funext fun result => ?_)
    by_cases hrest : result.2 = []
    · simp only [Prod.map, hrest, id_eq, ne_eq, not_true_eq_false, if_false]
      rfl
    · simp only [Prod.map, hrest, id_eq, ne_eq, not_false_eq_true, if_true]
      rfl
  simp only [decodeRequest, htail, map_bind]

end Natural

section Narrowing

def FitsInt (v : Int64) : Prop := -2 ^ 31 ≤ v.toInt ∧ v.toInt < 2 ^ 31

instance (v : Int64) : Decidable (FitsInt v) := inferInstanceAs (Decidable (_ ∧ _))

theorem fitsInt_toInt64 (v : Int32) : FitsInt v.toInt64 := by
  rw [FitsInt, Int32.toInt_toInt64]
  exact ⟨v.le_toInt, v.toInt_lt⟩

variable (v : Int64)

/-- `static_cast<int>` keeps the low 32 bits, read as a signed number. -/
theorem toInt_toInt32_eq : v.toInt32.toInt =
    if v.toInt % 2 ^ 32 < 2 ^ 31 then v.toInt % 2 ^ 32 else v.toInt % 2 ^ 32 - 2 ^ 32 := by
  rw [Int64.toInt_toInt32, Int.bmod_def]
  rfl

theorem narrowed_eq_iff : v.toInt32.toInt = v.toInt ↔ FitsInt v := by
  rw [toInt_toInt32_eq, FitsInt]
  split_ifs <;> omega

theorem narrowed_eq_neg_one_iff : v.toInt32 = -1 ↔ v.toInt % 2 ^ 32 = 2 ^ 32 - 1 := by
  have hone : (-1 : Int32).toInt = -1 := rfl
  rw [← Int32.toInt_inj, toInt_toInt32_eq, hone]
  split_ifs <;> omega

theorem widened_eq_iff : v.toInt32.toInt64 = v ↔ FitsInt v := by
  rw [← narrowed_eq_iff, ← Int64.toInt_inj, Int32.toInt_toInt64]

end Narrowing

section Exact

variable {ι : Type} {f : ι → ι}

theorem map_eq_self_iff {α : Type} {g : α → α} (l : List α) : l.map g = l ↔ ∀ x ∈ l, g x = x := by
  have hid := @List.map_inj_left α α l g id
  rwa [List.map_id] at hid

theorem RecordedCommand.map_eq_self_iff (c : RecordedCommand ι) :
    c.map f = c ↔ ∀ v ∈ c.ints, f v = v := by
  constructor
  · intro heq
    have hints := RecordedCommand.ints_map f c
    rw [heq] at hints
    exact (Record.map_eq_self_iff _).mp hints.symm
  · intro hints
    simp only [ints, List.forall_mem_append, List.forall_mem_cons, List.mem_flatMap,
      forall_exists_index, and_imp] at hints
    obtain ⟨⟨h1, h2, h3, h4, h5, h6, h7, h8, h9, h10, h11, h12, h13, h14, h15, h16, h17, h18, -⟩,
      hlayouts⟩ := hints
    have hdeps : c.deps2.map (DependencyInfo2.map f) = c.deps2 := by
      refine (Record.map_eq_self_iff _).mpr fun d hd => ?_
      have himage : d.image.map (ImageMemoryBarrier2.map f) = d.image := by
        refine (Record.map_eq_self_iff _).mpr fun m hm => ?_
        have hold := hlayouts m.oldLayout d hd m hm (by simp)
        have hnew := hlayouts m.newLayout d hd m hm (by simp)
        rw [ImageMemoryBarrier2.map, hold, hnew]
      rw [DependencyInfo2.map, himage]
    simp only [RecordedCommand.map, BarrierCore.map, RenderPassBegin.map, Scissor.map,
      VertexBufs.map, DescSets.map, BarrierRange.map, h1, h2, h3, h4, h5, h6, h7, h8, h9, h10, h11,
      h12, h13, h14, h15, h16, h17, h18, hdeps]

theorem RecordCommandBufferRequest.map_eq_self_iff (r : RecordCommandBufferRequest ι) :
    r.map f = r ↔ ∀ v ∈ r.ints, f v = v := by
  have hcommands : r.map f = r ↔ r.commands.map (RecordedCommand.map f) = r.commands := by
    constructor
    · intro heq
      exact congrArg RecordCommandBufferRequest.commands heq
    · intro heq
      rw [RecordCommandBufferRequest.map, heq]
  rw [hcommands, Record.map_eq_self_iff]
  simp only [RecordedCommand.map_eq_self_iff, ints, List.mem_flatMap, forall_exists_index, and_imp]
  exact ⟨fun h v c hc hv => h c hc v hv, fun h c hc v hv => h v c hc hv⟩

end Exact

/-- What `from_wire` accepts, the wide decoder reads as the words the stream carries.
The decoded request holds those words exactly when each word of an `int` field fits
it; and each field holds its word or the sentinel exactly when the words that do not
fit all end in 32 one bits. -/
theorem fromWire_exact_iff {body : Bytes} {r : RecordCommandBufferRequest Int32}
    (haccepted : fromWire body = .ok r) :
    ∃ carried, decodeRequest id body = .ok carried ∧ r = carried.map Int64.toInt32 ∧
      (r.map Int32.toInt64 = carried ↔ ∀ v ∈ carried.ints, FitsInt v) ∧
      ((∀ p ∈ carried.ints.zip r.ints, p.2.toInt = p.1.toInt ∨ p.2 = -1) ↔
        ∀ v ∈ carried.ints, FitsInt v ∨ v.toInt % 2 ^ 32 = 2 ^ 32 - 1) := by
  have hnatural := decodeRequest_map id Int64.toInt32 body
  rw [Function.comp_id] at hnatural
  rw [fromWire, hnatural] at haccepted
  cases hwide : decodeRequest id body with
  | error message =>
    rw [hwide] at haccepted
    cases haccepted
  | ok carried =>
    rw [hwide] at haccepted
    have hr : carried.map Int64.toInt32 = r := Except.ok.inj haccepted
    subst hr
    refine ⟨carried, rfl, rfl, ?_, ?_⟩
    · rw [RecordCommandBufferRequest.map_map, RecordCommandBufferRequest.map_eq_self_iff]
      simp only [Function.comp_apply, widened_eq_iff]
    · have hzip : (carried.ints.map id).zip (carried.ints.map Int64.toInt32) =
          carried.ints.map fun v => (id v, v.toInt32) := List.zip_map'
      rw [List.map_id] at hzip
      rw [RecordCommandBufferRequest.ints_map, hzip, List.forall_mem_map]
      simp only [id_eq, narrowed_eq_iff, narrowed_eq_neg_one_iff]

theorem encoded_draw_exact :
    ∃ carried, decodeRequest id countedDraw.toWire = .ok carried ∧
      countedDraw.named.map Int32.toInt64 = carried := by
  obtain ⟨carried, hwide, -, hexact, -⟩ := fromWire_exact_iff
    (show fromWire countedDraw.toWire = .ok countedDraw.named by decide +kernel)
  have hfits : ∀ v ∈ (countedDraw.named.map Int32.toInt64).ints, FitsInt v := by
    rw [RecordCommandBufferRequest.ints_map, List.forall_mem_map]
    exact fun v _ => fitsInt_toInt64 v
  have hcarried : decodeRequest id countedDraw.toWire =
      .ok (countedDraw.named.map Int32.toInt64) := by
    decide +kernel
  rw [hcarried] at hwide
  cases hwide
  exact ⟨_, hcarried, hexact.mpr hfits⟩

/-- A barrier whose old layout is carried as a word beyond the range of an `int`. -/
def wideLayout : Bytes :=
  RecordCommandBufferRequest.envelope ⟨7, 1, false, [.unset Int64.toInt32 []]⟩ ++
    [putStr (ascii "pipeline_barrier"), putU64 1, putU64 5, putI64 4294967297, putI64 2, putI64 0,
      putI64 0, putI64 0, putI64 0, putI64 0, putI64 0].flatten

/-- The word is cut to its low half: the decoded layout is another plausible one. -/
theorem wide_layout_is_cut :
    (decodeRequest id wideLayout).map (fun r => r.commands.map (·.barrierCore.oldLayout)) =
        .ok [4294967297] ∧
      (fromWire wideLayout).map (fun r => r.commands.map (·.barrierCore.oldLayout)) = .ok [1] := by
  decide +kernel

end VkRelay.Wire.Record
