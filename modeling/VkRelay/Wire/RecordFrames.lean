import VkRelay.Wire.Record

/-!
Each field group, dependency and command of the record stream is framed: the decoder
takes exactly the bytes the encoder wrote, whatever follows them, and fails on every
shorter piece. What a command decodes to is said by `RecordedCommand.verdict`: the
fields the stream carries, or nothing where the decoder refuses the command's shape
or its dependency counts.
-/

namespace VkRelay.Wire.Record

open VkRelay.Lib VkRelay.Json

theorem framed_int (v : Int32) : Framed (putInt v) (getInt Int64.toInt32) (some v) := by
  have hword := (framed_i64 v.toInt64).map Int64.toInt32
  rw [Option.map_some, Int32.toInt32_toInt64] at hword
  exact hword

@[simp] theorem length_putInt (v : Int32) : (putInt v).length = 8 := length_putI64 _

/-- A vector among the words of a short string has a length that fits its prefix. -/
theorem short_of_mem {α : Type} (put : α → Bytes) {v : List α} {words : List Bytes}
    (hmem : putVec put v ∈ words) (hput : ∀ x ∈ v, 1 ≤ (put x).length)
    (hsize : words.flatten.length < 2 ^ 64) : v.length < 2 ^ 64 := by
  have hword := (List.sublist_flatten_of_mem hmem).length_le
  have hitems := length_flatMap_ge v hput
  rw [putVec, List.length_append] at hword
  omega

theorem framed_capped {α : Type} {item : Reader α} {put : α → Bytes} {verdict : α → Option α}
    (cap : Nat) {unit : Nat} (hunit : 0 < unit) {v : List α} (hsize : v.length < 2 ^ 64)
    (hlength : ∀ x ∈ v, unit ≤ (put x).length)
    (hitems : ∀ x ∈ v, Framed (put x) item (verdict x)) :
    Framed (putVec put v) (getCapped cap unit item)
      (if v.length ≤ cap then v.mapM verdict else none) := by
  refine (framed_u64 _).seq ?_
  rw [UInt64.toNat_ofNat_of_lt' hsize]
  by_cases hcap : v.length ≤ cap
  · rw [if_neg (by omega), if_pos hcap]
    exact framed_counted hunit v hlength hitems
  · rw [if_pos (by omega), if_neg hcap]
    exact Framed.fail _

section Groups

theorem BarrierCore.framed (g : BarrierCore Int32) :
    Framed g.put (BarrierCore.get Int64.toInt32) (some g) :=
  (framed_u64 _).seq <| (framed_int _).seq <| (framed_int _).seq <| (framed_i64 _).seq <|
    (framed_i64 _).seq <| (framed_i64 _).seq <| (framed_i64 _).seq <| (framed_int _).seq <|
    (framed_int _).seq <| Framed.pure _

theorem ClearColor.framed (c : ClearColor) : Framed c.put ClearColor.get (some c) :=
  (framed_f64 _).seq <| (framed_f64 _).seq <| (framed_f64 _).seq <| (framed_f64 _).seq <|
    Framed.pure _

theorem RenderPassBegin.framed (g : RenderPassBegin Int32) :
    Framed g.put (RenderPassBegin.get Int64.toInt32) (some g) := by
  have hflag : decide ((if g.hasDepthClear then (1 : UInt64) else 0) ≠ 0) = g.hasDepthClear := by
    cases g.hasDepthClear <;> rfl
  have hwords : Framed g.put (RenderPassBegin.get Int64.toInt32)
      (some { g with
        hasDepthClear := decide ((if g.hasDepthClear then (1 : UInt64) else 0) ≠ 0) }) :=
    (framed_u64 _).seq <| (framed_u64 _).seq <| (framed_u64 _).seq <| (framed_f64 _).seq <|
      (framed_int _).seq <| (framed_int _).seq <| (framed_int _).seq <| (framed_int _).seq <|
      Framed.pure _
  rw [hflag] at hwords
  exact hwords

theorem Viewport.framed (v : Viewport) : Framed v.put Viewport.get (some v) :=
  (framed_f64 _).seq <| (framed_f64 _).seq <| (framed_f64 _).seq <| (framed_f64 _).seq <|
    (framed_f64 _).seq <| (framed_f64 _).seq <| Framed.pure _

theorem Scissor.framed (s : Scissor Int32) : Framed s.put (Scissor.get Int64.toInt32) (some s) :=
  (framed_int _).seq <| (framed_int _).seq <| (framed_int _).seq <| (framed_int _).seq <|
    Framed.pure _

theorem Draw.framed (d : Draw) : Framed d.put Draw.get (some d) :=
  (framed_i64 _).seq <| (framed_i64 _).seq <| (framed_i64 _).seq <| (framed_i64 _).seq <|
    Framed.pure _

theorem VertexBufs.framed {g : VertexBufs Int32} (hsize : g.put.length < 2 ^ 64) :
    Framed g.put (VertexBufs.get Int64.toInt32) (some g) := by
  have hbuffers : g.vertexBuffers.length < 2 ^ 64 :=
    short_of_mem putU64 (by simp [putVecU64]) (by simp) hsize
  have hoffsets : g.vertexBufferOffsets.length < 2 ^ 64 :=
    short_of_mem putU64 (by simp [putVecU64]) (by simp) hsize
  exact (framed_int _).seq <| (framed_vecU64 hbuffers).seq <| (framed_vecU64 hoffsets).seq <|
    Framed.pure _

theorem DescSets.framed {g : DescSets Int32} (hsize : g.put.length < 2 ^ 64) :
    Framed g.put (DescSets.get Int64.toInt32) (some g) := by
  have hsets : g.descriptorSets.length < 2 ^ 64 :=
    short_of_mem putU64 (by simp [putVecU64]) (by simp) hsize
  exact (framed_u64 _).seq <| (framed_int _).seq <| (framed_vecU64 hsets).seq <| Framed.pure _

theorem Copy.framed (c : Copy) : Framed c.put Copy.get (some c) :=
  (framed_u64 _).seq <| (framed_i64 _).seq <| (framed_i64 _).seq <| (framed_i64 _).seq <|
    Framed.pure _

theorem BarrierRange.framed (g : BarrierRange Int32) :
    Framed g.put (BarrierRange.get Int64.toInt32) (some g) :=
  (framed_int _).seq <| (framed_int _).seq <| (framed_int _).seq <| (framed_int _).seq <|
    Framed.pure _

theorem IndirectDraw.framed (g : IndirectDraw) : Framed g.put IndirectDraw.get (some g) :=
  (framed_u64 _).seq <| (framed_i64 _).seq <| (framed_i64 _).seq <| Framed.pure _

theorem IndirectCount.framed (g : IndirectCount) : Framed g.put IndirectCount.get (some g) :=
  (framed_u64 _).seq <| (framed_u64 _).seq <| Framed.pure _

end Groups

section Dependencies

theorem MemoryBarrier2.framed (m : MemoryBarrier2) : Framed m.put MemoryBarrier2.get (some m) :=
  (framed_u64 _).seq <| (framed_u64 _).seq <| (framed_u64 _).seq <| (framed_u64 _).seq <|
    Framed.pure _

variable (m : ImageMemoryBarrier2 Int32) (b : BufferMemoryBarrier2)

theorem BufferMemoryBarrier2.framed : Framed b.put BufferMemoryBarrier2.get (some b) :=
  (framed_u64 _).seq <| (framed_u64 _).seq <| (framed_u64 _).seq <| (framed_u64 _).seq <|
    (framed_i64 _).seq <| (framed_i64 _).seq <| (framed_u64 _).seq <| (framed_u64 _).seq <|
    (framed_u64 _).seq <| Framed.pure _

theorem ImageMemoryBarrier2.framed :
    Framed m.put (ImageMemoryBarrier2.get Int64.toInt32) (some m) :=
  (framed_u64 _).seq <| (framed_u64 _).seq <| (framed_u64 _).seq <| (framed_u64 _).seq <|
    (framed_int _).seq <| (framed_int _).seq <| (framed_i64 _).seq <| (framed_i64 _).seq <|
    (framed_u64 _).seq <| (framed_i64 _).seq <| (framed_i64 _).seq <| (framed_i64 _).seq <|
    (framed_i64 _).seq <| (framed_i64 _).seq <| Framed.pure _

@[simp] theorem MemoryBarrier2.length_put (m : MemoryBarrier2) : m.put.length = 32 := by
  simp [MemoryBarrier2.put]

@[simp] theorem BufferMemoryBarrier2.length_put : b.put.length = 72 := by
  simp [BufferMemoryBarrier2.put]

@[simp] theorem ImageMemoryBarrier2.length_put : m.put.length = 112 := by
  simp [ImageMemoryBarrier2.put]

theorem framed_barriers {α : Type} {item : Reader α} {put : α → Bytes} {unit : Nat}
    (hunit : 0 < unit) (hput : ∀ x, (put x).length = unit ∧ Framed (put x) item (some x))
    {v : List α} (hsize : v.length < 2 ^ 64) :
    Framed (putVec put v) (getCapped kMaxSync2BarriersPerDep unit item)
      (if v.length ≤ kMaxSync2BarriersPerDep then some v else none) := by
  rw [← mapM_some v]
  exact framed_capped _ hunit hsize (fun x _ => (hput x).1.ge) fun x _ => (hput x).2

namespace DependencyInfo2

def Capped {ι : Type} (d : DependencyInfo2 ι) : Prop :=
  d.memory.length ≤ kMaxSync2BarriersPerDep ∧ d.buffer.length ≤ kMaxSync2BarriersPerDep ∧
    d.image.length ≤ kMaxSync2BarriersPerDep

instance {ι : Type} (d : DependencyInfo2 ι) : Decidable d.Capped :=
  inferInstanceAs (Decidable (_ ∧ _ ∧ _))

def verdict (d : DependencyInfo2 Int32) : Option (DependencyInfo2 Int32) :=
  if d.Capped then some d else none

theorem length_put_ge (d : DependencyInfo2 Int32) : 32 ≤ d.put.length := by
  simp [put, putVec]
  omega

theorem framed {d : DependencyInfo2 Int32} (hsize : d.put.length < 2 ^ 64) :
    Framed d.put (get Int64.toInt32) d.verdict := by
  have hmemory := framed_barriers (by decide)
    (fun m => ⟨MemoryBarrier2.length_put m, MemoryBarrier2.framed m⟩)
    (short_of_mem MemoryBarrier2.put (by simp) (by simp) hsize : d.memory.length < 2 ^ 64)
  have hbuffer := framed_barriers (by decide)
    (fun b => ⟨BufferMemoryBarrier2.length_put b, BufferMemoryBarrier2.framed b⟩)
    (short_of_mem BufferMemoryBarrier2.put (by simp) (by simp) hsize : d.buffer.length < 2 ^ 64)
  have himage := framed_barriers (by decide)
    (fun m => ⟨ImageMemoryBarrier2.length_put m, ImageMemoryBarrier2.framed m⟩)
    (short_of_mem ImageMemoryBarrier2.put (by simp) (by simp) hsize : d.image.length < 2 ^ 64)
  rw [verdict]
  -- The first count beyond its cap refuses the rest.
  by_cases hm : d.memory.length ≤ kMaxSync2BarriersPerDep
  · rw [if_pos hm] at hmemory
    by_cases hb : d.buffer.length ≤ kMaxSync2BarriersPerDep
    · rw [if_pos hb] at hbuffer
      by_cases hi : d.image.length ≤ kMaxSync2BarriersPerDep
      · rw [if_pos hi] at himage
        rw [if_pos (show d.Capped from ⟨hm, hb, hi⟩)]
        exact (framed_u64 _).seq <| hmemory.seq <| hbuffer.seq <| himage.seq <| Framed.pure _
      · rw [if_neg hi] at himage
        rw [if_neg fun hcapped : d.Capped => hi hcapped.2.2]
        exact (framed_u64 _).seq <| hmemory.seq <| hbuffer.seq <| himage.refused
    · rw [if_neg hb] at hbuffer
      rw [if_neg fun hcapped : d.Capped => hb hcapped.2.1]
      exact (framed_u64 _).seq <| hmemory.seq <| hbuffer.refused
  · rw [if_neg hm] at hmemory
    rw [if_neg fun hcapped : d.Capped => hm hcapped.1]
    exact (framed_u64 _).seq <| hmemory.refused

end DependencyInfo2

end Dependencies

section Masks

variable (c : RecordedCommand Int32)

theorem toNat_maskOf :
    (maskOf c).toNat = Nat.ofBits fun i : Fin 18 => (presence c).getD i false := by
  refine UInt64.toNat_ofNat_of_lt' (lt_trans (Nat.ofBits_lt_two_pow _) ?_)
  decide

theorem hasGroup_maskOf {bit : Nat} (hbit : bit < 18) :
    hasGroup (maskOf c) bit = (presence c).getD bit false := by
  rw [hasGroup, toNat_maskOf, Nat.testBit_ofBits_lt _ _ hbit]

theorem hasUnknownGroup_maskOf : hasUnknownGroup (maskOf c) = false := by
  have hlt := Nat.ofBits_lt_two_pow fun i : Fin 18 => (presence c).getD i false
  rw [← toNat_maskOf] at hlt
  simp only [hasUnknownGroup, ge_iff_le, decide_eq_false_iff_not, not_le]
  exact hlt

end Masks

section Commands

namespace RecordedCommand

variable (c : RecordedCommand Int32)

def Capped {ι : Type} (c : RecordedCommand ι) : Prop :=
  c.deps2.length ≤ kMaxSync2Dependencies ∧ ∀ d ∈ c.deps2, d.Capped

instance {ι : Type} (c : RecordedCommand ι) : Decidable c.Capped :=
  inferInstanceAs (Decidable (_ ∧ _))

/-- What the stream says of a command: the name of its kind, no hints, and no
indirect offset unless the indirect-draw group is written. -/
def carried : RecordedCommand Int32 :=
  { c with
    kind := kindName c
    indirectDraw := if indirectDrawPresent c then c.indirectDraw else {}
    indirectIndexed := false
    indirectCounted := false }

/-- The decoder takes the indirect groups of the command's kind. -/
def shapeAccepted : Bool :=
  !(isBaseIndirect (kindName c) && countPayload c) &&
    !(isIndirectCount (kindName c) && indirectDrawPresent c && !countPayload c)

def verdict : Option (RecordedCommand Int32) :=
  if c.shapeAccepted ∧ c.Capped then some c.carried else none

end RecordedCommand

variable {c : RecordedCommand Int32}

/-- A group that is written is a piece of the command's bytes. -/
theorem short_of_group {present : Bool} {word : Bytes} (hmem : putIf present word ∈ groupWords c)
    (hsize : (putGroups c).length < 2 ^ 64) (hpresent : present = true) :
    word.length < 2 ^ 64 := by
  have hword := (List.sublist_flatten_of_mem hmem).length_le
  rw [putIf, hpresent, if_pos rfl] at hword
  exact lt_of_le_of_lt hword hsize

theorem length_lt_of_putVec {α : Type} {put : α → Bytes} {v : List α}
    (hput : ∀ x ∈ v, 1 ≤ (put x).length) (hsize : (putVec put v).length < 2 ^ 64) :
    v.length < 2 ^ 64 :=
  short_of_mem put (List.mem_singleton_self _) hput (by simpa using hsize)

theorem framed_deps2 (deps2 : List (DependencyInfo2 Int32))
    (hsize : (putVec DependencyInfo2.put deps2).length < 2 ^ 64) :
    Framed (putVec DependencyInfo2.put deps2)
      (getCapped kMaxSync2Dependencies 32 (DependencyInfo2.get Int64.toInt32))
      (if deps2.length ≤ kMaxSync2Dependencies ∧ ∀ d ∈ deps2, d.Capped then some deps2
        else none) := by
  have hshort : ∀ d ∈ deps2, d.put.length < 2 ^ 64 := by
    intro d hd
    have hmem : d.put ∈ deps2.map DependencyInfo2.put := List.mem_map_of_mem hd
    have hword := (List.sublist_flatten_of_mem hmem).length_le
    rw [putVec, List.length_append, List.flatMap] at hsize
    omega
  have hcapped := framed_capped kMaxSync2Dependencies (by decide)
    (length_lt_of_putVec (fun d _ => le_trans (by decide) d.length_put_ge) hsize)
    (fun d _ => d.length_put_ge) fun d hd => DependencyInfo2.framed (hshort d hd)
  have hverdict : deps2.mapM DependencyInfo2.verdict =
      if ∀ d ∈ deps2, d.Capped then some (deps2.map id) else none :=
    mapM_ite DependencyInfo2.Capped id deps2
  rw [hverdict, List.map_id] at hcapped
  rw [ite_and]
  exact hcapped

/-- A group, by the bit that says whether it is written. -/
theorem framed_group {α : Type} {get : Reader α} {unset : α} {v : Option α} {word : Bytes}
    {present : Bool} (bit : Nat) (hbit : (presence c)[bit]? = some present)
    (hword : present = true → Framed word get v) (hunset : present = false → v = some unset) :
    Framed (putIf present word) (getIf (maskOf c) bit get unset) v := by
  have hlt : bit < 18 := (List.getElem?_eq_some_iff.mp hbit).1
  have hgroup : hasGroup (maskOf c) bit = present := by
    rw [hasGroup_maskOf c hlt, List.getD_eq_getElem?_getD, hbit, Option.getD_some]
  rw [putIf, getIf, hgroup]
  cases present with
  | true => exact hword rfl
  | false =>
    rw [hunset rfl]
    exact Framed.pure unset

theorem framed_groups (kind : Bytes) (hsize : (putGroups c).length < 2 ^ 64) :
    Framed (putGroups c) (getGroups Int64.toInt32 kind (maskOf c))
      (if c.Capped then some { c.carried with kind } else none) := by
  have hshort := fun {present : Bool} {word : Bytes} (bit : Nat)
    (hword : (groupWords c)[bit]? = some (putIf present word)) (hpresent : present = true) =>
    short_of_group (List.mem_of_getElem? hword) hsize hpresent
  have hcore := framed_group 0 (c := c) rfl (fun _ => c.barrierCore.framed)
    fun h => (by simpa [BarrierCore.present, BarrierCore.unset, BarrierCore.ext_iff] using h :
      some c.barrierCore = some (.unset Int64.toInt32))
  have hclear := framed_group 1 (c := c) rfl (fun _ => c.clearColor.framed)
    fun h => (by simpa [ClearColor.present, ClearColor.ext_iff, Double.ext_iff] using h :
      some c.clearColor = some {})
  have hbegin := framed_group 2 (c := c) rfl (fun _ => c.begin.framed)
    fun h => (by
      simpa [RenderPassBegin.present, RenderPassBegin.unset, RenderPassBegin.ext_iff,
        Double.ext_iff] using h :
        some c.begin = some (.unset Int64.toInt32))
  have hpipeline := framed_group 3 (c := c) rfl (fun _ => framed_u64 c.pipeline)
    fun h => (by simpa using h : some c.pipeline = some 0)
  have hviewport := framed_group 4 (c := c) rfl (fun _ => c.viewport.framed)
    fun h => (by simpa [Viewport.present, Viewport.ext_iff, Double.ext_iff] using h :
      some c.viewport = some {})
  have hscissor := framed_group 5 (c := c) rfl (fun _ => c.scissor.framed)
    fun h => (by simpa [Scissor.present, Scissor.unset, Scissor.ext_iff] using h :
      some c.scissor = some (.unset Int64.toInt32))
  have hdraw := framed_group 6 (c := c) rfl (fun _ => c.draw.framed)
    fun h => (by simpa [Draw.present, Draw.ext_iff] using h : some c.draw = some {})
  have hvertex := framed_group 7 (c := c) rfl (fun h => VertexBufs.framed (hshort 7 rfl h))
    fun h => (by simpa [VertexBufs.present, VertexBufs.unset, VertexBufs.ext_iff] using h :
      some c.vertexBufs = some (.unset Int64.toInt32))
  have hsets := framed_group 8 (c := c) rfl (fun h => DescSets.framed (hshort 8 rfl h))
    fun h => (by simpa [DescSets.present, DescSets.unset, DescSets.ext_iff] using h :
      some c.descSets = some (.unset Int64.toInt32))
  have hcopy := framed_group 9 (c := c) rfl (fun _ => c.copy.framed)
    fun h => (by simpa [Copy.present, Copy.ext_iff] using h : some c.copy = some {})
  have hrange := framed_group 10 (c := c) rfl (fun _ => c.barrierRange.framed)
    fun h => (by simpa [BarrierRange.present, BarrierRange.unset, BarrierRange.ext_iff] using h :
      some c.barrierRange = some (.unset Int64.toInt32))
  have hu64 := framed_group 11 (c := c) rfl
    (fun h => framed_vecU64 (length_lt_of_putVec (by simp) (hshort 11 rfl h)))
    fun h => (by simpa using h : some c.argsU64 = some [])
  have hi64 := framed_group 12 (c := c) rfl
    (fun h => framed_vec (fun x => ⟨length_putI64 x, framed_i64 x⟩)
      (length_lt_of_putVec (by simp) (hshort 12 rfl h)))
    fun h => (by simpa using h : some c.argsI64 = some [])
  have hf64 := framed_group 13 (c := c) rfl
    (fun h => framed_vec (fun x => ⟨length_putF64 x, framed_f64 x⟩)
      (length_lt_of_putVec (by simp) (hshort 13 rfl h)))
    fun h => (by simpa using h : some c.argsF64 = some [])
  have hblob := framed_group 14 (c := c) rfl
    (fun h => framed_str (lt_of_le_of_lt (by simp [putStr]) (hshort 14 rfl h)))
    fun h => (by simpa using h : some c.argsBlob = some [])
  have hdeps := framed_group 15 (c := c) rfl (fun h => framed_deps2 c.deps2 (hshort 15 rfl h))
    fun h => (by
      have hnil : c.deps2 = [] := by simpa using h
      simp [hnil] : _ = some [])
  have hindirect := framed_group 16 (c := c) (v := some c.carried.indirectDraw) rfl
    (fun h => by
      have hkept : c.carried.indirectDraw = c.indirectDraw := if_pos h
      rw [hkept]
      exact c.indirectDraw.framed)
    fun h => congrArg some (if_neg (by simp [h]))
  have hcount := framed_group 17 (c := c) rfl (fun _ => c.indirectCount.framed)
    fun h => (by
      simp only [countPayload, decide_eq_false_iff_not, not_or, not_not] at h
      simp [IndirectCount.ext_iff, h.2] : some c.indirectCount = some {})
  -- The groups are read in order; the first refusal is that of the dependencies.
  by_cases hcapped : c.Capped
  · rw [if_pos (show c.deps2.length ≤ kMaxSync2Dependencies ∧ ∀ d ∈ c.deps2, d.Capped from hcapped)]
      at hdeps
    rw [if_pos hcapped]
    exact hcore.seq <| hclear.seq <| hbegin.seq <| hpipeline.seq <| hviewport.seq <|
      hscissor.seq <| hdraw.seq <| hvertex.seq <| hsets.seq <| hcopy.seq <| hrange.seq <|
      hu64.seq <| hi64.seq <| hf64.seq <| hblob.seq <| hdeps.seq <| hindirect.seq <|
      hcount.seq <| Framed.pure _
  · rw [if_neg (show ¬ (c.deps2.length ≤ kMaxSync2Dependencies ∧ ∀ d ∈ c.deps2, d.Capped)
      from hcapped)] at hdeps
    rw [if_neg hcapped]
    exact hcore.seq <| hclear.seq <| hbegin.seq <| hpipeline.seq <| hviewport.seq <|
      hscissor.seq <| hdraw.seq <| hvertex.seq <| hsets.seq <| hcopy.seq <| hrange.seq <|
      hu64.seq <| hi64.seq <| hf64.seq <| hblob.seq <| hdeps.refused

/-- The decoder's turn as a parser, its error texts aside. -/
def commandReader {ι : Type} (cast : Int64 → ι) : Reader (RecordedCommand ι) := do
  let kind ← getStr
  let mask ← getU64
  if hasUnknownGroup mask then Parser.fail
  else
    match checkIndirectShape kind mask with
    | .error _ => Parser.fail
    | .ok _ => getGroups cast kind mask

theorem toOption_getCommand {ι : Type} (cast : Int64 → ι) (body : Bytes) :
    (getCommand cast body).toOption = (commandReader cast).run body := by
  rw [getCommand, commandReader, StateT.run_bind]
  cases hkind : getStr.run body with
  | none => rfl
  | some front =>
    obtain ⟨kind, body⟩ := front
    simp only [Option.bind_eq_bind, Option.bind_some, StateT.run_bind]
    cases hmask : getU64.run body with
    | none => rfl
    | some front =>
      obtain ⟨mask, body⟩ := front
      simp only [Option.bind_some]
      by_cases hknown : hasUnknownGroup mask = true
      · rw [if_pos hknown, if_pos hknown]
        rfl
      · rw [if_neg hknown, if_neg hknown]
        cases checkIndirectShape kind mask with
        | error message => rfl
        | ok _ =>
          cases (getGroups cast kind mask).run body with
          | none => rfl
          | some result => rfl

theorem toOption_getCommands {ι : Type} (cast : Int64 → ι) (count : Nat) (body : Bytes) :
    (getCommands cast count body).toOption = ((commandReader cast).times count).run body := by
  induction count generalizing body with
  | zero => rfl
  | succ count ih =>
    rw [getCommands, toOption_bind, Parser.times, StateT.run_bind, toOption_getCommand]
    refine congrArg _ (funext fun first => ?_)
    rw [toOption_bind, ih, StateT.run_bind]
    rfl

theorem checkIndirectShape_maskOf :
    (checkIndirectShape (kindName c) (maskOf c)).isOk = c.shapeAccepted := by
  have hdraw : hasGroup (maskOf c) 16 = indirectDrawPresent c := hasGroup_maskOf c (by decide)
  have hcount : hasGroup (maskOf c) 17 = countPayload c := hasGroup_maskOf c (by decide)
  have himplies : countPayload c = true → indirectDrawPresent c = true := by
    intro hpayload
    simp [indirectDrawPresent, hpayload]
  rw [checkIndirectShape, RecordedCommand.shapeAccepted, hdraw, hcount]
  cases hp : countPayload c <;> cases hd : indirectDrawPresent c <;>
    cases isBaseIndirect (kindName c) <;> cases isIndirectCount (kindName c) <;>
    simp_all [Except.isOk, Except.toBool]

theorem framed_command (hsize : (putCommand c).length < 2 ^ 64) :
    Framed (putCommand c) (commandReader Int64.toInt32) c.verdict := by
  rw [putCommand, List.length_append, List.length_append] at hsize
  have hkind : (putStr (kindName c)).length = 8 + (kindName c).length := by simp [putStr]
  refine (framed_str (by omega)).seq <| (framed_u64 _).seq ?_
  rw [hasUnknownGroup_maskOf, if_neg Bool.false_ne_true, RecordedCommand.verdict,
    ← checkIndirectShape_maskOf]
  cases checkIndirectShape (kindName c) (maskOf c) with
  | error message => exact Framed.fail _
  | ok accepted =>
    have hverdict : ((Except.ok accepted : Except String Unit).isOk = true ∧ c.Capped) ↔
        c.Capped := and_iff_right rfl
    rw [if_congr hverdict rfl rfl]
    exact framed_groups (kindName c) (by omega)

end Commands

/-! What a turn of the decoder takes decides its result, whatever the bytes are. -/

section Taken

variable {ι : Type} (cast : Int64 → ι)

theorem takes_int : Takes 8 (getInt cast) := takes_i64.map cast

theorem takes_capped {α : Type} {item : Reader α} (cap : Nat) {unit : Nat} (hunit : 0 < unit)
    (hitem : Takes unit item) : Takes 8 (getCapped cap unit item) := by
  refine takes_u64.bind (n := 0) fun n => ?_
  by_cases hcap : n.toNat > cap
  · rw [if_pos hcap]
    exact Takes.fail
  · rw [if_neg hcap]
    exact takes_counted hunit hitem n.toNat

theorem MemoryBarrier2.takes : Takes 32 MemoryBarrier2.get :=
  takes_u64.bind fun _ => takes_u64.bind fun _ => takes_u64.bind fun _ => takes_u64.bind fun _ =>
    Takes.pure _

theorem BufferMemoryBarrier2.takes : Takes 72 BufferMemoryBarrier2.get :=
  takes_u64.bind fun _ => takes_u64.bind fun _ => takes_u64.bind fun _ => takes_u64.bind fun _ =>
    takes_i64.bind fun _ => takes_i64.bind fun _ => takes_u64.bind fun _ =>
    takes_u64.bind fun _ => takes_u64.bind fun _ => Takes.pure _

theorem ImageMemoryBarrier2.takes : Takes 112 (ImageMemoryBarrier2.get cast) :=
  takes_u64.bind fun _ => takes_u64.bind fun _ => takes_u64.bind fun _ => takes_u64.bind fun _ =>
    (takes_int cast).bind fun _ => (takes_int cast).bind fun _ => takes_i64.bind fun _ =>
    takes_i64.bind fun _ => takes_u64.bind fun _ => takes_i64.bind fun _ => takes_i64.bind fun _ =>
    takes_i64.bind fun _ => takes_i64.bind fun _ => takes_i64.bind fun _ => Takes.pure _

theorem DependencyInfo2.takes : Takes 32 (DependencyInfo2.get cast) :=
  takes_u64.bind fun _ => (takes_capped _ (by decide) MemoryBarrier2.takes).bind fun _ =>
    (takes_capped _ (by decide) BufferMemoryBarrier2.takes).bind fun _ =>
    (takes_capped _ (by decide) (ImageMemoryBarrier2.takes cast)).bind fun _ => Takes.pure _

theorem takes_getIf {α : Type} {get : Reader α} {n : Nat} (hget : Takes n get) (mask : UInt64)
    (bit : Nat) (unset : α) : Takes 0 (getIf mask bit get unset) := by
  rw [getIf]
  split
  · exact hget.weaken (Nat.zero_le _)
  · exact Takes.pure unset

theorem takes_groups (kind : Bytes) (mask : UInt64) : Takes 0 (getGroups cast kind mask) := by
  have hint := takes_int cast
  have hcore : Takes 72 (BarrierCore.get cast) :=
    takes_u64.bind fun _ => hint.bind fun _ => hint.bind fun _ => takes_i64.bind fun _ =>
      takes_i64.bind fun _ => takes_i64.bind fun _ => takes_i64.bind fun _ => hint.bind fun _ =>
      hint.bind fun _ => Takes.pure _
  have hclear : Takes 32 ClearColor.get :=
    takes_f64.bind fun _ => takes_f64.bind fun _ => takes_f64.bind fun _ =>
      takes_f64.bind fun _ => Takes.pure _
  have hbegin : Takes 64 (RenderPassBegin.get cast) :=
    takes_u64.bind fun _ => takes_u64.bind fun _ => takes_u64.bind fun _ =>
      takes_f64.bind fun _ => hint.bind fun _ => hint.bind fun _ => hint.bind fun _ =>
      hint.bind fun _ => Takes.pure _
  have hviewport : Takes 48 Viewport.get :=
    takes_f64.bind fun _ => takes_f64.bind fun _ => takes_f64.bind fun _ =>
      takes_f64.bind fun _ => takes_f64.bind fun _ => takes_f64.bind fun _ => Takes.pure _
  have hscissor : Takes 32 (Scissor.get cast) :=
    hint.bind fun _ => hint.bind fun _ => hint.bind fun _ => hint.bind fun _ => Takes.pure _
  have hdraw : Takes 32 Draw.get :=
    takes_i64.bind fun _ => takes_i64.bind fun _ => takes_i64.bind fun _ =>
      takes_i64.bind fun _ => Takes.pure _
  have hu64 : Takes 8 getVecU64 := takes_vec takes_u64
  have hvertex : Takes 24 (VertexBufs.get cast) :=
    hint.bind fun _ => hu64.bind fun _ => hu64.bind fun _ => Takes.pure _
  have hsets : Takes 24 (DescSets.get cast) :=
    takes_u64.bind fun _ => hint.bind fun _ => hu64.bind fun _ => Takes.pure _
  have hcopy : Takes 32 Copy.get :=
    takes_u64.bind fun _ => takes_i64.bind fun _ => takes_i64.bind fun _ =>
      takes_i64.bind fun _ => Takes.pure _
  have hrange : Takes 32 (BarrierRange.get cast) :=
    hint.bind fun _ => hint.bind fun _ => hint.bind fun _ => hint.bind fun _ => Takes.pure _
  have hdeps := takes_capped kMaxSync2Dependencies (by decide) (DependencyInfo2.takes cast)
  have hindirect : Takes 24 IndirectDraw.get :=
    takes_u64.bind fun _ => takes_i64.bind fun _ => takes_i64.bind fun _ => Takes.pure _
  have hcount : Takes 16 IndirectCount.get :=
    takes_u64.bind fun _ => takes_u64.bind fun _ => Takes.pure _
  have group := fun {α : Type} {get : Reader α} {n : Nat} (hget : Takes n get) (bit : Nat)
    (unset : α) => takes_getIf hget mask bit unset
  exact (group hcore 0 _).bind fun _ => (group hclear 1 _).bind fun _ =>
    (group hbegin 2 _).bind fun _ => (group takes_u64 3 _).bind fun _ =>
    (group hviewport 4 _).bind fun _ => (group hscissor 5 _).bind fun _ =>
    (group hdraw 6 _).bind fun _ => (group hvertex 7 _).bind fun _ =>
    (group hsets 8 _).bind fun _ => (group hcopy 9 _).bind fun _ =>
    (group hrange 10 _).bind fun _ => (group hu64 11 _).bind fun _ =>
    (group (takes_vec takes_i64) 12 _).bind fun _ =>
    (group (takes_vec takes_f64) 13 _).bind fun _ =>
    (group takes_str 14 _).bind fun _ => (group hdeps 15 _).bind fun _ =>
    (group hindirect 16 _).bind fun _ => (group hcount 17 _).bind fun _ => Takes.pure _

theorem takes_command : Takes 16 (commandReader cast) := by
  refine takes_str.bind (n := 8) fun kind => takes_u64.bind (n := 0) fun mask => ?_
  by_cases hunknown : hasUnknownGroup mask = true
  · rw [if_pos hunknown]
    exact Takes.fail
  · rw [if_neg hunknown]
    cases checkIndirectShape kind mask with
    | error message => exact Takes.fail
    | ok _ => exact takes_groups cast kind mask

end Taken

end VkRelay.Wire.Record
