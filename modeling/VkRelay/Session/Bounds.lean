import VkRelay.Session.Machine

/-!
Indices, ranges and areas against the objects they point into, in unbounded
integers. The pass narrows a query index to 32 bits before it compares it, adds
the sides of a render area in 32-bit arithmetic and the layers of a copy region
in 64-bit arithmetic; everything else it compares exactly. So an accepted command
stays in bounds precisely when none of these three loses a bit.
-/

namespace VkRelay.Session

open VkRelay.Lib

/-! ## Exact bounds -/

/-- A range of a buffer: non-empty, and inside the buffer; the whole-size value
stands for the rest. -/
def RangeInside (size offset length : Nat) : Prop :=
  offset < size ∧ length ≠ 0 ∧ (length = vkWholeSize ∨ offset + length ≤ size)

def AreaInside (c : RecordedCommand) (fb : Framebuffer) : Prop :=
  0 ≤ c.renderAreaX.toInt ∧ 0 < c.renderAreaW.toInt ∧
    c.renderAreaX.toInt + c.renderAreaW.toInt ≤ fb.width.toInt ∧
    0 ≤ c.renderAreaY.toInt ∧ 0 < c.renderAreaH.toInt ∧
    c.renderAreaY.toInt + c.renderAreaH.toInt ≤ fb.height.toInt

/-- The mip level, layers and extent of copy region `ri` lie inside the image. -/
structure RegionInside (c : RecordedCommand) (image : Image) (ri : Nat) : Prop where
  mip : 0 ≤ copyRegion c ri 4 ∧ copyRegion c ri 4 < image.mipLevels.toNat
  layers : 0 ≤ copyRegion c ri 5 ∧ 1 ≤ copyRegion c ri 6 ∧
    copyRegion c ri 5 + copyRegion c ri 6 ≤ image.arrayLayers.toNat
  columns : 0 ≤ copyRegion c ri 7 ∧ 1 ≤ copyRegion c ri 10 ∧
    copyRegion c ri 7 + copyRegion c ri 10 ≤ mipExtent image.width (copyRegion c ri 4)
  rows : 0 ≤ copyRegion c ri 8 ∧ 1 ≤ copyRegion c ri 11 ∧
    copyRegion c ri 8 + copyRegion c ri 11 ≤ mipExtent image.height (copyRegion c ri 4)
  slices : copyRegion c ri 9 = 0 ∧ copyRegion c ri 12 = 1

namespace RecordedCommand

def copyRegionCount (c : RecordedCommand) : Nat :=
  (c.argsI64.length - 2) / 13

def QueryInside (s : Backend) (c : RecordedCommand) (index : Int) : Prop :=
  ∃ pool, s.queryPools[c.u64 0]? = some pool ∧ 0 ≤ index ∧ index < pool.count.toNat

def QueriesInside (s : Backend) (c : RecordedCommand) : Prop :=
  ∃ pool, s.queryPools[c.u64 0]? = some pool ∧ 0 ≤ c.i64 0 ∧ 0 < c.i64 1 ∧
    c.i64 0 + c.i64 1 ≤ pool.count.toNat

def BarrierInside (s : Backend) (handle offset length : Nat) : Prop :=
  ∃ buffer, s.buffers[handle]? = some buffer ∧ RangeInside buffer.size offset length

/-- Everything a command points at lies inside the object it points into. -/
def InBounds (s : Backend) (c : RecordedCommand) : Prop :=
  match c.kind with
  | .beginQuery | .endQuery | .writeTimestamp2 => c.QueryInside s (c.i64 0)
  | .writeTimestamp => c.QueryInside s (c.i64 1)
  | .resetQueryPool | .copyQueryPoolResults => c.QueriesInside s
  | .bufferMemoryBarrier => BarrierInside s c.srcBuffer (c.u64 0) (c.u64 1)
  | .cmdWaitEvents => ∀ i < c.u64 2, BarrierInside s (waitEventsBufferHandle c i)
      (c.u64 (waitEventsBufferBase c + i * waitEventsBufferSlots + 3))
      (c.u64 (waitEventsBufferBase c + i * waitEventsBufferSlots + 4))
  | .pipelineBarrier2 | .cmdSetEvent2 | .cmdWaitEvents2 => ∀ d ∈ c.deps2, ∀ b ∈ d.buffer,
      BarrierInside s b.buffer b.offset.toNat b.size.toNat
  | .beginRenderPass => ∃ fb, s.framebuffers[c.framebuffer]? = some fb ∧ AreaInside c fb
  | .copyBufferToImage => ∃ image, s.images[c.image]? = some image ∧
      ∀ ri < c.copyRegionCount, RegionInside c image ri
  | _ => True

/-- No narrowing cast and no signed sum of the pass loses a bit. -/
def SumsFit (c : RecordedCommand) : Prop :=
  match c.kind with
  | .beginQuery | .endQuery | .writeTimestamp2 => c.i64 0 < 2 ^ 32
  | .writeTimestamp => c.i64 1 < 2 ^ 32
  | .beginRenderPass => c.renderAreaX.toInt + c.renderAreaW.toInt < 2 ^ 31 ∧
      c.renderAreaY.toInt + c.renderAreaH.toInt < 2 ^ 31
  | .copyBufferToImage => ∀ ri < c.copyRegionCount,
      copyRegion c ri 5 + copyRegion c ri 6 < 2 ^ 63
  | _ => True

end RecordedCommand

/-! ## The arithmetic of the pass -/

variable {c : RecordedCommand} {pool : QueryPool}

theorem queryIndexOk_iff {q : Int} (hok : queryIndexOk pool q = true) :
    (0 ≤ q ∧ q < pool.count.toNat) ↔ q < 2 ^ 32 := by
  have hcount := pool.count.toNat_lt
  simp only [queryIndexOk, Bool.and_eq_true, decide_eq_true_eq] at hok
  obtain ⟨hnonneg, hnarrow⟩ := hok
  unfold toU32 at hnarrow
  constructor
  · rintro ⟨-, hlt⟩
    omega
  · intro hlt
    exact ⟨hnonneg, by omega⟩

theorem queryRange_inside {first count : Int} (hfirst : first < 2 ^ 63) (hcount : count < 2 ^ 63)
    (hok : queryRangeRefused pool first count = false) :
    0 ≤ first ∧ 0 < count ∧ first + count ≤ pool.count.toNat := by
  simp only [queryRangeRefused, Bool.or_eq_false_iff, decide_eq_false_iff_not, not_lt, not_le]
    at hok
  obtain ⟨⟨hnonneg, hpos⟩, hsum⟩ := hok
  have hf := sizeT_of_nonneg hnonneg hfirst
  have hc := sizeT_of_nonneg hpos.le hcount
  rw [Nat.mod_eq_of_lt (by omega)] at hsum
  omega

/-- The overflow test of the buffer barriers finds every sum that wraps. -/
theorem bufferRange_inside {size offset length : Nat} (hoffset : offset < 2 ^ 64)
    (hlength : length < 2 ^ 64) (hok : bufferRangeRefused size offset length = false) :
    RangeInside size offset length := by
  simp only [bufferRangeRefused, Bool.or_eq_false_iff, decide_eq_false_iff_not, not_le,
    Bool.and_eq_false_imp, bne_iff_ne, ne_eq, beq_eq_false_iff_ne, not_lt] at hok
  obtain ⟨⟨hinside, hsum⟩, hnonzero⟩ := hok
  refine ⟨hinside, hnonzero, ?_⟩
  by_cases hwhole : length = vkWholeSize
  · exact .inl hwhole
  · obtain ⟨hle, hge⟩ := hsum hwhole
    right
    by_cases hwrap : offset + length < 2 ^ 64
    · rwa [Nat.mod_eq_of_lt hwrap] at hle
    · rw [Nat.mod_eq_sub_mod (by omega), Nat.mod_eq_of_lt (by omega)] at hge
      omega

theorem addI32_eq {a b : Int} (hsum : a + b < 2 ^ 31) (hnonneg : 0 ≤ a + b) :
    addI32 a b = a + b := by
  unfold addI32
  exact Int.bmod_eq_of_le (by omega) (by omega)

theorem addI64_eq {a b : Int} (hsum : a + b < 2 ^ 63) (hnonneg : 0 ≤ a + b) :
    addI64 a b = a + b := by
  unfold addI64
  exact Int.bmod_eq_of_le (by omega) (by omega)

theorem renderArea_inside_iff {fb : Framebuffer} (hok : renderAreaRefused c fb = false) :
    AreaInside c fb ↔ c.renderAreaX.toInt + c.renderAreaW.toInt < 2 ^ 31 ∧
      c.renderAreaY.toInt + c.renderAreaH.toInt < 2 ^ 31 := by
  have hwidth := fb.width.toInt_lt
  have hheight := fb.height.toInt_lt
  simp only [renderAreaRefused, Bool.or_eq_false_iff, decide_eq_false_iff_not, not_lt, not_le]
    at hok
  obtain ⟨⟨⟨⟨⟨hx, hy⟩, hw⟩, hh⟩, hcolumns⟩, hrows⟩ := hok
  constructor
  · rintro ⟨-, -, hright, -, -, hbottom⟩
    exact ⟨by omega, by omega⟩
  · rintro ⟨hright, hbottom⟩
    rw [addI32_eq hright (by omega)] at hcolumns
    rw [addI32_eq hbottom (by omega)] at hrows
    exact ⟨hx, hw, hcolumns, hy, hh, hrows⟩

theorem copyRegion_inside_iff {image : Image} {source : Buffer} {ri : Nat}
    (hok : checkCopyRegion c image source ri = .ok ()) :
    RegionInside c image ri ↔ copyRegion c ri 5 + copyRegion c ri 6 < 2 ^ 63 := by
  have hlayerCount := image.arrayLayers.toNat_lt
  have hlt : ∀ k, copyRegion c ri k < 2 ^ 63 := fun k => c.i64_lt _
  simp only [checkCopyRegion, accept_rules, not_or, not_lt, not_not] at hok
  obtain ⟨-, -, -, ⟨hmip, hmips⟩, -, ⟨hbase, hcount, hlayers⟩, -,
    ⟨hx, hy, hz, hw, hh, hd, hcolumns, hrows⟩, -⟩ := hok
  constructor
  · intro hinside
    have := hinside.layers
    omega
  · intro hsum
    rw [addI64_eq hsum (by omega)] at hlayers
    have hsizes : ∀ k, 0 ≤ copyRegion c ri k → (sizeT (copyRegion c ri k) : Int) =
        copyRegion c ri k := fun k hk => sizeT_of_nonneg hk (hlt k)
    have hx' := hsizes 7 hx
    have hw' := hsizes 10 (by omega)
    have hy' := hsizes 8 hy
    have hh' := hsizes 11 (by omega)
    have h7 := hlt 7
    have h8 := hlt 8
    have h10 := hlt 10
    have h11 := hlt 11
    rw [Nat.mod_eq_of_lt (by omega)] at hcolumns hrows
    exact ⟨⟨hmip, by omega⟩, ⟨hbase, hcount, hlayers⟩, ⟨hx, hw, by omega⟩, ⟨hy, hh, by omega⟩,
      ⟨hz, hd⟩⟩

/-! ## The commands -/

namespace RecordedCommand

variable {ctx : RecordContext} {r next : Recording} {c : RecordedCommand}

variable {pool : QueryPool}

theorem queryInside_iff {index : Int} (hpool : ctx.backend.queryPools[c.u64 0]? = some pool)
    (hok : queryIndexOk pool index = true) : c.QueryInside ctx.backend index ↔ index < 2 ^ 32 := by
  rw [← queryIndexOk_iff hok]
  constructor
  · rintro ⟨found, hfound, hinside⟩
    rw [hpool] at hfound
    cases hfound
    exact hinside
  · exact fun hinside => ⟨pool, hpool, hinside⟩

theorem queriesInside_of_ok (hpool : ctx.backend.queryPools[c.u64 0]? = some pool)
    (hok : queryRangeRefused pool (c.i64 0) (c.i64 1) = false) : c.QueriesInside ctx.backend :=
  ⟨pool, hpool, queryRange_inside (c.i64_lt 0) (c.i64_lt 1) hok⟩

theorem barrierInside_of_dep {d : DependencyInfo2} (hok : checkDep2 ctx d = .ok ())
    {b : BufferMemoryBarrier2} (hb : b ∈ d.buffer) :
    BarrierInside ctx.backend b.buffer b.offset.toNat b.size.toNat := by
  simp only [checkDep2, accept_rules] at hok
  obtain ⟨-, -, -, hbuffers, -⟩ := hok
  have hbarrier := hbuffers b hb
  simp only [checkBufferBarrier2, RecordContext.findBoundBuffer_eq_ok, accept_rules,
    Bool.not_eq_true] at hbarrier
  obtain ⟨buffer, ⟨hfound, -⟩, hrange⟩ := hbarrier
  exact ⟨buffer, hfound, bufferRange_inside b.offset.toNat_lt b.size.toNat_lt hrange⟩

theorem barrierInside_of_wait {i : Nat} (hok : checkWaitBufferBarrier ctx c i = .ok ()) :
    BarrierInside ctx.backend (waitEventsBufferHandle c i)
      (c.u64 (waitEventsBufferBase c + i * waitEventsBufferSlots + 3))
      (c.u64 (waitEventsBufferBase c + i * waitEventsBufferSlots + 4)) := by
  simp only [checkWaitBufferBarrier, RecordContext.findBoundBuffer_eq_ok, accept_rules,
    Bool.not_eq_true] at hok
  obtain ⟨-, -, buffer, ⟨hfound, -⟩, hrange⟩ := hok
  exact ⟨buffer, hfound, bufferRange_inside (c.u64_lt _) (c.u64_lt _) hrange⟩

theorem queryCommandPool_found (hok : queryCommandPool ctx c = .ok pool) :
    ctx.backend.queryPools[c.u64 0]? = some pool := by
  simp only [queryCommandPool, ok_rules, findQueryPool_eq_ok] at hok
  obtain ⟨-, -, hfound, -⟩ := hok
  exact hfound

theorem beginRenderPass_inBounds (hok : recordBeginRenderPass ctx c r = .ok next) :
    (∃ fb, ctx.backend.framebuffers[c.framebuffer]? = some fb ∧ AreaInside c fb) ↔
      c.renderAreaX.toInt + c.renderAreaW.toInt < 2 ^ 31 ∧
        c.renderAreaY.toInt + c.renderAreaH.toInt < 2 ^ 31 := by
  simp only [recordBeginRenderPass, accept_rules, Bool.not_eq_true] at hok
  obtain ⟨-, -, rp, -, fb, ⟨hfb, -⟩, -, -, -, -, -, harea, -⟩ := hok
  rw [← renderArea_inside_iff harea]
  constructor
  · rintro ⟨found, hfound, hinside⟩
    rw [hfb] at hfound
    cases hfound
    exact hinside
  · exact fun hinside => ⟨fb, hfb, hinside⟩

theorem copyBufferToImage_inBounds (hok : recordCopyBufferToImage ctx c r = .ok next) :
    (∃ image, ctx.backend.images[c.image]? = some image ∧
        ∀ ri < c.copyRegionCount, RegionInside c image ri) ↔
      ∀ ri < c.copyRegionCount, copyRegion c ri 5 + copyRegion c ri 6 < 2 ^ 63 := by
  simp only [recordCopyBufferToImage, RecordContext.findImage_eq_ok, accept_rules,
    List.mem_range] at hok
  obtain ⟨-, -, image, ⟨himage, -⟩, -, -, -, -, -, -, source, -, -, -, -, -, -, -, -, -, -, -,
    -, hregions, -⟩ := hok
  have hiff : ∀ ri < c.copyRegionCount, RegionInside c image ri ↔
      copyRegion c ri 5 + copyRegion c ri 6 < 2 ^ 63 := fun ri hri =>
    copyRegion_inside_iff (hregions ri hri)
  constructor
  · rintro ⟨found, hfound, hinside⟩ ri hri
    rw [himage] at hfound
    cases hfound
    exact (hiff ri hri).mp (hinside ri hri)
  · exact fun hsums => ⟨image, himage, fun ri hri => (hiff ri hri).mpr (hsums ri hri)⟩

theorem inBounds_iff_of_ok (hok : recordCommand ctx r c = .ok next) :
    c.InBounds ctx.backend ↔ c.SumsFit := by
  unfold recordCommand at hok
  cases hkind : c.kind <;> rw [hkind] at hok <;> simp only [InBounds, SumsFit, hkind]
  case beginQuery =>
    simp only [recordBeginQuery, accept_rules, not_or, Bool.not_eq_true, Bool.not_eq_false'] at hok
    obtain ⟨pool, hpool, -, ⟨-, hindex⟩, -⟩ := hok
    exact queryInside_iff (queryCommandPool_found hpool) hindex
  case endQuery =>
    simp only [recordEndQuery, accept_rules, not_or, Bool.not_eq_true, Bool.not_eq_false'] at hok
    obtain ⟨pool, hpool, -, ⟨-, hindex⟩, -⟩ := hok
    exact queryInside_iff (queryCommandPool_found hpool) hindex
  case writeTimestamp =>
    simp only [recordWriteTimestamp, accept_rules, not_or, Bool.not_eq_true,
      Bool.not_eq_false'] at hok
    obtain ⟨pool, hpool, -, ⟨-, hindex⟩, -⟩ := hok
    exact queryInside_iff (queryCommandPool_found hpool) hindex
  case writeTimestamp2 =>
    simp only [recordWriteTimestamp2, accept_rules, findQueryPool_eq_ok, Bool.not_eq_true,
      Bool.not_eq_false'] at hok
    obtain ⟨-, -, -, -, pool, ⟨hpool, -⟩, -, hindex, -⟩ := hok
    exact queryInside_iff hpool hindex
  case resetQueryPool =>
    simp only [recordResetQueryPool, accept_rules, not_or, Bool.not_eq_true] at hok
    obtain ⟨pool, hpool, -, ⟨-, hrange⟩, -⟩ := hok
    exact iff_true_intro (queriesInside_of_ok (queryCommandPool_found hpool) hrange)
  case copyQueryPoolResults =>
    simp only [recordCopyQueryPoolResults, accept_rules, findQueryPool_eq_ok,
      Bool.not_eq_true] at hok
    obtain ⟨-, -, -, -, pool, ⟨hpool, -⟩, -, hrange, -⟩ := hok
    exact iff_true_intro (queriesInside_of_ok hpool hrange)
  case bufferMemoryBarrier =>
    simp only [recordBufferMemoryBarrier, accept_rules,
      RecordContext.findBoundBuffer_eq_ok, Bool.not_eq_true] at hok
    obtain ⟨-, -, -, -, buffer, ⟨hfound, -⟩, -, hrange, -⟩ := hok
    exact iff_true_intro ⟨buffer, hfound, bufferRange_inside (c.u64_lt 0) (c.u64_lt 1) hrange⟩
  case cmdWaitEvents =>
    simp only [recordWaitEvents, accept_rules, List.mem_range] at hok
    obtain ⟨-, -, -, -, -, -, -, -, -, -, -, -, -, hbuffers, -⟩ := hok
    exact iff_true_intro fun i hi => barrierInside_of_wait (hbuffers i hi)
  case pipelineBarrier2 =>
    simp only [recordPipelineBarrier2, accept_rules] at hok
    obtain ⟨-, -, -, -, -, hdeps, -⟩ := hok
    exact iff_true_intro fun d hd b hb => barrierInside_of_dep (hdeps d hd) hb
  case cmdSetEvent2 =>
    simp only [recordSetEvent2, accept_rules] at hok
    obtain ⟨-, -, -, -, -, -, -, -, -, hdeps, -⟩ := hok
    exact iff_true_intro fun d hd b hb => barrierInside_of_dep (hdeps d hd) hb
  case cmdWaitEvents2 =>
    simp only [recordWaitEvents2, accept_rules, not_or, not_not] at hok
    obtain ⟨-, -, -, -, -, ⟨-, hlength, -⟩, -, hdeps, -⟩ := hok
    refine iff_true_intro fun d hd b hb => ?_
    -- Each dependency is paired with the event it waits for.
    have hsame : c.handles.length = c.deps2.length := by rw [length_handles, hlength]
    rw [← List.map_snd_zip hsame.ge] at hd
    obtain ⟨entry, hentry, rfl⟩ := List.mem_map.mp hd
    obtain ⟨-, -, hdep⟩ := hdeps entry hentry
    exact barrierInside_of_dep hdep hb
  case beginRenderPass => exact beginRenderPass_inBounds hok
  case copyBufferToImage => exact copyBufferToImage_inBounds hok

end RecordedCommand

/-- In an accepted stream a command stays in bounds exactly when no narrowed index
and no signed sum of the pass loses a bit. -/
theorem accepted_in_bounds_iff (s : Backend) (req : RecordCommandBufferRequest)
    (hok : (s.recordCommandBuffer req).2 = .ok ()) (cb : CmdBuffer)
    (hcb : s.commandBuffers[req.commandBuffer]? = some cb) (c : RecordedCommand)
    (hmem : c ∈ req.commands) : c.InBounds (s.passTables req cb) ↔ c.SumsFit := by
  obtain ⟨pass⟩ := Backend.exists_pass hok
  obtain ⟨before, after, haccepted⟩ := recordCommand_of_mem pass.recorded hmem
  have hsame : pass.cb = cb := Option.some.inj (pass.found.symm.trans hcb)
  rw [← hsame]
  exact RecordedCommand.inBounds_iff_of_ok haccepted

/-- A state with a pool of one query, handle 7, and a command buffer. -/
def queryBackend : Backend :=
  performAll {} (setUp {} ++ [.createQueryPool 3 queryTypeOcclusion 1])

def queryStream (index : Int64) : RecordCommandBufferRequest :=
  { commandBuffer := 6
    commands := [{ kind := .beginQuery, argsU64 := [7], argsI64 := [index, 0] },
                 { kind := .endQuery, argsU64 := [7], argsI64 := [index] }] }

/-- Index `2 ^ 32` narrows to 0 and is accepted on a pool of one query. -/
theorem narrowed_query_index_accepted :
    Reachable queryBackend ∧ (queryBackend.recordCommandBuffer (queryStream (2 ^ 32))).2 = .ok () ∧
      ∃ cb, queryBackend.commandBuffers[6]? = some cb ∧
        ∃ c ∈ (queryStream (2 ^ 32)).commands,
          ¬c.InBounds (queryBackend.passTables (queryStream (2 ^ 32)) cb) := by
  refine ⟨reachable_performAll _, by decide +kernel, { pool := 5, device := 3 }, by rfl, _,
    List.mem_cons_self, ?_⟩
  rintro ⟨pool, hpool, -, hlt⟩
  have hcount : ((queryBackend.passTables (queryStream (2 ^ 32))
      { pool := 5, device := 3 }).queryPools[7]?).all (·.count == 1) = true := by decide +kernel
  have hfound : (queryBackend.passTables (queryStream (2 ^ 32))
      { pool := 5, device := 3 }).queryPools[7]? = some pool := hpool
  rw [hfound, Option.all_some, beq_iff_eq] at hcount
  rw [hcount] at hlt
  revert hlt
  decide +kernel

theorem first_query_in_bounds :
    (queryBackend.recordCommandBuffer (queryStream 0)).2 = .ok () ∧
      ∃ cb, queryBackend.commandBuffers[6]? = some cb ∧ ∀ c ∈ (queryStream 0).commands,
        c.InBounds (queryBackend.passTables (queryStream 0) cb) := by
  have haccepted : (queryBackend.recordCommandBuffer (queryStream 0)).2 = .ok () := by
    decide +kernel
  refine ⟨haccepted, { pool := 5, device := 3 }, by rfl, fun c hc => ?_⟩
  apply (accepted_in_bounds_iff queryBackend _ haccepted _ (by rfl) c hc).mpr
  simp only [queryStream, List.mem_cons, List.not_mem_nil, or_false] at hc
  rcases hc with rfl | rfl <;> simp [RecordedCommand.SumsFit, RecordedCommand.i64]

end VkRelay.Session
