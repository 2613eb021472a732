import VkRelay.Lib.Arity
import VkRelay.Session.Machine

/-!
Declared counts against payload lengths. Many commands carry a count and a
payload that the count determines. The pass compares lengths in 64-bit
arithmetic, in most places with a product of the count and in two places with a
quotient of the length. A product may wrap, so a count near the top of the range
is let through with a payload that is far too short: the lengths are exact
precisely for the commands whose products stay below `2 ^ 64`.
-/

namespace VkRelay.Session

open VkRelay.Lib

namespace RecordedCommand

/-- The payloads whose length the pass computes as a product of the counts. -/
def products (c : RecordedCommand) : List Arity :=
  match c.kind with
  | .clearAttachments =>
    [⟨c.argsI64.length, 2, [(c.i64 0, 2), (c.i64 1, 6)]⟩, ⟨c.argsU64.length, 0, [(c.i64 0, 4)]⟩]
  | .blitImage => [⟨c.argsI64.length, 4, [(c.i64 3, 20)]⟩]
  | .copyImage | .resolveImage => [⟨c.argsI64.length, 3, [(c.i64 2, 17)]⟩]
  | .bindTransformFeedbackBuffers =>
    [⟨c.argsU64.length, 0, [(c.i64 1, if c.i64 2 = 1 then 3 else 2)]⟩]
  | .beginTransformFeedback | .endTransformFeedback =>
    [⟨c.argsU64.length, 0, [(c.i64 1, if c.i64 2 = 1 then 2 else 1)]⟩]
  | .bindVertexBuffers2 =>
    [⟨c.argsU64.length, 0, [(c.i64 1, 2 + sizeT (c.i64 2) + sizeT (c.i64 3))]⟩]
  | .setViewportWithCount => [⟨c.argsF64.length, 0, [(c.i64 0, 6)]⟩]
  | .setScissorWithCount => [⟨c.argsI64.length, 1, [(c.i64 0, 4)]⟩]
  | .cmdWaitEvents =>
    [⟨c.argsU64.length, 4, [(c.u64 0, 1), (c.u64 1, 2), (c.u64 2, 5), (c.u64 3, 10)]⟩]
  -- A colour count, then one bit each for a depth and a stencil attachment.
  | .beginRendering =>
    [⟨c.argsI64.length, 9, [(c.i64 7, 3), (c.i64 8 % 2, 3), (c.i64 8 / 2, 3)]⟩,
     ⟨c.argsU64.length, 0, [(c.i64 7, 1), (c.i64 8 % 2, 1), (c.i64 8 / 2, 1)]⟩,
     ⟨c.argsBlob.length, 0, [(c.i64 7, 16), (c.i64 8 % 2, 16), (c.i64 8 / 2, 16)]⟩]
  | _ => []

/-- The payloads whose length the pass divides and compares with the count. -/
def quotients (c : RecordedCommand) : List Arity :=
  match c.kind with
  | .copyBufferToImage | .copyImageToBuffer => [⟨c.argsI64.length, 2, [(c.i64 1, 13)]⟩]
  | _ => []

/-- The counts that may not be zero. -/
def required (c : RecordedCommand) : List Int :=
  match c.kind with
  | .clearAttachments => [c.i64 0, c.i64 1]
  | .copyBufferToImage | .bindTransformFeedbackBuffers | .bindVertexBuffers2 => [c.i64 1]
  | .blitImage => [c.i64 3]
  | .copyImage | .resolveImage => [c.i64 2]
  | .setViewportWithCount | .setScissorWithCount => [c.i64 0]
  | .cmdWaitEvents => [c.u64 0]
  | _ => []

/-- The declared counts are positive where required, the payloads have the length
they imply, and no index derived from a count falls outside its payload. -/
def CountsExact (c : RecordedCommand) : Prop :=
  (∀ n ∈ c.required, 0 < n) ∧ ∀ a ∈ c.products ++ c.quotients,
    a.Matches ∧ ∀ index, a.Derives index → index < a.length

/-- No length the pass forms of products wraps, that is the fixed words and the sum of the products
stay below `2 ^ 64`, and no count that is compared with a quotient is negative. -/
def CountsFit (c : RecordedCommand) : Prop :=
  (∀ a ∈ c.products, a.demand 64 < 2 ^ 64) ∧ ∀ a ∈ c.quotients, ∀ group ∈ a.groups, 0 ≤ group.1

/-- What the pass makes sure of, in its own arithmetic. -/
structure CountsChecked (c : RecordedCommand) : Prop where
  word : ∀ a ∈ c.products ++ c.quotients, ∀ group ∈ a.groups, Arity.InWord 64 group
  product : ∀ a ∈ c.products, a.length = a.demand 64 % 2 ^ 64
  quotient : ∀ a ∈ c.quotients, a.length = a.demand 64
  nonzero : ∀ n ∈ c.required, n ≠ 0
  listed : ∀ n ∈ c.required, ∃ a ∈ c.products ++ c.quotients, ∃ group ∈ a.groups, group.1 = n

theorem CountsChecked.exact_iff {c : RecordedCommand} (hchecked : c.CountsChecked) :
    c.CountsExact ↔ c.CountsFit := by
  have hproduct : ∀ a ∈ c.products, a.Matches ↔ a.demand 64 < 2 ^ 64 := fun a ha =>
    Arity.matches_iff_demand_lt (hchecked.word a (List.mem_append_left _ ha))
      (hchecked.product a ha)
  have hquotient : ∀ a ∈ c.quotients, a.Matches ↔ ∀ group ∈ a.groups, 0 ≤ group.1 := fun a ha =>
    Arity.matches_iff_nonneg (hchecked.word a (List.mem_append_right _ ha))
      (hchecked.quotient a ha)
  constructor
  · rintro ⟨-, hexact⟩
    exact ⟨fun a ha => (hproduct a ha).mp (hexact a (List.mem_append_left _ ha)).1,
      fun a ha => (hquotient a ha).mp (hexact a (List.mem_append_right _ ha)).1⟩
  · rintro ⟨hproducts, hquotients⟩
    have hmatches : ∀ a ∈ c.products ++ c.quotients, a.Matches := by
      intro a ha
      rcases List.mem_append.mp ha with ha | ha
      · exact (hproduct a ha).mpr (hproducts a ha)
      · exact (hquotient a ha).mpr (hquotients a ha)
    refine ⟨fun n hn => ?_, fun a ha => ⟨hmatches a ha, fun index => (hmatches a ha).index_lt⟩⟩
    obtain ⟨a, ha, group, hgroup, rfl⟩ := hchecked.listed n hn
    have hnonneg := (hmatches a ha).1 group hgroup
    have hnonzero := hchecked.nonzero _ hn
    omega

/-! ## What the pass checks -/

variable {ctx : RecordContext} {r next : Recording} {c : RecordedCommand}

/-- A signed argument that counts entries of two or more words. -/
theorem inWord_i64 (c : RecordedCommand) (i : Nat) {width : Nat} (hwidth : 2 ≤ width) :
    Arity.InWord 64 (c.i64 i, width) := by
  have hlt := c.i64_lt i
  have hle := c.le_i64 i
  exact .inr ⟨hwidth, by omega, by omega⟩

variable {length header width : Nat} {count : Int}

theorem inWord_of_nonneg {width : Nat} (hnonneg : 0 ≤ count) (hlt : count < 2 ^ 63) :
    Arity.InWord 64 (count, width) :=
  .inl ⟨hnonneg, by omega⟩

theorem ne_zero_of_sizeT (hcount : sizeT count ≠ 0) : count ≠ 0 := by
  rintro rfl
  exact hcount rfl

theorem demand_single :
    (Arity.mk length header [(count, width)]).demand 64 = header + sizeT count * width := by
  simp [Arity.demand, sizeT, wrapped]

/-- A command with one count and one payload, whose length is a product. -/
theorem countsChecked_product (hproducts : c.products = [⟨length, header, [(count, width)]⟩])
    (hquotients : c.quotients = []) (hrequired : ∀ n ∈ c.required, n = count ∧ n ≠ 0)
    (hword : Arity.InWord 64 (count, width))
    (hlength : length = (header + sizeT count * width) % 2 ^ 64) : c.CountsChecked := by
  constructor
  · simpa [hproducts, hquotients] using hword
  · simpa [hproducts, demand_single] using hlength
  · simp [hquotients]
  · exact fun n hn => (hrequired n hn).2
  · intro n hn
    simp [hproducts, hquotients, (hrequired n hn).1]

/-- The same with a length that is divided. -/
theorem countsChecked_quotient (hproducts : c.products = [])
    (hquotients : c.quotients = [⟨length, header, [(count, width)]⟩])
    (hrequired : ∀ n ∈ c.required, n = count ∧ n ≠ 0) (hword : Arity.InWord 64 (count, width))
    (hlength : length = header + sizeT count * width) : c.CountsChecked := by
  constructor
  · simpa [hproducts, hquotients] using hword
  · simp [hproducts]
  · simpa [hquotients, demand_single] using hlength
  · exact fun n hn => (hrequired n hn).2
  · intro n hn
    simp [hproducts, hquotients, (hrequired n hn).1]

theorem recordClearAttachments_counts (hkind : c.kind = .clearAttachments)
    (hok : recordClearAttachments c r = .ok next) : c.CountsChecked := by
  simp only [recordClearAttachments, accept_rules, not_or, not_not] at hok
  obtain ⟨-, -, -, -, -, ⟨hatt, hrect, hwords, hvalues⟩, -⟩ := hok
  constructor
  · simp only [products, quotients, hkind, List.append_nil, List.mem_cons, List.not_mem_nil,
      or_false]
    rintro a (rfl | rfl) group hgroup
    · simp only [List.mem_cons, List.not_mem_nil, or_false] at hgroup
      rcases hgroup with rfl | rfl <;> exact inWord_i64 c _ (by omega)
    · simp only [List.mem_singleton] at hgroup
      exact hgroup ▸ inWord_i64 c 0 (by omega)
  · simp only [products, hkind, List.mem_cons, List.not_mem_nil, or_false]
    rintro a (rfl | rfl)
    · simpa [Arity.demand, sizeT, wrapped, Nat.add_assoc] using hwords
    · simpa [demand_single] using hvalues
  · simp [quotients, hkind]
  · simp [required, hkind, ne_zero_of_sizeT hatt, ne_zero_of_sizeT hrect]
  · simp [required, products, quotients, hkind]

theorem recordBlitImage_counts (hkind : c.kind = .blitImage)
    (hok : recordBlitImage ctx c r = .ok next) : c.CountsChecked := by
  simp only [recordBlitImage, accept_rules, not_or, not_not] at hok
  obtain ⟨-, -, -, -, -, ⟨hcount, hlength, -⟩, -⟩ := hok
  apply countsChecked_product (by simp [products, hkind]) (by simp [quotients, hkind])
    _ (inWord_i64 c 3 (by omega)) hlength
  simp [required, hkind, ne_zero_of_sizeT hcount]

theorem recordRegionTransfer_counts {name : String}
    (hkind : c.kind = .copyImage ∨ c.kind = .resolveImage)
    (hok : recordRegionTransfer ctx name c r = .ok next) : c.CountsChecked := by
  simp only [recordRegionTransfer, accept_rules, not_or, not_not] at hok
  obtain ⟨-, -, -, -, -, ⟨hcount, hlength⟩, -⟩ := hok
  apply countsChecked_product _ _ _ (inWord_i64 c 2 (by omega)) hlength
  · rcases hkind with hkind | hkind <;> simp [products, hkind]
  · rcases hkind with hkind | hkind <;> simp [quotients, hkind]
  · rcases hkind with hkind | hkind <;> simp [required, hkind, ne_zero_of_sizeT hcount]

theorem recordBindTransformFeedbackBuffers_counts
    (hkind : c.kind = .bindTransformFeedbackBuffers)
    (hok : recordBindTransformFeedbackBuffers ctx c r = .ok next) : c.CountsChecked := by
  simp only [recordBindTransformFeedbackBuffers, accept_rules, not_or, not_not] at hok
  obtain ⟨-, -, -, -, -, ⟨-, hcount, -⟩, -, hlength, -⟩ := hok
  rw [← Nat.zero_add (sizeT _ * _)] at hlength
  apply countsChecked_product (by simp [products, hkind]) (by simp [quotients, hkind])
    _ (inWord_i64 c 1 (by split_ifs <;> omega)) hlength
  simp only [required, hkind, List.mem_singleton, forall_eq, true_and]
  omega

theorem checkTransformFeedbackScope_counts {handles : List Nat}
    (hkind : c.kind = .beginTransformFeedback ∨ c.kind = .endTransformFeedback)
    (hok : checkTransformFeedbackScope ctx c = .ok handles) : c.CountsChecked := by
  simp only [checkTransformFeedbackScope, accept_rules, not_or, not_not]
    at hok
  obtain ⟨-, ⟨-, hcount, -⟩, -, hlength, -⟩ := hok
  -- A counter is one word wide without its offset, so the sign check is needed here.
  rw [← Nat.zero_add (sizeT _ * _)] at hlength
  apply countsChecked_product _ _ _ (inWord_of_nonneg (by omega) (c.i64_lt 1)) hlength
  · rcases hkind with hkind | hkind <;> simp [products, hkind]
  · rcases hkind with hkind | hkind <;> simp [quotients, hkind]
  · rcases hkind with hkind | hkind <;> simp [required, hkind]

theorem recordBindVertexBuffers2_counts (hkind : c.kind = .bindVertexBuffers2)
    (hok : recordBindVertexBuffers2 ctx c r = .ok next) : c.CountsChecked := by
  simp only [recordBindVertexBuffers2, accept_rules, not_or, not_not] at hok
  obtain ⟨-, -, -, ⟨-, -, hcount, -⟩, -, hlength, -⟩ := hok
  rw [← Nat.zero_add (sizeT _ * _)] at hlength
  apply countsChecked_product (by simp [products, hkind]) (by simp [quotients, hkind])
    _ (inWord_i64 c 1 (by omega)) hlength
  simp only [required, hkind, List.mem_singleton, forall_eq, true_and]
  omega

theorem recordSetViewportWithCount_counts (hkind : c.kind = .setViewportWithCount)
    (hok : recordSetViewportWithCount ctx c r = .ok next) : c.CountsChecked := by
  simp only [recordSetViewportWithCount, checkWithCount, accept_rules, not_or, not_not] at hok
  obtain ⟨-, ⟨-, -, -, hcount⟩, -, ⟨-, hlength⟩, -⟩ := hok
  rw [← Nat.zero_add (sizeT _ * _)] at hlength
  apply countsChecked_product (by simp [products, hkind]) (by simp [quotients, hkind])
    _ (inWord_i64 c 0 (by omega)) hlength
  simp only [required, hkind, List.mem_singleton, forall_eq, true_and]
  omega

theorem recordSetScissorWithCount_counts (hkind : c.kind = .setScissorWithCount)
    (hok : recordSetScissorWithCount ctx c r = .ok next) : c.CountsChecked := by
  simp only [recordSetScissorWithCount, checkWithCount, accept_rules, not_or, not_not] at hok
  obtain ⟨-, ⟨-, -, -, hcount⟩, -, hlength, -⟩ := hok
  apply countsChecked_product (by simp [products, hkind]) (by simp [quotients, hkind])
    _ (inWord_i64 c 0 (by omega)) hlength
  simp only [required, hkind, List.mem_singleton, forall_eq, true_and]
  omega

/-- A quotient and a vanishing remainder determine the length. -/
theorem length_of_quotient {length count : Nat} (hlength : 2 ≤ length)
    (hmod : (length - 2) % 13 = 0) (hcount : count = (length - 2) / 13) :
    length = 2 + count * 13 := by
  omega

theorem recordCopyBufferToImage_counts (hkind : c.kind = .copyBufferToImage)
    (hok : recordCopyBufferToImage ctx c r = .ok next) : c.CountsChecked := by
  simp only [recordCopyBufferToImage, accept_rules, not_or, not_not, not_lt] at hok
  obtain ⟨-, -, image, -, -, -, -, -, -, -, source, -, -, -, -, -, -, hshort, -, -, -,
    ⟨hcount, hmod, hquotient⟩, -⟩ := hok
  apply countsChecked_quotient (by simp [products, hkind]) (by simp [quotients, hkind])
    _ (inWord_i64 c 1 (by omega)) (length_of_quotient hshort hmod hquotient)
  simp [required, hkind, ne_zero_of_sizeT hcount]

theorem recordCopyImageToBuffer_counts (hkind : c.kind = .copyImageToBuffer)
    (hok : recordCopyImageToBuffer ctx c r = .ok next) : c.CountsChecked := by
  simp only [recordCopyImageToBuffer, accept_rules, not_or, not_not, not_lt] at hok
  obtain ⟨-, -, -, ⟨-, hshort⟩, image, -, -, -, buffer, -, -, ⟨hmod, hquotient⟩, -⟩ := hok
  apply countsChecked_quotient (by simp [products, hkind]) (by simp [quotients, hkind])
    _ (inWord_i64 c 1 (by omega)) (length_of_quotient hshort hmod hquotient)
  simp [required, hkind]

theorem recordWaitEvents_counts (hkind : c.kind = .cmdWaitEvents)
    (hok : recordWaitEvents ctx c r = .ok next) : c.CountsChecked := by
  simp only [recordWaitEvents, accept_rules, not_or, not_not, not_lt]
    at hok
  obtain ⟨-, -, -, -, -, ⟨hevents, hmemory, hbuffers, himages, hnonzero⟩, -, hlength, -⟩ := hok
  unfold maxWaitEventsBarriers at hevents hmemory hbuffers himages
  have hwrapped : ∀ i, wrapped 64 (c.u64 i) = c.u64 i := fun i => by
    have := wrapped_eq_self (w := 64) (Int.natCast_nonneg (c.u64 i))
      (by exact_mod_cast c.u64_lt i)
    exact_mod_cast this
  constructor
  · simp only [products, quotients, hkind, List.append_nil, forall_eq, List.mem_cons,
      List.not_mem_nil, or_false]
    rintro group (rfl | rfl | rfl | rfl) <;> exact inWord_of_nonneg (by omega) (by omega)
  · simp only [products, hkind, List.mem_singleton, forall_eq, hlength, Arity.demand, hwrapped,
      List.map_cons, List.map_nil, List.sum_cons, List.sum_nil, waitEventsLength,
      waitEventsImageBase, waitEventsBufferBase, waitEventsMemoryBase, waitEventsHeaderSlots,
      waitEventsMemorySlots, waitEventsBufferSlots, waitEventsImageSlots]
    congr 1
    omega
  · simp [quotients, hkind]
  · simpa [required, hkind] using hnonzero
  · simp [required, products, quotients, hkind]

theorem recordBeginRendering_counts (hkind : c.kind = .beginRendering)
    (hok : recordBeginRendering ctx c r = .ok next) : c.CountsChecked := by
  simp only [recordBeginRendering, accept_rules, not_or, not_not, not_lt]
    at hok
  obtain ⟨-, -, -, -, -, -, -, -, -, -, -, -, -, -, -, ⟨hcolor, hcolors, hds, hdss⟩, -,
    ⟨hwords, hviews, hclears⟩, -⟩ := hok
  unfold maxDynamicRenderingColorAttachments at hcolors
  unfold clearValueBytes at hclears
  have hwrapped : ∀ count : Int, 0 ≤ count → count < 2 ^ 63 → (wrapped 64 count : Int) = count :=
    fun count hnonneg hlt => wrapped_eq_self hnonneg (by omega)
  have hattachments : renderingAttachmentCount c =
      wrapped 64 (c.i64 7) + wrapped 64 (c.i64 8 % 2) + wrapped 64 (c.i64 8 / 2) := by
    have h7 := hwrapped (c.i64 7) (by omega) (by omega)
    have hdepth := hwrapped (c.i64 8 % 2) (by omega) (by omega)
    have hstencil := hwrapped (c.i64 8 / 2) (by omega) (by omega)
    unfold renderingAttachmentCount
    split_ifs <;> omega
  have hsmall : renderingAttachmentCount c ≤ 10 := by
    unfold renderingAttachmentCount
    split_ifs <;> omega
  constructor
  · simp only [products, quotients, hkind, List.append_nil, List.mem_cons, List.not_mem_nil,
      or_false]
    rintro a (rfl | rfl | rfl) group hgroup <;>
      simp only [List.mem_cons, List.not_mem_nil, or_false] at hgroup <;>
      rcases hgroup with rfl | rfl | rfl <;> exact inWord_of_nonneg (by omega) (by omega)
  · simp only [products, hkind, List.mem_cons, List.not_mem_nil, or_false]
    rintro a (rfl | rfl | rfl) <;>
      simp only [Arity.demand, List.map_cons, List.map_nil, List.sum_cons, List.sum_nil] <;>
      omega
  · simp [quotients, hkind]
  · simp [required, hkind]
  · simp [required, hkind]

theorem countsChecked_nil (hproducts : c.products = []) (hquotients : c.quotients = [])
    (hrequired : c.required = []) : c.CountsChecked := by
  constructor <;> simp [hproducts, hquotients, hrequired]

theorem countsChecked_of_ok (hok : recordCommand ctx r c = .ok next) : c.CountsChecked := by
  unfold recordCommand at hok
  cases hkind : c.kind <;> rw [hkind] at hok
  case clearAttachments => exact recordClearAttachments_counts hkind hok
  case blitImage => exact recordBlitImage_counts hkind hok
  case copyImage => exact recordRegionTransfer_counts (.inl hkind) hok
  case resolveImage => exact recordRegionTransfer_counts (.inr hkind) hok
  case bindTransformFeedbackBuffers =>
    exact recordBindTransformFeedbackBuffers_counts hkind hok
  case beginTransformFeedback =>
    simp only [recordBeginTransformFeedback, ok_rules] at hok
    obtain ⟨-, -, -, -, handles, hscope, -⟩ := hok
    exact checkTransformFeedbackScope_counts (.inl hkind) hscope
  case endTransformFeedback =>
    simp only [recordEndTransformFeedback, ok_rules] at hok
    obtain ⟨-, -, -, -, handles, hscope, -⟩ := hok
    exact checkTransformFeedbackScope_counts (.inr hkind) hscope
  case bindVertexBuffers2 => exact recordBindVertexBuffers2_counts hkind hok
  case setViewportWithCount => exact recordSetViewportWithCount_counts hkind hok
  case setScissorWithCount => exact recordSetScissorWithCount_counts hkind hok
  case copyBufferToImage => exact recordCopyBufferToImage_counts hkind hok
  case copyImageToBuffer => exact recordCopyImageToBuffer_counts hkind hok
  case cmdWaitEvents => exact recordWaitEvents_counts hkind hok
  case beginRendering => exact recordBeginRendering_counts hkind hok
  all_goals
    exact countsChecked_nil (by simp [products, hkind]) (by simp [quotients, hkind])
      (by simp [required, hkind])

end RecordedCommand

/-- In an accepted stream the declared counts of a command match its payloads exactly
when no length the pass forms of them reaches `2 ^ 64` and no count is negative that
a quotient is compared with. -/
theorem accepted_counts_exact_iff (s : Backend) (req : RecordCommandBufferRequest)
    (hok : (s.recordCommandBuffer req).2 = .ok ()) (c : RecordedCommand)
    (hmem : c ∈ req.commands) : c.CountsExact ↔ c.CountsFit := by
  obtain ⟨pass⟩ := Backend.exists_pass hok
  obtain ⟨before, after, haccepted⟩ := recordCommand_of_mem pass.recorded hmem
  exact (RecordedCommand.countsChecked_of_ok haccepted).exact_iff

/-- A scissor command that declares `2 ^ 62` rectangles and carries none. -/
def scissorsWithoutRectangles : RecordedCommand :=
  { kind := .setScissorWithCount, argsI64 := [2 ^ 62] }

def scissorBackend : Backend :=
  performAll {} (setUp { vk13DeviceEnabled := 1 })

/-- Four words for each of `2 ^ 62` rectangles are `2 ^ 64` words, which wrap to
none: the command is accepted with an empty payload. -/
theorem wrapped_scissor_count_accepted :
    Reachable scissorBackend ∧
      (scissorBackend.recordCommandBuffer
        { commandBuffer := 6, commands := [scissorsWithoutRectangles] }).2 = .ok () ∧
      ¬scissorsWithoutRectangles.CountsExact := by
  refine ⟨reachable_performAll _, by decide +kernel, ?_⟩
  rintro ⟨-, hexact⟩
  have hlength := (hexact _ (List.mem_append_left _ (List.mem_singleton.mpr rfl))).1.2
  revert hlength
  decide +kernel

def oneScissor : RecordedCommand :=
  { kind := .setScissorWithCount, argsI64 := [1, 0, 0, 640, 480] }

theorem one_scissor_counts_exact :
    (scissorBackend.recordCommandBuffer
        { commandBuffer := 6, commands := [oneScissor] }).2 = .ok () ∧
      oneScissor.CountsExact := by
  have haccepted : (scissorBackend.recordCommandBuffer
      { commandBuffer := 6, commands := [oneScissor] }).2 = .ok () := by decide +kernel
  have hfit : oneScissor.CountsFit := ⟨by decide +kernel, by decide +kernel⟩
  exact ⟨haccepted, (accepted_counts_exact_iff scissorBackend _ haccepted oneScissor
    (List.mem_singleton.mpr rfl)).mpr hfit⟩

end VkRelay.Session
