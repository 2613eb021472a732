import VkRelay.Session.Effect

/-!
The pass computes `scopeStep`: one lemma for each function of the record pass, and the
theorem over all command kinds that collects them.
-/

namespace VkRelay.Session

open VkRelay.Lib
open RecordContext

variable {ctx : RecordContext} {r next : Recording} {c : RecordedCommand}

/-! ## Commands that leave the scopes as they are -/

/-- A command that neither opens nor closes anything keeps the scopes. -/
theorem scopes_of_plain (hplain : c.kind.brackets = false) :
    Yields (recordCommand ctx r c) fun next => next.scopes = r.scopes := by
  unfold recordCommand
  cases hkind : c.kind <;> rw [hkind] at hplain
  all_goals try cases hplain
  all_goals simp only [recordBindPipeline, recordBindDescriptorSets, recordBindVertexBuffers,
    recordBindVertexBuffers2, recordBindIndexBuffer, recordBindTransformFeedbackBuffers,
    recordPipelineBarrier, recordClearColorImage, recordPipelineBarrier2, recordWriteTimestamp2,
    recordSetViewportWithCount, recordSetScissorWithCount, recordResetQueryPool,
    recordWriteTimestamp, recordDynamicState, recordSetStencilOp, recordCore13State, recordDraw,
    recordClearAttachments, recordDispatch, recordDispatchIndirect, recordMemoryBarrier,
    recordBufferMemoryBarrier, recordEvent, recordWaitEvents, recordSetEvent2, recordResetEvent2,
    recordWaitEvents2, recordCopyBufferToImage, recordCopyBuffer, recordFillBuffer,
    recordCopyImageToBuffer, recordCopyQueryPoolResults, recordImagePair, recordBlitImage]
  all_goals repeat refine Yields.bind fun _ => ?_
  all_goals first | exact Yields.ok rfl | exact Yields.error

/-- A command that stands outside every scope is accepted only there. -/
theorem outside_of_ok (hplace : c.kind.place = .outside) :
    Yields (recordCommand ctx r c) fun _ => ¬r.activeScope ≠ .none := by
  unfold recordCommand
  cases hkind : c.kind <;> rw [hkind] at hplace
  all_goals cases hplace
  all_goals simp only [recordDispatch, recordDispatchIndirect, dispatchReady, recordMemoryBarrier,
    recordBufferMemoryBarrier, recordEvent, recordWaitEvents, recordSetEvent2, recordResetEvent2,
    recordWaitEvents2, checkEvent2Scope, recordCopyBufferToImage, recordCopyBuffer,
    recordFillBuffer, recordCopyImageToBuffer, recordCopyQueryPoolResults, recordBlitImage,
    bind_assoc]
  all_goals repeat first | exact Yields.refused | refine Yields.bind fun _ => ?_

/-- A command that stands inside a scope is accepted only there. -/
theorem inside_of_ok (hplace : c.kind.place = .inside) :
    Yields (recordCommand ctx r c) fun _ => r.activeScope ≠ .none := by
  unfold recordCommand
  cases hkind : c.kind <;> rw [hkind] at hplace
  all_goals cases hplace
  all_goals simp only [recordDraw, recordClearAttachments]
  all_goals repeat first | exact Yields.refused | refine Yields.bind fun _ => ?_
  all_goals exact Yields.error

/-! ## Commands that open and close -/

theorem scopes_noteViewImage (image : Nat) : (noteViewImage ctx r image).scopes = r.scopes := by
  unfold noteViewImage
  split <;> rfl

theorem scopes_noteView (view : Nat) : (noteView ctx r view).scopes = r.scopes := by
  unfold noteView
  split
  · exact scopes_noteViewImage _
  · rfl

theorem scopes_beginAttachments {fb : Framebuffer}
    (hok : beginAttachments ctx c fb r = .ok next) : next.scopes = r.scopes := by
  unfold beginAttachments at hok
  split at hok
  · simp only [ok_rules] at hok
    obtain ⟨-, -, -, -, rfl⟩ := hok
    exact List.foldlRecOn (motive := fun t => Recording.scopes t = r.scopes) c.handles _ rfl
      fun next hnext view _ => (scopes_noteView view).trans hnext
  · simp only [ok_rules] at hok
    obtain ⟨-, -, -, -, rfl⟩ := hok
    exact scopes_noteViewImage _

theorem scopeStep_beginRenderPass (hok : recordBeginRenderPass ctx c r = .ok next)
    (hkind : c.kind = .beginRenderPass) : scopeStep r.scopes c = some next.scopes := by
  simp only [recordBeginRenderPass, accept_rules, not_not] at hok
  obtain ⟨-, hnone, rp, -, fb, -, -, -, -, -, -, -, attached, hattached, rfl⟩ := hok
  have hstep : scopeStep r.scopes c = some { r.scopes with scope := .renderPass } := by
    simp only [scopeStep, hkind]
    exact if_pos hnone
  rw [hstep, ← scopes_beginAttachments hattached]
  rfl

theorem scopeStep_beginRendering (hok : recordBeginRendering ctx c r = .ok next)
    (hkind : c.kind = .beginRendering) : scopeStep r.scopes c = some next.scopes := by
  simp only [recordBeginRendering, accept_rules, not_not] at hok
  obtain ⟨-, -, -, hnone, -, -, -, -, -, -, -, -, -, -, -, -, -, -, -, -, rfl⟩ := hok
  simp only [scopeStep, hkind]
  exact if_pos hnone

/-- The check of the two commands that close a scope. -/
theorem closes_of_checkScopeEnd {scope : RenderScope} {name what place : String}
    (hok : checkScopeEnd scope name what place r = .ok ()) :
    r.scopes.scope = scope ∧ r.scopes.feedback = false ∧ ¬r.scopes.Pinned := by
  simp only [checkScopeEnd, accept_rules, not_not, Bool.not_eq_true] at hok
  obtain ⟨-, hscope, -, hfeedback, hpinned⟩ := hok
  exact ⟨hscope, hfeedback, hpinned⟩

theorem scopeStep_beginTransformFeedback (hok : recordBeginTransformFeedback ctx c r = .ok next)
    (hkind : c.kind = .beginTransformFeedback) : scopeStep r.scopes c = some next.scopes := by
  simp only [recordBeginTransformFeedback, checkTransformFeedbackUse, accept_rules,
    Bool.not_eq_true] at hok
  obtain ⟨-, ⟨-, -, hscope⟩, -, hfeedback, -, -, rfl⟩ := hok
  simp only [scopeStep, hkind]
  exact if_pos ⟨hscope, hfeedback⟩

theorem scopeStep_endTransformFeedback (hok : recordEndTransformFeedback ctx c r = .ok next)
    (hkind : c.kind = .endTransformFeedback) : scopeStep r.scopes c = some next.scopes := by
  simp only [recordEndTransformFeedback, checkTransformFeedbackUse, accept_rules,
    Bool.not_eq_true, Bool.not_eq_false'] at hok
  obtain ⟨-, ⟨-, -, hscope⟩, -, hfeedback, -, -, rfl⟩ := hok
  simp only [scopeStep, hkind]
  exact if_pos ⟨hscope, hfeedback⟩

theorem scopeStep_beginConditionalRendering
    (hok : recordBeginConditionalRendering ctx c r = .ok next)
    (hkind : c.kind = .beginConditionalRendering) : scopeStep r.scopes c = some next.scopes := by
  simp only [recordBeginConditionalRendering, accept_rules, Bool.not_eq_true] at hok
  obtain ⟨-, -, -, hinactive, -, -, -, -, rfl⟩ := hok
  simp only [scopeStep, hkind]
  exact if_pos hinactive

theorem scopeStep_endConditionalRendering (hok : recordEndConditionalRendering ctx r = .ok next)
    (hkind : c.kind = .endConditionalRendering) : scopeStep r.scopes c = some next.scopes := by
  simp only [recordEndConditionalRendering, accept_rules, not_not, Bool.not_eq_true,
    Bool.not_eq_false'] at hok
  obtain ⟨-, -, -, hactive, -, hsame, rfl⟩ := hok
  simp only [scopeStep, hkind]
  exact if_pos ⟨hactive, hsame⟩

theorem nonneg_of_queryIndexOk {pool : QueryPool} {q : Int} (hok : queryIndexOk pool q = true) :
    0 ≤ q := by
  simp only [queryIndexOk, Bool.and_eq_true, decide_eq_true_eq] at hok
  exact hok.1

theorem scopeStep_beginQuery (hok : recordBeginQuery ctx c r = .ok next)
    (hkind : c.kind = .beginQuery) : scopeStep r.scopes c = some next.scopes := by
  simp only [recordBeginQuery, accept_rules, not_or, Bool.not_eq_true, Bool.not_eq_false'] at hok
  obtain ⟨pool, -, -, ⟨-, hindex⟩, -, hinactive, rfl⟩ := hok
  simp only [scopeStep, hkind]
  exact if_pos ⟨nonneg_of_queryIndexOk hindex, hinactive⟩

theorem scopeStep_endQuery (hok : recordEndQuery ctx c r = .ok next)
    (hkind : c.kind = .endQuery) : scopeStep r.scopes c = some next.scopes := by
  simp only [recordEndQuery, accept_rules, not_or, not_not, Bool.not_eq_true,
    Bool.not_eq_false'] at hok
  obtain ⟨pool, -, -, ⟨-, hindex⟩, -, hactive, rfl⟩ := hok
  simp only [scopeStep, hkind]
  exact if_pos ⟨nonneg_of_queryIndexOk hindex, hactive⟩

/-! ## Every command -/

/-- What the pass accepts, over all command kinds. -/
theorem scopeStep_of_ok (hok : recordCommand ctx r c = .ok next) :
    scopeStep r.scopes c = some next.scopes := by
  by_cases hplain : c.kind.brackets = false
  · refine scopeStep_of_place hplain ?_ (scopes_of_plain hplain next hok)
    cases hplace : c.kind.place with
    | inside => exact inside_of_ok hplace next hok
    | outside => exact not_not.mp (outside_of_ok hplace next hok)
    | anywhere => trivial
  · unfold recordCommand at hok
    cases hkind : c.kind <;> rw [hkind] at hok hplain
    case beginRenderPass => exact scopeStep_beginRenderPass hok hkind
    case endRenderPass =>
      obtain ⟨_, hcheck, rfl⟩ := by simpa only [recordEndRenderPass, accept_rules] using hok
      simp only [scopeStep, hkind]
      exact if_pos (closes_of_checkScopeEnd hcheck)
    case beginRendering => exact scopeStep_beginRendering hok hkind
    case endRendering =>
      obtain ⟨_, hcheck, rfl⟩ := by simpa only [recordEndRendering, accept_rules] using hok
      simp only [scopeStep, hkind]
      exact if_pos (closes_of_checkScopeEnd hcheck)
    case beginTransformFeedback => exact scopeStep_beginTransformFeedback hok hkind
    case endTransformFeedback => exact scopeStep_endTransformFeedback hok hkind
    case beginConditionalRendering => exact scopeStep_beginConditionalRendering hok hkind
    case endConditionalRendering => exact scopeStep_endConditionalRendering hok hkind
    case beginQuery => exact scopeStep_beginQuery hok hkind
    case endQuery => exact scopeStep_endQuery hok hkind
    all_goals exact absurd rfl hplain

end VkRelay.Session
