import VkRelay.Session.Record

/-!
What an accepted command does to the scopes that are open. `scopeStep` is a function of the
command and the scopes alone; `Session.Accepted` proves that a step of the pass computes it,
for every command kind.
-/

namespace VkRelay.Session

/-! ## Scopes -/

structure ScopeState where
  scope : RenderScope := .none
  feedback : Bool := false
  conditional : Bool := false
  beganInScope : Bool := false
  queries : Finset (Nat × Nat) := ∅

inductive Place where
  | inside | outside | anywhere
  deriving DecidableEq

def CmdKind.place : CmdKind → Place
  | .draw | .drawIndexed | .drawIndirectByteCount | .drawIndirect | .drawIndexedIndirect
  | .drawIndirectCount | .drawIndexedIndirectCount | .clearAttachments => .inside
  | .copyBufferToImage | .copyBuffer | .copyImageToBuffer | .copyImage | .copyQueryPoolResults
  | .fillBuffer | .blitImage | .resolveImage | .dispatch | .dispatchIndirect | .cmdSetEvent
  | .cmdResetEvent | .cmdWaitEvents | .cmdSetEvent2 | .cmdResetEvent2 | .cmdWaitEvents2
  | .memoryBarrierGlobal | .bufferMemoryBarrier => .outside
  | _ => .anywhere

def Place.Allows : Place → RenderScope → Prop
  | .inside, scope => scope ≠ .none
  | .outside, scope => scope = .none
  | .anywhere, _ => True

instance (place : Place) (scope : RenderScope) : Decidable (place.Allows scope) :=
  match place with
  | .inside => inferInstanceAs (Decidable (scope ≠ .none))
  | .outside => inferInstanceAs (Decidable (scope = .none))
  | .anywhere => inferInstanceAs (Decidable True)

/-- A conditional block that was begun in the open scope is still active. -/
def ScopeState.Pinned (st : ScopeState) : Prop :=
  st.conditional = true ∧ st.beganInScope = true

instance (st : ScopeState) : Decidable st.Pinned :=
  inferInstanceAs (Decidable (_ ∧ _))

/-- When a command may be met, and the scope state after it. -/
def scopeStep (st : ScopeState) (c : RecordedCommand) : Option ScopeState :=
  match c.kind with
  | .beginRenderPass =>
    if st.scope = .none then some { st with scope := .renderPass } else none
  | .endRenderPass =>
    if st.scope = .renderPass ∧ st.feedback = false ∧ ¬st.Pinned then
      some { st with scope := .none }
    else none
  | .beginRendering =>
    if st.scope = .none then some { st with scope := .dynamicRendering } else none
  | .endRendering =>
    if st.scope = .dynamicRendering ∧ st.feedback = false ∧ ¬st.Pinned then
      some { st with scope := .none }
    else none
  | .beginTransformFeedback =>
    if st.scope ≠ .none ∧ st.feedback = false then some { st with feedback := true } else none
  | .endTransformFeedback =>
    if st.scope ≠ .none ∧ st.feedback = true then some { st with feedback := false } else none
  | .beginConditionalRendering =>
    if st.conditional = false then
      some { st with conditional := true, beganInScope := st.scope != .none }
    else none
  | .endConditionalRendering =>
    if st.conditional = true ∧ st.beganInScope = (st.scope != .none) then
      some { st with conditional := false }
    else none
  | .beginQuery =>
    if 0 ≤ c.i64 0 ∧ queryKey c ∉ st.queries then
      some { st with queries := insert (queryKey c) st.queries }
    else none
  | .endQuery =>
    if 0 ≤ c.i64 0 ∧ queryKey c ∈ st.queries then
      some { st with queries := st.queries.erase (queryKey c) }
    else none
  | kind => if kind.place.Allows st.scope then some st else none

/-! ## The parts of the pass state -/

namespace Recording

def scopes (r : Recording) : ScopeState where
  scope := r.activeScope
  feedback := r.xfbActive
  conditional := r.condRenderActive
  beganInScope := r.condRenderBeganInRp
  queries := r.activeQueries

end Recording

def CmdKind.brackets : CmdKind → Bool
  | .beginRenderPass | .endRenderPass | .beginRendering | .endRendering
  | .beginTransformFeedback | .endTransformFeedback | .beginConditionalRendering
  | .endConditionalRendering | .beginQuery | .endQuery => true
  | _ => false

variable {r next : Recording} {c : RecordedCommand}

/-- The other commands leave the scopes alone, where they may stand. -/
theorem scopeStep_of_place (hplain : c.kind.brackets = false)
    (hplace : c.kind.place.Allows r.activeScope) (hsame : next.scopes = r.scopes) :
    scopeStep r.scopes c = some next.scopes := by
  rw [hsame]
  unfold scopeStep
  cases hkind : c.kind <;> rw [hkind] at hplain hplace <;>
    first | exact if_pos hplace | simp [CmdKind.brackets] at hplain

end VkRelay.Session
