import VkRelay.Lib.Brackets
import VkRelay.Session.Accepted
import VkRelay.Session.Machine

/-!
Accepted streams are well bracketed. The pass refines the machine `scopeStep`,
which knows of the render scope, transform feedback, conditional rendering and
the active queries and of nothing else; what that machine runs through is then
read off by position with `Lib.Brackets`.

Global and buffer barriers are kept outside a scope when they come as the
commands of their own. A `pipeline_barrier2` may carry either and is accepted
anywhere.
-/

namespace VkRelay.Session

open VkRelay.Lib

/-! ## Marks -/

def scopeMark (c : RecordedCommand) : Mark RenderScope :=
  match c.kind with
  | .beginRenderPass => .opens .renderPass
  | .endRenderPass => .closes .renderPass
  | .beginRendering => .opens .dynamicRendering
  | .endRendering => .closes .dynamicRendering
  | _ => .neither

def feedbackMark (c : RecordedCommand) : Mark Unit :=
  match c.kind with
  | .beginTransformFeedback => .opens ()
  | .endTransformFeedback => .closes ()
  | _ => .neither

def conditionalMark (c : RecordedCommand) : Mark Unit :=
  match c.kind with
  | .beginConditionalRendering => .opens ()
  | .endConditionalRendering => .closes ()
  | _ => .neither

/-- The query a command names: its pool and the index. -/
def RecordedCommand.Names (c : RecordedCommand) (query : Nat × Nat) : Prop :=
  c.u64 0 = query.1 ∧ c.i64 0 = query.2

instance (c : RecordedCommand) (query : Nat × Nat) : Decidable (c.Names query) :=
  inferInstanceAs (Decidable (_ ∧ _))

def queryMark (query : Nat × Nat) (c : RecordedCommand) : Mark Unit :=
  match c.kind with
  | .beginQuery => if c.Names query then .opens () else .neither
  | .endQuery => if c.Names query then .closes () else .neither
  | _ => .neither

/-- The items after a prefix stay in the scope the prefix ends in. -/
def Confined (before inner : List RecordedCommand) : Prop :=
  (∃ scope, Inside scopeMark before scope) ∧ ∀ c ∈ inner, scopeMark c = .neither

/-- The bracket structure of a stream. Queries are tracked by index where every index is
one that 32 bits hold. -/
structure WellBracketed (items : List RecordedCommand) : Prop where
  scopes : Bracketed scopeMark items
  inside : ∀ before c after, items = before ++ c :: after → c.kind.place = .inside →
    ∃ scope, Inside scopeMark before scope
  outside : ∀ before c after, items = before ++ c :: after → c.kind.place = .outside →
    Outside scopeMark before
  feedback : Bracketed feedbackMark items
  feedbackConfined : ∀ before first inner last after,
    Interval feedbackMark items before first inner last after → Confined before inner
  conditional : Bracketed conditionalMark items
  conditionalConfined : ∀ before first inner last after,
    Interval conditionalMark items before first inner last after →
      Confined before inner ∨
        Outside scopeMark before ∧ Outside scopeMark (before ++ first :: inner)
  queries : (∀ c ∈ items, c.kind = .beginQuery ∨ c.kind = .endQuery → c.i64 0 < 2 ^ 32) →
    ∀ query, Bracketed (queryMark query) items

/-! ## What the scope machine keeps track of -/

def openScope (st : ScopeState) : Option RenderScope :=
  if st.scope = .none then none else some st.scope

def openFeedback (st : ScopeState) : Option Unit :=
  if st.feedback then some () else none

def openConditional (st : ScopeState) : Option Unit :=
  if st.conditional then some () else none

def openQuery (key : Nat × Nat) (st : ScopeState) : Option Unit :=
  if key ∈ st.queries then some () else none

section Steps

variable {st next : ScopeState} {c : RecordedCommand}

/-- What a step does to each part of the scope state, which its own marks move and the
rest leave alone. -/
structure ScopeMove (st : ScopeState) (c : RecordedCommand) (next : ScopeState) : Prop where
  scope : advance (scopeMark c) (openScope st) = some (openScope next)
  feedback : advance (feedbackMark c) (openFeedback st) = some (openFeedback next)
  conditional : advance (conditionalMark c) (openConditional st) = some (openConditional next)
  place : c.kind.place.Allows st.scope
  /-- Transform feedback, or a conditional block begun in the scope, holds the scope. -/
  held : st.scope ≠ .none → st.feedback = true ∨ st.Pinned →
    scopeMark c = .neither ∧ next.scope = st.scope
  began : st.conditional = true → next.beganInScope = st.beganInScope

theorem scopeMove (hstep : scopeStep st c = some next) : ScopeMove st c next := by
  unfold scopeStep at hstep
  split at hstep
  all_goals
    simp only [Option.ite_none_right_eq_some, Option.some.injEq] at hstep
    obtain ⟨hguard, rfl⟩ := hstep
    constructor
    all_goals simp_all [scopeMark, feedbackMark, conditionalMark, openScope, openFeedback,
      openConditional, advance, CmdKind.place, Place.Allows]

/-- The key the pass keeps for a command is the query it names. -/
theorem names_iff_queryKey (query : Nat × Nat) (hnonneg : 0 ≤ c.i64 0)
    (hfits : c.i64 0 < 2 ^ 32) : c.Names query ↔ queryKey c = query := by
  obtain ⟨pool, index⟩ := query
  simp only [RecordedCommand.Names, queryKey, toU32, Prod.mk.injEq]
  omega

theorem advance_query (query : Nat × Nat)
    (hfits : c.kind = .beginQuery ∨ c.kind = .endQuery → c.i64 0 < 2 ^ 32)
    (hstep : scopeStep st c = some next) :
    advance (queryMark query c) (openQuery query st) = some (openQuery query next) := by
  unfold scopeStep at hstep
  split at hstep
  case h_9 hkind | h_10 hkind =>
    simp only [Option.ite_none_right_eq_some, Option.some.injEq] at hstep
    obtain ⟨⟨hnonneg, hguard⟩, rfl⟩ := hstep
    have hnames := names_iff_queryKey query hnonneg (hfits (by simp [hkind]))
    by_cases hkey : queryKey c = query
    · subst hkey
      simp_all [queryMark, openQuery, advance]
    · have hne : query ≠ queryKey c := Ne.symm hkey
      simp_all [queryMark, openQuery, advance]
  all_goals
    simp only [Option.ite_none_right_eq_some, Option.some.injEq] at hstep
    obtain ⟨hguard, rfl⟩ := hstep
    simp_all [queryMark, openQuery, advance]

end Steps

/-! ## Runs of the scope machine -/

section Runs

variable {st last : ScopeState} {items : List RecordedCommand}

/-- What every step keeps that is no mark of a kind, a stretch without such marks keeps. -/
theorem kept_of_run {Q : ScopeState → Prop} {E : RecordedCommand → Prop}
    {mark : RecordedCommand → Mark Unit}
    (hkeep : ∀ st c next, Q st → mark c = .neither → scopeStep st c = some next → Q next ∧ E c)
    (hrun : run scopeStep st items = some last) (hst : Q st)
    (hmarks : ∀ c ∈ items, mark c = .neither) : Q last ∧ ∀ c ∈ items, E c := by
  induction items generalizing st with
  | nil =>
    cases hrun
    exact ⟨hst, fun c hc => absurd hc List.not_mem_nil⟩
  | cons c items ih =>
    rw [run_cons] at hrun
    obtain ⟨next, hnext, hrest⟩ := Option.bind_eq_some_iff.mp hrun
    obtain ⟨hmark, hmarks⟩ := List.forall_mem_cons.mp hmarks
    obtain ⟨hQ, hE⟩ := hkeep st c next hst hmark hnext
    exact (ih hrest hQ hmarks).imp_right fun hrest => List.forall_mem_cons.mpr ⟨hE, hrest⟩

variable {c : RecordedCommand} {next : ScopeState}

theorem feedback_kept (hst : st.scope ≠ .none ∧ st.feedback = true)
    (hmark : feedbackMark c = .neither) (hstep : scopeStep st c = some next) :
    (next.scope ≠ .none ∧ next.feedback = true) ∧ scopeMark c = .neither := by
  obtain ⟨hneither, hscope⟩ := (scopeMove hstep).held hst.1 (.inl hst.2)
  have hsame := (scopeMove hstep).feedback
  rw [hmark] at hsame
  refine ⟨⟨hscope ▸ hst.1, ?_⟩, hneither⟩
  simpa [advance, openFeedback, hst.2] using hsame

theorem conditional_kept (hst : st.conditional = true) (hmark : conditionalMark c = .neither)
    (hstep : scopeStep st c = some next) :
    next.conditional = true ∧ next.beganInScope = st.beganInScope := by
  have hsame := (scopeMove hstep).conditional
  rw [hmark] at hsame
  exact ⟨by simpa [advance, openConditional, hst] using hsame, (scopeMove hstep).began hst⟩

theorem pinned_kept (hst : st.scope ≠ .none ∧ st.Pinned) (hmark : conditionalMark c = .neither)
    (hstep : scopeStep st c = some next) :
    (next.scope ≠ .none ∧ next.Pinned) ∧ scopeMark c = .neither := by
  obtain ⟨hneither, hscope⟩ := (scopeMove hstep).held hst.1 (.inr hst.2)
  obtain ⟨hactive, hbegan⟩ := conditional_kept hst.2.1 hmark hstep
  exact ⟨⟨hscope ▸ hst.1, hactive, hbegan.trans hst.2.2⟩, hneither⟩

theorem exists_inside_iff (hrun : run scopeStep {} items = some last) :
    (∃ scope, Inside scopeMark items scope) ↔ last.scope ≠ .none := by
  have hscan := scan_of_run (fun _ _ _ _ hstep => (scopeMove hstep).scope) hrun
  have hstart : openScope {} = none := rfl
  rw [hstart] at hscan
  simp only [scan_inside hscan, openScope]
  by_cases hnone : last.scope = .none <;> simp [hnone]

theorem outside_iff (hrun : run scopeStep {} items = some last) :
    Outside scopeMark items ↔ last.scope = .none := by
  have hinside := exists_inside_iff hrun
  unfold Outside
  rw [← not_exists, hinside, not_not]

theorem interval_states {mark : RecordedCommand → Mark Unit} {before inner after}
    {first final : RecordedCommand} (hrun : run scopeStep {} items = some last)
    (hinterval : Interval mark items before first inner final after) :
    ∃ s₀ s₁ s₂ s₃, run scopeStep {} before = some s₀ ∧ scopeStep s₀ first = some s₁ ∧
      run scopeStep s₁ inner = some s₂ ∧ scopeStep s₂ final = some s₃ := by
  rw [hinterval.split] at hrun
  obtain ⟨s₀, s₁, hbefore, hfirst, hrest⟩ := run_append_cons.mp hrun
  obtain ⟨s₂, s₃, hinner, hfinal, -⟩ := run_append_cons.mp hrest
  exact ⟨s₀, s₁, s₂, s₃, hbefore, hfirst, hinner, hfinal⟩

theorem feedback_confined {before inner after} {first final : RecordedCommand}
    (hrun : run scopeStep {} items = some last)
    (hinterval : Interval feedbackMark items before first inner final after) :
    Confined before inner := by
  obtain ⟨s₀, s₁, s₂, -, hbefore, hfirst, hinner, -⟩ := interval_states hrun hinterval
  obtain ⟨kind, hopens, -⟩ := hinterval.pair
  have hkind : first.kind = .beginTransformFeedback := by
    unfold feedbackMark at hopens
    split at hopens <;> simp_all
  simp only [scopeStep, hkind, Option.ite_none_right_eq_some, Option.some.injEq] at hfirst
  obtain ⟨⟨hscope, -⟩, rfl⟩ := hfirst
  exact ⟨(exists_inside_iff hbefore).mpr hscope,
    (kept_of_run (fun _ _ _ => feedback_kept) hinner ⟨hscope, rfl⟩ hinterval.between).2⟩

theorem conditional_run (hrun : run scopeStep st items = some last)
    (hst : st.conditional = true) (hmarks : ∀ c ∈ items, conditionalMark c = .neither) :
    last.beganInScope = st.beganInScope := by
  refine (kept_of_run (Q := fun now => now.conditional = true ∧
    now.beganInScope = st.beganInScope) (E := fun _ => True) ?_ hrun ⟨hst, rfl⟩ hmarks).1.2
  intro now c next hnow hmark hstep
  obtain ⟨hactive, hbegan⟩ := conditional_kept hnow.1 hmark hstep
  exact ⟨⟨hactive, hbegan.trans hnow.2⟩, trivial⟩

theorem conditional_confined {before inner after} {first final : RecordedCommand}
    (hrun : run scopeStep {} items = some last)
    (hinterval : Interval conditionalMark items before first inner final after) :
    Confined before inner ∨
      Outside scopeMark before ∧ Outside scopeMark (before ++ first :: inner) := by
  obtain ⟨s₀, s₁, s₂, s₃, hbefore, hfirst, hinner, hfinal⟩ := interval_states hrun hinterval
  have hupto : run scopeStep {} (before ++ first :: inner) = some s₂ :=
    run_append_cons.mpr ⟨s₀, s₁, hbefore, hfirst, hinner⟩
  obtain ⟨kind, hopens, hcloses⟩ := hinterval.pair
  have hbegin : first.kind = .beginConditionalRendering := by
    unfold conditionalMark at hopens
    split at hopens <;> simp_all
  have hend : final.kind = .endConditionalRendering := by
    unfold conditionalMark at hcloses
    split at hcloses <;> simp_all
  simp only [scopeStep, hbegin, Option.ite_none_right_eq_some, Option.some.injEq] at hfirst
  simp only [scopeStep, hend, Option.ite_none_right_eq_some] at hfinal
  obtain ⟨-, rfl⟩ := hfirst
  obtain ⟨⟨-, hsame⟩, -⟩ := hfinal
  have hbegan := conditional_run hinner rfl hinterval.between
  by_cases hscope : s₀.scope = .none
  · -- Begun outside, so the end is refused inside.
    right
    have hclosed : s₂.scope = .none := by simpa [hbegan, hscope] using hsame.symm
    exact ⟨(outside_iff hbefore).mpr hscope, (outside_iff hupto).mpr hclosed⟩
  · left
    exact ⟨(exists_inside_iff hbefore).mpr hscope, (kept_of_run (fun _ _ _ => pinned_kept) hinner
      ⟨hscope, rfl, by simpa using hscope⟩ hinterval.between).2⟩

/-- What the scope machine runs through to its start state is well bracketed. -/
theorem wellBracketed_of_run (hrun : run scopeStep {} items = some last)
    (hscope : last.scope = .none) (hfeedback : last.feedback = false)
    (hconditional : last.conditional = false) (hqueries : last.queries = ∅) :
    WellBracketed items := by
  constructor
  · have hscan := scan_of_run (fun _ _ _ _ hstep => (scopeMove hstep).scope) hrun
    exact bracketed_of_scan (by simpa [openScope, hscope] using hscan)
  · rintro before c after rfl hplace
    obtain ⟨mid, next, hbefore, hstep, -⟩ := run_append_cons.mp hrun
    have hallows := (scopeMove hstep).place
    rw [hplace] at hallows
    exact (exists_inside_iff hbefore).mpr hallows
  · rintro before c after rfl hplace
    obtain ⟨mid, next, hbefore, hstep, -⟩ := run_append_cons.mp hrun
    have hallows := (scopeMove hstep).place
    rw [hplace] at hallows
    exact (outside_iff hbefore).mpr hallows
  · have hscan := scan_of_run (fun _ _ _ _ hstep => (scopeMove hstep).feedback) hrun
    exact bracketed_of_scan (by simpa [openFeedback, hfeedback] using hscan)
  · exact fun before first inner final after => feedback_confined hrun
  · have hscan := scan_of_run (fun _ _ _ _ hstep => (scopeMove hstep).conditional) hrun
    exact bracketed_of_scan (by simpa [openConditional, hconditional] using hscan)
  · exact fun before first inner final after => conditional_confined hrun
  · intro hfits query
    have hscan := scan_of_run (fun c hc _ _ => advance_query query (hfits c hc)) hrun
    exact bracketed_of_scan (by simpa [openQuery, hqueries] using hscan)

end Runs

/-! ## The pass -/

theorem run_scopeStep_of_ok {ctx : RecordContext} {r last : Recording}
    {commands : List RecordedCommand} (hok : recordCommands ctx r commands = .ok last) :
    run scopeStep r.scopes commands = some last.scopes := by
  induction commands generalizing r with
  | nil =>
    cases hok
    rfl
  | cons c commands ih =>
    obtain ⟨next, hnext, hrest⟩ := recordCommands_cons.mp hok
    rw [run_cons, scopeStep_of_ok hnext]
    exact ih hrest

/-- Every stream the worker accepts is well bracketed. -/
theorem accepted_well_bracketed (s : Backend) (req : RecordCommandBufferRequest)
    (hok : (s.recordCommandBuffer req).2 = .ok ()) : WellBracketed req.commands := by
  obtain ⟨pass⟩ := Backend.exists_pass hok
  have hclosed := pass.closed
  simp only [endOfStream, accept_rules, not_not, Bool.not_eq_true,
    Finset.not_nonempty_iff_eq_empty] at hclosed
  obtain ⟨-, hqueries, -, hscope, -, hfeedback, hconditional⟩ := hclosed
  exact wellBracketed_of_run (run_scopeStep_of_ok pass.recorded) hscope hfeedback hconditional
    hqueries

def RecordedCommand.carriesBarrier (c : RecordedCommand) : Bool :=
  c.kind == .memoryBarrierGlobal || c.kind == .bufferMemoryBarrier ||
    c.deps2.any fun d => !d.memory.isEmpty || !d.buffer.isEmpty

def renderingDevice : CreateDeviceRequest where
  vk13DeviceEnabled := 1
  dynamicRenderingFeatureEnabled := 1
  synchronization2FeatureEnabled := 1

def bracketBackend : Backend :=
  performAll {} (setUp renderingDevice ++ [.createQueryPool 3 queryTypeOcclusion 8])

def openRendering : RecordedCommand :=
  { kind := .beginRendering, argsI64 := [0, 0, 0, 640, 480, 1, 0, 0, 0] }

def globalBarrier2 : RecordedCommand :=
  { kind := .pipelineBarrier2, deps2 := [{ memory := [{}] }] }

def barrierInScope : RecordCommandBufferRequest :=
  { commandBuffer := 6, commands := [openRendering, globalBarrier2, { kind := .endRendering }] }

/-- A global barrier of the second generation is accepted inside a scope. -/
theorem barrier2_in_scope_accepted :
    Reachable bracketBackend ∧
      (bracketBackend.recordCommandBuffer barrierInScope).2 = .ok () ∧
        ∃ before c after, barrierInScope.commands = before ++ c :: after ∧
          c.carriesBarrier = true ∧ Inside scopeMark before .dynamicRendering :=
  ⟨reachable_performAll _, by decide +kernel, [openRendering], globalBarrier2, _, rfl,
    rfl, [], openRendering, [], rfl, rfl, by simp⟩

def queryInScope : RecordCommandBufferRequest :=
  { commandBuffer := 6
    commands := [openRendering, { kind := .beginQuery, argsU64 := [7], argsI64 := [5, 0] },
      { kind := .endQuery, argsU64 := [7], argsI64 := [5] }, { kind := .endRendering }] }

theorem query_in_scope_well_bracketed :
    (bracketBackend.recordCommandBuffer queryInScope).2 = .ok () ∧
      (∀ query, Bracketed (queryMark query) queryInScope.commands) ∧
        WellBracketed queryInScope.commands := by
  have haccepted : (bracketBackend.recordCommandBuffer queryInScope).2 = .ok () := by
    decide +kernel
  have hbracketed := accepted_well_bracketed bracketBackend _ haccepted
  exact ⟨haccepted, hbracketed.queries (by decide), hbracketed⟩

end VkRelay.Session
