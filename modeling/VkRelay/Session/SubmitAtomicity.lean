import VkRelay.Session.Machine

/-!
What a refused submit leaves behind. Both submits signal before they have checked
everything: the fence is looked at when the timelines have moved, and a batch of the newer
submit when those of the batches before it have. Command buffers and fences are never
touched by a refused submit; a timeline is, by each signal carried out that is ahead of it.
-/

namespace VkRelay.Session

open VkRelay.Lib

/-! ## Signals -/

/-- A timeline moves to the value if it is behind. -/
def Leaf.raise (leaf : Leaf) (value : Nat) : Leaf :=
  if leaf.isTimeline ∧ leaf.timelineValue < value then { leaf with timelineValue := value }
  else leaf

def Leaf.fixed (leaf : Leaf) : Nat × LeafKind × Bool × Bool :=
  (leaf.device, leaf.kind, leaf.isTimeline, leaf.isSignaled)

variable (leaf : Leaf) (values : List Nat)

@[simp] theorem Leaf.fixed_raise (value : Nat) : (leaf.raise value).fixed = leaf.fixed := by
  unfold raise
  split <;> rfl

theorem Leaf.fixed_raiseAll : (values.foldl raise leaf).fixed = leaf.fixed := by
  induction values generalizing leaf with
  | nil => rfl
  | cons value values ih => rw [List.foldl_cons, ih, fixed_raise]

theorem Leaf.le_raise (value : Nat) : leaf.timelineValue ≤ (leaf.raise value).timelineValue := by
  unfold raise
  split
  next hbehind => exact hbehind.2.le
  next => exact le_rfl

theorem Leaf.le_raiseAll : leaf.timelineValue ≤ (values.foldl raise leaf).timelineValue := by
  induction values generalizing leaf with
  | nil => exact le_rfl
  | cons value values ih => exact (leaf.le_raise value).trans (ih _)

/-- A series of signals moves a timeline unless none of them is ahead of it. -/
theorem Leaf.raiseAll_timelineValue_iff :
    (values.foldl raise leaf).timelineValue = leaf.timelineValue ↔
      ∀ value ∈ values, ¬(leaf.isTimeline ∧ leaf.timelineValue < value) := by
  induction values with
  | nil => simp
  | cons value values ih =>
    rw [List.foldl_cons, List.forall_mem_cons]
    by_cases hbehind : leaf.isTimeline ∧ leaf.timelineValue < value
    · have hmoved := (leaf.raise value).le_raiseAll values
      rw [raise, if_pos hbehind] at hmoved ⊢
      have := hbehind.2
      dsimp only at hmoved
      constructor
      · intro hsame
        omega
      · exact fun hnone => absurd hbehind hnone.1
    · rw [raise, if_neg hbehind, ih]
      exact (and_iff_right hbehind).symm

def SubmitInfo2.pairs (si : SubmitInfo2) : List (Nat × Nat) :=
  si.signals.map fun signal => (signal.semaphore, signal.value)

/-- The same of a submit; a missing value is zero. -/
def QueueSubmitRequest.pairs (req : QueueSubmitRequest) : List (Nat × Nat) :=
  req.signalSemaphores.zipIdx.map fun entry => (entry.1, req.signalValues.getD entry.2 0)

namespace Backend

def advanceAll (s : Backend) (signals : List (Nat × Nat)) : Backend :=
  signals.foldl (fun t signal => t.advanceTimeline signal.1 signal.2) s

variable (s : Backend) (signals : List (Nat × Nat)) (device : Nat)

theorem advanceAll_append (first second : List (Nat × Nat)) :
    s.advanceAll (first ++ second) = (s.advanceAll first).advanceAll second :=
  List.foldl_append

/-- Each leaf is raised by the signals it is named in. -/
theorem advanceAll_leaves (h : Nat) :
    (s.advanceAll signals).leaves[h]? = (s.leaves[h]?).map fun leaf =>
      ((signals.filter (·.1 = h)).map Prod.snd).foldl Leaf.raise leaf := by
  induction signals generalizing s with
  | nil => simp [advanceAll]
  | cons signal signals ih =>
    have hfirst : (s.advanceTimeline signal.1 signal.2).leaves[h]? =
        (s.leaves[h]?).map fun leaf => if signal.1 = h then leaf.raise signal.2 else leaf := by
      rw [advanceTimeline, modifyLeaf, Table.getElem?_modify_eq]
      split
      · rfl
      · exact Option.map_id'.symm
    rw [advanceAll, List.foldl_cons, ← advanceAll, ih, hfirst, Option.map_map]
    congr 1
    funext leaf
    by_cases hsame : signal.1 = h
    · simp [hsame]
    · simp [hsame]

theorem advanceAll_commandBuffers : (s.advanceAll signals).commandBuffers = s.commandBuffers := by
  induction signals generalizing s with
  | nil => rfl
  | cons signal signals ih => exact ih _

theorem advanceAll_fixed (h : Nat) :
    ((s.advanceAll signals).leaves[h]?).map Leaf.fixed = (s.leaves[h]?).map Leaf.fixed := by
  rw [advanceAll_leaves, Option.map_map]
  congr 1
  funext leaf
  exact leaf.fixed_raiseAll _

/-! ## Checks -/

/-- A check of a leaf reads nothing that signals change. -/
theorem findLeaf_congr {s t : Backend} {h : Nat} (kind : LeafKind) (device : Nat) (reason : String)
    (hfixed : (t.leaves[h]?).map Leaf.fixed = (s.leaves[h]?).map Leaf.fixed) :
    (do let _ ← t.findLeaf kind h device reason; .ok () : Except String Unit) =
      (do let _ ← s.findLeaf kind h device reason; .ok ()) := by
  unfold findLeaf findOn find
  cases ht : t.leaves[h]? with
  | none =>
    rw [ht, Option.map_none] at hfixed
    rw [Option.map_eq_none_iff.mp hfixed.symm]
  | some leaf =>
    rw [ht, Option.map_some] at hfixed
    obtain ⟨old, hold, hsame⟩ := Option.map_eq_some_iff.mp hfixed.symm
    obtain ⟨hdevice, hkind, -⟩ := Prod.mk.inj hsame |>.imp_right Prod.mk.inj
    rw [hold]
    by_cases hon : leaf.device = device
    · by_cases hright : leaf.kind = kind
      · simp [bind, Except.bind, rejectIf, hdevice, hkind, hon, hright, pure, Except.pure]
      · simp [bind, Except.bind, rejectIf, hdevice, hkind, hon, hright, pure, Except.pure]
    · simp [bind, Except.bind, rejectIf, hdevice, hon]

theorem checkWait_advanceAll (device h : Nat) :
    (s.advanceAll signals).checkWait device h = s.checkWait device h :=
  findLeaf_congr _ _ _ (s.advanceAll_fixed signals h)

theorem checkSignal_advanceAll (device h : Nat) :
    (s.advanceAll signals).checkSignal device h = s.checkSignal device h :=
  findLeaf_congr _ _ _ (s.advanceAll_fixed signals h)

theorem checkSubmittable_advanceAll :
    (s.advanceAll signals).checkSubmittable device = s.checkSubmittable device := by
  funext handle
  rw [checkSubmittable, checkSubmittable, advanceAll_commandBuffers]

theorem checkSubmitInfo2_advanceAll (si : SubmitInfo2) :
    (s.advanceAll signals).checkSubmitInfo2 device si = s.checkSubmitInfo2 device si := by
  simp only [checkSubmitInfo2, checkWait_advanceAll, checkSignal_advanceAll,
    checkSubmittable_advanceAll]

/-- The batches before the first that is refused are carried out. -/
theorem submitBatches_eq (submits : List SubmitInfo2) : (submitBatches device submits s).1 =
      s.advanceAll ((submits.takeWhile fun si => (s.checkSubmitInfo2 device si).isOk).flatMap
        SubmitInfo2.pairs) := by
  induction submits generalizing s with
  | nil => rfl
  | cons si submits ih =>
    unfold submitBatches
    cases hcheck : s.checkSubmitInfo2 device si with
    | error reason => simp [hcheck, Except.isOk, Except.toBool, advanceAll]
    | ok =>
      have hfirst : si.signals.foldl (fun t signal =>
          t.advanceTimeline signal.semaphore signal.value) s = s.advanceAll si.pairs := by
        rw [advanceAll, SubmitInfo2.pairs, List.foldl_map]
      dsimp only
      rw [hfirst, ih]
      simp only [checkSubmitInfo2_advanceAll]
      rw [← advanceAll_append]
      simp [hcheck, Except.isOk, Except.toBool]

/-- A submit that is refused for its fence changes nothing more. -/
theorem signalFence_refused {s : Backend} {device fence : Nat} {reason : String}
    (hrefused : (s.signalFence device fence).2 = .error reason) :
    (s.signalFence device fence).1 = s := by
  unfold signalFence at hrefused ⊢
  split
  next => rfl
  next hfence =>
      rw [if_neg hfence] at hrefused
      split
      next => rfl
      next leaf hleaf =>
          rw [hleaf] at hrefused
          cases hrefused

/-- The signals a submit has carried out by the time it is refused. -/
def carriedOut (s : Backend) : Op → List (Nat × Nat)
  | .queueSubmit req =>
    match s.checkQueueSubmit req with
    | .error _ => []
    | .ok _ => req.pairs
  | .queueSubmit2 req =>
    match s.checkQueueSubmit2 req.queue with
    | .error _ => []
    | .ok device =>
      (req.submits.takeWhile fun si => (s.checkSubmitInfo2 device si).isOk).flatMap
        SubmitInfo2.pairs
  | _ => []

theorem refused_queueSubmit {s : Backend} {req : QueueSubmitRequest} {reason : String}
    (hrefused : (s.queueSubmit req).2 = .error reason) :
    (s.queueSubmit req).1 = s.advanceAll (s.carriedOut (.queueSubmit req)) := by
  cases hcheck : s.checkQueueSubmit req with
  | error =>
    simp only [queueSubmit, carriedOut, hcheck]
    rfl
  | ok device =>
    simp only [queueSubmit, carriedOut, hcheck] at hrefused ⊢
    rw [signalFence_refused hrefused, advanceAll, QueueSubmitRequest.pairs, List.foldl_map]

theorem refused_queueSubmit2 {s : Backend} {req : QueueSubmit2Request} {reason : String}
    (hrefused : (s.queueSubmit2 req).2 = .error reason) :
    (s.queueSubmit2 req).1 = s.advanceAll (s.carriedOut (.queueSubmit2 req)) := by
  cases hcheck : s.checkQueueSubmit2 req.queue with
  | error =>
    simp only [queueSubmit2, carriedOut, hcheck]
    rfl
  | ok device =>
    simp only [queueSubmit2, carriedOut, hcheck] at hrefused ⊢
    rw [← submitBatches_eq]
    split
    next next reason' hbatches => rw [hbatches]
    next next hbatches =>
        rw [hbatches] at hrefused ⊢
        exact signalFence_refused hrefused

end Backend

def Op.IsSubmit : Op → Prop
  | .queueSubmit _ => True
  | .queueSubmit2 _ => True
  | _ => False

theorem refused_submit {s : Backend} {op : Op} {reason : String} (hsubmit : op.IsSubmit)
    (hrefused : (perform s op).2 = .error reason) :
    (perform s op).1 = s.advanceAll (s.carriedOut op) := by
  cases op <;> try exact hsubmit.elim
  case queueSubmit req => exact Backend.refused_queueSubmit hrefused
  case queueSubmit2 req => exact Backend.refused_queueSubmit2 hrefused

/-- A refused submit changes no command buffer and no fence. It changes no timeline exactly when
no signal that it had carried out was ahead of its timeline. -/
theorem refused_submit_atomic_iff {s : Backend} {op : Op} {reason : String}
    (hsubmit : op.IsSubmit) (hrefused : (perform s op).2 = .error reason) :
    ((perform s op).1.commandBuffers = s.commandBuffers ∧
      ∀ h : Nat, ((perform s op).1.leaves[h]?).map Leaf.isSignaled =
        (s.leaves[h]?).map Leaf.isSignaled) ∧
      ((∀ h : Nat, ((perform s op).1.leaves[h]?).map Leaf.timelineValue =
          (s.leaves[h]?).map Leaf.timelineValue) ↔
        ∀ signal ∈ s.carriedOut op, ∀ leaf, s.leaves[signal.1]? = some leaf →
          ¬(leaf.isTimeline ∧ leaf.timelineValue < signal.2)) := by
  rw [refused_submit hsubmit hrefused]
  refine ⟨⟨s.advanceAll_commandBuffers _, fun h => ?_⟩, ?_⟩
  · have hfixed := congrArg (Option.map fun f : Nat × LeafKind × Bool × Bool => f.2.2.2)
      (s.advanceAll_fixed (s.carriedOut op) h)
    rwa [Option.map_map, Option.map_map] at hfixed
  · simp only [Backend.advanceAll_leaves, Option.map_map]
    constructor
    · intro hsame signal hsignal leaf hleaf
      have hone := hsame signal.1
      rw [hleaf] at hone
      apply (leaf.raiseAll_timelineValue_iff _).mp (Option.some.inj hone)
      simp only [List.mem_map, List.mem_filter, decide_eq_true_eq]
      exact ⟨signal, ⟨hsignal, rfl⟩, rfl⟩
    · intro hnone h
      cases hleaf : s.leaves[h]? with
      | none => rfl
      | some leaf =>
        refine congrArg some ((leaf.raiseAll_timelineValue_iff _).mpr fun value hvalue => ?_)
        simp only [List.mem_map, List.mem_filter, decide_eq_true_eq] at hvalue
        obtain ⟨signal, ⟨hsignal, rfl⟩, rfl⟩ := hvalue
        exact hnone signal hsignal leaf hleaf

/-- A device with a timeline semaphore, which has the handle 7. -/
def withTimeline : Backend :=
  performAll {} (setUp {} ++ [.createSemaphore 3 1 0])

/-- A submit that signals the value the timeline has, with a fence that does not exist. -/
def signalsAgain : Op :=
  .queueSubmit { queue := 4, signalSemaphores := [7], signalValues := [0], fence := 99 }

theorem refused_submit_signals_again :
    (perform withTimeline signalsAgain).2 =
        .error "fence is not a fence on the submit queue's device" ∧
      withTimeline.carriedOut signalsAgain = [(7, 0)] ∧
      ∀ h : Nat, ((perform withTimeline signalsAgain).1.leaves[h]?).map Leaf.timelineValue =
        (withTimeline.leaves[h]?).map Leaf.timelineValue := by
  have hrefused : (perform withTimeline signalsAgain).2 =
      .error "fence is not a fence on the submit queue's device" := by
    decide
  have hcarried : withTimeline.carriedOut signalsAgain = [(7, 0)] := by decide
  have hsubmit : signalsAgain.IsSubmit := trivial
  refine ⟨hrefused, hcarried, (refused_submit_atomic_iff hsubmit hrefused).2.mpr ?_⟩
  rw [hcarried]
  intro signal hsignal leaf _
  obtain rfl := List.mem_singleton.mp hsignal
  exact fun hahead => Nat.not_lt_zero _ hahead.2

/-- A submit whose fence does not exist is refused, and has signalled its semaphore. -/
theorem refused_submit_signals_timeline :
    Reachable withTimeline ∧
      (perform withTimeline (.queueSubmit { queue := 4, signalSemaphores := [7]
                                            signalValues := [5], fence := 99 })).2 =
        .error "fence is not a fence on the submit queue's device" ∧
      (withTimeline.leaves[7]?).map Leaf.timelineValue = some 0 ∧
      ((perform withTimeline (.queueSubmit { queue := 4, signalSemaphores := [7]
                                             signalValues := [5], fence := 99 })).1.leaves[7]?).map
        Leaf.timelineValue = some 5 := by
  refine ⟨reachable_performAll _, ?_, ?_, ?_⟩
  · decide
  · decide
  · decide

end VkRelay.Session
