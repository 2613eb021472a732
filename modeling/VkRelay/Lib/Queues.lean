import Mathlib

/-!
Work on queues, and what its signals prove. Submissions are logged in the order
in which they are accepted and are named by their position. The work of one
may complete at any time after its waits are met; its fence and its timeline
signals fire only behind all earlier work of the same queue. Counters never
decrease. A wait reads the fences and the counters, an idle wait the completed
work of the queues it covers.
-/

namespace VkRelay.Lib

/-- One accepted submission. A fence of zero is none. -/
structure Submission (ω : Type*) where
  queue : Nat
  waits : List (Nat × Nat) := []
  signals : List (Nat × Nat) := []
  fence : Nat := 0
  work : ω

structure Queues (ω : Type*) where
  log : List (Submission ω) := []
  completed : Finset Nat := ∅
  fired : Finset Nat := ∅
  signaled : Finset Nat := ∅
  counter : Nat → Nat := fun _ => 0

def signalAll (signals : List (Nat × Nat)) (counter : Nat → Nat) : Nat → Nat :=
  signals.foldl (fun c signal => Function.update c signal.1 (max (c signal.1) signal.2)) counter

theorem le_signalAll_iff (signals : List (Nat × Nat)) (counter : Nat → Nat)
    (semaphore value : Nat) :
    value ≤ signalAll signals counter semaphore ↔
      value ≤ counter semaphore ∨ ∃ v, (semaphore, v) ∈ signals ∧ value ≤ v := by
  induction signals generalizing counter with
  | nil => simp [signalAll]
  | cons signal rest ih =>
    rw [show signalAll (signal :: rest) counter = signalAll rest
      (Function.update counter signal.1 (max (counter signal.1) signal.2)) from rfl, ih]
    obtain ⟨other, v⟩ := signal
    by_cases hsame : semaphore = other
    · subst hsame
      simp [or_assoc]
    · simp [hsame]

namespace Queues

variable {ω : Type*}

def submit (q : Queues ω) (submission : Submission ω) : Queues ω :=
  { q with log := q.log ++ [submission] }

def waitsMet (q : Queues ω) (submission : Submission ω) : Bool :=
  submission.waits.all fun wait => decide (wait.2 ≤ q.counter wait.1)

def complete (q : Queues ω) (b : Nat) : Option (Queues ω) :=
  match q.log[b]? with
  | none => none
  | some submission =>
    if q.waitsMet submission then some { q with completed := insert b q.completed } else none

/-- Everything on the queues that `covers` selects, up to position `b`, is complete. -/
def allComplete (q : Queues ω) (covers : Nat → Bool) (b : Nat) : Bool :=
  (List.range b).all fun c =>
    !(q.log[c]?.any fun submission => covers submission.queue) || decide (c ∈ q.completed)

/-- The fence and the timeline signals of submission `b` fire, once. -/
def fire (q : Queues ω) (b : Nat) : Option (Queues ω) :=
  match q.log[b]? with
  | none => none
  | some submission =>
    if b ∉ q.fired ∧ q.allComplete (fun queue => decide (queue = submission.queue)) (b + 1) then
      some { q with
        fired := insert b q.fired
        signaled := if submission.fence = 0 then q.signaled
          else insert submission.fence q.signaled
        counter := signalAll submission.signals q.counter }
    else none

def resetFences (q : Queues ω) (fences : List Nat) : Queues ω :=
  { q with signaled := q.signaled.filter fun fence => fence ∉ fences }

def fencesProven (q : Queues ω) (fences : List Nat) (waitAll : Bool) : Bool :=
  if waitAll then fences.all fun fence => decide (fence ∈ q.signaled)
  else fences.any fun fence => decide (fence ∈ q.signaled)

def valuesProven (q : Queues ω) (values : List (Nat × Nat)) (waitAny : Bool) : Bool :=
  if waitAny then values.any fun pair => decide (pair.2 ≤ q.counter pair.1)
  else values.all fun pair => decide (pair.2 ≤ q.counter pair.1)

def idle (q : Queues ω) (covers : Nat → Bool) : Bool :=
  q.allComplete covers q.log.length

/-- The completed work had its waits met. -/
def WaitsHeld (q : Queues ω) : Prop :=
  ∀ b ∈ q.completed, ∃ submission, q.log[b]? = some submission ∧ q.waitsMet submission = true

section Facts

variable {q next : Queues ω} {b : Nat}

theorem mem_completed_of_allComplete {covers : Nat → Bool} (hall : q.allComplete covers b)
    {c : Nat} (hc : c < b) {submission : Submission ω} (hlog : q.log[c]? = some submission)
    (hcovers : covers submission.queue = true) : c ∈ q.completed := by
  simp only [allComplete, List.all_eq_true, List.mem_range] at hall
  simpa [hlog, hcovers] using hall c hc

theorem getElem?_submit (q : Queues ω) (submission : Submission ω) (i : Nat) :
    (q.submit submission).log[i]? = if i = q.log.length then some submission else q.log[i]? := by
  rcases Nat.lt_trichotomy i q.log.length with hlt | heq | hgt
  · simp [submit, List.getElem?_append_left hlt, hlt.ne]
  · simp [submit, heq]
  · simp [submit, hgt.ne', List.getElem?_eq_none hgt.le, hgt]

theorem complete_some (hcomplete : q.complete b = some next) :
    ∃ submission, q.log[b]? = some submission ∧ q.waitsMet submission = true ∧
      next = { q with completed := insert b q.completed } := by
  unfold complete at hcomplete
  split at hcomplete
  · cases hcomplete
  · next submission hlog =>
      split at hcomplete
      · next hmet =>
          cases hcomplete
          exact ⟨submission, hlog, hmet, rfl⟩
      · cases hcomplete

/-- What fires sets its own signals, behind the earlier work of its queue. -/
theorem fire_some (hfire : q.fire b = some next) :
    ∃ submission, q.log[b]? = some submission ∧ b ∉ q.fired ∧
      (∀ c ≤ b, ∀ earlier, q.log[c]? = some earlier → earlier.queue = submission.queue →
        c ∈ q.completed) ∧
      next.log = q.log ∧ next.completed = q.completed ∧ next.fired = insert b q.fired ∧
      next.counter = signalAll submission.signals q.counter ∧
      ∀ fence, fence ∈ next.signaled ↔
        fence ∈ q.signaled ∨ fence = submission.fence ∧ fence ≠ 0 := by
  unfold fire at hfire
  split at hfire
  · cases hfire
  · next submission hlog =>
      split at hfire
      · next hall =>
          cases hfire
          refine ⟨submission, hlog, hall.1, ?_, rfl, rfl, rfl, rfl, ?_⟩
          · intro c hc earlier hearlier hqueue
            exact mem_completed_of_allComplete hall.2 (Nat.lt_succ_of_le hc) hearlier
              (by simpa using hqueue)
          · intro fence
            by_cases hfence : submission.fence = 0
            · simp [hfence]
            · simp only [hfence, if_false, Finset.mem_insert]
              constructor
              · rintro (rfl | hold)
                · exact .inr ⟨rfl, hfence⟩
                · exact .inl hold
              · rintro (hold | ⟨rfl, -⟩)
                · exact .inr hold
                · exact .inl rfl
      · cases hfire

theorem fencesProven_mem {fences : List Nat} {waitAll : Bool}
    (hproven : q.fencesProven fences waitAll = true)
    (hall : waitAll = true ∨ fences.length = 1) {fence : Nat} (hfence : fence ∈ fences) :
    fence ∈ q.signaled := by
  unfold fencesProven at hproven
  rcases hall with rfl | hone
  · simp only [if_true, List.all_eq_true, decide_eq_true_eq] at hproven
    exact hproven fence hfence
  · obtain ⟨only, rfl⟩ := List.length_eq_one_iff.mp hone
    cases List.mem_singleton.mp hfence
    simpa using hproven

theorem valuesProven_mem {values : List (Nat × Nat)} {waitAny : Bool}
    (hproven : q.valuesProven values waitAny = true)
    (hall : waitAny = false ∨ values.length = 1) {pair : Nat × Nat} (hpair : pair ∈ values) :
    pair.2 ≤ q.counter pair.1 := by
  unfold valuesProven at hproven
  rcases hall with rfl | hone
  · simp only [Bool.false_eq_true, if_false, List.all_eq_true, decide_eq_true_eq] at hproven
    exact hproven pair hpair
  · obtain ⟨only, rfl⟩ := List.length_eq_one_iff.mp hone
    cases List.mem_singleton.mp hpair
    simpa using hproven

end Facts

/-- A signal proves submission `batch` of `queue`: it is not seen before that work is complete,
and it will not be by what is still to fire. What carries it comes behind the work on its queue,
or waits for the signal itself. -/
structure Covers (q : Queues ω) (queue batch : Nat) (seen : Prop)
    (carries waits : Submission ω → Prop) : Prop where
  done : seen → batch ∈ q.completed
  pending : ∀ (i : Nat) (submission : Submission ω), q.log[i]? = some submission → i ∉ q.fired →
    carries submission →
      batch ∈ q.completed ∨ submission.queue = queue ∧ batch ≤ i ∨ waits submission

/-- The fence proves the submission; no submission waits for a fence. -/
def FenceCovers (q : Queues ω) (queue batch fence : Nat) : Prop :=
  q.Covers queue batch (fence ∈ q.signaled) (fun submission => submission.fence = fence)
    fun _ => False

/-- The timeline value, or a larger one, proves the submission. -/
def ValueCovers (q : Queues ω) (queue batch : Nat) (pair : Nat × Nat) : Prop :=
  q.Covers queue batch (pair.2 ≤ q.counter pair.1)
    (fun submission => ∃ v, (pair.1, v) ∈ submission.signals ∧ pair.2 ≤ v)
    fun submission => ∃ x, (pair.1, x) ∈ submission.waits ∧ pair.2 ≤ x

/-- The fence is neither signaled nor about to be. -/
def FenceFree (q : Queues ω) (fence : Nat) : Prop :=
  fence ∉ q.signaled ∧
    ∀ (i : Nat) (submission : Submission ω), q.log[i]? = some submission →
      submission.fence = fence → i ∈ q.fired

/-- The value is larger than every value of its semaphore so far. -/
def ValueFree (q : Queues ω) (pair : Nat × Nat) : Prop :=
  q.counter pair.1 < pair.2 ∧
    ∀ submission ∈ q.log, ∀ v, (pair.1, v) ∈ submission.signals → v < pair.2

section Covers

variable {q next : Queues ω} {queue batch fence b : Nat} {pair : Nat × Nat} {seen : Prop}
  {carries waits : Submission ω → Prop}

theorem FenceFree.covers (hfree : q.FenceFree fence) (queue batch : Nat) :
    q.FenceCovers queue batch fence :=
  ⟨fun hsignaled => absurd hsignaled hfree.1,
    fun i submission hlog hfired hfence => absurd (hfree.2 i submission hlog hfence) hfired⟩

theorem ValueFree.covers (hfree : q.ValueFree pair) (queue batch : Nat) :
    q.ValueCovers queue batch pair := by
  constructor
  · intro hreached
    exact absurd hfree.1 (Nat.not_lt.mpr hreached)
  · rintro i submission hlog - ⟨v, hsignal, hle⟩
    exact absurd (hfree.2 submission (List.mem_of_getElem? hlog) v hsignal) (Nat.not_lt.mpr hle)

/-- A submission that does not carry the fence leaves it free. -/
theorem FenceFree.submit (hfree : q.FenceFree fence) {submission : Submission ω}
    (hother : submission.fence ≠ fence) : (q.submit submission).FenceFree fence := by
  refine ⟨hfree.1, fun i found hlog hfence => ?_⟩
  rw [getElem?_submit] at hlog
  split at hlog
  · cases hlog
    exact absurd hfence hother
  · exact hfree.2 i found hlog hfence

theorem Covers.complete (hcovers : q.Covers queue batch seen carries waits) (b : Nat) :
    Covers { q with completed := insert b q.completed } queue batch seen carries waits where
  done hseen := Finset.mem_insert_of_mem (hcovers.done hseen)
  pending i submission hlog hfired hcarries :=
    (hcovers.pending i submission hlog hfired hcarries).imp_left Finset.mem_insert_of_mem

theorem FenceCovers.resetFences (hcovers : q.FenceCovers queue batch fence) (fences : List Nat) :
    (q.resetFences fences).FenceCovers queue batch fence :=
  ⟨fun hsignaled => hcovers.done (Finset.mem_of_mem_filter _ hsignaled), hcovers.pending⟩

/-- Firing keeps what the signal proves. A new one is behind the work, or waited for the signal,
so that the work was already proven. -/
theorem Covers.fire (hcovers : q.Covers queue batch seen carries waits) {own : Submission ω}
    (hown : q.log[batch]? = some own) (hqueue : own.queue = queue) (hfire : q.fire b = some next)
    {later : Prop}
    (hlater : ∀ submission, q.log[b]? = some submission → later → seen ∨ carries submission)
    (hwaited : ∀ submission, q.log[b]? = some submission → b ∈ q.completed → waits submission →
      seen) : next.Covers queue batch later carries waits := by
  obtain ⟨submission, hlog, hnew, hearlier, hnextLog, hnextCompleted, hnextFired, -⟩ :=
    fire_some hfire
  constructor
  · intro hin
    rw [hnextCompleted]
    rcases hlater submission hlog hin with hold | hcarries
    · exact hcovers.done hold
    · rcases hcovers.pending b submission hlog hnew hcarries with hdone | ⟨hsame, hle⟩ | hwaits
      · exact hdone
      · exact hearlier batch hle own hown (hqueue.trans hsame.symm)
      · exact hcovers.done (hwaited submission hlog (hearlier b le_rfl submission hlog rfl) hwaits)
  · rw [hnextLog, hnextCompleted, hnextFired]
    intro i pending hpending hfired
    exact hcovers.pending i pending hpending fun hold => hfired (Finset.mem_insert_of_mem hold)

theorem FenceCovers.fire (hcovers : q.FenceCovers queue batch fence) {own : Submission ω}
    (hown : q.log[batch]? = some own) (hqueue : own.queue = queue)
    (hfire : q.fire b = some next) : next.FenceCovers queue batch fence := by
  refine Covers.fire hcovers hown hqueue hfire (fun submission hlog hin => ?_)
    fun _ _ _ => False.elim
  obtain ⟨found, hfound, -, -, -, -, -, -, hsignaled⟩ := fire_some hfire
  cases hlog.symm.trans hfound
  exact ((hsignaled fence).mp hin).imp_right fun hnow => hnow.1.symm

theorem ValueCovers.fire (hcovers : q.ValueCovers queue batch pair) {own : Submission ω}
    (hown : q.log[batch]? = some own) (hqueue : own.queue = queue) (hheld : q.WaitsHeld)
    (hfire : q.fire b = some next) : next.ValueCovers queue batch pair := by
  refine Covers.fire hcovers hown hqueue hfire (fun submission hlog hreached => ?_) ?_
  · obtain ⟨found, hfound, -, -, -, -, -, hcounter, -⟩ := fire_some hfire
    cases hlog.symm.trans hfound
    rwa [hcounter, le_signalAll_iff] at hreached
  · rintro submission hlog hdone ⟨x, hwait, hx⟩
    obtain ⟨found, hfound, hmet⟩ := hheld b hdone
    cases hlog.symm.trans hfound
    simp only [waitsMet, List.all_eq_true, decide_eq_true_eq] at hmet
    exact hx.trans (hmet _ hwait)

theorem Covers.submit (hcovers : q.Covers queue batch seen carries waits)
    {submission : Submission ω} (hnew : carries submission → batch ∈ q.completed ∨
      submission.queue = queue ∧ batch ≤ q.log.length ∨ waits submission) :
    (q.submit submission).Covers queue batch seen carries waits := by
  refine ⟨hcovers.done, fun i found hlog hfired hcarries => ?_⟩
  rw [getElem?_submit] at hlog
  split at hlog
  · next hi =>
      cases hlog
      rw [hi]
      exact hnew hcarries
  · exact hcovers.pending i found hlog hfired hcarries

theorem WaitsHeld.submit (hheld : q.WaitsHeld) (submission : Submission ω) :
    (q.submit submission).WaitsHeld := by
  intro b hb
  obtain ⟨found, hlog, hmet⟩ := hheld b hb
  have hlt : b < q.log.length := (List.getElem?_eq_some_iff.mp hlog).1
  exact ⟨found, by rw [getElem?_submit, if_neg hlt.ne, hlog], hmet⟩

theorem WaitsHeld.complete (hheld : q.WaitsHeld) (hcomplete : q.complete b = some next) :
    next.WaitsHeld := by
  obtain ⟨submission, hlog, hmet, rfl⟩ := complete_some hcomplete
  intro c hc
  rcases Finset.mem_insert.mp hc with rfl | hold
  · exact ⟨submission, hlog, hmet⟩
  · exact hheld c hold

theorem WaitsHeld.fire (hheld : q.WaitsHeld) (hfire : q.fire b = some next) : next.WaitsHeld := by
  obtain ⟨submission, -, -, -, hlog, hcompleted, -, hcounter, -⟩ := fire_some hfire
  intro c hc
  rw [hcompleted] at hc
  obtain ⟨found, hfound, hmet⟩ := hheld c hc
  refine ⟨found, by rw [hlog, hfound], ?_⟩
  simp only [waitsMet, List.all_eq_true, decide_eq_true_eq] at hmet ⊢
  intro wait hwait
  rw [hcounter, le_signalAll_iff]
  exact .inl (hmet wait hwait)

end Covers

end Queues

end VkRelay.Lib
