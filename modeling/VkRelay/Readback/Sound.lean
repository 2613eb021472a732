import VkRelay.Readback.Records

/-!
No readback is promoted before its batch is complete, in runs that use fences and
timelines in order. Each armed record only carries fences and values that prove
its batch (`Queues.FenceCovers`, `Queues.ValueCovers`), so the waits on them
promote completed work. Three uses break this. An idle wait promotes every
armed record and proves only its own device or queue. A call that is refused
after its first batch leaves records with a fence that was never submitted, and
the fence may then serve another queue. A timeline may be signaled out of
order. `InOrder` asks of each step that it is none of these.
-/

namespace VkRelay.Readback

open VkRelay.Lib
/-- Every proof that the record carries is one. -/
structure ReadbackSubmission.Sound (q : Queues (List Nat)) (record : ReadbackSubmission) :
    Prop where
  named : ∃ own, q.log[record.batch]? = some own ∧ own.queue = record.queue
  fences : ∀ fence ∈ record.fences,
    fence ≠ 0 ∧ q.FenceCovers record.queue record.batch fence
  signals : ∀ pair ∈ record.signals, q.ValueCovers record.queue record.batch pair

namespace ReadbackSubmission.Sound

variable {q next : Queues (List Nat)} {record : ReadbackSubmission} {b : Nat}

theorem batch_lt (hsound : record.Sound q) : record.batch < q.log.length := by
  obtain ⟨own, hlog, -⟩ := hsound.named
  exact (List.getElem?_eq_some_iff.mp hlog).1

theorem complete (hsound : record.Sound q) (hcomplete : q.complete b = some next) :
    record.Sound next := by
  obtain ⟨-, -, -, rfl⟩ := Queues.complete_some hcomplete
  exact ⟨hsound.named, fun fence hfence =>
    (hsound.fences fence hfence).imp_right fun hcovers => hcovers.complete b,
    fun pair hpair => (hsound.signals pair hpair).complete b⟩

theorem fire (hsound : record.Sound q) (hheld : q.WaitsHeld) (hfire : q.fire b = some next) :
    record.Sound next := by
  obtain ⟨own, hlog, hqueue⟩ := hsound.named
  obtain ⟨-, -, -, -, hnextLog, -⟩ := Queues.fire_some hfire
  constructor
  · exact ⟨own, by rw [hnextLog, hlog], hqueue⟩
  · intro fence hfence
    exact (hsound.fences fence hfence).imp_right fun hcovers => hcovers.fire hlog hqueue hfire
  · intro pair hpair
    exact (hsound.signals pair hpair).fire hlog hqueue hheld hfire

theorem resetFences (hsound : record.Sound q) (fences : List Nat) :
    record.Sound (q.resetFences fences) where
  named := hsound.named
  fences fence hfence :=
    (hsound.fences fence hfence).imp_right fun hcovers => hcovers.resetFences fences
  signals pair hpair := ⟨(hsound.signals pair hpair).done, (hsound.signals pair hpair).pending⟩

/-- A record stays sound under the submission that follows it. What it carried
must not be signaled too early by the submission, and what it gains must be
free until the submission signals it on the record's own queue. -/
theorem submit {old : ReadbackSubmission} (hsound : old.Sound q)
    {submission : Submission (List Nat)}
    (hqueue : record.queue = old.queue) (hbatch : record.batch = old.batch)
    (hfences : ∀ fence ∈ record.fences, fence ∈ old.fences ∨
      fence ≠ 0 ∧ q.FenceFree fence ∧ old.queue = submission.queue)
    (hsignals : ∀ pair ∈ record.signals, pair ∈ old.signals ∨
      q.ValueFree pair ∧ old.queue = submission.queue)
    (hfence : ∀ fence ∈ old.fences, submission.fence = fence →
      old.queue = submission.queue ∨ old.batch ∈ q.completed)
    (hvalue : ∀ pair ∈ old.signals, ∀ v, (pair.1, v) ∈ submission.signals →
      old.queue = submission.queue ∨ old.batch ∈ q.completed ∨
        ∃ x, (pair.1, x) ∈ submission.waits ∧ pair.2 ≤ x) :
    record.Sound (q.submit submission) := by
  have hlt := hsound.batch_lt
  obtain ⟨own, hown, hownQueue⟩ := hsound.named
  constructor
  · refine ⟨own, ?_, hownQueue.trans hqueue.symm⟩
    rw [Queues.getElem?_submit, hbatch, if_neg hlt.ne, hown]
  · intro fence hcarried
    rw [hqueue, hbatch]
    rcases hfences fence hcarried with hbefore | ⟨hne, hfree, hsame⟩
    · refine (hsound.fences fence hbefore).imp_right fun hcovers => hcovers.submit fun hcall => ?_
      rcases hfence fence hbefore hcall with hsame | hdone
      · exact .inr (.inl ⟨hsame.symm, hlt.le⟩)
      · exact .inl hdone
    · exact ⟨hne, (hfree.covers _ _).submit fun _ => .inr (.inl ⟨hsame.symm, hlt.le⟩)⟩
  · intro pair hcarried
    rw [hqueue, hbatch]
    rcases hsignals pair hcarried with hbefore | ⟨hfree, hsame⟩
    · refine (hsound.signals pair hbefore).submit fun ⟨v, hsignal, _⟩ => ?_
      rcases hvalue pair hbefore v hsignal with hsame | hdone | hwait
      · exact .inr (.inl ⟨hsame.symm, hlt.le⟩)
      · exact .inl hdone
      · exact .inr (.inr hwait)
    · exact (hfree.covers _ _).submit fun _ => .inr (.inl ⟨hsame.symm, hlt.le⟩)

theorem forget (hsound : record.Sound q) (memory : Nat) : (record.forget memory).Sound q :=
  ⟨hsound.named, hsound.fences, hsound.signals⟩

end ReadbackSubmission.Sound

/-- The call may take the fence to `queue`: nothing has signaled it or will, and
no unfinished batch of another queue is waiting for it. -/
def ReadbackState.FenceInOrder (s : ReadbackState) (queue fence : Nat) : Prop :=
  fence ≠ 0 → s.queues.FenceFree fence ∧
    ∀ record ∈ s.submitted, fence ∈ record.fences →
      record.queue = queue ∨ record.batch ∈ s.queues.completed

/-- The batch may signal its values on `queue`: they are the largest so far, and
where an unfinished batch of another queue is waiting for a smaller one, this
batch waits for that value too. -/
def ReadbackState.SignalsInOrder (s : ReadbackState) (queue : Nat) (si : SubmitInfo) : Prop :=
  ∀ pair ∈ si.timelineSignals, s.queues.ValueFree pair ∧
    ∀ record ∈ s.submitted, ∀ v, (pair.1, v) ∈ record.signals →
      record.queue = queue ∨ record.batch ∈ s.queues.completed ∨
        ∃ x, (pair.1, x) ∈ si.waits ∧ v ≤ x

def ReadbackState.BatchesInOrder (queue callFence : Nat) :
    List SubmitInfo → List Bool → ReadbackState → Prop
  | si :: rest, true :: verdicts, s =>
    s.SignalsInOrder queue si ∧
      BatchesInOrder queue callFence rest verdicts
        (s.submitBatch queue callFence rest.isEmpty si)
  | _, _, _ => True

/-- What a step must respect. Waits on fences and values are free; an idle wait
must find the armed batches of the other devices or queues complete. -/
def ReadbackState.InOrder (deviceOf : Nat → Nat) (s : ReadbackState) : ReadbackOp → Prop
  | .queueSubmit queue submits fence verdicts =>
    (verdicts.head? = some true → s.FenceInOrder queue fence) ∧
      BatchesInOrder queue fence submits verdicts s
  | .queueSubmit2 queue submits fence accepted =>
    accepted = true → s.FenceInOrder queue fence ∧
      BatchesInOrder queue fence submits (submits.map fun _ => true) s
  | .deviceWaitIdle device _ =>
    ∀ record ∈ s.submitted, deviceOf record.queue = device ∨ record.batch ∈ s.queues.completed
  | .queueWaitIdle queue _ =>
    ∀ record ∈ s.submitted, record.queue = queue ∨ record.batch ∈ s.queues.completed
  | _ => True

structure ReadbackState.Sound (s : ReadbackState) : Prop where
  waits : s.queues.WaitsHeld
  records : ∀ record ∈ s.submitted, record.Sound s.queues
  promoted : ∀ batch dsts, .promoted batch dsts ∈ s.history → batch ∈ s.queues.completed

namespace ReadbackState.Sound

variable {s next : ReadbackState}

theorem congr (hsound : s.Sound) (hqueues : next.queues = s.queues)
    (hrecords : ∀ record ∈ next.submitted, record ∈ s.submitted)
    (hhistory : ∀ batch dsts, .promoted batch dsts ∈ next.history →
      .promoted batch dsts ∈ s.history) : next.Sound where
  waits := hqueues ▸ hsound.waits
  records record hrecord := hqueues ▸ hsound.records record (hrecords record hrecord)
  promoted batch dsts hpromoted :=
    hqueues ▸ hsound.promoted batch dsts (hhistory batch dsts hpromoted)

/-- A step that touches neither the queues nor the records nor the history. -/
theorem same (hsound : s.Sound) (hqueues : next.queues = s.queues)
    (hsubmitted : next.submitted = s.submitted) (hhistory : next.history = s.history) :
    next.Sound :=
  hsound.congr hqueues (fun _ hrecord => hsubmitted ▸ hrecord)
    fun _ _ hpromoted => hhistory ▸ hpromoted

theorem deliverOne (hsound : s.Sound) (memory : Nat) (bytes : List UInt8) :
    (s.deliverOne memory bytes).Sound := by
  refine hsound.congr rfl (fun _ hrecord => hrecord) fun batch dsts hpromoted => ?_
  rcases List.mem_cons.mp hpromoted with hnow | hbefore
  · split at hnow <;> cases hnow
  · exact hbefore

theorem downloadReadback (hsound : s.Sound) (reply : Reading) :
    (s.downloadReadback reply).Sound :=
  downloadReadback_invariant
    (fun _ _ hs => hs.same rfl rfl rfl)
    (fun _ memory bytes hs => hs.deliverOne memory bytes) reply hsound

theorem promote (hsound : s.Sound) {proven : ReadbackSubmission → Bool}
    (hproven : ∀ record ∈ s.submitted, proven record = true →
      record.batch ∈ s.queues.completed) : (s.promote proven).Sound where
  waits := hsound.waits
  records record hrecord := hsound.records record (List.mem_of_mem_filter hrecord)
  promoted batch dsts hpromoted := by
    rcases List.mem_append.mp hpromoted with hnow | hbefore
    · obtain ⟨record, hrecord, heq⟩ := List.mem_map.mp hnow
      cases heq
      exact hproven record (List.mem_of_mem_filter hrecord) (List.mem_filter.mp hrecord).2
    · exact hsound.promoted batch dsts hbefore

/-- Promoting for each item of a list is sound when each of them proves what it selects. -/
theorem foldl_promote {α : Type} {proves : α → ReadbackSubmission → Bool} (items : List α)
    (hsound : s.Sound) (hproven : ∀ item ∈ items, ∀ record ∈ s.submitted,
      proves item record = true → record.batch ∈ s.queues.completed) :
    (items.foldl (fun mid item => mid.promote (proves item)) s).Sound := by
  induction items generalizing s with
  | nil => exact hsound
  | cons item rest ih =>
    obtain ⟨hitem, hrest⟩ := List.forall_mem_cons.mp hproven
    exact ih (hsound.promote hitem) fun later hlater record hrecord =>
      hrest later hlater record (List.mem_of_mem_filter hrecord)

theorem promoteFences (hsound : s.Sound) {fences : List Nat} {waitAll : Bool}
    (hproven : s.queues.fencesProven fences waitAll = true) :
    (s.promoteFences fences waitAll).Sound := by
  unfold ReadbackState.promoteFences
  split
  · next hall =>
      apply foldl_promote fences hsound
      intro fence hfence record hrecord hcarried
      exact ((hsound.records record hrecord).fences fence (of_decide_eq_true hcarried)).2.done
        (Queues.fencesProven_mem hproven hall hfence)
  · exact hsound

theorem promoteValues (hsound : s.Sound) {values : List (Nat × Nat)} {waitAny : Bool}
    (hproven : s.queues.valuesProven values waitAny = true) :
    (s.promoteValues values waitAny).Sound := by
  unfold ReadbackState.promoteValues
  split
  · next hall =>
      apply foldl_promote values hsound
      intro pair hpair record hrecord hcarried
      obtain ⟨signal, hsignal, heq⟩ := List.any_eq_true.mp hcarried
      obtain ⟨hsame, hle⟩ := of_decide_eq_true heq
      apply ((hsound.records record hrecord).signals signal hsignal).done
      rw [hsame]
      exact hle.trans (Queues.valuesProven_mem hproven hall hpair)
  · exact hsound

/-- An idle wait is sound when it covers every unfinished record. -/
theorem idle (hsound : s.Sound) {covers : Nat → Bool} (hidle : s.queues.idle covers = true)
    (hcovers : ∀ record ∈ s.submitted,
      covers record.queue = true ∨ record.batch ∈ s.queues.completed)
    (reply : Reading) : (s.promoteReadbacksAll.downloadReadback reply).Sound := by
  apply downloadReadback
  apply hsound.promote
  intro record hrecord _
  rcases hcovers record hrecord with hcovered | hdone
  · obtain ⟨own, hlog, hqueue⟩ := (hsound.records record hrecord).named
    exact Queues.mem_completed_of_allComplete hidle (hsound.records record hrecord).batch_lt hlog
      (hqueue ▸ hcovered)
  · exact hdone

theorem freeMemory (hsound : s.Sound) (memory : Nat) : (s.freeMemory memory).Sound where
  waits := hsound.waits
  records record hrecord := by
    obtain ⟨old, hold, rfl⟩ := List.mem_map.mp (List.mem_of_mem_filter hrecord)
    exact (hsound.records old hold).forget memory
  promoted batch dsts hpromoted := by
    apply hsound.promoted batch dsts
    simpa [ReadbackState.freeMemory] using hpromoted

section Submit

variable {queue callFence : Nat} {last : Bool} {si : SubmitInfo}

theorem cover_record (hsound : s.Sound) (hfence : s.FenceInOrder queue callFence)
    (hsignals : s.SignalsInOrder queue si) {old : ReadbackSubmission} (hold : old ∈ s.submitted) :
    (old.cover queue callFence last si.timelineSignals).Sound
      (s.submitBatch queue callFence last si).queues := by
  apply (hsound.records old hold).submit ReadbackSubmission.cover_queue
    ReadbackSubmission.cover_batch
  · intro fence hcarried
    rcases ReadbackSubmission.mem_cover_fences_iff.mp hcarried with
      hbefore | ⟨rfl, hne, -, hsame⟩
    · exact .inl hbefore
    · exact .inr ⟨hne, (hfence hne).1, hsame⟩
  · intro pair hcarried
    rcases ReadbackSubmission.mem_cover_signals_iff.mp hcarried with hbefore | ⟨hnew, hsame⟩
    · exact .inl hbefore
    · exact .inr ⟨(hsignals pair hnew).1, hsame⟩
  · intro fence hbefore hcall
    have hne := ((hsound.records old hold).fences fence hbefore).1
    cases last with
    | false => exact absurd hcall.symm hne
    | true =>
      cases (show callFence = fence from hcall)
      exact (hfence hne).2 old hold hbefore
  · intro pair hbefore v hsignal
    exact (hsignals _ hsignal).2 old hold pair.2 hbefore

/-- The record of the new batch is proven by nothing yet. -/
theorem new_record (hfence : s.FenceInOrder queue callFence)
    (hsignals : s.SignalsInOrder queue si) {record : ReadbackSubmission}
    (hrecord : record ∈ s.newRecord queue callFence si) :
    record.Sound (s.submitBatch queue callFence last si).queues := by
  unfold newRecord at hrecord
  split at hrecord
  · cases hrecord
  cases List.mem_singleton.mp hrecord
  constructor
  · exact ⟨_, (Queues.getElem?_submit ..).trans (if_pos rfl), rfl⟩
  · intro fence hcarried
    dsimp only at hcarried
    split at hcarried
    · next hne =>
        cases List.mem_singleton.mp hcarried
        exact ⟨hne, ((hfence hne).1.covers _ _).submit fun _ => .inr (.inl ⟨rfl, le_rfl⟩)⟩
    · cases hcarried
  · intro pair hcarried
    exact ((hsignals pair hcarried).1.covers _ _).submit fun _ => .inr (.inl ⟨rfl, le_rfl⟩)

theorem submitBatch (hsound : s.Sound) (hfence : s.FenceInOrder queue callFence)
    (hsignals : s.SignalsInOrder queue si) :
    (s.submitBatch queue callFence last si).Sound where
  waits := hsound.waits.submit _
  records record hrecord := by
    rcases List.mem_append.mp hrecord with hcovered | hnew
    · obtain ⟨old, hold, rfl⟩ := List.mem_map.mp hcovered
      exact hsound.cover_record hfence hsignals hold
    · exact new_record hfence hsignals hnew
  promoted batch dsts hpromoted := by
    apply hsound.promoted batch dsts
    simpa [ReadbackState.submitBatch] using hpromoted

/-- Until its last batch, a call's fence stays its own. -/
theorem fenceInOrder_submitBatch (hfence : s.FenceInOrder queue callFence) :
    (s.submitBatch queue callFence false si).FenceInOrder queue callFence := by
  intro hne
  obtain ⟨hfree, hcarriers⟩ := hfence hne
  refine ⟨hfree.submit hne.symm, fun record hrecord hcarried => ?_⟩
  rcases List.mem_append.mp hrecord with hcovered | hnew
  · obtain ⟨old, hold, rfl⟩ := List.mem_map.mp hcovered
    rw [ReadbackSubmission.cover_queue, ReadbackSubmission.cover_batch]
    rcases ReadbackSubmission.mem_cover_fences_iff.mp hcarried with hbefore | ⟨-, -, hlast, -⟩
    · exact hcarriers old hold hbefore
    · cases hlast
  · unfold newRecord at hnew
    split at hnew
    · cases hnew
    · cases List.mem_singleton.mp hnew
      exact .inl rfl

theorem submitBatches (hsound : s.Sound) {submits : List SubmitInfo} {verdicts : List Bool}
    (hfence : verdicts.head? = some true → s.FenceInOrder queue callFence)
    (hbatches : BatchesInOrder queue callFence submits verdicts s) :
    (s.submitBatches queue callFence submits verdicts).Sound := by
  induction submits generalizing verdicts s with
  | nil => exact hsound
  | cons si rest ih =>
    match verdicts with
    | [] => exact hsound
    | false :: _ => exact hsound
    | true :: verdicts =>
      obtain ⟨hsignals, hrest⟩ := hbatches
      have hnext : (s.submitBatch queue callFence rest.isEmpty si).Sound :=
        hsound.submitBatch (hfence rfl) hsignals
      cases rest with
      | nil => exact hnext
      | cons later rest =>
        exact ih hnext (fun _ => fenceInOrder_submitBatch (hfence rfl)) hrest

theorem submitFence (hsound : s.Sound) (hfence : s.FenceInOrder queue callFence)
    (hne : callFence ≠ 0) : (s.submitFence queue callFence).Sound where
  waits := hsound.waits.submit _
  records record hrecord := by
    obtain ⟨old, hold, rfl⟩ := List.mem_map.mp hrecord
    apply (hsound.records old hold).submit ReadbackSubmission.coverFence_queue
      ReadbackSubmission.coverFence_batch
    · intro fence hcarried
      rcases ReadbackSubmission.mem_coverFence_fences_iff.mp hcarried with
        hbefore | ⟨rfl, hsame⟩
      · exact .inl hbefore
      · exact .inr ⟨hne, (hfence hne).1, hsame⟩
    · intro pair hcarried
      rw [ReadbackSubmission.coverFence_signals] at hcarried
      exact .inl hcarried
    · intro fence hbefore hcall
      cases (show callFence = fence from hcall)
      exact (hfence hne).2 old hold hbefore
    · exact fun _ _ _ hsignal => nomatch hsignal
  promoted batch dsts hpromoted := by
    apply hsound.promoted batch dsts
    simpa [ReadbackState.submitFence] using hpromoted

end Submit

theorem step {deviceOf : Nat → Nat} {op : ReadbackOp} (hsound : s.Sound)
    (horder : s.InOrder deviceOf op) (hstep : s.step deviceOf op = some next) : next.Sound := by
  cases op with
  | beginCommandBuffer cb | resetCommandBuffer cb | freeCommandBuffer cb | createBuffer buffer
  | destroyBuffer buffer | host tracker =>
    cases hstep
    exact hsound.same rfl rfl rfl
  | bindBufferMemory buffer memory =>
    cases hstep
    split
    · exact hsound.same rfl rfl rfl
    · exact hsound
  | recordCopy cb dstBuffer =>
    cases hstep
    unfold ReadbackState.recordCopy
    split
    · exact hsound
    · split
      · exact hsound
      · exact hsound.same rfl rfl rfl
  | queueSubmit queue submits fence verdicts =>
    cases hstep
    unfold ReadbackState.queueSubmit
    split
    · split
      · next hfence => exact hsound.submitFence (horder.1 hfence.2) hfence.1
      · exact hsound
    · exact hsound.submitBatches horder.1 horder.2
  | queueSubmit2 queue submits fence accepted =>
    cases hstep
    unfold ReadbackState.queueSubmit2
    split
    · exact hsound
    · next hserved =>
        simp only [Bool.or_eq_true, Bool.not_eq_true', not_or, Bool.not_eq_false] at hserved
        obtain ⟨hfence, hbatches⟩ := horder hserved.2
        split
        · split
          · next hne => exact hsound.submitFence hfence hne
          · exact hsound
        · exact hsound.submitBatches (fun _ => hfence) hbatches
  | waitForFences fences waitAll reply =>
    obtain ⟨hproven, ⟨⟩⟩ := Option.ite_none_right_eq_some.mp hstep
    exact (hsound.promoteFences hproven).downloadReadback reply
  | waitSemaphores values waitAny reply =>
    obtain ⟨hproven, ⟨⟩⟩ := Option.ite_none_right_eq_some.mp hstep
    exact (hsound.promoteValues hproven).downloadReadback reply
  | deviceWaitIdle device reply | queueWaitIdle queue reply =>
    obtain ⟨hidle, ⟨⟩⟩ := Option.ite_none_right_eq_some.mp hstep
    exact hsound.idle hidle (fun record hrecord => by simpa using horder record hrecord) reply
  | resetFences fences =>
    cases hstep
    exact ⟨hsound.waits, fun record hrecord => (hsound.records record hrecord).resetFences fences,
      hsound.promoted⟩
  | freeMemory memory =>
    cases hstep
    exact hsound.freeMemory memory
  | mapMemory memory offset size reply =>
    simp only [ReadbackState.step] at hstep
    split at hstep
    · cases hstep
      exact hsound
    · next tracker _ =>
        cases hstep
        have hmapped : { s with tracker := tracker }.Sound :=
          hsound.same rfl rfl rfl
        exact hmapped.downloadReadback reply
  | complete batch =>
    obtain ⟨queues, hcomplete, rfl⟩ := Option.map_eq_some_iff.mp hstep
    obtain ⟨-, -, -, hqueues⟩ := Queues.complete_some hcomplete
    refine ⟨hsound.waits.complete hcomplete,
      fun record hrecord => (hsound.records record hrecord).complete hcomplete,
      fun b dsts hpromoted => ?_⟩
    rw [hqueues]
    exact Finset.mem_insert_of_mem (hsound.promoted b dsts hpromoted)
  | fire batch =>
    obtain ⟨queues, hfire, rfl⟩ := Option.map_eq_some_iff.mp hstep
    obtain ⟨-, -, -, -, -, hcompleted, -⟩ := Queues.fire_some hfire
    refine ⟨hsound.waits.fire hfire,
      fun record hrecord => (hsound.records record hrecord).fire hsound.waits hfire,
      fun b dsts hpromoted => ?_⟩
    rw [hcompleted]
    exact hsound.promoted b dsts hpromoted

theorem start (signaled : Finset Nat) (counter : Nat → Nat) :
    (ReadbackState.start signaled counter).Sound where
  waits := fun _ hb => nomatch hb
  records := fun _ hrecord => nomatch hrecord
  promoted := fun _ _ hpromoted => nomatch hpromoted

end ReadbackState.Sound

namespace ReadbackState

/-- In every run whose steps are in order, over any devices and queues, a record
has been promoted only when the worker completed its batch. -/
theorem promoted_batches_complete (deviceOf : Nat → Nat) (signaled : Finset Nat)
    (counter : Nat → Nat) (ops : List ReadbackOp) {last : ReadbackState}
    (horder : Along (step deviceOf) (InOrder deviceOf) (start signaled counter) ops)
    (hrun : run (step deviceOf) (start signaled counter) ops = some last) :
    ∀ batch dsts, .promoted batch dsts ∈ last.history → batch ∈ last.queues.completed :=
  (run_invariant_along (P := Sound) (fun _ _ _ hsound hop hstep => hsound.step hop hstep)
    (Sound.start signaled counter) horder hrun).promoted

def waited : List ReadbackOp :=
  recorded ++
    [.queueSubmit 1 [{ commandBuffers := [5] }] 7 [true], .complete 0, .fire 0,
      .waitForFences [7] true {}]

/-- One batch, waited for with its own fence. -/
theorem promoted_batches_complete_waited :
    ∃ last, run (step id) (start ∅ fun _ => 0) waited = some last ∧
      .promoted 0 [20] ∈ last.history ∧ 0 ∈ last.queues.completed := by
  have hfence : ∀ s : ReadbackState, s.queues = {} → s.submitted = [] → s.FenceInOrder 1 7 := by
    intro s hqueues hsubmitted _
    simp [Queues.FenceFree, hqueues, hsubmitted]
  have hsignals : ∀ s : ReadbackState, s.SignalsInOrder 1 { commandBuffers := [5] } := by
    simp [SignalsInOrder, SubmitInfo.timelineSignals]
  refine ⟨_, rfl, by decide,
    promoted_batches_complete id ∅ (fun _ => 0) waited ?_ rfl 0 [20] (by decide)⟩
  apply Along.cons trivial rfl
  apply Along.cons trivial rfl
  apply Along.cons trivial rfl
  apply Along.cons trivial rfl
  apply Along.cons ⟨fun _ => hfence _ rfl rfl, hsignals _, trivial⟩ rfl
  apply Along.cons trivial rfl
  apply Along.cons trivial rfl
  exact Along.cons trivial rfl trivial

/-- The idle wait of device 2 promotes a batch of device 1 that still runs, and so
does the idle wait of another queue of one device. -/
theorem idle_wait_promotes_other_queue :
    (∃ last, run (step id) (start ∅ fun _ => 0) (recorded ++
        [.queueSubmit 1 [{ commandBuffers := [5] }] 0 [true], .deviceWaitIdle 2 {}]) =
      some last ∧ .promoted 0 [20] ∈ last.history ∧ 0 ∉ last.queues.completed) ∧
    ∃ last, run (step fun _ => 1) (start ∅ fun _ => 0) (recorded ++
        [.queueSubmit 1 [{ commandBuffers := [5] }] 0 [true], .queueWaitIdle 2 {}]) =
      some last ∧ .promoted 0 [20] ∈ last.history ∧ 0 ∉ last.queues.completed :=
  ⟨⟨_, rfl, by decide, by decide⟩, ⟨_, rfl, by decide, by decide⟩⟩

-- The second batch of the call is refused, so fence 7 reaches the worker with the
-- next call, on another queue. The record of the first batch carries it already.
example : ∃ last, run (step fun _ => 1) (start ∅ fun _ => 0) (recorded ++
      [.queueSubmit 1 [{ commandBuffers := [5] }, {}] 7 [true, false],
        .queueSubmit 2 [] 7 [true], .complete 1, .fire 1, .waitForFences [7] true {}]) =
    some last ∧ .promoted 0 [20] ∈ last.history ∧ 0 ∉ last.queues.completed :=
  ⟨_, rfl, by decide, by decide⟩

end ReadbackState

end VkRelay.Readback
