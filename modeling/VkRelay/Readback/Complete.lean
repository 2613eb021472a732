import VkRelay.Readback.Records

/-!
No readback is lost but by a store, and a proven one is no longer armed. `fate`
reads off the history what has become of one destination of one batch; the
invariant `Tracked` says that the program's own state agrees with it. An armed
record carries the fence and the timeline values of every submission of its queue
from its own batch on, so a wait that proves one of them leaves none of the earlier
batches armed. Nothing is assumed about refused batches, the order of values or the
reuse of fences. A store that lands in a listed memory while the read request is out
makes the tracker ignore the bytes of the reply, and the memory leaves READY all the
same; `Quiet` asks of each step that this does not happen.
-/

namespace VkRelay.Readback

open VkRelay.Lib
open VkRelay.Memory

/-- What has become of one destination of one batch. -/
inductive Fate where
  | unsubmitted
  | armed
  | ready
  | delivered
  | dropped
  | freed
deriving DecidableEq

/-- The fate of `memory` as a destination of `batch`, newest event first. A delivery
only counts after the batch was promoted. -/
def fate (batch memory : Nat) : List Event → Fate
  | [] => .unsubmitted
  | .submitted b :: earlier => if b = batch then .armed else fate batch memory earlier
  | .promoted b dsts :: earlier =>
    if fate batch memory earlier = .armed ∧ b = batch ∧ memory ∈ dsts then .ready
    else fate batch memory earlier
  | .delivered m :: earlier =>
    if fate batch memory earlier = .ready ∧ m = memory then .delivered
    else fate batch memory earlier
  | .dropped m :: earlier =>
    if fate batch memory earlier = .ready ∧ m = memory then .dropped
    else fate batch memory earlier
  | .freed m :: earlier =>
    if (fate batch memory earlier = .armed ∨ fate batch memory earlier = .ready) ∧ m = memory
    then .freed
    else fate batch memory earlier

theorem fate_promoted (batch memory : Nat) (records : List ReadbackSubmission)
    (history : List Event) :
    fate batch memory
        (records.map (fun record => .promoted record.batch record.dsts) ++ history) =
      if fate batch memory history = .armed ∧
          ∃ record ∈ records, record.batch = batch ∧ memory ∈ record.dsts then .ready
      else fate batch memory history := by
  induction records with
  | nil => simp
  | cons record rest ih =>
    rw [List.map_cons, List.cons_append, fate, ih]
    by_cases harmed : fate batch memory history = .armed
    · by_cases hrest : ∃ later ∈ rest, later.batch = batch ∧ memory ∈ later.dsts
      · simp [harmed, hrest]
      · simp [harmed, hrest]
    · simp [harmed]

/-- The record carries every proof that its queue has submitted since its batch. -/
def ReadbackSubmission.Carries (q : Queues (List Nat))
    (record : ReadbackSubmission) : Prop :=
  ∀ (i : Nat) (submission : Submission (List Nat)), q.log[i]? = some submission →
    record.batch ≤ i → submission.queue = record.queue →
      (submission.fence ≠ 0 → submission.fence ∈ record.fences) ∧
        ∀ pair ∈ submission.signals, pair ∈ record.signals

namespace ReadbackState

/-- `memory` is a destination of the accepted batch. -/
def Writes (s : ReadbackState) (batch memory : Nat) : Prop :=
  ∃ submission, s.queues.log[batch]? = some submission ∧ memory ∈ submission.work

/-- READY, or already delivered, or freed. -/
def Settled (s : ReadbackState) (batch memory : Nat) : Prop :=
  fate batch memory s.history = .ready ∧ memory ∈ s.ready ∨
    fate batch memory s.history = .delivered ∨ fate batch memory s.history = .freed

def Tracked (s : ReadbackState) (batch memory : Nat) : Prop :=
  (fate batch memory s.history = .armed ∧
    ∃ record ∈ s.submitted, record.batch = batch ∧ memory ∈ record.dsts) ∨
  s.Settled batch memory

/-- The first batch was submitted on the queue of the second one, no later. -/
def NoLater (s : ReadbackState) (first second : Nat) : Prop :=
  first ≤ second ∧ ∃ earlier later, s.queues.log[first]? = some earlier ∧
    s.queues.log[second]? = some later ∧ earlier.queue = later.queue

/-- No destination is lost, and every armed record carries its proofs. -/
structure Complete (s : ReadbackState) : Prop where
  named : ∀ record ∈ s.submitted,
    ∃ own, s.queues.log[record.batch]? = some own ∧ own.queue = record.queue
  carries : ∀ record ∈ s.submitted, record.Carries s.queues
  tracked : ∀ batch memory, s.Writes batch memory → s.Tracked batch memory

section Tracked

variable {s : ReadbackState} {batch memory : Nat}

theorem Tracked.promote (htracked : s.Tracked batch memory)
    (proven : ReadbackSubmission → Bool) : (s.promote proven).Tracked batch memory := by
  have hready : ∀ m ∈ s.ready, m ∈ (s.promote proven).ready := by
    intro m hm
    simp [ReadbackState.promote, hm]
  unfold Tracked Settled
  rw [show (s.promote proven).history = (s.submitted.filter proven).map
      (fun record => .promoted record.batch record.dsts) ++ s.history from rfl, fate_promoted]
  rcases htracked with ⟨harmed, record, hrecord, hbatch, hdst⟩ | ⟨hfate, hin⟩ | hfate | hfate
  · by_cases hpromoted : ∃ record ∈ s.submitted.filter proven,
        record.batch = batch ∧ memory ∈ record.dsts
    · rw [if_pos ⟨harmed, hpromoted⟩]
      obtain ⟨found, hfound, -, hdst⟩ := hpromoted
      refine .inr (.inl ⟨rfl, ?_⟩)
      simp only [ReadbackState.promote, Std.ExtTreeSet.mem_insertMany_list, List.contains_iff_mem,
        List.mem_flatMap]
      exact .inr ⟨found, hfound, hdst⟩
    · rw [if_neg fun hboth => hpromoted hboth.2]
      refine .inl ⟨harmed, record, List.mem_filter.mpr ⟨hrecord, ?_⟩, hbatch, hdst⟩
      by_contra hproven
      simp only [Bool.not_eq_true', Bool.not_eq_false] at hproven
      exact hpromoted ⟨record, List.mem_filter.mpr ⟨hrecord, hproven⟩, hbatch, hdst⟩
  all_goals simp [hfate]
  exact hready memory hin

theorem Tracked.deliverOne (htracked : s.Tracked batch memory) {m : Nat} {bytes : List UInt8}
    (htakes : s.tracker.takesReadback m bytes = true) :
    (s.deliverOne m bytes).Tracked batch memory := by
  unfold Tracked Settled
  rw [show (s.deliverOne m bytes).history = .delivered m :: s.history by
    simp [ReadbackState.deliverOne, htakes], fate]
  rcases htracked with ⟨harmed, hrecord⟩ | ⟨hfate, hin⟩ | hfate | hfate
  · simpa [harmed, ReadbackState.deliverOne] using hrecord
  · by_cases hm : m = memory
    · simp [hfate, hm]
    · simpa [hfate, hm, ReadbackState.deliverOne] using hin
  all_goals simp [hfate]

theorem Tracked.freeMemory (htracked : s.Tracked batch memory) (m : Nat) :
    (s.freeMemory m).Tracked batch memory := by
  unfold Tracked Settled
  rw [show (s.freeMemory m).history = .freed m :: s.history from rfl, fate]
  rcases htracked with ⟨harmed, record, hrecord, hbatch, hdst⟩ | ⟨hfate, hin⟩ | hfate | hfate
  · by_cases hm : m = memory
    · simp [harmed, hm]
    · have hkept : memory ∈ (record.forget m).dsts :=
        List.mem_filter.mpr ⟨hdst, by simpa using Ne.symm hm⟩
      have hin : record.forget m ∈ (s.freeMemory m).submitted := by
        apply List.mem_filter.mpr
        refine ⟨List.mem_map_of_mem hrecord, ?_⟩
        simpa using List.ne_nil_of_mem hkept
      rw [if_neg fun hboth => hm hboth.2]
      exact .inl ⟨harmed, record.forget m, hin, hbatch, hkept⟩
  · by_cases hm : m = memory
    · simp [hfate, hm]
    · simpa [hfate, hm, ReadbackState.freeMemory] using hin
  all_goals simp [hfate]

/-- A later submission leaves the fate of the batch alone, and the record keeps
its batch and destinations. -/
theorem Tracked.submit (htracked : s.Tracked batch memory) {next : ReadbackState} {b : Nat}
    (hbatch : batch < b) (hready : next.ready = s.ready)
    (hhistory : next.history = .submitted b :: s.history)
    (hrecords : ∀ record ∈ s.submitted, ∃ kept ∈ next.submitted,
      kept.batch = record.batch ∧ kept.dsts = record.dsts) : next.Tracked batch memory := by
  unfold Tracked Settled
  rw [hhistory, hready, fate, if_neg hbatch.ne']
  rcases htracked with ⟨harmed, record, hrecord, rfl, hdst⟩ | hsettled
  · obtain ⟨kept, hkept, hsame, hdsts⟩ := hrecords record hrecord
    exact .inl ⟨harmed, kept, hkept, hsame, hdsts ▸ hdst⟩
  · exact .inr hsettled

end Tracked

section Clean

variable {t : MappedMemoryTracker} {s : ReadbackState} {memory size : Nat}

/-- An allocation of the size with its buffers in place and no local write pending. -/
def Clean (t : MappedMemoryTracker) (memory size : Nat) : Prop :=
  ∃ a, t.allocs[memory]? = some a ∧ a.shadow ≠ [] ∧ a.shadow = a.lastUploaded ∧
    a.shadow.length = size

theorem Clean.storeAll (hclean : Clean t memory size) (stores : List Store)
    (helsewhere : ∀ st ∈ stores, st.memory ≠ memory) : Clean (storeAll t stores) memory size := by
  induction stores generalizing t with
  | nil => exact hclean
  | cons st rest ih =>
    obtain ⟨hne, hrest⟩ := List.forall_mem_cons.mp helsewhere
    refine ih ?_ hrest
    dsimp only
    cases hwrite : t.appWrite st.memory st.offset st.bytes with
    | none => exact hclean
    | some next =>
      obtain ⟨a, -, -, -, hallocs⟩ := MappedMemoryTracker.appWrite_some hwrite
      obtain ⟨found, hfound, hbuffers⟩ := hclean
      refine ⟨found, ?_, hbuffers⟩
      rw [Option.getD_some, hallocs, Table.getElem?_insert_eq, if_neg hne]
      exact hfound

theorem Clean.applyReadback (hclean : Clean t memory size) (m : Nat) (bytes : List UInt8) :
    Clean (t.applyReadback m bytes) memory size := by
  unfold MappedMemoryTracker.applyReadback
  split
  · exact hclean
  · next a hlookup =>
      split
      · next htakes =>
          obtain ⟨found, hfound, hbuffer, hsame, hsize⟩ := hclean
          by_cases hm : m = memory
          · subst hm
            cases hlookup.symm.trans hfound
            refine ⟨a.applyBytes bytes htakes.2.2, by simp, ?_, rfl, htakes.2.2.trans hsize⟩
            have hpos : 0 < bytes.length := by
              rw [htakes.2.2]
              exact List.length_pos_iff.mpr hbuffer
            exact List.ne_nil_of_length_pos hpos
          · exact ⟨found, by simp [hm, hfound], hbuffer, hsame, hsize⟩
      · exact hclean

theorem Clean.takesReadback (hclean : Clean t memory size) {bytes : List UInt8}
    (hlength : bytes.length = size) : t.takesReadback memory bytes = true := by
  obtain ⟨a, hlookup, hbuffer, hsame, hsize⟩ := hclean
  simp only [MappedMemoryTracker.takesReadback, hlookup, Option.any_some, decide_eq_true_eq]
  exact ⟨hbuffer, hsame, hlength.trans hsize.symm⟩

theorem clean_of_mem_candidates {cand : Nat × Nat} (hcand : cand ∈ s.candidates) :
    Clean s.tracker cand.1 cand.2 := by
  obtain ⟨memory, hmemory, rfl⟩ := List.mem_map.mp hcand
  have hlisted := (List.mem_filter.mp hmemory).2
  simp only [Bool.and_eq_true, MappedMemoryTracker.readbackClean, Option.any_eq_true,
    decide_eq_true_eq] at hlisted
  obtain ⟨-, a, hlookup, hbuffer, hsame⟩ := hlisted
  refine ⟨a, hlookup, hbuffer, hsame, ?_⟩
  simp [MappedMemoryTracker.allocationSize, hlookup, Alloc.size_eq_length hbuffer]

end Clean

/-- The state a read request of the step lists its memories in. -/
def listing (s : ReadbackState) : ReadbackOp → ReadbackState
  | .waitForFences fences waitAll _ => s.promoteFences fences waitAll
  | .waitSemaphores values waitAny _ => s.promoteValues values waitAny
  | .deviceWaitIdle _ _ | .queueWaitIdle _ _ => s.promoteReadbacksAll
  | .mapMemory memory offset size _ =>
    { s with tracker := (s.tracker.onMap memory offset size).toOption.getD s.tracker }
  | _ => s

/-- No store lands in a listed memory while the step's read request is out. -/
def Quiet (s : ReadbackState) (op : ReadbackOp) : Prop :=
  ∀ group ∈ op.stores, ∀ st ∈ group, ∀ size, (st.memory, size) ∉ (s.listing op).candidates

namespace Complete

variable {s next : ReadbackState}

theorem congr (hcomplete : s.Complete) (hlog : next.queues.log = s.queues.log)
    (hsubmitted : next.submitted = s.submitted) (hready : next.ready = s.ready)
    (hhistory : next.history = s.history) : next.Complete where
  named := by
    rw [hsubmitted, hlog]
    exact hcomplete.named
  carries := by
    unfold ReadbackSubmission.Carries
    rw [hsubmitted, hlog]
    exact hcomplete.carries
  tracked := by
    unfold Writes Tracked Settled
    rw [hlog, hsubmitted, hready, hhistory]
    exact hcomplete.tracked

theorem promote (hcomplete : s.Complete) (proven : ReadbackSubmission → Bool) :
    (s.promote proven).Complete where
  named record hrecord := hcomplete.named record (List.mem_of_mem_filter hrecord)
  carries record hrecord := hcomplete.carries record (List.mem_of_mem_filter hrecord)
  tracked batch memory hwrites := (hcomplete.tracked batch memory hwrites).promote proven

theorem deliverOne (hcomplete : s.Complete) {memory : Nat} {bytes : List UInt8}
    (htakes : s.tracker.takesReadback memory bytes = true) :
    (s.deliverOne memory bytes).Complete where
  named := hcomplete.named
  carries := hcomplete.carries
  tracked batch m hwrites := (hcomplete.tracked batch m hwrites).deliverOne htakes

/-- Clean memories that no store touches are delivered. -/
theorem deliver (hcomplete : s.Complete) (cands : List (Nat × Nat)) {stores : List (List Store)}
    (payload : List UInt8) (hclean : ∀ cand ∈ cands, Clean s.tracker cand.1 cand.2)
    (hquiet : ∀ cand ∈ cands, ∀ group ∈ stores, ∀ st ∈ group, st.memory ≠ cand.1) :
    (s.deliver cands stores payload).Complete := by
  induction cands generalizing s stores payload with
  | nil => exact hcomplete
  | cons cand rest ih =>
    unfold ReadbackState.deliver
    split
    · exact hcomplete
    · next hlong =>
        have hstored : ∀ other ∈ cand :: rest,
            Clean (storeAll s.tracker (stores.headD [])) other.1 other.2 := by
          intro other hother
          apply (hclean other hother).storeAll
          cases stores with
          | nil => simp
          | cons group later => exact hquiet other hother group List.mem_cons_self
        have htakes := (hstored cand List.mem_cons_self).takesReadback
          (List.length_take_of_le (Nat.le_of_not_lt hlong))
        have hbefore : { s with tracker := storeAll s.tracker (stores.headD []) }.Complete :=
          hcomplete.congr rfl rfl rfl rfl
        apply ih (hbefore.deliverOne htakes)
        · exact fun other hother =>
            (hstored other (List.mem_cons_of_mem cand hother)).applyReadback _ _
        · exact fun other hother group hgroup =>
            hquiet other (List.mem_cons_of_mem cand hother) group (List.mem_of_mem_tail hgroup)

theorem downloadReadback (hcomplete : s.Complete) {reply : Reading}
    (hquiet : ∀ group ∈ reply.stores, ∀ st ∈ group, ∀ size, (st.memory, size) ∉ s.candidates) :
    (s.downloadReadback reply).Complete := by
  unfold ReadbackState.downloadReadback
  split
  · exact hcomplete
  · refine hcomplete.deliver _ _ (fun cand => clean_of_mem_candidates) ?_
    rintro ⟨memory, size⟩ hcand group hgroup st hst rfl
    exact hquiet group hgroup st hst size hcand

theorem freeMemory (hcomplete : s.Complete) (memory : Nat) : (s.freeMemory memory).Complete where
  named record hrecord := by
    obtain ⟨old, hold, rfl⟩ := List.mem_map.mp (List.mem_of_mem_filter hrecord)
    exact hcomplete.named old hold
  carries record hrecord := by
    obtain ⟨old, hold, rfl⟩ := List.mem_map.mp (List.mem_of_mem_filter hrecord)
    exact hcomplete.carries old hold
  tracked batch m hwrites := (hcomplete.tracked batch m hwrites).freeMemory memory

theorem batch_lt (hcomplete : s.Complete) {record : ReadbackSubmission}
    (hrecord : record ∈ s.submitted) : record.batch < s.queues.log.length := by
  obtain ⟨own, hlog, -⟩ := hcomplete.named record hrecord
  exact (List.getElem?_eq_some_iff.mp hlog).1

/-- One more submission: the old records gain what it signals, if it is on their
queue, and its own record, if it has destinations, starts with it. -/
theorem submit (hcomplete : s.Complete) {submission : Submission (List Nat)}
    {change : ReadbackSubmission → ReadbackSubmission} {added : List ReadbackSubmission}
    (hqueues : next.queues = s.queues.submit submission)
    (hsubmitted : next.submitted = s.submitted.map change ++ added)
    (hready : next.ready = s.ready)
    (hhistory : next.history = .submitted s.queues.log.length :: s.history)
    (hchange : ∀ old, (change old).batch = old.batch ∧ (change old).queue = old.queue ∧
      (change old).dsts = old.dsts ∧ (∀ fence ∈ old.fences, fence ∈ (change old).fences) ∧
      ∀ pair ∈ old.signals, pair ∈ (change old).signals)
    (hcovers : ∀ record ∈ next.submitted, record.queue = submission.queue →
      (submission.fence ≠ 0 → submission.fence ∈ record.fences) ∧
        ∀ pair ∈ submission.signals, pair ∈ record.signals)
    (hadded : ∀ record ∈ added, record.batch = s.queues.log.length ∧
      record.queue = submission.queue)
    (hwork : ∀ memory ∈ submission.work, ∃ record ∈ added, memory ∈ record.dsts) :
    next.Complete where
  named record hrecord := by
    rw [hqueues, Queues.getElem?_submit]
    rw [hsubmitted] at hrecord
    rcases List.mem_append.mp hrecord with hkept | hnew
    · obtain ⟨old, hold, rfl⟩ := List.mem_map.mp hkept
      obtain ⟨hbatch, hqueue, -⟩ := hchange old
      rw [hbatch, hqueue, if_neg (hcomplete.batch_lt hold).ne]
      exact hcomplete.named old hold
    · obtain ⟨hbatch, hqueue⟩ := hadded record hnew
      exact ⟨submission, if_pos hbatch, hqueue.symm⟩
  carries record hrecord i found hlog hle hqueue := by
    rw [hqueues, Queues.getElem?_submit] at hlog
    split at hlog
    · cases hlog
      exact hcovers record hrecord hqueue.symm
    · next hi =>
        rw [hsubmitted] at hrecord
        rcases List.mem_append.mp hrecord with hkept | hnew
        · obtain ⟨old, hold, rfl⟩ := List.mem_map.mp hkept
          obtain ⟨hbatch, hsame, -, hfences, hsignals⟩ := hchange old
          obtain ⟨hfence, hpairs⟩ :=
            hcomplete.carries old hold i found hlog (hbatch ▸ hle) (hqueue.trans hsame)
          exact ⟨fun hne => hfences _ (hfence hne),
            fun pair hpair => hsignals pair (hpairs pair hpair)⟩
        · -- The new record is of the new submission, so no older one lies behind it.
          have hlt := (List.getElem?_eq_some_iff.mp hlog).1
          rw [(hadded record hnew).1] at hle
          omega
  tracked batch memory hwrites := by
    obtain ⟨found, hlog, hmemory⟩ := hwrites
    rw [hqueues, Queues.getElem?_submit] at hlog
    split at hlog
    · next hbatch =>
        cases hlog
        obtain ⟨record, hrecord, hdst⟩ := hwork memory hmemory
        refine .inl ⟨by rw [hhistory, fate, if_pos hbatch.symm], record, ?_, ?_, hdst⟩
        · rw [hsubmitted]
          exact List.mem_append_right _ hrecord
        · rw [(hadded record hrecord).1, hbatch]
    · apply (hcomplete.tracked batch memory ⟨found, hlog, hmemory⟩).submit
        (List.getElem?_eq_some_iff.mp hlog).1 hready hhistory
      intro record hrecord
      refine ⟨change record, ?_, (hchange record).1, (hchange record).2.2.1⟩
      rw [hsubmitted]
      exact List.mem_append_left _ (List.mem_map_of_mem hrecord)

theorem submitBatch (hcomplete : s.Complete) (queue callFence : Nat) (last : Bool)
    (si : SubmitInfo) : (s.submitBatch queue callFence last si).Complete := by
  have hnew : ∀ record ∈ s.newRecord queue callFence si,
      record.batch = s.queues.log.length ∧ record.queue = queue ∧
        (callFence ≠ 0 → callFence ∈ record.fences) ∧ record.signals = si.timelineSignals := by
    intro record hrecord
    unfold newRecord at hrecord
    split at hrecord
    · cases hrecord
    · cases List.mem_singleton.mp hrecord
      exact ⟨rfl, rfl, fun hne => by simp [hne], rfl⟩
  refine hcomplete.submit rfl rfl rfl rfl ?_ ?_ ?_ ?_
  · intro old
    refine ⟨ReadbackSubmission.cover_batch, ReadbackSubmission.cover_queue,
      ReadbackSubmission.cover_dsts, fun fence hfence => ?_, fun pair hpair => ?_⟩
    · exact ReadbackSubmission.mem_cover_fences_iff.mpr (.inl hfence)
    · exact ReadbackSubmission.mem_cover_signals_iff.mpr (.inl hpair)
  · intro record hrecord hqueue
    dsimp only
    rcases List.mem_append.mp hrecord with hkept | hadded
    · obtain ⟨old, -, rfl⟩ := List.mem_map.mp hkept
      rw [ReadbackSubmission.cover_queue] at hqueue
      constructor
      · intro hne
        cases last with
        | false => exact absurd rfl hne
        | true => exact ReadbackSubmission.mem_cover_fences_iff.mpr (.inr ⟨rfl, hne, rfl, hqueue⟩)
      · intro pair hpair
        exact ReadbackSubmission.mem_cover_signals_iff.mpr (.inr ⟨hpair, hqueue⟩)
    · obtain ⟨-, -, hfence, hsignals⟩ := hnew record hadded
      constructor
      · intro hne
        cases last with
        | false => exact absurd rfl hne
        | true => exact hfence hne
      · intro pair hpair
        rw [hsignals]
        exact hpair
  · intro record hrecord
    exact ⟨(hnew record hrecord).1, (hnew record hrecord).2.1⟩
  · intro memory hmemory
    have hne : s.readbackDsts si ≠ [] := List.ne_nil_of_mem hmemory
    unfold newRecord
    rw [if_neg hne]
    exact ⟨_, List.mem_singleton_self _, hmemory⟩

theorem submitFence (hcomplete : s.Complete) (queue fence : Nat) :
    (s.submitFence queue fence).Complete := by
  refine hcomplete.submit rfl (List.append_nil _).symm rfl rfl ?_ ?_ ?_ ?_
  · intro old
    refine ⟨ReadbackSubmission.coverFence_batch, ReadbackSubmission.coverFence_queue,
      ReadbackSubmission.coverFence_dsts, fun other hother => ?_, fun pair hpair => ?_⟩
    · exact ReadbackSubmission.mem_coverFence_fences_iff.mpr (.inl hother)
    · rwa [ReadbackSubmission.coverFence_signals]
  · intro record hrecord hqueue
    obtain ⟨old, -, rfl⟩ := List.mem_map.mp hrecord
    rw [ReadbackSubmission.coverFence_queue] at hqueue
    exact ⟨fun _ => ReadbackSubmission.mem_coverFence_fences_iff.mpr (.inr ⟨rfl, hqueue⟩),
      fun _ hpair => nomatch hpair⟩
  · exact fun _ hrecord => nomatch hrecord
  · exact fun _ hmemory => nomatch hmemory

theorem queueSubmit (hcomplete : s.Complete) (queue : Nat) (submits : List SubmitInfo)
    (fence : Nat) (verdicts : List Bool) :
    (s.queueSubmit queue submits fence verdicts).Complete := by
  unfold ReadbackState.queueSubmit
  split
  · split
    · exact hcomplete.submitFence queue fence
    · exact hcomplete
  · exact submitBatches_invariant (fun _ last si hs => hs.submitBatch queue fence last si)
      submits verdicts hcomplete

theorem queueSubmit2 (hcomplete : s.Complete) (queue : Nat) (submits : List SubmitInfo)
    (fence : Nat) (accepted : Bool) : (s.queueSubmit2 queue submits fence accepted).Complete := by
  unfold ReadbackState.queueSubmit2
  split
  · exact hcomplete
  · split
    · split
      · exact hcomplete.submitFence queue fence
      · exact hcomplete
    · exact submitBatches_invariant (fun _ last si hs => hs.submitBatch queue fence last si)
        submits _ hcomplete

theorem step {deviceOf : Nat → Nat} {op : ReadbackOp} (hcomplete : s.Complete)
    (hquiet : s.Quiet op) (hstep : s.step deviceOf op = some next) : next.Complete := by
  cases op with
  | beginCommandBuffer cb | resetCommandBuffer cb | freeCommandBuffer cb | createBuffer buffer
  | destroyBuffer buffer | host tracker | resetFences fences =>
    cases hstep
    exact hcomplete.congr rfl rfl rfl rfl
  | bindBufferMemory buffer memory =>
    cases hstep
    split
    · exact hcomplete.congr rfl rfl rfl rfl
    · exact hcomplete
  | recordCopy cb dstBuffer =>
    cases hstep
    unfold ReadbackState.recordCopy
    split
    · exact hcomplete
    · split
      · exact hcomplete
      · exact hcomplete.congr rfl rfl rfl rfl
  | queueSubmit queue submits fence verdicts =>
    cases hstep
    exact hcomplete.queueSubmit queue submits fence verdicts
  | queueSubmit2 queue submits fence accepted =>
    cases hstep
    exact hcomplete.queueSubmit2 queue submits fence accepted
  | waitForFences fences waitAll reply =>
    obtain ⟨-, ⟨⟩⟩ := Option.ite_none_right_eq_some.mp hstep
    exact (promoteFences_invariant (fun _ _ hs => hs.promote _) fences waitAll
      hcomplete).downloadReadback hquiet
  | waitSemaphores values waitAny reply =>
    obtain ⟨-, ⟨⟩⟩ := Option.ite_none_right_eq_some.mp hstep
    exact (promoteValues_invariant (fun _ _ hs => hs.promote _) values waitAny
      hcomplete).downloadReadback hquiet
  | deviceWaitIdle device reply | queueWaitIdle queue reply =>
    obtain ⟨-, ⟨⟩⟩ := Option.ite_none_right_eq_some.mp hstep
    exact (hcomplete.promote _).downloadReadback hquiet
  | freeMemory memory =>
    cases hstep
    exact hcomplete.freeMemory memory
  | mapMemory memory offset size reply =>
    simp only [ReadbackState.step] at hstep
    split at hstep
    · cases hstep
      exact hcomplete
    · next tracker hmap =>
        cases hstep
        -- The condition on the stores speaks of the listing after the map.
        have hmapped : { s with tracker := tracker }.Complete := hcomplete.congr rfl rfl rfl rfl
        simp only [Quiet, listing, hmap] at hquiet
        exact hmapped.downloadReadback hquiet
  | complete batch =>
    obtain ⟨queues, hqueues, rfl⟩ := Option.map_eq_some_iff.mp hstep
    obtain ⟨-, -, -, rfl⟩ := Queues.complete_some hqueues
    exact hcomplete.congr rfl rfl rfl rfl
  | fire batch =>
    obtain ⟨queues, hqueues, rfl⟩ := Option.map_eq_some_iff.mp hstep
    obtain ⟨-, -, -, -, hlog, -⟩ := Queues.fire_some hqueues
    exact hcomplete.congr hlog rfl rfl rfl

theorem start (signaled : Finset Nat) (counter : Nat → Nat) :
    (ReadbackState.start signaled counter).Complete where
  named := fun _ hrecord => nomatch hrecord
  carries := fun _ hrecord => nomatch hrecord
  tracked := fun _ _ ⟨_, hlog, _⟩ => nomatch hlog

/-- A batch is settled when no armed record carries a proof of a later batch of
its queue. -/
theorem settled (hcomplete : s.Complete) {first second memory : Nat}
    (hlater : s.NoLater first second) (hwrites : s.Writes first memory)
    (hnone : ∀ submission, s.queues.log[second]? = some submission → ∀ record ∈ s.submitted,
      ¬ ((submission.fence ≠ 0 → submission.fence ∈ record.fences) ∧
        ∀ pair ∈ submission.signals, pair ∈ record.signals)) : s.Settled first memory := by
  rcases hcomplete.tracked first memory hwrites with ⟨-, record, hrecord, rfl, -⟩ | hsettled
  · obtain ⟨hle, earlier, later, hearlier, hlog, hqueue⟩ := hlater
    obtain ⟨own, hown, hsame⟩ := hcomplete.named record hrecord
    cases hearlier.symm.trans hown
    exact absurd (hcomplete.carries record hrecord second later hlog hle (hqueue.symm.trans hsame))
      (hnone later hlog record hrecord)
  · exact hsettled

end Complete

section Waits

variable {s : ReadbackState}

theorem submitted_downloadReadback (reply : Reading) :
    (s.downloadReadback reply).submitted = s.submitted :=
  downloadReadback_invariant (P := fun next => next.submitted = s.submitted)
    (fun _ _ hs => hs) (fun _ _ _ hs => hs) reply rfl

/-- Promoting for each item of a list leaves no record that one of them proves. -/
theorem mem_submitted_foldl_promote {α : Type} {proves : α → ReadbackSubmission → Bool}
    {items : List α} {record : ReadbackSubmission}
    (hrecord : record ∈ (items.foldl (fun mid item => mid.promote (proves item)) s).submitted) :
    ∀ item ∈ items, proves item record = false := by
  have hkept : ∀ (left : List α) (mid : ReadbackState),
      record ∈ (left.foldl (fun mid item => mid.promote (proves item)) mid).submitted →
        record ∈ mid.submitted ∧ ∀ item ∈ left, proves item record = false := by
    intro left
    induction left with
    | nil => exact fun mid hmid => ⟨hmid, fun _ hitem => nomatch hitem⟩
    | cons item rest ih =>
      intro mid hmid
      obtain ⟨hin, hrest⟩ := ih _ hmid
      obtain ⟨hbefore, hitem⟩ := List.mem_filter.mp hin
      refine ⟨hbefore, fun other hother => ?_⟩
      rcases List.mem_cons.mp hother with rfl | hother
      · simpa using hitem
      · exact hrest other hother
  exact (hkept items s hrecord).2

/-- After the wait, no armed record carries a fence that it proved. -/
theorem not_mem_fences_promoteFences {fences : List Nat} {waitAll : Bool}
    (hall : waitAll = true ∨ fences.length = 1) {reply : Reading} {record : ReadbackSubmission}
    (hrecord : record ∈ ((s.promoteFences fences waitAll).downloadReadback reply).submitted) :
    ∀ fence ∈ fences, fence ∉ record.fences := by
  unfold promoteFences at hrecord
  rw [submitted_downloadReadback, if_pos hall] at hrecord
  intro fence hfence
  simpa using mem_submitted_foldl_promote hrecord fence hfence

theorem not_mem_signals_promoteValues {values : List (Nat × Nat)} {waitAny : Bool}
    (hall : waitAny = false ∨ values.length = 1) {reply : Reading} {record : ReadbackSubmission}
    (hrecord : record ∈ ((s.promoteValues values waitAny).downloadReadback reply).submitted) :
    ∀ pair ∈ values, ∀ v ≤ pair.2, (pair.1, v) ∉ record.signals := by
  unfold promoteValues at hrecord
  rw [submitted_downloadReadback, if_pos hall] at hrecord
  intro pair hpair v hle hsignal
  have hproven := mem_submitted_foldl_promote hrecord pair hpair
  rw [List.any_eq_false] at hproven
  exact hproven _ hsignal (decide_eq_true ⟨rfl, hle⟩)

end Waits

/-- In every run in which no store lands in a listed memory while it is read, no
destination is dropped: it is armed, READY, delivered or freed. After a wait that
proves a fence, those of every batch that its queue took no later than the call with
that fence are settled, and after a wait that proves a timeline value, those of every
batch no later than one signaling that value or a smaller one. -/
theorem proven_readbacks_settle (deviceOf : Nat → Nat) (signaled : Finset Nat)
    (counter : Nat → Nat) (ops : List ReadbackOp) {s : ReadbackState}
    (hquiet : Along (step deviceOf) Quiet (start signaled counter) ops)
    (hrun : run (step deviceOf) (start signaled counter) ops = some s) :
    (∀ batch memory, s.Writes batch memory → s.Tracked batch memory) ∧
    (∀ fences waitAll reply next, waitAll = true ∨ fences.length = 1 →
      s.Quiet (.waitForFences fences waitAll reply) →
      s.step deviceOf (.waitForFences fences waitAll reply) = some next →
      ∀ fence ∈ fences, fence ≠ 0 → ∀ first second memory submission,
        next.queues.log[second]? = some submission → submission.fence = fence →
        next.NoLater first second → next.Writes first memory → next.Settled first memory) ∧
    ∀ values waitAny reply next, waitAny = false ∨ values.length = 1 →
      s.Quiet (.waitSemaphores values waitAny reply) →
      s.step deviceOf (.waitSemaphores values waitAny reply) = some next →
      ∀ pair ∈ values, ∀ v ≤ pair.2, ∀ first second memory submission,
        next.queues.log[second]? = some submission → (pair.1, v) ∈ submission.signals →
        next.NoLater first second → next.Writes first memory → next.Settled first memory := by
  have hcomplete : s.Complete :=
    run_invariant_along (P := Complete) (fun _ _ _ hs hop hstep => hs.step hop hstep)
      (Complete.start signaled counter) hquiet hrun
  refine ⟨hcomplete.tracked, ?_, ?_⟩
  · intro fences waitAll reply next hall hstill hstep fence hfence hne first second memory
      submission hlog hcarries hlater hwrites
    have hnext := hcomplete.step hstill hstep
    obtain ⟨-, ⟨⟩⟩ := Option.ite_none_right_eq_some.mp hstep
    apply hnext.settled hlater hwrites
    rintro found hfound record hrecord ⟨hin, -⟩
    cases hlog.symm.trans hfound
    subst hcarries
    exact not_mem_fences_promoteFences hall hrecord _ hfence (hin hne)
  · intro values waitAny reply next hall hstill hstep pair hpair v hle first second memory
      submission hlog hsignal hlater hwrites
    have hnext := hcomplete.step hstill hstep
    obtain ⟨-, ⟨⟩⟩ := Option.ite_none_right_eq_some.mp hstep
    apply hnext.settled hlater hwrites
    rintro found hfound record hrecord ⟨-, hin⟩
    cases hlog.symm.trans hfound
    exact not_mem_signals_promoteValues hall hrecord pair hpair v hle (hin _ hsignal)

def mappedByte : MappedMemoryTracker where
  allocs := (∅ : Table Alloc).insert 20
    ((Alloc.fresh 1 0 true true).mapAt 0 1 (by decide) (by decide) (by decide))

/-- A batch without any proof of its own that writes it, and the fence-only call behind. -/
def coveredLater : List ReadbackOp :=
  recorded ++
    [.host mappedByte, .queueSubmit 1 [{ commandBuffers := [5] }] 0 [true],
      .queueSubmit 1 [] 7 [true], .complete 0, .complete 1, .fire 1]

def undisturbed : ReadbackOp := .waitForFences [7] true { payload := some [5] }

theorem proven_readbacks_settle_covered_later :
    ∃ s next, run (step id) (start ∅ fun _ => 0) coveredLater = some s ∧
      s.step id undisturbed = some next ∧ next.Settled 0 20 := by
  have hquiet : ∀ (s : ReadbackState) (op : ReadbackOp), op.stores = [] → s.Quiet op :=
    fun s op hstores group hgroup => by simp [hstores] at hgroup
  have halong : Along (step id) Quiet (start ∅ fun _ => 0) coveredLater := by
    apply Along.of_forall
    intro op hop s
    apply hquiet
    revert op
    decide
  refine ⟨_, _, rfl, rfl, ?_⟩
  apply (proven_readbacks_settle id ∅ (fun _ => 0) coveredLater halong rfl).2.1 [7] true _ _
    (.inl rfl) (hquiet _ _ rfl) rfl 7 (by decide) (by decide) 0 1 20 _ rfl rfl
  · exact ⟨by decide, _, _, rfl, rfl, rfl⟩
  · exact ⟨_, rfl, by decide⟩

/-- The wait proves fence 7 while another thread stores into the listed byte: the
destination is then neither armed nor READY, and neither delivered nor freed. -/
theorem store_during_read_drops_readback :
    ∃ s next, run (step id) (start ∅ fun _ => 0) coveredLater = some s ∧
      s.step id (.waitForFences [7] true
        { payload := some [5], stores := [[⟨20, 0, [9]⟩]] }) = some next ∧
      next.Writes 0 20 ∧ ¬next.Tracked 0 20 := by
  refine ⟨_, _, rfl, rfl, ⟨_, rfl, by decide⟩, ?_⟩
  rintro (⟨hfate, -⟩ | ⟨hfate, -⟩ | hfate | hfate)
  all_goals revert hfate; decide

end ReadbackState

end VkRelay.Readback
