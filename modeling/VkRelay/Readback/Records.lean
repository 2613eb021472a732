import VkRelay.Lib.Queues
import VkRelay.Memory.Tracker

/-!
The readback records of the ICD. A recorded copy notes the memory it writes on
its command buffer, an accepted batch arms a record of those memories together
with the fences and timeline values that will prove it, later batches of the
same queue add theirs, and a successful wait promotes the records it proves to
READY, from where they are downloaded into the mapped shadow. A download lists the
clean READY memories, waits for the worker's reply and hands it out; the stores of
the application's other threads take no lock and may land in between.

The worker is `Lib.Queues`: it may refuse any batch, completes the others in any
order and fires signals in queue order. Calls that fail without touching the
records (a wait that times out, a begin or a free that the worker refuses) are
not steps. A call refused before its first request is one whose first batch is
refused. `history` and the batch number of a record are not part of the
program; no definition reads them.
-/

namespace VkRelay.Readback

open VkRelay.Lib
open VkRelay.Memory

def kMaxSync2SubmitInfos : Nat := 256
def kMaxSync2SemaphoresPerSubmit : Nat := 64
def kMaxSync2CommandBuffersPerSubmit : Nat := 256

/-- One armed batch: its queue, any fence and any timeline value that covers it,
and the memories it writes. -/
structure ReadbackSubmission where
  queue : Nat
  fences : List Nat
  signals : List (Nat × Nat)
  dsts : List Nat
  batch : Nat
deriving DecidableEq

/-- One batch of a submit call. A wait or signal of value zero is a binary one. -/
structure SubmitInfo where
  waits : List (Nat × Nat) := []
  commandBuffers : List Nat := []
  signals : List (Nat × Nat) := []
deriving DecidableEq

/-- A store of the application through the pointer of a mapping. -/
structure Store where
  memory : Nat
  offset : Nat
  bytes : List UInt8
deriving DecidableEq

/-- What a read request meets: its reply, `none` if it was refused or threw, and for
each listed memory the stores that land before its bytes are handed out. -/
structure Reading where
  payload : Option (List UInt8) := none
  stores : List (List Store) := []
deriving DecidableEq

/-- `dropped`: the memory is no longer READY and its bytes were ignored. -/
inductive Event where
  | submitted (batch : Nat)
  | promoted (batch : Nat) (dsts : List Nat)
  | delivered (memory : Nat)
  | dropped (memory : Nat)
  | freed (memory : Nat)
deriving DecidableEq

/-- The worker's queues with the memories each batch writes, and the ICD's
globals: the armed records, the READY set, the destinations noted on each
command buffer and the memory bound to each buffer. -/
structure ReadbackState where
  queues : Queues (List Nat)
  submitted : List ReadbackSubmission := []
  ready : Std.ExtTreeSet Nat compare := ∅
  commandBuffers : Table (List Nat) := ∅
  buffers : Table Nat := ∅
  tracker : MappedMemoryTracker := {}
  history : List Event := []

/-- Binary signals are not host-waitable and prove nothing. -/
def SubmitInfo.timelineSignals (si : SubmitInfo) : List (Nat × Nat) :=
  si.signals.filter fun signal => decide (0 < signal.2)

namespace ReadbackSubmission

/-- A batch of the same queue adds its timeline values, and the last one of a
call the call's fence. -/
def cover (queue callFence : Nat) (last : Bool) (signals : List (Nat × Nat))
    (old : ReadbackSubmission) : ReadbackSubmission :=
  if old.queue ≠ queue then old
  else
    { old with
      fences := if callFence ≠ 0 ∧ last ∧ callFence ∉ old.fences then old.fences ++ [callFence]
        else old.fences
      signals := old.signals ++ signals }

/-- A fence-only submit covers every armed record of its queue. -/
def coverFence (queue fence : Nat) (old : ReadbackSubmission) : ReadbackSubmission :=
  if old.queue = queue then { old with fences := old.fences ++ [fence] } else old

def forget (memory : Nat) (old : ReadbackSubmission) : ReadbackSubmission :=
  { old with dsts := old.dsts.filter fun dst => dst ≠ memory }

end ReadbackSubmission

namespace ReadbackState

def readbackDsts (s : ReadbackState) (si : SubmitInfo) : List Nat :=
  si.commandBuffers.flatMap fun cb => (s.commandBuffers[cb]?).getD []

/-- The record of a batch, if it writes any tracked memory. It carries the call's
fence whether or not this batch is the one that submits it. -/
def newRecord (s : ReadbackState) (queue callFence : Nat) (si : SubmitInfo) :
    List ReadbackSubmission :=
  if s.readbackDsts si = [] then []
  else
    [{ queue := queue
       fences := if callFence ≠ 0 then [callFence] else []
       signals := si.timelineSignals
       dsts := s.readbackDsts si
       batch := s.queues.log.length }]

/-- The worker accepts one batch and the ICD arms it. Only the last batch of a
call takes the fence to the worker. -/
def submitBatch (queue callFence : Nat) (last : Bool) (s : ReadbackState) (si : SubmitInfo) :
    ReadbackState :=
  { s with
    queues := s.queues.submit
      { queue := queue
        waits := si.waits
        signals := si.timelineSignals
        fence := if last then callFence else 0
        work := s.readbackDsts si }
    submitted :=
      s.submitted.map (ReadbackSubmission.cover queue callFence last si.timelineSignals) ++
        s.newRecord queue callFence si
    history := .submitted s.queues.log.length :: s.history }

/-- The loop over the batches, given the worker's verdict on each. The first
refusal ends the call; what was armed before it stays armed. -/
def submitBatches (queue callFence : Nat) :
    List SubmitInfo → List Bool → ReadbackState → ReadbackState
  | si :: rest, true :: verdicts, s =>
    submitBatches queue callFence rest verdicts
      (s.submitBatch queue callFence rest.isEmpty si)
  | _, _, s => s

def submitFence (queue fence : Nat) (s : ReadbackState) : ReadbackState :=
  { s with
    queues := s.queues.submit { queue := queue, fence := fence, work := [] }
    submitted := s.submitted.map (ReadbackSubmission.coverFence queue fence)
    history := .submitted s.queues.log.length :: s.history }

/-- `vkQueueSubmit`: one request per batch, or one for the fence alone. -/
def queueSubmit (s : ReadbackState) (queue : Nat) (submits : List SubmitInfo) (fence : Nat)
    (verdicts : List Bool) : ReadbackState :=
  if submits = [] then
    if fence ≠ 0 ∧ verdicts.head? = some true then s.submitFence queue fence else s
  else s.submitBatches queue fence submits verdicts

def sync2Served (submits : List SubmitInfo) : Bool :=
  decide (submits.length ≤ kMaxSync2SubmitInfos) &&
    submits.all fun si =>
      decide (si.waits.length ≤ kMaxSync2SemaphoresPerSubmit) &&
        decide (si.signals.length ≤ kMaxSync2SemaphoresPerSubmit) &&
        decide (si.commandBuffers.length ≤ kMaxSync2CommandBuffersPerSubmit)

/-- `vkQueueSubmit2`: the whole call is one request and one verdict. -/
def queueSubmit2 (s : ReadbackState) (queue : Nat) (submits : List SubmitInfo) (fence : Nat)
    (accepted : Bool) : ReadbackState :=
  if !sync2Served submits || !accepted then s
  else if submits = [] then if fence ≠ 0 then s.submitFence queue fence else s
  else s.submitBatches queue fence submits (submits.map fun _ => true)

/-- The records that `proven` selects become READY and are no longer armed. -/
def promote (proven : ReadbackSubmission → Bool) (s : ReadbackState) : ReadbackState :=
  { s with
    ready := s.ready.insertMany ((s.submitted.filter proven).flatMap (·.dsts))
    submitted := s.submitted.filter fun record => !proven record
    history := (s.submitted.filter proven).map (fun record => .promoted record.batch record.dsts) ++
      s.history }

def promoteReadbacksAll (s : ReadbackState) : ReadbackState :=
  s.promote fun _ => true

def promoteReadbacksByFence (s : ReadbackState) (fence : Nat) : ReadbackState :=
  s.promote fun record => decide (fence ∈ record.fences)

/-- A reached value proves the smaller ones of the same semaphore. -/
def promoteReadbacksBySemaphore (s : ReadbackState) (pair : Nat × Nat) : ReadbackState :=
  s.promote fun record =>
    record.signals.any fun signal => decide (signal.1 = pair.1 ∧ signal.2 ≤ pair.2)

/-- The READY memories that are mapped and have no local write pending. -/
def candidates (s : ReadbackState) : List (Nat × Nat) :=
  (s.ready.toList.filter fun memory =>
    s.tracker.mapped memory && s.tracker.readbackClean memory).map fun memory =>
      (memory, s.tracker.allocationSize memory)

/-- The memory leaves READY whether or not the tracker takes the bytes. -/
def deliverOne (s : ReadbackState) (memory : Nat) (bytes : List UInt8) : ReadbackState :=
  { s with
    tracker := s.tracker.applyReadback memory bytes
    ready := s.ready.erase memory
    history := (if s.tracker.takesReadback memory bytes then .delivered memory
      else .dropped memory) :: s.history }

def storeAll (tracker : MappedMemoryTracker) (stores : List Store) : MappedMemoryTracker :=
  stores.foldl (fun t st => (t.appWrite st.memory st.offset st.bytes).getD t) tracker

def deliver : List (Nat × Nat) → List (List Store) → List UInt8 → ReadbackState → ReadbackState
  | [], _, _, s => s
  | (memory, size) :: rest, stores, payload, s =>
    if payload.length < size then s
    else
      deliver rest stores.tail (payload.drop size)
        ({ s with tracker := storeAll s.tracker (stores.headD []) }.deliverOne memory
          (payload.take size))

def downloadReadback (s : ReadbackState) (reply : Reading) : ReadbackState :=
  match reply.payload with
  | none => s
  | some payload => deliver s.candidates reply.stores payload s

/-- Freed memory can never be downloaded; a record left without any is dropped. -/
def freeMemory (s : ReadbackState) (memory : Nat) : ReadbackState :=
  { s with
    tracker := (s.tracker.onFree memory).toOption.getD s.tracker
    ready := s.ready.erase memory
    submitted := (s.submitted.map (ReadbackSubmission.forget memory)).filter fun record =>
      !record.dsts.isEmpty
    history := .freed memory :: s.history }

/-- `vkCmdCopyQueryPoolResults`, `vkCmdCopyImageToBuffer`, `vkCmdCopyBuffer` and
`vkCmdFillBuffer` note the memory bound to the buffer they write. -/
def recordCopy (s : ReadbackState) (cb dstBuffer : Nat) : ReadbackState :=
  match s.buffers[dstBuffer]? with
  | none => s
  | some memory =>
    if memory = 0 then s
    else
      { s with
        commandBuffers :=
          s.commandBuffers.insert cb ((s.commandBuffers[cb]?).getD [] ++ [memory]) }

end ReadbackState

/-- The entry points that reach the records, and the worker's own progress.
`host` stands for everything else that changes the tracker. -/
inductive ReadbackOp where
  | beginCommandBuffer (cb : Nat)
  | resetCommandBuffer (cb : Nat)
  | freeCommandBuffer (cb : Nat)
  | createBuffer (buffer : Nat)
  | bindBufferMemory (buffer memory : Nat)
  | destroyBuffer (buffer : Nat)
  | recordCopy (cb dstBuffer : Nat)
  | queueSubmit (queue : Nat) (submits : List SubmitInfo) (fence : Nat) (verdicts : List Bool)
  | queueSubmit2 (queue : Nat) (submits : List SubmitInfo) (fence : Nat) (accepted : Bool)
  | waitForFences (fences : List Nat) (waitAll : Bool) (reply : Reading)
  | waitSemaphores (values : List (Nat × Nat)) (waitAny : Bool) (reply : Reading)
  | deviceWaitIdle (device : Nat) (reply : Reading)
  | queueWaitIdle (queue : Nat) (reply : Reading)
  | resetFences (fences : List Nat)
  | freeMemory (memory : Nat)
  | mapMemory (memory offset size : Nat) (reply : Reading)
  | host (tracker : MappedMemoryTracker)
  | complete (batch : Nat)
  | fire (batch : Nat)

def ReadbackOp.stores : ReadbackOp → List (List Store)
  | .waitForFences _ _ reply | .waitSemaphores _ _ reply | .deviceWaitIdle _ reply
  | .queueWaitIdle _ reply | .mapMemory _ _ _ reply => reply.stores
  | _ => []

namespace ReadbackState

/-- `WaitForFences` after the worker answered success. A wait for any of several
fences proves none in particular. -/
def promoteFences (s : ReadbackState) (fences : List Nat) (waitAll : Bool) : ReadbackState :=
  if waitAll ∨ fences.length = 1 then fences.foldl promoteReadbacksByFence s else s

/-- `WaitSemaphores`, likewise. -/
def promoteValues (s : ReadbackState) (values : List (Nat × Nat)) (waitAny : Bool) :
    ReadbackState :=
  if waitAny = false ∨ values.length = 1 then values.foldl promoteReadbacksBySemaphore s else s

variable (deviceOf : Nat → Nat)

/-- One step, where `deviceOf` names the device of each queue. A wait is enabled
when the worker can answer it with success. -/
def step (s : ReadbackState) : ReadbackOp → Option ReadbackState
  | .beginCommandBuffer cb | .resetCommandBuffer cb =>
    some { s with commandBuffers := s.commandBuffers.insert cb [] }
  | .freeCommandBuffer cb => some { s with commandBuffers := s.commandBuffers.erase cb }
  | .createBuffer buffer => some { s with buffers := s.buffers.insert buffer 0 }
  | .bindBufferMemory buffer memory =>
    some (if (s.buffers[buffer]?).isSome then
      { s with buffers := s.buffers.insert buffer memory } else s)
  | .destroyBuffer buffer => some { s with buffers := s.buffers.erase buffer }
  | .recordCopy cb dstBuffer => some (s.recordCopy cb dstBuffer)
  | .queueSubmit queue submits fence verdicts =>
    some (s.queueSubmit queue submits fence verdicts)
  | .queueSubmit2 queue submits fence accepted =>
    some (s.queueSubmit2 queue submits fence accepted)
  | .waitForFences fences waitAll reply =>
    if s.queues.fencesProven fences waitAll then
      some ((s.promoteFences fences waitAll).downloadReadback reply)
    else none
  | .waitSemaphores values waitAny reply =>
    if s.queues.valuesProven values waitAny then
      some ((s.promoteValues values waitAny).downloadReadback reply)
    else none
  | .deviceWaitIdle device reply =>
    if s.queues.idle fun queue => decide (deviceOf queue = device) then
      some (s.promoteReadbacksAll.downloadReadback reply)
    else none
  | .queueWaitIdle queue reply =>
    if s.queues.idle fun other => decide (other = queue) then
      some (s.promoteReadbacksAll.downloadReadback reply)
    else none
  | .resetFences fences => some { s with queues := s.queues.resetFences fences }
  | .freeMemory memory => some (s.freeMemory memory)
  | .mapMemory memory offset size reply =>
    match s.tracker.onMap memory offset size with
    | .error _ => some s
    | .ok tracker => some ({ s with tracker := tracker }.downloadReadback reply)
  | .host tracker => some { s with tracker := tracker }
  | .complete batch => (s.queues.complete batch).map fun queues => { s with queues := queues }
  | .fire batch => (s.queues.fire batch).map fun queues => { s with queues := queues }

/-- Before any call. Fences may have been created signaled and semaphores with
an initial value. -/
def start (signaled : Finset Nat) (counter : Nat → Nat) : ReadbackState where
  queues := { signaled := signaled, counter := counter }

def recorded : List ReadbackOp :=
  [.createBuffer 10, .bindBufferMemory 10 20, .beginCommandBuffer 5, .recordCopy 5 10]

end ReadbackState

namespace ReadbackSubmission

variable {queue callFence : Nat} {last : Bool} {signals : List (Nat × Nat)}
  {old : ReadbackSubmission}

@[simp] theorem cover_queue : (old.cover queue callFence last signals).queue = old.queue := by
  unfold cover
  split <;> rfl

@[simp] theorem cover_batch : (old.cover queue callFence last signals).batch = old.batch := by
  unfold cover
  split <;> rfl

@[simp] theorem cover_dsts : (old.cover queue callFence last signals).dsts = old.dsts := by
  unfold cover
  split <;> rfl

variable {fence : Nat}

theorem mem_cover_fences_iff : fence ∈ (old.cover queue callFence last signals).fences ↔
      fence ∈ old.fences ∨ fence = callFence ∧ callFence ≠ 0 ∧ last = true ∧ old.queue = queue := by
  unfold cover
  by_cases hqueue : old.queue = queue
  · by_cases hadd : callFence ≠ 0 ∧ last = true ∧ callFence ∉ old.fences
    · simp [hqueue, hadd]
    · simp only [hqueue, hadd, ne_eq, not_true, if_false, and_true]
      constructor
      · exact .inl
      · rintro (hold | ⟨rfl, hne, hlast⟩)
        · exact hold
        · by_contra habsent
          exact hadd ⟨hne, hlast, habsent⟩
  · simp [hqueue]

theorem mem_cover_signals_iff {pair : Nat × Nat} :
    pair ∈ (old.cover queue callFence last signals).signals ↔
      pair ∈ old.signals ∨ pair ∈ signals ∧ old.queue = queue := by
  unfold cover
  by_cases hqueue : old.queue = queue
  · simp [hqueue]
  · simp [hqueue]

@[simp] theorem coverFence_queue : (old.coverFence queue fence).queue = old.queue := by
  unfold coverFence
  split <;> rfl

@[simp] theorem coverFence_batch : (old.coverFence queue fence).batch = old.batch := by
  unfold coverFence
  split <;> rfl

@[simp] theorem coverFence_dsts : (old.coverFence queue fence).dsts = old.dsts := by
  unfold coverFence
  split <;> rfl

@[simp] theorem coverFence_signals : (old.coverFence queue fence).signals = old.signals := by
  unfold coverFence
  split <;> rfl

theorem mem_coverFence_fences_iff {fence other : Nat} :
    other ∈ (old.coverFence queue fence).fences ↔
      other ∈ old.fences ∨ other = fence ∧ old.queue = queue := by
  unfold coverFence
  by_cases hqueue : old.queue = queue
  · simp [hqueue]
  · simp [hqueue]

end ReadbackSubmission

namespace ReadbackState

variable {P : ReadbackState → Prop}

theorem downloadReadback_invariant
    (hstores : ∀ s tracker, P s → P { s with tracker := tracker })
    (hone : ∀ s memory bytes, P s → P (s.deliverOne memory bytes))
    (reply : Reading) {s : ReadbackState} (hs : P s) : P (s.downloadReadback reply) := by
  have hdeliver : ∀ cands stores payload s, P s → P (deliver cands stores payload s) := by
    intro cands
    induction cands with
    | nil => exact fun _ _ _ hs => hs
    | cons cand rest ih =>
      intro stores payload s hs
      unfold deliver
      split
      · exact hs
      · exact ih _ _ _ (hone _ _ _ (hstores s _ hs))
  unfold downloadReadback
  split
  · exact hs
  · exact hdeliver _ _ _ s hs

theorem promoteFences_invariant {s : ReadbackState}
    (hone : ∀ s proven, P s → P (s.promote proven)) (fences : List Nat) (waitAll : Bool)
    (hs : P s) : P (s.promoteFences fences waitAll) := by
  unfold promoteFences
  split
  · exact List.foldlRecOn fences _ hs fun mid hmid _ _ => hone mid _ hmid
  · exact hs

theorem promoteValues_invariant {s : ReadbackState}
    (hone : ∀ s proven, P s → P (s.promote proven)) (values : List (Nat × Nat)) (waitAny : Bool)
    (hs : P s) : P (s.promoteValues values waitAny) := by
  unfold promoteValues
  split
  · exact List.foldlRecOn values _ hs fun mid hmid _ _ => hone mid _ hmid
  · exact hs

theorem submitBatches_invariant {queue callFence : Nat}
    (hone : ∀ s last si, P s → P (submitBatch queue callFence last s si))
    (submits : List SubmitInfo) (verdicts : List Bool) {s : ReadbackState} (hs : P s) :
    P (s.submitBatches queue callFence submits verdicts) := by
  induction submits generalizing verdicts s with
  | nil => exact hs
  | cons si rest ih =>
    match verdicts with
    | [] => exact hs
    | false :: _ => exact hs
    | true :: verdicts => exact ih verdicts (hone s rest.isEmpty si hs)

end ReadbackState

end VkRelay.Readback
