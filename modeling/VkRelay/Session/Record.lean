import VkRelay.Session.Transfers

/-!
The record request: the dispatch over command kinds, the end-of-stream checks,
and how an accepted or rejected stream changes the command buffer. The pass is
the worker's only look at a stream, so what it accepts is what a submit runs.
-/

namespace VkRelay.Session

open VkRelay.Lib

def recordCommand (ctx : RecordContext) (r : Recording) (c : RecordedCommand) :
    Except String Recording :=
  match c.kind with
  | .pipelineBarrier => recordPipelineBarrier ctx c r
  | .clearColorImage => recordClearColorImage ctx c r
  | .beginRenderPass => recordBeginRenderPass ctx c r
  | .endRenderPass => recordEndRenderPass r
  | .bindPipeline => recordBindPipeline ctx c r
  | .setViewport => .ok { r with viewportSet := true }
  | .setScissor => .ok { r with scissorSet := true }
  | .bindVertexBuffers => recordBindVertexBuffers ctx c r
  | .bindDescriptorSets => recordBindDescriptorSets ctx c r
  | .bindIndexBuffer => recordBindIndexBuffer ctx c r
  | .draw | .drawIndirectByteCount | .drawIndirect | .drawIndexedIndirect | .drawIndirectCount
  | .drawIndexedIndirectCount => recordDraw ctx c r
  | .dispatch => recordDispatch ctx c r
  | .dispatchIndirect => recordDispatchIndirect ctx c r
  | .memoryBarrierGlobal => recordMemoryBarrier c r
  | .bufferMemoryBarrier => recordBufferMemoryBarrier ctx c r
  | .cmdSetEvent | .cmdResetEvent => recordEvent ctx c r
  | .cmdWaitEvents => recordWaitEvents ctx c r
  | .pipelineBarrier2 => recordPipelineBarrier2 ctx c r
  | .writeTimestamp2 => recordWriteTimestamp2 ctx c r
  | .cmdSetEvent2 => recordSetEvent2 ctx c r
  | .cmdResetEvent2 => recordResetEvent2 ctx c r
  | .cmdWaitEvents2 => recordWaitEvents2 ctx c r
  | .copyBufferToImage => recordCopyBufferToImage ctx c r
  | .copyBuffer => recordCopyBuffer ctx c r
  | .fillBuffer => recordFillBuffer ctx c r
  | .copyImageToBuffer => recordCopyImageToBuffer ctx c r
  | .clearAttachments => recordClearAttachments c r
  | .blitImage => recordBlitImage ctx c r
  | .copyImage => recordCopyImage ctx c r
  | .resolveImage => recordResolveImage ctx c r
  | .bindTransformFeedbackBuffers => recordBindTransformFeedbackBuffers ctx c r
  | .beginTransformFeedback => recordBeginTransformFeedback ctx c r
  | .endTransformFeedback => recordEndTransformFeedback ctx c r
  | .beginConditionalRendering => recordBeginConditionalRendering ctx c r
  | .endConditionalRendering => recordEndConditionalRendering ctx r
  | .resetQueryPool => recordResetQueryPool ctx c r
  | .beginQuery => recordBeginQuery ctx c r
  | .endQuery => recordEndQuery ctx c r
  | .writeTimestamp => recordWriteTimestamp ctx c r
  | .copyQueryPoolResults => recordCopyQueryPoolResults ctx c r
  | .setCullMode | .setFrontFace | .setPrimitiveTopology | .setDepthTestEnable
  | .setDepthWriteEnable | .setDepthCompareOp | .setDepthBoundsTestEnable
  | .setStencilTestEnable => recordDynamicState ctx c r
  | .setStencilOp => recordSetStencilOp ctx c r
  | .setViewportWithCount => recordSetViewportWithCount ctx c r
  | .setScissorWithCount => recordSetScissorWithCount ctx c r
  | .bindVertexBuffers2 => recordBindVertexBuffers2 ctx c r
  | .setRasterizerDiscardEnable | .setDepthBiasEnable | .setPrimitiveRestartEnable =>
    recordCore13State ctx c r
  | .beginRendering => recordBeginRendering ctx c r
  | .endRendering => recordEndRendering r
  -- The real backend replays these; the mock's pass has no branch for them.
  | .unknown | .drawIndexed | .pushConstants | .setLineWidth | .setDepthBias | .setBlendConstants
  | .setDepthBounds | .setStencilCompareMask | .setStencilWriteMask | .setStencilReference =>
    .error "unknown command kind"

def recordCommands (ctx : RecordContext) (r : Recording) :
    List RecordedCommand → Except String Recording
  | [] => .ok r
  | c :: rest => do
    let next ← recordCommand ctx r c
    recordCommands ctx next rest

variable {ctx : RecordContext} {r last : Recording}

/-- A stream is taken command by command. -/
theorem recordCommands_append {first second : List RecordedCommand} :
    recordCommands ctx r (first ++ second) = .ok last ↔
      ∃ mid, recordCommands ctx r first = .ok mid ∧ recordCommands ctx mid second = .ok last := by
  induction first generalizing r with
  | nil => simp [recordCommands]
  | cons c rest ih =>
    simp only [List.cons_append, recordCommands, ok_rules, ih]
    constructor
    · rintro ⟨next, hnext, mid, hrest, hlast⟩
      exact ⟨mid, ⟨next, hnext, hrest⟩, hlast⟩
    · rintro ⟨mid, ⟨next, hnext, hrest⟩, hlast⟩
      exact ⟨next, hnext, mid, hrest, hlast⟩

theorem recordCommands_cons {c : RecordedCommand} {rest : List RecordedCommand} :
    recordCommands ctx r (c :: rest) = .ok last ↔
      ∃ next, recordCommand ctx r c = .ok next ∧ recordCommands ctx next rest = .ok last := by
  simp only [recordCommands, ok_rules]

/-- Every command of an accepted stream was accepted in the state it was met in. -/
theorem recordCommand_of_mem {commands : List RecordedCommand}
    (hok : recordCommands ctx r commands = .ok last) {c : RecordedCommand} (hmem : c ∈ commands) :
    ∃ before after, recordCommand ctx before c = .ok after := by
  obtain ⟨first, second, rfl⟩ := List.append_of_mem hmem
  obtain ⟨mid, -, hsecond⟩ := recordCommands_append.mp hok
  obtain ⟨next, hnext, -⟩ := recordCommands_cons.mp hsecond
  exact ⟨mid, next, hnext⟩

/-- Nothing may be left open at the end of the stream. -/
def endOfStream (r : Recording) : Except String Unit := do
  rejectIf (r.activeQueries.Nonempty)
    "command stream ends with an active query (begin without end)"
  rejectIf (r.activeScope ≠ .none) "command stream ends inside an active render scope"
  rejectIf r.xfbActive "command stream ends with active transform feedback"
  rejectIf r.condRenderActive "command stream ends with active conditional rendering"

structure RecordCommandBufferRequest where
  commandBuffer : Nat := 0
  recordingGeneration : Nat := 0
  commands : List RecordedCommand := []

namespace Backend

/-- The tables as a recording sees them: the retired resources it holds a lease
on resolve again. -/
def exposeImages (s : Backend) (key : LeaseKey) : Table Image :=
  s.retiredImages.toList.foldl
    (fun table entry => if key ∈ entry.2.leases then table.insertIfNew entry.1 entry.2.image
      else table)
    s.images

def exposeBuffers (s : Backend) (key : LeaseKey) : Table Buffer :=
  s.retiredBuffers.toList.foldl
    (fun table entry => if key ∈ entry.2.leases then table.insertIfNew entry.1 entry.2.buffer
      else table)
    s.buffers

def expose (s : Backend) (commandBuffer generation : Nat) : Backend :=
  if generation = 0 then s
  else { s with
         images := s.exposeImages (commandBuffer, generation)
         buffers := s.exposeBuffers (commandBuffer, generation) }

def validateStream (s : Backend) (device : Nat) (commands : List RecordedCommand) :
    Except String Recording := do
  let mdev ← find s.devices device "command buffer has no live device"
  let r ← recordCommands { backend := s, device, mdev } {} commands
  endOfStream r
  return r

/-- A request with a newer generation gives up the leases of the older ones and
forgets what was recorded, whether or not its own stream is then accepted. -/
def supersede (s : Backend) (commandBuffer generation : Nat) : Backend :=
  let released := s.releaseRecordingLeasesForCommandBuffer commandBuffer generation
  { released with
    commandBuffers := released.commandBuffers.modify commandBuffer fun cb =>
      { cb.drop with recordingGeneration := generation } }

def storeRecording (s : Backend) (req : RecordCommandBufferRequest) (r : Recording) : Backend :=
  { s with
    commandBuffers := s.commandBuffers.modify req.commandBuffer fun cb =>
      { cb with
        recorded := true
        recordingGeneration :=
          if req.recordingGeneration = 0 then cb.recordingGeneration else req.recordingGeneration
        referencedSurfaces := r.referencedSurfaces
        referencedSwapchains := r.referencedSwapchains
        referencedDrawObjects := r.referencedDrawObjects
        commands := req.commands } }

def supersedeOlder (s : Backend) (req : RecordCommandBufferRequest) (cb : CmdBuffer) : Backend :=
  if req.recordingGeneration ≠ 0 ∧ cb.recordingGeneration < req.recordingGeneration then
    s.supersede req.commandBuffer req.recordingGeneration
  else s

/-- The tables the pass reads. The source adds the leased resources to the live
tables for the time of the pass and takes them out again. -/
def passTables (s : Backend) (req : RecordCommandBufferRequest) (cb : CmdBuffer) : Backend :=
  (s.supersedeOlder req cb).expose req.commandBuffer req.recordingGeneration

def recordCommandBuffer (s : Backend) (req : RecordCommandBufferRequest) :
    Backend × Except String Unit :=
  match s.commandBuffers[req.commandBuffer]? with
  | none => (s, .error "unknown command buffer handle")
  | some cb =>
    if req.recordingGeneration ≠ 0 ∧ req.recordingGeneration < cb.recordingGeneration then
      (s, .error "recording generation is stale")
    else
      match (s.passTables req cb).validateStream cb.device req.commands with
      | .error reason => (s.supersedeOlder req cb, .error reason)
      | .ok r => ((s.supersedeOlder req cb).storeRecording req r, .ok ())

/-- The pass that accepted a stream: the command buffer and device it ran for and
what it knew at the end. -/
structure Pass (s : Backend) (req : RecordCommandBufferRequest) where
  cb : CmdBuffer
  mdev : Device
  last : Recording
  found : s.commandBuffers[req.commandBuffer]? = some cb
  fresh : req.recordingGeneration = 0 ∨ cb.recordingGeneration ≤ req.recordingGeneration
  device : (s.passTables req cb).devices[cb.device]? = some mdev
  recorded : recordCommands { backend := s.passTables req cb, device := cb.device, mdev } {}
    req.commands = .ok last
  closed : endOfStream last = .ok ()
  stored : (s.recordCommandBuffer req).1 = (s.supersedeOlder req cb).storeRecording req last

theorem exists_pass {s : Backend} {req : RecordCommandBufferRequest}
    (hok : (s.recordCommandBuffer req).2 = .ok ()) : Nonempty (Pass s req) := by
  cases hcb : s.commandBuffers[req.commandBuffer]? with
  | none => simp [recordCommandBuffer, hcb] at hok
  | some cb =>
    by_cases hstale : req.recordingGeneration ≠ 0 ∧ req.recordingGeneration < cb.recordingGeneration
    · simp [recordCommandBuffer, hcb, hstale] at hok
    · cases hvalid : (s.passTables req cb).validateStream cb.device req.commands with
      | error reason => simp [recordCommandBuffer, hcb, hstale, hvalid] at hok
      | ok last =>
        have hstored : (s.recordCommandBuffer req).1 =
            (s.supersedeOlder req cb).storeRecording req last := by
          simp [recordCommandBuffer, hcb, hstale, hvalid]
        simp only [validateStream, accept_rules] at hvalid
        obtain ⟨mdev, hdevice, r, hrecorded, ⟨⟩, hclosed, rfl⟩ := hvalid
        exact ⟨cb, mdev, r, hcb, by omega, hdevice, hrecorded, hclosed, hstored⟩

def maxRecordingResourceLeasesPerRequest : Nat := 256

/-- Give up leases and forget what was recorded in the generations named. The
source goes through the keys in ascending order. -/
def retireRecording (s : Backend) (key : LeaseKey) : Backend :=
  let released := s.releaseRecordingLease key
  { released with
    commandBuffers := released.commandBuffers.modify key.1 fun cb =>
      if cb.recordingGeneration = key.2 then cb.drop else cb }

def retireCommandBufferRecordings (s : Backend) (recordings : List LeaseKey) :
    Except String Backend := do
  rejectIf (recordings.isEmpty ∨ recordings.length > maxRecordingResourceLeasesPerRequest)
    "retire recordings has an invalid recording count"
  rejectIf ((recordings.any fun key => key.1 == 0 || key.2 == 0) ∨ ¬recordings.Nodup)
    "retire recordings references an invalid command-buffer generation"
  return (recordings.insertionSort fun a b => a.1 < b.1 ∨ (a.1 = b.1 ∧ a.2 ≤ b.2)).foldl
    retireRecording s

end Backend

end VkRelay.Session
