import VkRelay.Control.Gpu
import VkRelay.Lib.Folds
import VkRelay.Supervisor.Model

/-!
A control session after its handshake: it receives messages until the stream ends and answers
each but a heartbeat. The launcher behind it and the snapshots it resolves have a state of their
own. Exceptions are caught around a launch only: one that the parsing of a selector throws, or
the sending of a reply above the frame cap, ends the session without a reply.
-/

namespace VkRelay.Control

open VkRelay.Lib VkRelay.Json VkRelay.Wire VkRelay.Wire.Record VkRelay.Display
open VkRelay.Supervisor (SessionInfo)

/-! ## Messages -/

structure LaunchSession where
  appInstanceId : Bytes
  gpuSelector : Bytes
  displayBackend : Bytes
  graphicsFrontend : Bytes
  profileEnabled : Bool
  opTraceEnabled : Bool
  inputTraceEnabled : Bool
  displaySnapshotId : Bytes

def LaunchSession.fromBody (body : Value) : LaunchSession where
  appInstanceId := getString body "app_instance_id" ""
  gpuSelector := getString body "gpu_selector" "auto"
  displayBackend := getString body "display_backend" "auto"
  graphicsFrontend := getString body "graphics_frontend" "auto"
  profileEnabled := getBool body "profile_enabled"
  opTraceEnabled := getBool body "op_trace_enabled"
  inputTraceEnabled := getBool body "input_trace_enabled"
  displaySnapshotId := getString body "display_snapshot_id" ""

/-- `SessionStarted::to_body`. -/
def startedToBody (info : SessionInfo) : Value :=
  .object ([(ascii "worker_id", .string info.workerId),
    (ascii "data_plane_host", .string info.dataPlaneHost),
    (ascii "data_plane_port", .number info.dataPlanePort),
    (ascii "app_token", .string info.appToken),
    (ascii "sidecar_plane_host", .string info.sidecarPlaneHost),
    (ascii "sidecar_plane_port", .number info.sidecarPlanePort),
    (ascii "sidecar_token", .string info.sidecarToken),
    (ascii "op_trace_path", .string info.opTracePath)] ++
    if info.displaySnapshotId = [] then []
    else [(ascii "display_snapshot_id", .string info.displaySnapshotId)])

structure SessionClosed where
  workerId : Bytes
  accepted : Bool := false
  reason : Bytes := []

def SessionClosed.toBody (s : SessionClosed) : Value :=
  .object [(ascii "worker_id", .string s.workerId), (ascii "accepted", .bool s.accepted),
    (ascii "reason", .string s.reason)]

def selectResponse (ok : Bool) (reason : Bytes) (device : GpuDevice) : ControlMessage :=
  ⟨.gpuSelectResponse, .object [(ascii "ok", .bool ok), (ascii "reason", .string reason),
    (ascii "device", gpuDeviceToJson device)]⟩

def errorReply (code : String) (message : Bytes) : ControlMessage :=
  ⟨.error, ErrorMsg.toBody ⟨ascii code, message⟩⟩

/-! ## The endpoint -/

/-- A launch returns the session or throws; a close returns its verdict with a reason. -/
structure Launcher (σ : Type) where
  launch : σ → (appInstanceId : Bytes) → LaunchSession → Option DisplayLayout →
    Except Bytes SessionInfo × σ
  close : σ → (appInstanceId workerId appToken : Bytes) → (Bool × Bytes) × σ

structure Endpoint (σ : Type) where
  devices : List GpuDevice
  devicesReal : Bool
  launcher : Option (Launcher σ)
  /-- `resolve_copy` of the provider, where there is one. -/
  resolveCopy : Option (σ → Bytes → Except Bytes DisplayLayout)
  client : ClientHello

/-- `MessageChannel::send`, by what it throws. -/
def send (msg : ControlMessage) : Except String Unit :=
  (fun _ => ()) <$> encodeFrame (encodeMessage msg)

variable {σ : Type}

namespace Endpoint

variable (ep : Endpoint σ)

def selectReply (body : Value) : Except String ControlMessage :=
  let selector := getString body "selector" "auto"
  (fun parsed => match parsed with
    | .error reason => selectResponse false reason {}
    | .ok parsed =>
      match selectDevice ep.devices parsed selector with
      | .error reason => selectResponse false reason {}
      | .ok chosen => selectResponse true (selectedReason chosen) chosen) <$>
    parseSelector selector

/-- The layout a launch is pinned to, or the error that refuses the request. -/
def pinnedLayout (s : σ) (snapshotId : Bytes) : Except ControlMessage (Option DisplayLayout) :=
  match ep.resolveCopy with
  | none => .ok none
  | some resolve =>
    if snapshotId = [] then
      .error (errorReply "display_snapshot_required"
        (ascii "launch_session must name the snapshot returned by the host-display query"))
    else
      match resolve s snapshotId with
      | .error reason => .error (errorReply "display_snapshot_not_found" reason)
      | .ok layout => .ok (some layout)

/-- The launch and the sending of its result are tried together. -/
def launchReply (s : σ) (req : LaunchSession) : ControlMessage × σ :=
  match ep.launcher with
  | none => (errorReply "launch_unsupported"
      (ascii "this endpoint cannot launch worker sessions"), s)
  | some launcher =>
    if req.appInstanceId ≠ [] ∧ req.appInstanceId ≠ ep.client.appInstanceId then
      (errorReply "app_identity_mismatch"
        (ascii "launch_session app_instance_id does not match the handshake identity"), s)
    else
      match ep.pinnedLayout s req.displaySnapshotId with
      | .error refusal => (refusal, s)
      | .ok layout =>
        match launcher.launch s ep.client.appInstanceId req layout with
        | (.error what, next) => (errorReply "launch_failed" what, next)
        | (.ok info, next) =>
          match send ⟨.sessionStarted, startedToBody info⟩ with
          | .error what => (errorReply "launch_failed" (ascii what), next)
          | .ok () => (⟨.sessionStarted, startedToBody info⟩, next)

def closeReply (s : σ) (body : Value) : ControlMessage × σ :=
  let workerId := getString body "worker_id" ""
  let appToken := getString body "app_token" ""
  let closed (accepted : Bool) (reason : Bytes) : ControlMessage :=
    ⟨.sessionClosed, SessionClosed.toBody ⟨workerId, accepted, reason⟩⟩
  match ep.launcher with
  | none => (closed false (ascii "this endpoint cannot close worker sessions"), s)
  | some launcher =>
    if workerId = [] ∨ appToken = [] then
      (closed false (ascii "close_session requires worker_id and app_token"), s)
    else
      match launcher.close s ep.client.appInstanceId workerId appToken with
      | ((accepted, reason), next) => (closed accepted reason, next)

/-- The reply a message is given, or the exception thrown before there is one. -/
def reply (s : σ) (msg : ControlMessage) : Except String (Option ControlMessage) × σ :=
  match msg.type with
  | .gpuListRequest =>
    (.ok (some ⟨.gpuListResponse, gpuListToBody ep.devices ep.devicesReal⟩), s)
  | .gpuSelectRequest => (some <$> ep.selectReply msg.body, s)
  | .heartbeat => (.ok none, s)
  | .launchSession =>
    let (answer, next) := ep.launchReply s (LaunchSession.fromBody msg.body)
    (.ok (some answer), next)
  | .closeSession =>
    let (answer, next) := ep.closeReply s msg.body
    (.ok (some answer), next)
  | type => (.ok (some (errorReply "unsupported_request"
      (ascii "unsupported message: " ++ ascii type.toText))), s)

/-- The replies sent, and how the session ends: by returning at the end of the stream, or by an
exception. -/
def serve : σ → List ControlMessage → List ControlMessage × Except String Unit
  | _, [] => ([], .ok ())
  | s, msg :: rest =>
    match ep.reply s msg with
    | (.error what, _) => ([], .error what)
    | (.ok none, next) => serve next rest
    | (.ok (some answer), next) =>
      match send answer with
      | .error what => ([], .error what)
      | .ok () =>
        let (replies, result) := serve next rest
        (answer :: replies, result)

/-! ## One reply per request -/

def responseType : MessageType → MessageType
  | .gpuListRequest => .gpuListResponse
  | .gpuSelectRequest => .gpuSelectResponse
  | .launchSession => .sessionStarted
  | .closeSession => .sessionClosed
  | _ => .error

def Answers (msg answer : ControlMessage) : Prop :=
  answer.type = responseType msg.type ∨ answer.type = .error

def requests (msgs : List ControlMessage) : List ControlMessage :=
  msgs.filter fun msg => decide (msg.type ≠ .heartbeat)

/-- The session can answer: the selector of the message is none that overflows, and the reply to
it fits a frame. -/
def Answerable (s : σ) (msg : ControlMessage) : Prop :=
  (msg.type = .gpuSelectRequest → ¬IndexOverflows (getString msg.body "selector" "auto")) ∧
    ∀ answer, (ep.reply s msg).1 = .ok (some answer) →
      (encodeMessage answer).length ≤ kMaxFrameBytes

variable (s : σ) (msg : ControlMessage)

theorem send_cases : send msg = .ok () ∧ (encodeMessage msg).length ≤ kMaxFrameBytes ∨
      (∃ what, send msg = .error what) ∧ ¬(encodeMessage msg).length ≤ kMaxFrameBytes := by
  by_cases hfits : (encodeMessage msg).length ≤ kMaxFrameBytes
  · exact .inl ⟨by rw [send, encodeFrame, if_neg (by omega)]; rfl, hfits⟩
  · exact .inr ⟨⟨_, by rw [send, encodeFrame, if_pos (by omega)]; rfl⟩, hfits⟩

theorem launchReply_type (req : LaunchSession) :
    (ep.launchReply s req).1.type = .sessionStarted ∨ (ep.launchReply s req).1.type = .error := by
  have hpinned : ∀ refusal, ep.pinnedLayout s req.displaySnapshotId = .error refusal →
      refusal.type = .error := by
    intro refusal hrefusal
    unfold pinnedLayout at hrefusal
    split at hrefusal
    · cases hrefusal
    · split_ifs at hrefusal
      · cases hrefusal
        rfl
      · split at hrefusal <;> cases hrefusal
        rfl
  unfold launchReply
  split
  · exact .inr rfl
  · split_ifs
    · exact .inr rfl
    · split
      next refusal hrefusal => exact .inr (hpinned refusal hrefusal)
      next =>
        split
        · exact .inr rfl
        · split
          · exact .inr rfl
          · exact .inl rfl

theorem closeReply_type (body : Value) : (ep.closeReply s body).1.type = .sessionClosed := by
  simp only [closeReply]
  split
  · rfl
  · split_ifs <;> rfl

/-- What a message is given: an exception at an index that overflows, nothing at a heartbeat, and
otherwise a reply of its kind. -/
theorem reply_cases : ((∃ what, (ep.reply s msg).1 = .error what) ∧ msg.type = .gpuSelectRequest ∧
        IndexOverflows (getString msg.body "selector" "auto")) ∨
      (msg.type = .gpuSelectRequest → ¬IndexOverflows (getString msg.body "selector" "auto")) ∧
        ((ep.reply s msg).1 = .ok none ∧ msg.type = .heartbeat ∨
          ∃ answer, (ep.reply s msg).1 = .ok (some answer) ∧ msg.type ≠ .heartbeat ∧
            Answers msg answer) := by
  obtain ⟨type, body⟩ := msg
  by_cases hselect : type = .gpuSelectRequest
  · subst hselect
    have hreply : (ep.reply s ⟨.gpuSelectRequest, body⟩).1 = some <$> ep.selectReply body := rfl
    have hthrows := parseSelector_throws_iff (getString body "selector" "auto")
    rw [hreply, selectReply]
    cases hparse : parseSelector (getString body "selector" "auto") with
    | error what =>
      rw [hparse] at hthrows
      exact .inl ⟨⟨what, rfl⟩, rfl, hthrows.mp ⟨what, rfl⟩⟩
    | ok parsed =>
      rw [hparse] at hthrows
      refine .inr ⟨fun _ => mt hthrows.mpr (by simp), .inr ⟨_, rfl, by simp, .inl ?_⟩⟩
      rcases parsed with reason | parsed
      · rfl
      · simp only
        split <;> rfl
  · refine .inr ⟨fun h => absurd h hselect, ?_⟩
    by_cases hbeat : type = .heartbeat
    · subst hbeat
      exact .inl ⟨rfl, rfl⟩
    · refine .inr ?_
      cases type with
      | gpuSelectRequest => exact absurd rfl hselect
      | heartbeat => exact absurd rfl hbeat
      | launchSession => exact ⟨_, rfl, hbeat, ep.launchReply_type s _⟩
      | closeSession => exact ⟨_, rfl, hbeat, .inl (ep.closeReply_type s body)⟩
      | _ => exact ⟨_, rfl, hbeat, .inl rfl⟩

/-- A session answers every request and ends with the stream exactly when it can answer each
message in the state it finds. -/
theorem serve_answers_iff (s : σ) (msgs : List ControlMessage) :
    (ep.serve s msgs).2 = .ok () ∧ List.Forall₂ Answers (requests msgs) (ep.serve s msgs).1 ↔
      AlongFold (fun s msg => (ep.reply s msg).2) ep.Answerable s msgs := by
  induction msgs generalizing s with
  | nil => simp [serve, requests, AlongFold]
  | cons msg msgs ih =>
    rw [AlongFold, ← ih]
    rcases hreply : ep.reply s msg with ⟨result, next⟩
    have hcases := ep.reply_cases s msg
    rw [hreply] at hcases
    rcases hcases with ⟨⟨what, rfl⟩, hselect, hindex⟩ | ⟨hindex, hrest⟩
    · refine iff_of_false ?_ fun hright => hright.1.1 hselect hindex
      simp [serve, hreply]
    · rcases hrest with ⟨rfl, hbeat⟩ | ⟨answer, rfl, hbeat, hanswers⟩
      · have hable : ep.Answerable s msg := ⟨hindex, by simp [hreply]⟩
        simp [serve, hreply, requests, hbeat, hable]
      · have hable : ep.Answerable s msg ↔ (encodeMessage answer).length ≤ kMaxFrameBytes := by
          exact ⟨fun h => h.2 answer (by rw [hreply]), fun h => ⟨hindex, by simpa [hreply]⟩⟩
        rw [hable]
        rcases send_cases answer with ⟨hsend, hfits⟩ | ⟨⟨what, hsend⟩, hlong⟩
        · simp [serve, hreply, hsend, hfits, requests, hbeat, hanswers]
        · simp [serve, hreply, hsend, hlong]

end Endpoint

def bareEndpoint : Endpoint Unit where
  devices := []
  devicesReal := true
  launcher := none
  resolveCopy := none
  client := ClientHello.fromBody .null

/-- An index one above the largest `int`: the session ends without a reply. -/
theorem index_overflow_unanswered :
    (bareEndpoint.serve () [⟨.gpuSelectRequest,
        .object [(ascii "selector", .string (ascii "index:2147483648"))]⟩]).1.length = 0 ∧
      (bareEndpoint.serve () [⟨.gpuSelectRequest,
        .object [(ascii "selector", .string (ascii "index:2147483648"))]⟩]).2 = .error "stoi" := by
  decide +kernel

end VkRelay.Control
