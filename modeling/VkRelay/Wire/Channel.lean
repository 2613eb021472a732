import VkRelay.Lib.Frames
import VkRelay.Lib.Machine
import VkRelay.Wire.Envelope

/-!
The framed channels. `try_decode_frame` takes a length-prefixed frame off a
buffer; `RpcChannel::recv` and `MessageChannel::recv` drive it with reads of any
size and decode the payload. Both deliver the messages that were sent, in order,
whatever the reads; a stream that is cut inside a frame, or that announces a frame
above the cap, ends in an error after them.
-/

namespace VkRelay.Wire

open VkRelay.Lib VkRelay.Json

section Frames

/-- A four-byte length and the payload; a payload above the cap is refused. -/
def encodeFrame (payload : Bytes) : Except String Bytes :=
  if payload.length > kMaxFrameBytes then .error "frame payload exceeds kMaxFrameBytes"
  else .ok (storeLe32 payload.length ++ payload)

inductive FrameStatus where
  | ok (consumed : Nat) (payload : Bytes)
  | needMore
  | error (text : String)
deriving DecidableEq

def frameTooLong (len : Nat) : String :=
  "frame length " ++ toString len ++ " exceeds kMaxFrameBytes"

def tryDecodeFrame (buffer : Bytes) : FrameStatus :=
  if buffer.length < 4 then .needMore
  else
    let len := loadLe32 buffer
    if len > kMaxFrameBytes then .error (frameTooLong len)
    else if buffer.length - 4 < len then .needMore
    else .ok (4 + len) ((buffer.drop 4).take len)

end Frames

/-- A channel: the bytes left over and the reads its connection will return. -/
abbrev Channel := Intake UInt8

/-- What a call of `recv` ends with: a message, `false`, or an exception. -/
inductive RecvResult (μ : Type) where
  | message (msg : μ)
  | closed
  | thrown (reason : String)
deriving DecidableEq

/-- The texts in which the two channels differ. -/
structure ChannelTexts where
  malformed : String
  framing : String
  midFrame : String

section Recv

variable {μ : Type} (decode : Bytes → Except String μ) (texts : ChannelTexts)

/-- What the buffer alone settles; `none` asks for more bytes. -/
def tryBuffer (buffer : Bytes) (reads : List Bytes) : Option (RecvResult μ × Channel) :=
  match tryDecodeFrame buffer with
  | .ok consumed payload =>
    match decode payload with
    | .error error => some (.thrown (texts.malformed ++ error), ⟨buffer.drop consumed, reads⟩)
    | .ok msg => some (.message msg, ⟨buffer.drop consumed, reads⟩)
  | .error error => some (.thrown (texts.framing ++ error), ⟨buffer, reads⟩)
  | .needMore => none

/-- A read that returned nothing. -/
def endOfStream (buffer : Bytes) : RecvResult μ :=
  if buffer.isEmpty then .closed else .thrown texts.midFrame

/-- The loop both channels run: try the buffer, and read on while it holds no whole
frame. -/
def recvWith (buffer : Bytes) : List Bytes → RecvResult μ × Channel
  | [] => (tryBuffer decode texts buffer []).getD (endOfStream texts buffer, ⟨buffer, []⟩)
  | chunk :: later =>
    match tryBuffer decode texts buffer (chunk :: later) with
    | some result => result
    | none =>
      if chunk.isEmpty then (endOfStream texts buffer, ⟨buffer, later⟩)
      else recvWith (buffer ++ chunk) later

end Recv

section Rpc

structure RpcMessage where
  op : UInt32 := 0
  requestId : UInt32 := 0
  status : UInt32 := 0
  body : Bytes := []
deriving DecidableEq

def encodeRpc (msg : RpcMessage) : Bytes :=
  storeLe32 msg.op.toNat ++ storeLe32 msg.requestId.toNat ++ storeLe32 msg.status.toNat ++ msg.body

def decodeRpc (payload : Bytes) : Except String RpcMessage :=
  if payload.length < kRpcHeaderBytes then .error "rpc payload shorter than header"
  else
    .ok { op := UInt32.ofNat (loadLe32 payload)
          requestId := UInt32.ofNat (loadLe32 (payload.drop 4))
          status := UInt32.ofNat (loadLe32 (payload.drop 8))
          body := payload.drop kRpcHeaderBytes }

def rpcTexts : ChannelTexts where
  malformed := "malformed rpc: "
  framing := "rpc framing error: "
  midFrame := "connection closed mid-rpc-frame"

def RpcChannel.recv (ch : Channel) : RecvResult RpcMessage × Channel :=
  recvWith decodeRpc rpcTexts ch.buffer ch.reads

end Rpc

section Control

inductive MessageType where
  | unknown
  | hello
  | helloAck
  | error
  | gpuListRequest
  | gpuListResponse
  | gpuSelectRequest
  | gpuSelectResponse
  | workerHello
  | workerAck
  | heartbeat
  | launchSession
  | sessionStarted
  | closeSession
  | sessionClosed
  | appHello
  | appAck
  | sidecarHello
  | sidecarAck
deriving DecidableEq, Repr

namespace MessageType

def toText : MessageType → String
  | .hello => "hello"
  | .helloAck => "hello_ack"
  | .error => "error"
  | .gpuListRequest => "gpu_list_request"
  | .gpuListResponse => "gpu_list_response"
  | .gpuSelectRequest => "gpu_select_request"
  | .gpuSelectResponse => "gpu_select_response"
  | .workerHello => "worker_hello"
  | .workerAck => "worker_ack"
  | .heartbeat => "heartbeat"
  | .launchSession => "launch_session"
  | .sessionStarted => "session_started"
  | .closeSession => "close_session"
  | .sessionClosed => "session_closed"
  | .appHello => "app_hello"
  | .appAck => "app_ack"
  | .sidecarHello => "sidecar_hello"
  | .sidecarAck => "sidecar_ack"
  | .unknown => "unknown"

/-- The types `message_type_from_string` compares with, in its order. -/
def named : List MessageType :=
  [.hello, .helloAck, .error, .gpuListRequest, .gpuListResponse, .gpuSelectRequest,
    .gpuSelectResponse, .workerHello, .workerAck, .heartbeat, .launchSession, .sessionStarted,
    .closeSession, .sessionClosed, .appHello, .appAck, .sidecarHello, .sidecarAck]

def ofText (name : Bytes) : MessageType :=
  (named.find? fun type => ascii type.toText = name).getD .unknown

theorem ofText_toText (type : MessageType) : ofText (ascii type.toText) = type := by
  cases type <;> decide +kernel

end MessageType

structure ControlMessage where
  type : MessageType
  body : Value

def ControlMessage.root (msg : ControlMessage) : Value :=
  ((Value.object []).set (ascii "type") (.string (ascii msg.type.toText))).set (ascii "body")
    msg.body

def encodeMessage (msg : ControlMessage) : Bytes := dump msg.root 0

def decodeMessage (payload : Bytes) : Except String ControlMessage :=
  match parseDocument payload with
  | .error failure => .error (failureText failure)
  | .ok root =>
    if !root.isObject then .error "message is not a JSON object"
    else
      match root.find (ascii "type") with
      | some (.string text) =>
        .ok ⟨MessageType.ofText text, (root.find (ascii "body")).getD (.object [])⟩
      | _ => .error "message missing string 'type'"

def messageTexts : ChannelTexts where
  malformed := "malformed message: "
  framing := "framing error: "
  midFrame := "connection closed mid-frame"

def MessageChannel.recv (ch : Channel) : RecvResult ControlMessage × Channel :=
  recvWith decodeMessage messageTexts ch.buffer ch.reads

end Control

section Words

theorem loadLe32_append {front : Bytes} (hfront : 4 ≤ front.length) (rest : Bytes) :
    loadLe32 (front ++ rest) = loadLe32 front := by
  rw [loadLe32, loadLe32, List.take_append_of_le_length hfront]

@[simp] theorem length_storeLe32 (value : Nat) : (storeLe32 value).length = 4 := rfl

end Words

section Fronts

/-- `try_decode_frame` as a splitter of buffers. -/
def frontOf (buffer : Bytes) : Front UInt8 Bytes String :=
  match tryDecodeFrame buffer with
  | .ok consumed payload => .frame payload (buffer.drop consumed)
  | .needMore => .needMore
  | .error text => .broken text

def frame (payload : Bytes) : Bytes := storeLe32 payload.length ++ payload

theorem kMaxFrameBytes_lt : kMaxFrameBytes < 2 ^ 32 := by decide

theorem frontOf_short {buffer : Bytes} (hshort : buffer.length < 4) :
    frontOf buffer = .needMore := by
  simp [frontOf, tryDecodeFrame, hshort]

/-- A frame within the cap is decided by its own bytes. -/
theorem decides_frame {payload : Bytes} (hcap : payload.length ≤ kMaxFrameBytes) :
    Decides frontOf (frame payload) (.frame payload) := by
  have hlt : payload.length < 2 ^ 32 := lt_of_le_of_lt hcap kMaxFrameBytes_lt
  have hcap : ¬ payload.length > kMaxFrameBytes := not_lt.mpr hcap
  have hload : ∀ rest, loadLe32 (frame payload ++ rest) = payload.length := by
    intro rest
    rw [frame, List.append_assoc]
    exact loadLe32_storeLe32 hlt _
  constructor
  · intro rest
    have hlength : (frame payload ++ rest).length = 4 + payload.length + rest.length := by
      simp [frame, Nat.add_assoc]
    have hlong : ¬ (frame payload ++ rest).length < 4 := by omega
    have hwhole : ¬ (frame payload ++ rest).length - 4 < payload.length := by omega
    have hpayload : ((frame payload ++ rest).drop 4).take payload.length = payload := by
      simp [frame, storeLe32]
    have hrest : (frame payload ++ rest).drop (4 + payload.length) = rest := by
      rw [← List.drop_drop]
      simp [frame, storeLe32]
    simp only [frontOf, tryDecodeFrame, hlong, hload, hcap, hwhole, if_false, hpayload, hrest]
  · intro seen missing hword hmissing
    by_cases hshort : seen.length < 4
    · exact frontOf_short hshort
    · have hpos := List.length_pos_of_ne_nil hmissing
      have hlength := congrArg List.length hword
      simp only [frame, List.length_append, length_storeLe32] at hlength
      have hseen : loadLe32 seen = payload.length := by
        rw [← loadLe32_append (not_lt.mp hshort) missing, ← hword]
        simpa using hload []
      have hpart : seen.length - 4 < payload.length := by omega
      simp only [frontOf, tryDecodeFrame, hshort, hseen, hcap, hpart, if_false, if_true]

/-- A length above the cap is decided by the length field alone. -/
theorem decides_oversized {len : Nat} (hcap : kMaxFrameBytes < len) (hlt : len < 2 ^ 32) :
    Decides frontOf (storeLe32 len) fun _ => .broken (frameTooLong len) := by
  constructor
  · intro rest
    have hlong : ¬ (storeLe32 len ++ rest).length < 4 := by simp
    simp only [frontOf, tryDecodeFrame, hlong, loadLe32_storeLe32 hlt rest, if_false, if_pos hcap]
  · intro seen missing hword hmissing
    apply frontOf_short
    have hlength := congrArg List.length hword
    have hpos := List.length_pos_of_ne_nil hmissing
    simp only [length_storeLe32, List.length_append] at hlength
    omega

end Fronts

section Results

variable {μ : Type} (decode : Bytes → Except String μ) (texts : ChannelTexts)

def recvResult : Received Bytes String → RecvResult μ
  | .frame payload =>
    match decode payload with
    | .error error => .thrown (texts.malformed ++ error)
    | .ok msg => .message msg
  | .closed => .closed
  | .truncated => .thrown texts.midFrame
  | .broken text => .thrown (texts.framing ++ text)

theorem endOfStream_eq (buffer : Bytes) :
    (endOfStream texts buffer : RecvResult μ) = recvResult decode texts (atEnd buffer) := by
  rw [endOfStream, atEnd]
  split <;> rfl

/-- `recv` is the receiver of the framing followed by the decoder. -/
theorem recvWith_eq (buffer : Bytes) (reads : List Bytes) : recvWith decode texts buffer reads =
      (recvResult decode texts (receive frontOf buffer reads).1,
        (receive frontOf buffer reads).2) := by
  induction reads generalizing buffer with
  | nil =>
    rw [recvWith, receive, tryBuffer, frontOf, endOfStream_eq decode]
    cases tryDecodeFrame buffer with
    | ok consumed payload => cases hdecode : decode payload <;> simp [recvResult, hdecode]
    | needMore => rfl
    | error text => rfl
  | cons chunk reads ih =>
    rw [recvWith, receive, tryBuffer, frontOf, endOfStream_eq decode, ih]
    cases tryDecodeFrame buffer with
    | ok consumed payload => cases hdecode : decode payload <;> simp [recvResult, hdecode]
    | needMore => by_cases hchunk : chunk.isEmpty <;> simp [hchunk]
    | error text => rfl

def recvTimes (recv : Channel → RecvResult μ × Channel) : Nat → Channel → List (RecvResult μ)
  | 0, _ => []
  | n + 1, ch => (recv ch).1 :: recvTimes recv n (recv ch).2

theorem recvTimes_eq (n : Nat) (ch : Channel) :
    recvTimes (fun ch => recvWith decode texts ch.buffer ch.reads) n ch =
      (receiveTimes frontOf n ch).1.map (recvResult decode texts) := by
  induction n generalizing ch with
  | zero => rfl
  | succ n ih =>
    rw [recvTimes, ih, recvWith_eq]
    rfl

end Results

/-- Reassembly does not depend on the reads. `fits` says which messages the channel
carries. -/
structure Reassembles {μ : Type} (recv : Channel → RecvResult μ × Channel) (encode : μ → Bytes)
    (texts : ChannelTexts) (fits : μ → Prop) : Prop where
  /-- Whole frames, then the end of the stream for good. -/
  whole : ∀ (msgs : List μ) (reads : List Bytes) (again : Nat), (∀ m ∈ msgs, fits m) →
    (∀ chunk ∈ reads, chunk ≠ []) → reads.flatten = msgs.flatMap (fun m => frame (encode m)) →
    recvTimes recv (msgs.length + (again + 1)) { reads } =
      msgs.map .message ++ List.replicate (again + 1) .closed
  /-- A stream that is cut inside a frame. -/
  cut : ∀ (msgs : List μ) (last : μ) (part missing : Bytes) (reads : List Bytes),
    (∀ m ∈ msgs, fits m) → (encode last).length ≤ kMaxFrameBytes →
    frame (encode last) = part ++ missing → part ≠ [] → missing ≠ [] →
    (∀ chunk ∈ reads, chunk ≠ []) →
    reads.flatten = msgs.flatMap (fun m => frame (encode m)) ++ part →
    recvTimes recv (msgs.length + 1) { reads } =
      msgs.map .message ++ [.thrown texts.midFrame]
  /-- A length field above the cap, whatever follows it. -/
  oversized : ∀ (msgs : List μ) (len : Nat) (tail : Bytes) (reads : List Bytes),
    (∀ m ∈ msgs, fits m) → kMaxFrameBytes < len → len < 2 ^ 32 →
    (∀ chunk ∈ reads, chunk ≠ []) →
    reads.flatten = msgs.flatMap (fun m => frame (encode m)) ++ (storeLe32 len ++ tail) →
    recvTimes recv (msgs.length + 1) { reads } =
      msgs.map .message ++ [.thrown (texts.framing ++ frameTooLong len)]

section Reassembly

variable {μ : Type} {decode : Bytes → Except String μ} {encode : μ → Bytes} {fits : μ → Prop}

variable (texts : ChannelTexts)

variable {msgs : List μ} {reads : List Bytes} {tail : Bytes}

theorem recvTimes_frames (hcap : ∀ m ∈ msgs, (encode m).length ≤ kMaxFrameBytes)
    (hreads : ∀ chunk ∈ reads, chunk ≠ [])
    (hstream : reads.flatten = msgs.flatMap (fun m => frame (encode m)) ++ tail) :
    ∃ next : Channel, next.Flowing ∧ next.stream = tail ∧
      ∀ more, recvTimes (fun ch => recvWith decode texts ch.buffer ch.reads)
        (msgs.length + more) { reads } =
          msgs.map (fun m => recvResult decode texts (.frame (encode m))) ++
            (receiveTimes frontOf more next).1.map (recvResult decode texts) := by
  have hpayloads : ∀ p ∈ msgs.map encode, Decides frontOf (frame p) (.frame p) := by
    intro p hp
    obtain ⟨m, hm, rfl⟩ := List.mem_map.mp hp
    exact decides_frame (hcap m hm)
  have hintake : Intake.stream ⟨[], reads⟩ = (msgs.map encode).flatMap frame ++ tail := by
    simpa [Intake.stream, List.flatMap_map] using hstream
  obtain ⟨next, htimes, hnext, htail⟩ :=
    receiveTimes_frames (i := ⟨[], reads⟩) (msgs.map encode) hpayloads hreads hintake
  refine ⟨next, hnext, htail, fun more => ?_⟩
  rw [List.length_map] at htimes
  rw [recvTimes_eq, receiveTimes_add, htimes, List.map_append, List.map_map, List.map_map]
  rfl

theorem recvResult_frame_eq_iff (m : μ) :
    recvResult decode texts (.frame (encode m)) = .message m ↔ decode (encode m) = .ok m := by
  rw [recvResult]
  cases decode (encode m) <;> simp

/-- The messages in front are delivered exactly when each of them is decoded as itself. -/
theorem recvTimes_eq_messages_iff (hcap : ∀ m ∈ msgs, (encode m).length ≤ kMaxFrameBytes)
    (hreads : ∀ chunk ∈ reads, chunk ≠ [])
    (hstream : reads.flatten = msgs.flatMap (fun m => frame (encode m)) ++ tail) :
    recvTimes (fun ch => recvWith decode texts ch.buffer ch.reads) msgs.length { reads } =
        msgs.map .message ↔
      ∀ m ∈ msgs, decode (encode m) = .ok m := by
  obtain ⟨next, -, -, htimes⟩ := @recvTimes_frames μ decode encode texts _ _ _ hcap hreads hstream
  have hnone := htimes 0
  rw [receiveTimes, List.map_nil, List.append_nil, Nat.add_zero] at hnone
  rw [hnone, List.map_inj_left]
  exact forall₂_congr fun m _ => recvResult_frame_eq_iff texts m

theorem recvWith_reassembles (hcap : ∀ m, fits m → (encode m).length ≤ kMaxFrameBytes)
    (hdecode : ∀ m, fits m → decode (encode m) = .ok m) :
    Reassembles (fun ch => recvWith decode texts ch.buffer ch.reads) encode texts fits := by
  have hfront : ∀ (msgs : List μ) (reads : List Bytes) (tail : Bytes), (∀ m ∈ msgs, fits m) →
      (∀ chunk ∈ reads, chunk ≠ []) →
      reads.flatten = msgs.flatMap (fun m => frame (encode m)) ++ tail →
      ∃ next : Channel, next.Flowing ∧ next.stream = tail ∧
        ∀ more, recvTimes (fun ch => recvWith decode texts ch.buffer ch.reads)
          (msgs.length + more) { reads } = msgs.map .message ++
              (receiveTimes frontOf more next).1.map (recvResult decode texts) := by
    intro msgs reads tail hfits hreads hstream
    have hmessage : msgs.map (fun m => recvResult decode texts (.frame (encode m))) =
        msgs.map .message :=
      List.map_congr_left fun m hm =>
        (recvResult_frame_eq_iff texts m).mpr (hdecode m (hfits m hm))
    rw [← hmessage]
    exact recvTimes_frames texts (fun m hm => hcap m (hfits m hm)) hreads hstream
  refine ⟨?_, ?_, ?_⟩
  · intro msgs reads again hfits hreads hstream
    obtain ⟨next, hnext, htail, htimes⟩ :=
      hfront msgs reads [] hfits hreads (by simpa using hstream)
    rw [htimes, receiveTimes_closed (frontOf_short (by decide)) _ hnext htail, List.map_replicate]
    rfl
  · intro msgs last part missing reads hfits hlast hframe hpart hmissing hreads hstream
    obtain ⟨next, hnext, htail, htimes⟩ := hfront msgs reads part hfits hreads hstream
    have hrest : frame (encode last) = Intake.stream ⟨next.buffer, next.reads⟩ ++ missing :=
      hframe.trans (congrArg (· ++ missing) htail.symm)
    have hcut := receive_part (decides_frame hlast) next.reads next.buffer hnext hrest hmissing
    have hstream : Intake.stream ⟨next.buffer, next.reads⟩ = part := htail
    rw [htimes]
    simp [receiveTimes, hcut, hstream, atEnd, hpart, recvResult]
  · intro msgs len tail reads hfits hcap hlt hreads hstream
    obtain ⟨next, hnext, htail, htimes⟩ := hfront msgs reads _ hfits hreads hstream
    have hbroken := receive_broken (decides_oversized hcap hlt) hnext htail
    rw [htimes]
    simp [receiveTimes, hbroken, recvResult]

end Reassembly

section Codecs

theorem decodeRpc_encodeRpc (msg : RpcMessage) : decodeRpc (encodeRpc msg) = .ok msg := by
  have hload : ∀ (word : UInt32) (rest : Bytes),
      UInt32.ofNat (loadLe32 (storeLe32 word.toNat ++ rest)) = word := by
    intro word rest
    rw [loadLe32_storeLe32 word.toNat_lt rest, UInt32.ofNat_toNat]
  have hdrop : ∀ (value : Nat) (rest : Bytes), (storeLe32 value ++ rest).drop 4 = rest :=
    fun _ _ => rfl
  have hlong : ¬ (encodeRpc msg).length < kRpcHeaderBytes := by
    simp [encodeRpc, kRpcHeaderBytes]
    omega
  have hsecond : (encodeRpc msg).drop 4 =
      storeLe32 msg.requestId.toNat ++ (storeLe32 msg.status.toNat ++ msg.body) := by
    simp only [encodeRpc, List.append_assoc, hdrop]
  have hthird : (encodeRpc msg).drop 8 = storeLe32 msg.status.toNat ++ msg.body := by
    rw [show 8 = 4 + 4 from rfl, ← List.drop_drop, hsecond, hdrop]
  have hbody : (encodeRpc msg).drop kRpcHeaderBytes = msg.body := by
    rw [show kRpcHeaderBytes = 8 + 4 from rfl, ← List.drop_drop, hthird, hdrop]
  have hfirst : encodeRpc msg = storeLe32 msg.op.toNat ++
      (storeLe32 msg.requestId.toNat ++ (storeLe32 msg.status.toNat ++ msg.body)) := by
    simp only [encodeRpc, List.append_assoc]
  rw [decodeRpc, if_neg hlong, hsecond, hthird, hbody, hload, hload, hfirst, hload]

/-- A message is decoded with its body reparsed, or not at all. -/
theorem toOption_decodeMessage_encodeMessage (msg : ControlMessage) :
    (decodeMessage (encodeMessage msg)).toOption =
      (reparse msg.body).map fun body => { msg with body } := by
  have hroot : msg.root = .object [(ascii "type", .string (ascii msg.type.toText)),
      (ascii "body", msg.body)] := rfl
  have hparse := toOption_parseDocument_dump msg.root 0
  rw [hroot, reparse, reparseMembers, reparse, reparseMembers, reparseMembers] at hparse
  rw [decodeMessage, encodeMessage, hroot]
  cases hbody : reparse msg.body with
  | none =>
    rw [hbody] at hparse
    cases hdocument : parseDocument (dump (.object [(ascii "type",
        .string (ascii msg.type.toText)), (ascii "body", msg.body)]) 0) with
    | error failure => rfl
    | ok root =>
      rw [hdocument] at hparse
      cases hparse
  | some body =>
    rw [hbody] at hparse
    have hread : parseDocument (dump (.object [(ascii "type",
        .string (ascii msg.type.toText)), (ascii "body", msg.body)]) 0) = .ok (.object [(ascii
        "type", .string (ascii msg.type.toText)), (ascii "body", body)]) :=
      toOption_eq_some_iff.mp hparse
    have htype : (Value.object [(ascii "type", .string (ascii msg.type.toText)),
        (ascii "body", body)]).find (ascii "type") = some (.string (ascii msg.type.toText)) := rfl
    have hfound : (Value.object [(ascii "type", .string (ascii msg.type.toText)),
        (ascii "body", body)]).find (ascii "body") = some body := rfl
    simp only [hread, Value.isObject, htype, hfound, Bool.not_true, Bool.false_eq_true, if_false,
      MessageType.ofText_toText, Option.getD_some, toOption_ok, Option.map_some]

variable {msg : ControlMessage}

theorem decodeMessage_encodeMessage (hbody : Plain msg.body) :
    decodeMessage (encodeMessage msg) = .ok msg := by
  rw [← toOption_eq_some_iff, toOption_decodeMessage_encodeMessage, hbody.reparse_eq]
  rfl

theorem decodeMessage_encodeMessage_iff (hbody : Representable msg.body) :
    decodeMessage (encodeMessage msg) = .ok msg ↔ Plain msg.body := by
  refine ⟨fun hdecode => ?_, decodeMessage_encodeMessage⟩
  refine hbody.plain_or_refused.resolve_right fun hnone => ?_
  rw [← toOption_eq_some_iff, toOption_decodeMessage_encodeMessage, hnone] at hdecode
  cases hdecode

end Codecs

/-- Both channels reassemble what was sent: any RPC message within the frame cap, and
any control message within it whose body has no infinite, NaN or subnormal number. A
row of control messages, whatever follows it, is delivered only when all their bodies
are of that kind. -/
theorem channels_reassemble (msgs : List ControlMessage) (reads : List Bytes) (tail : Bytes)
    (hmsgs : ∀ m ∈ msgs, (encodeMessage m).length ≤ kMaxFrameBytes ∧ Representable m.body)
    (hreads : ∀ chunk ∈ reads, chunk ≠ [])
    (hstream : reads.flatten = msgs.flatMap (fun m => frame (encodeMessage m)) ++ tail) :
    Reassembles RpcChannel.recv encodeRpc rpcTexts
        (fun msg => (encodeRpc msg).length ≤ kMaxFrameBytes) ∧
      Reassembles MessageChannel.recv encodeMessage messageTexts
        (fun msg => (encodeMessage msg).length ≤ kMaxFrameBytes ∧ Plain msg.body) ∧
      (recvTimes MessageChannel.recv msgs.length { reads } = msgs.map .message ↔
        ∀ m ∈ msgs, Plain m.body) := by
  refine ⟨recvWith_reassembles rpcTexts (fun _ hfits => hfits) fun msg _ => decodeRpc_encodeRpc msg,
    recvWith_reassembles messageTexts (fun _ hfits => hfits.1) fun _ hfits =>
      decodeMessage_encodeMessage hfits.2, ?_⟩
  refine (recvTimes_eq_messages_iff messageTexts (fun m hm => (hmsgs m hm).1) hreads
    hstream).trans ?_
  exact forall₂_congr fun m hm => decodeMessage_encodeMessage_iff (hmsgs m hm).2

/-- A heartbeat with a text, one byte of its frame at a time. -/
def chattyHeartbeat : ControlMessage := ⟨.heartbeat, .string [0x68, 0x69]⟩

theorem chatty_heartbeat_is_received :
    recvTimes MessageChannel.recv 1
        { reads := (frame (encodeMessage chattyHeartbeat)).map fun byte => [byte] } =
      [.message chattyHeartbeat] := by
  have hstream : ((frame (encodeMessage chattyHeartbeat)).map fun byte => [byte]).flatten =
      [chattyHeartbeat].flatMap (fun m => frame (encodeMessage m)) ++ [] := by decide +kernel
  have hmsgs : ∀ m ∈ [chattyHeartbeat],
      (encodeMessage m).length ≤ kMaxFrameBytes ∧ Representable m.body :=
    List.forall_mem_singleton.mpr ⟨by decide +kernel, .string _⟩
  exact (channels_reassemble [chattyHeartbeat] _ [] hmsgs (by decide +kernel) hstream).2.2.mpr
    (List.forall_mem_singleton.mpr (.string _))

/-- A heartbeat whose body is positive infinity. -/
def infiniteHeartbeat : ControlMessage := ⟨.heartbeat, .nonFinite false false⟩

/-- Its frame is well formed, and its text is no JSON. -/
theorem infinite_heartbeat_is_refused :
    (encodeMessage infiniteHeartbeat).length ≤ kMaxFrameBytes ∧
      Representable infiniteHeartbeat.body ∧
      recvTimes MessageChannel.recv 1 { reads := [frame (encodeMessage infiniteHeartbeat)] } ≠
        [.message infiniteHeartbeat] := by
  refine ⟨by decide +kernel, .nonFinite false false, fun hrecv => ?_⟩
  have hstream : [frame (encodeMessage infiniteHeartbeat)].flatten =
      [infiniteHeartbeat].flatMap (fun m => frame (encodeMessage m)) ++ [] := by simp
  have hdecode := (recvTimes_eq_messages_iff messageTexts (by decide +kernel) (by decide +kernel)
    hstream).mp hrecv infiniteHeartbeat List.mem_cons_self
  have hplain := (decodeMessage_encodeMessage_iff (.nonFinite false false)).mp hdecode
  cases hplain

end VkRelay.Wire
