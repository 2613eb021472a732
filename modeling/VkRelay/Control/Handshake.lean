import VkRelay.Display.Layout
import VkRelay.Wire.BodyFields
import VkRelay.Wire.Channel

/-!
The handshake of the control plane. The readers of a control body are tolerant: a member that is
missing or of another type falls back to a default, and an integer is cut to the width of its
field. The server accepts a hello of its own protocol version and answers with the layout it has
captured, or refuses with a typed error.
-/

namespace VkRelay.Control

open VkRelay.Lib VkRelay.Json VkRelay.Wire VkRelay.Wire.Record VkRelay.Display

def kProtocolVersion : Int := 1

/-! ## Readers -/

def getString (obj : Value) (key : String) (fallback : String) : Bytes :=
  match obj.find (ascii key) with
  | some (.string text) => text
  | _ => ascii fallback

/-- A whole number, cut to 32 bits. -/
def getInt (obj : Value) (key : String) (fallback : Int) : Int :=
  getIntField obj (ascii key) fallback

/-- A whole number at full width. -/
def getI64 (obj : Value) (key : String) (fallback : Int) : Int :=
  match obj.find (ascii key) with
  | some (.number q) => if q.den = 1 then asInt q else fallback
  | _ => fallback

def getBool (obj : Value) (key : String) : Bool := getBoolField obj (ascii key)

/-! ## Messages -/

structure ClientHello where
  protocolVersion : Int
  appInstanceId : Bytes
  gpuSelector : Bytes
  displayBackend : Bytes
  graphicsFrontend : Bytes
deriving DecidableEq

def ClientHello.fromBody (body : Value) : ClientHello where
  protocolVersion := getInt body "protocol_version" 0
  appInstanceId := getString body "app_instance_id" ""
  gpuSelector := getString body "gpu_selector" "auto"
  displayBackend := getString body "display_backend" "auto"
  graphicsFrontend := getString body "graphics_frontend" "auto"

structure HostDisplay where
  workW : Int32 := 0
  workH : Int32 := 0
  dpi : Int32 := 0
deriving DecidableEq

inductive DisplayLayoutDecodeResult where
  | absent
  | malformed (reason : Bytes)
  | unsupportedSchema (reason : Bytes)
  | valid (layout : DisplayLayout)
deriving DecidableEq

structure ServerHello where
  protocolVersion : Int := kProtocolVersion
  supervisorSessionId : Bytes
  workerId : Bytes
  workerBackend : Bytes
  hostDisplay : HostDisplay
  displayLayout : DisplayLayoutDecodeResult
deriving DecidableEq

structure ErrorMsg where
  code : Bytes
  message : Bytes
deriving DecidableEq

def ErrorMsg.toBody (e : ErrorMsg) : Value :=
  .object [(ascii "code", .string e.code), (ascii "message", .string e.message)]

/-! ## The server's side -/

structure AcceptedSession where
  client : ClientHello
  server : ServerHello
deriving DecidableEq

/-- What the producer of a layout must have made of it. -/
def checkProduced : DisplayLayoutDecodeResult → Except ErrorMsg Unit
  | .absent => .ok ()
  | .malformed reason | .unsupportedSchema reason =>
    .error ⟨ascii "display_layout_unavailable", reason⟩
  | .valid layout =>
    match validateDisplayLayout layout with
    | .error reason => .error ⟨ascii "display_layout_invalid", reason⟩
    | .ok () => .ok ()

/-- The answer to the first message: an error, or the hello the acknowledgement carries. -/
def serverHandshake (first : ControlMessage) (server : ServerHello) :
    Except ErrorMsg AcceptedSession :=
  if first.type ≠ .hello then .error ⟨ascii "expected_hello", ascii "first message must be hello"⟩
  else
    let client := ClientHello.fromBody first.body
    if client.protocolVersion ≠ kProtocolVersion then
      .error ⟨ascii "version_mismatch", ascii "server speaks protocol " ++
        dumpInteger kProtocolVersion ++ ascii ", client sent " ++
        dumpInteger client.protocolVersion⟩
    else do
      checkProduced server.displayLayout
      return { client, server := { server with protocolVersion := kProtocolVersion } }

end VkRelay.Control
