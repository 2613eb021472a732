import VkRelay.Control.Handshake
import VkRelay.Lib.History
import VkRelay.Lib.Table

/-!
The worker supervisor. Launches, worker-control connections, close requests and the monitor are
threads that take turns under one mutex; each operation below is one such turn. The clock and
the worker processes belong to the environment: time passes and a process ends in turns of their
own, whatever the supervisor has asked for. Terminating a process is a request to the operating
system and shows up in the log only.

Shutting the supervisor down is not modelled, nor is the choice of a GPU: a launch that is
refused before a worker exists changes nothing but the counters that name workers.
-/

namespace VkRelay.Supervisor

open VkRelay.Lib VkRelay.Json VkRelay.Control

/-! ## Lifecycle -/

inductive WorkerState where
  | spawned | handshaking | running | draining | exited | crashed | killed
deriving DecidableEq, Repr

namespace WorkerState

def isTerminal (state : WorkerState) : Bool :=
  state = .exited || state = .crashed || state = .killed

/-- A worker can be killed or crash in every state that is not terminal. -/
def canTransition (source target : WorkerState) : Bool :=
  if source.isTerminal then false
  else if target = .killed || target = .crashed then true
  else
    match source with
    | .spawned => target = .handshaking
    | .handshaking => target = .running
    | .running => target = .draining || target = .exited
    | .draining => target = .exited
    | _ => false

end WorkerState

structure WorkerLifecycle where
  state : WorkerState := .spawned
  history : List WorkerState := [.spawned]
deriving DecidableEq

namespace WorkerLifecycle

def terminal (lifecycle : WorkerLifecycle) : Bool := lifecycle.state.isTerminal

/-- An illegal transition leaves everything as it is and says so. -/
def transition (lifecycle : WorkerLifecycle) (target : WorkerState) : WorkerLifecycle × Bool :=
  if lifecycle.state.canTransition target then
    ({ state := target, history := lifecycle.history ++ [target] }, true)
  else (lifecycle, false)

end WorkerLifecycle

/-- The state of a worker whose process has gone away by itself. -/
def terminalState (exited : Bool) (code : Int) (current : WorkerState) : WorkerState :=
  if exited && code = 0 && current = .running then .exited else .crashed

/-! ## Sessions -/

/-- A duration on the clock, which counts nanoseconds. -/
def milliseconds (n : Int) : Int := n * 1000000

def kChannelCloseGraceMs : Int := 1000
def kTerminateEscalateMs : Int := 1000
def kLauncherCloseGraceMs : Int := 250

structure WorkerHello where
  workerId : Bytes := []
  token : Bytes := []
  dataPlanePort : Int := 0
  sidecarPlanePort : Int := 0
deriving DecidableEq

def WorkerHello.fromBody (body : Value) : WorkerHello where
  workerId := getString body "worker_id" ""
  token := getString body "token" ""
  dataPlanePort := getInt body "data_plane_port" 0
  sidecarPlanePort := getInt body "sidecar_plane_port" 0

structure WorkerAck where
  ok : Bool := false
  reason : Bytes := []
  displayLayout : Option Display.DisplayLayout := none
deriving DecidableEq

structure Session where
  workerId : Bytes
  appInstanceId : Bytes := []
  token : Bytes := []
  appToken : Bytes := []
  sidecarToken : Bytes := []
  opTracePath : Bytes := []
  displayLayout : Option Display.DisplayLayout := none
  dataPlanePort : Int := 0
  sidecarPlanePort : Int := 0
  lifecycle : WorkerLifecycle := {}
  lastHeartbeat : Int := 0
  heartbeats : Nat := 0
  connected : Bool := false
  channelClosed : Bool := false
  channelClosedAt : Int := 0
  terminationRequested : Bool := false
  terminationRequestedAt : Int := 0
  launcherCloseRequested : Bool := false
  launcherCloseRequestedAt : Int := 0
deriving DecidableEq

structure SessionInfo where
  workerId : Bytes
  dataPlaneHost : Bytes := []
  dataPlanePort : Int := 0
  appToken : Bytes := []
  sidecarPlaneHost : Bytes := []
  sidecarPlanePort : Int := 0
  sidecarToken : Bytes := []
  opTracePath : Bytes := []
  displaySnapshotId : Bytes := []
deriving DecidableEq

/-- What a turn did that the state alone does not tell. -/
inductive Event where
  /-- A worker was named and given its one-time token. -/
  | minted (workerId token : Bytes)
  /-- The operating system was asked to end the process. -/
  | terminate (workerId : Bytes) (time : Int)
  /-- The request for termination was recorded in the session. -/
  | requested (workerId : Bytes)
  | closeRequested (workerId : Bytes)
  /-- The end of the process was observed; the state is the one the session was left in. -/
  | recorded (workerId : Bytes) (code : Int) (state : WorkerState)
  | registered (connection : Nat) (workerId : Bytes) (hello : WorkerHello)
  | acked (connection : Nat) (ack : WorkerAck)
  | returned (info : SessionInfo)
deriving DecidableEq

namespace Session

def beat (now : Int) (x : Session) : Session :=
  { x with heartbeats := x.heartbeats + 1, lastHeartbeat := now }

def closeChannel (now : Int) (x : Session) : Session :=
  { x with connected := false, channelClosed := true, channelClosedAt := now }

def requestClose (now : Int) (x : Session) : Session :=
  { x with launcherCloseRequested := true, launcherCloseRequestedAt := now }

def Awaits (x : Session) (hello : WorkerHello) : Prop :=
  x.workerId = hello.workerId ∧ x.lifecycle.state = .spawned ∧ x.connected = false

instance (x : Session) (hello : WorkerHello) : Decidable (x.Awaits hello) :=
  inferInstanceAs (Decidable (_ ∧ _ ∧ _))

/-- A session that awaits registration takes the hello and consumes its token. -/
def register (now : Int) (hello : WorkerHello) (x : Session) : Session × Bool :=
  if x.Awaits hello then
    match x.lifecycle.transition .handshaking with
    | (handshaking, false) => ({ x with lifecycle := handshaking }, false)
    | (handshaking, true) =>
      match handshaking.transition .running with
      | (running, false) => ({ x with lifecycle := running }, false)
      | (running, true) =>
        ({ x with
            lifecycle := running
            connected := true
            lastHeartbeat := now
            dataPlanePort := hello.dataPlanePort
            sidecarPlanePort := hello.sidecarPlanePort
            token := [] }, true)
  else (x, false)

/-- Why a worker whose process still runs is to be terminated. -/
def killReason (timeout now : Int) (x : Session) : Option String :=
  if x.launcherCloseRequested ∧
      now - x.launcherCloseRequestedAt > milliseconds kLauncherCloseGraceMs then
    some "launcher closed app session"
  else if x.launcherCloseRequested then none
  else if x.channelClosed ∧ now - x.channelClosedAt > milliseconds kChannelCloseGraceMs then
    some "control channel dropped while process still alive"
  else if x.channelClosed then none
  else if x.connected ∧ now - x.lastHeartbeat > timeout then some "missed heartbeat deadline"
  else if !x.connected ∧ now - x.lastHeartbeat > timeout then
    some "did not register before deadline"
  else none

/-- One session's part of a monitor pass. -/
def inspect (workerId : Bytes) (timeout now : Int) (exitCode : Option Int) (x : Session) :
    Session × List Event :=
  if x.lifecycle.terminal then (x, [])
  else
    match exitCode with
    | some code =>
      let target :=
        if x.terminationRequested then .killed else terminalState true code x.lifecycle.state
      let lifecycle := (x.lifecycle.transition target).1
      ({ x with lifecycle, connected := false }, [.recorded workerId code lifecycle.state])
    | none =>
      if (x.killReason timeout now).isNone then (x, [])
      else if !x.terminationRequested then
        ({ x with terminationRequested := true, terminationRequestedAt := now
                  connected := false }, [.terminate workerId now, .requested workerId])
      else if now - x.terminationRequestedAt > milliseconds kTerminateEscalateMs then
        ({ x with terminationRequestedAt := now }, [.terminate workerId now])
      else (x, [])

/-- The worker has registered and reported its endpoints. -/
def ready (sidecarPlane : Bool) (x : Session) : Bool :=
  x.connected && 0 < x.dataPlanePort && (!sidecarPlane || 0 < x.sidecarPlanePort)

def info (workerId : Bytes) (sidecarPlane : Bool) (x : Session) : SessionInfo where
  workerId := workerId
  dataPlaneHost := ascii "127.0.0.1"
  dataPlanePort := x.dataPlanePort
  appToken := x.appToken
  opTracePath := x.opTracePath
  displaySnapshotId := x.displayLayout.elim [] Display.DisplayLayout.snapshotId
  sidecarPlaneHost := if sidecarPlane then ascii "127.0.0.1" else []
  sidecarPlanePort := if sidecarPlane then x.sidecarPlanePort else 0
  sidecarToken := if sidecarPlane then x.sidecarToken else []

end Session

end VkRelay.Supervisor
