import VkRelay.Supervisor.Model

/-!
The turns of the supervisor's threads. Every thread keeps what it has in hand between two turns:
a launch the session it is about to insert or the worker it waits for, a connection handler the
hello it tries to match or the worker it serves, a close request the worker whose end it awaits.
-/

namespace VkRelay.Supervisor

open VkRelay.Lib VkRelay.Json

/-- A table by name, in the order of the bytes. -/
abbrev Named (α : Type) := Std.ExtTreeMap Bytes α compare

structure WorkerSupervisorConfig where
  heartbeatTimeoutMs : Int := 3000
  sidecarPlane : Bool := false

/-- A launch: of an app session, or of a bare worker. What the choice of a GPU and the operating
system say to it is part of the request. -/
structure LaunchRequest where
  app : Bool := true
  appInstanceId : Bytes := []
  gpuSelector : Bytes := []
  selectorError : Option Bytes := none
  spawnError : Option Bytes := none
  opTracePath : Bytes := []
  displayLayout : Option Display.DisplayLayout := none

inductive Launch where
  /-- The process runs and the session is not yet known to the other threads. -/
  | spawned (session : Session) (app : Bool)
  | polling (workerId : Bytes) (deadline : Int)
  | failing (workerId : Bytes)
  | started (workerId : Bytes)
  | returned (info : SessionInfo)
  | threw (reason : Bytes)

inductive Handler where
  | waiting
  | registering (hello : WorkerHello) (attempts : Nat)
  | serving (workerId : Bytes)
  | refused
  | closed

inductive Closer where
  | waiting (workerId : Bytes) (deadline : Int)
  | done (closed : Bool) (reason : Bytes)

/-- Threads are named by the environment; a process is gone once it has an exit code. -/
structure WorkerSupervisor where
  config : WorkerSupervisorConfig := {}
  clock : Int := 0
  nextWorker : Nat := 1
  nextToken : Nat := 1
  processes : Named (Option Int) := ∅
  sessions : Named Session := ∅
  launches : Table Launch := ∅
  handlers : Table Handler := ∅
  closers : Table Closer := ∅

inductive Op where
  | advance (elapsed : Nat)
  | exit (workerId : Bytes) (code : Int)
  | spawn (launch : Nat) (req : LaunchRequest)
  | insert (launch : Nat)
  | poll (launch : Nat)
  | giveUp (launch : Nat)
  | closeSession (closer : Nat) (appInstanceId workerId appToken : Bytes)
  | awaitClosed (closer : Nat)
  | accept (connection : Nat)
  | receive (connection : Nat) (type : Wire.MessageType) (body : Value)
  | attempt (connection : Nat)
  | disconnect (connection : Nat)
  | monitor

def mintToken (n : Nat) (subject : Bytes) : Bytes :=
  ascii "tok-" ++ decimal n ++ ascii "-" ++ subject

def workerName (n : Nat) : Bytes := ascii "wkr-" ++ decimal n

namespace WorkerSupervisor

def timeout (s : WorkerSupervisor) : Int := milliseconds s.config.heartbeatTimeoutMs

def edit (s : WorkerSupervisor) (workerId : Bytes) (change : Session → Session) :
    WorkerSupervisor :=
  { s with sessions := s.sessions.modify workerId change }

def setLaunch (s : WorkerSupervisor) (launch : Nat) (state : Launch) : WorkerSupervisor :=
  { s with launches := s.launches.insert launch state }

def setHandler (s : WorkerSupervisor) (connection : Nat) (state : Handler) : WorkerSupervisor :=
  { s with handlers := s.handlers.insert connection state }

def setCloser (s : WorkerSupervisor) (closer : Nat) (state : Closer) : WorkerSupervisor :=
  { s with closers := s.closers.insert closer state }

def findByToken (s : WorkerSupervisor) (token : Bytes) : Option (Bytes × Session) :=
  s.sessions.toList.find? fun entry => entry.2.token == token

/-! ## Launches -/

/-- Why a launch whose worker has been named does not get as far as a process. -/
def spawnRefusal (req : LaunchRequest) : Option Bytes :=
  match req.displayLayout.map Display.validateDisplayLayout with
  | some (.error reason) =>
    some (ascii "refusing invalid display snapshot at worker launch: " ++ reason)
  | _ => req.spawnError

def spawn (s : WorkerSupervisor) (launch : Nat) (req : LaunchRequest) :
    WorkerSupervisor × List Event :=
  if (s.launches[launch]?).isSome then (s, [])
  else
    let appToken := if req.app then ascii "app-" ++ mintToken s.nextToken req.gpuSelector else []
    let nextToken := if req.app then s.nextToken + 1 else s.nextToken
    match req.selectorError with
    | some reason => ({ s with nextToken }.setLaunch launch (.threw reason), [])
    | none =>
      let sidecarPlane := req.app && s.config.sidecarPlane
      let workerId := workerName s.nextWorker
      let token := mintToken nextToken workerId
      let sidecarToken :=
        if sidecarPlane then ascii "sidecar-" ++ mintToken (nextToken + 1) workerId else []
      let named := { s with
        nextWorker := s.nextWorker + 1
        nextToken := if sidecarPlane then nextToken + 2 else nextToken + 1 }
      match spawnRefusal req with
      | some reason => (named.setLaunch launch (.threw reason), [.minted workerId token])
      | none =>
        let session : Session :=
          { workerId, appInstanceId := req.appInstanceId, token, appToken, sidecarToken
            opTracePath := req.opTracePath, displayLayout := req.displayLayout
            lastHeartbeat := s.clock }
        ({ named with processes := s.processes.insert workerId none }.setLaunch launch
          (.spawned session req.app), [.minted workerId token])

/-- The session becomes known; the launch of an app session then waits for its endpoints. -/
def insert (s : WorkerSupervisor) (launch : Nat) : WorkerSupervisor × List Event :=
  match s.launches[launch]? with
  | some (.spawned session app) =>
    let inserted := { s with sessions := s.sessions.insert session.workerId session }
    (inserted.setLaunch launch (if app then .polling session.workerId (s.clock + s.timeout)
      else .started session.workerId), [])
  | _ => (s, [])

def poll (s : WorkerSupervisor) (launch : Nat) : WorkerSupervisor × List Event :=
  match s.launches[launch]? with
  | some (.polling workerId deadline) =>
    match s.sessions[workerId]? with
    | some session =>
      if session.ready s.config.sidecarPlane then
        let info := session.info workerId s.config.sidecarPlane
        (s.setLaunch launch (.returned info), [.returned info])
      else if session.lifecycle.terminal ∨ deadline ≤ s.clock then
        (s.setLaunch launch (.failing workerId), [])
      else (s, [])
    | none =>
      if deadline ≤ s.clock then (s.setLaunch launch (.failing workerId), []) else (s, [])
  | _ => (s, [])

/-- A launch that failed asks for the end of its worker and throws. -/
def giveUp (s : WorkerSupervisor) (launch : Nat) : WorkerSupervisor × List Event :=
  match s.launches[launch]? with
  | some (.failing workerId) =>
    let reason := ascii "worker " ++ workerId ++ ascii " did not report a data-plane endpoint"
    (s.setLaunch launch (.threw reason),
      if (s.sessions[workerId]?).isSome then [.terminate workerId s.clock] else [])
  | _ => (s, [])

/-! ## Close requests -/

/-- One generic failure for a worker that is not there and for wrong credentials. -/
def closeSession (s : WorkerSupervisor) (closer : Nat) (appInstanceId workerId appToken : Bytes) :
    WorkerSupervisor × List Event :=
  if (s.closers[closer]?).isSome then (s, [])
  else
    let mismatch :=
      (s.setCloser closer (.done false (ascii "session credentials do not match")), [])
    match s.sessions[workerId]? with
    | none => mismatch
    | some session =>
      if session.appInstanceId ≠ appInstanceId ∨ session.appToken ≠ appToken then mismatch
      else if session.lifecycle.terminal then
        (s.setCloser closer (.done true (ascii "session already ended")), [])
      else
        let waits := s.setCloser closer (.waiting workerId (s.clock + s.timeout))
        if session.launcherCloseRequested then (waits, [])
        else (waits.edit workerId (Session.requestClose s.clock), [.closeRequested workerId])

def awaitClosed (s : WorkerSupervisor) (closer : Nat) : WorkerSupervisor × List Event :=
  match s.closers[closer]? with
  | some (.waiting workerId deadline) =>
    if deadline ≤ s.clock then
      (s.setCloser closer (.done false (ascii "timed out waiting for worker teardown")), [])
    else if (s.sessions[workerId]?).any fun session => session.lifecycle.terminal then
      (s.setCloser closer (.done true (ascii "session ended")), [])
    else (s, [])
  | _ => (s, [])

/-! ## Worker-control connections -/

def kRegisterAttempts : Nat := 200

def accept (s : WorkerSupervisor) (connection : Nat) : WorkerSupervisor × List Event :=
  if (s.handlers[connection]?).isSome then (s, []) else (s.setHandler connection .waiting, [])

/-- A handler reads its first message, and later those of the worker it serves. -/
def receive (s : WorkerSupervisor) (connection : Nat) (type : Wire.MessageType) (body : Value) :
    WorkerSupervisor × List Event :=
  match s.handlers[connection]? with
  | some .waiting =>
    if type = .workerHello then
      (s.setHandler connection (.registering (.fromBody body) 0), [])
    else (s.setHandler connection .closed, [])
  | some (.serving workerId) =>
    if type = .heartbeat then (s.edit workerId (Session.beat s.clock), []) else (s, [])
  | _ => (s, [])

/-- One attempt to match a hello with a session that awaits registration. -/
def attempt (s : WorkerSupervisor) (connection : Nat) : WorkerSupervisor × List Event :=
  match s.handlers[connection]? with
  | some (.registering hello attempts) =>
    if attempts < kRegisterAttempts then
      match s.findByToken hello.token with
      | some (name, session) =>
        let tried := s.edit name fun x => (x.register s.clock hello).1
        if (session.register s.clock hello).2 then
          (tried.setHandler connection (.serving session.workerId),
            [.registered connection name hello,
              .acked connection { ok := true, displayLayout := session.displayLayout }])
        else (tried.setHandler connection (.registering hello (attempts + 1)), [])
      | none => (s.setHandler connection (.registering hello (attempts + 1)), [])
    else
      (s.setHandler connection .refused,
        [.acked connection { reason := ascii "unknown or already-used worker token" }])
  | _ => (s, [])

/-- The peer is gone. A handler that is still matching its hello does not notice. -/
def disconnect (s : WorkerSupervisor) (connection : Nat) : WorkerSupervisor × List Event :=
  match s.handlers[connection]? with
  | some .waiting => (s.setHandler connection .closed, [])
  | some (.serving workerId) =>
    ((s.edit workerId (Session.closeChannel s.clock)).setHandler connection .closed, [])
  | _ => (s, [])

/-! ## Monitor -/

def inspect (s : WorkerSupervisor) (workerId : Bytes) (session : Session) :
    Session × List Event :=
  session.inspect workerId s.timeout s.clock (s.processes[workerId]?).join

def monitor (s : WorkerSupervisor) : WorkerSupervisor × List Event :=
  ({ s with sessions := s.sessions.map fun workerId session => (s.inspect workerId session).1 },
    s.sessions.toList.flatMap fun entry => (s.inspect entry.1 entry.2).2)

/-! ## Turns -/

def exit (s : WorkerSupervisor) (workerId : Bytes) (code : Int) : WorkerSupervisor :=
  { s with processes := s.processes.modify workerId fun ended => some (ended.getD code) }

def step (s : WorkerSupervisor) : Op → WorkerSupervisor × List Event
  | .advance elapsed => ({ s with clock := s.clock + elapsed }, [])
  | .exit workerId code => (s.exit workerId code, [])
  | .spawn launch req => s.spawn launch req
  | .insert launch => s.insert launch
  | .poll launch => s.poll launch
  | .giveUp launch => s.giveUp launch
  | .closeSession closer appInstanceId workerId appToken =>
    s.closeSession closer appInstanceId workerId appToken
  | .awaitClosed closer => s.awaitClosed closer
  | .accept connection => s.accept connection
  | .receive connection type body => s.receive connection type body
  | .attempt connection => s.attempt connection
  | .disconnect connection => s.disconnect connection
  | .monitor => s.monitor

end WorkerSupervisor

/-- The history of a run of a supervisor; the counter of tokens is shared by the process, so it
may start anywhere. -/
def historyOf (config : WorkerSupervisorConfig) (nextToken : Nat) (ops : List Op) :
    History WorkerSupervisor Event :=
  History.of WorkerSupervisor.step { config, nextToken } ops

end VkRelay.Supervisor
