import VkRelay.Supervisor.Machine

/-!
What a turn can do to one session. Worker names are never given twice, so a session that is
known stays the same session: a turn edits it in one of a few ways and emits the events that
belong to the edit, or it leaves it alone and emits nothing about it.
-/

namespace VkRelay.Supervisor

open VkRelay.Lib VkRelay.Json

/-! ## Names -/

theorem workerName_injective : Function.Injective workerName := by
  intro m n hsame
  have hdigits : decimal m = decimal n := List.append_cancel_left hsame
  rw [← digitsValue_decimal m, hdigits, digitsValue_decimal]

/-- The digits of the counter end at the dash, so two tokens differ when their counters do. -/
theorem mintToken_injective {m n : Nat} {first second : Bytes}
    (hsame : mintToken m first = mintToken n second) : m = n := by
  have hread : ∀ (k : Nat) (subject : Bytes),
      ((mintToken k subject).drop 4).takeWhile isDigit = decimal k := by
    intro k subject
    have hrest : (mintToken k subject).drop 4 = decimal k ++ 0x2d :: subject := by
      simp [mintToken, ascii]
    rw [hrest, List.takeWhile_append_of_pos fun c hc => isDigit_of_mem_decimal hc,
      List.takeWhile_cons_of_neg (by decide), List.append_nil]
  have hdigits : decimal m = decimal n := by rw [← hread m first, hsame, hread]
  rw [← digitsValue_decimal m, hdigits, digitsValue_decimal]

theorem mintToken_ne_nil (n : Nat) (subject : Bytes) : mintToken n subject ≠ [] := by
  simp [mintToken, ascii]

/-! ## Registration -/

namespace Session

def registered (now : Int) (hello : WorkerHello) (x : Session) : Session :=
  { x with
    lifecycle := ⟨.running, x.lifecycle.history ++ [.handshaking, .running]⟩
    connected := true
    lastHeartbeat := now
    dataPlanePort := hello.dataPlanePort
    sidecarPlanePort := hello.sidecarPlanePort
    token := [] }

/-- From `spawned` both transitions succeed, so no half-registered session is left behind. -/
theorem register_of_awaits (now : Int) {hello : WorkerHello} {x : Session}
    (hawaits : x.Awaits hello) : x.register now hello = (x.registered now hello, true) := by
  have hspawned := hawaits.2.1
  rw [register, if_pos hawaits]
  simp [WorkerLifecycle.transition, WorkerState.canTransition, WorkerState.isTerminal, hspawned,
    registered]

theorem register_of_not_awaits (now : Int) {hello : WorkerHello} {x : Session}
    (hawaits : ¬x.Awaits hello) : x.register now hello = (x, false) :=
  if_neg hawaits

/-! ## Monitor -/

/-- The state in which the end of the process is recorded. -/
def verdict (code : Int) (x : Session) : WorkerState :=
  if x.terminationRequested then .killed else terminalState true code x.lifecycle.state

def observed (code : Int) (x : Session) : Session :=
  { x with
    lifecycle := ⟨x.verdict code, x.lifecycle.history ++ [x.verdict code]⟩
    connected := false }

def condemned (now : Int) (x : Session) : Session :=
  { x with terminationRequested := true, terminationRequestedAt := now, connected := false }

theorem verdict_cases (code : Int) (x : Session) :
    x.verdict code = .killed ∨ x.verdict code = .crashed ∨
      x.verdict code = .exited ∧ x.lifecycle.state = .running := by
  unfold verdict terminalState
  split_ifs <;> simp_all

theorem isTerminal_verdict (code : Int) (x : Session) : (x.verdict code).isTerminal = true := by
  rcases x.verdict_cases code with hverdict | hverdict | ⟨hverdict, -⟩ <;> rw [hverdict] <;> rfl

/-- `exited` is recorded of a running session only, so the verdict is always a legal transition. -/
theorem transition_verdict {x : Session} (hlive : x.lifecycle.terminal = false) (code : Int) :
    x.lifecycle.transition (x.verdict code) =
      (⟨x.verdict code, x.lifecycle.history ++ [x.verdict code]⟩, true) := by
  have hanytime : ∀ state : WorkerState, state.isTerminal = false →
      state.canTransition .killed = true ∧ state.canTransition .crashed = true := by
    intro state
    cases state <;> decide
  have hlegal : x.lifecycle.state.canTransition (x.verdict code) = true := by
    rcases x.verdict_cases code with hverdict | hverdict | ⟨hverdict, hrunning⟩
    · rw [hverdict, (hanytime _ hlive).1]
    · rw [hverdict, (hanytime _ hlive).2]
    · rw [hverdict, hrunning]
      rfl
  rw [WorkerLifecycle.transition, if_pos hlegal]

end Session

/-! ## Edits -/

def Event.about : Event → Option Bytes
  | .minted workerId _ => some workerId
  | .terminate workerId _ => some workerId
  | .requested workerId => some workerId
  | .closeRequested workerId => some workerId
  | .recorded workerId _ _ => some workerId
  | .registered _ workerId _ => some workerId
  | .acked _ _ => none
  | .returned info => some info.workerId

def about (w : Bytes) (log : List Event) : List Event :=
  log.filter fun e => e.about = some w

theorem about_append (w : Bytes) (first second : List Event) :
    about w (first ++ second) = about w first ++ about w second :=
  List.filter_append ..

theorem mem_about {w : Bytes} {e : Event} (habout : e.about = some w) {log : List Event} :
    e ∈ about w log ↔ e ∈ log := by
  simp [about, habout]

theorem about_eq_nil {w : Bytes} {events : List Event} (hnone : ∀ e ∈ events, e.about ≠ some w) :
    about w events = [] := by
  simpa [about] using hnone

def Op.connection : Op → Option Nat
  | .accept connection => some connection
  | .receive connection _ _ => some connection
  | .attempt connection => some connection
  | .disconnect connection => some connection
  | _ => none

def Event.ofHandler : Event → Option Nat
  | .registered connection _ _ => some connection
  | .acked connection _ => some connection
  | _ => none

/-- An operation other than the first two of a launch. -/
def Op.Ordinary (op : Op) : Prop :=
  (∀ launch req, op ≠ .spawn launch req) ∧ ∀ launch, op ≠ .insert launch

namespace WorkerSupervisor

variable {s : WorkerSupervisor} {w : Bytes} {x : Session}

/-- The ways a turn treats the session of one worker. -/
inductive Edit (s : WorkerSupervisor) (w : Bytes) (x : Session) : Session → List Event → Prop
  | keep : Edit s w x x []
  | beat : Edit s w x (x.beat s.clock) []
  | closeChannel : Edit s w x (x.closeChannel s.clock) []
  | requestClose (hlive : x.lifecycle.terminal = false)
      (hfirst : x.launcherCloseRequested = false) :
      Edit s w x (x.requestClose s.clock) [.closeRequested w]
  | register (connection : Nat) (hello : WorkerHello)
      (hfound : s.findByToken hello.token = some (w, x)) (hawaits : x.Awaits hello) :
      Edit s w x (x.registered s.clock hello) [.registered connection w hello]
  | terminate : Edit s w x x [.terminate w s.clock]
  | returned (hready : x.ready s.config.sidecarPlane = true) :
      Edit s w x x [.returned (x.info w s.config.sidecarPlane)]
  | observe (code : Int) (hlive : x.lifecycle.terminal = false)
      (hended : (s.processes[w]?).join = some code) :
      Edit s w x (x.observed code) [.recorded w code (x.verdict code)]
  | condemn (hlive : x.lifecycle.terminal = false) (hruns : (s.processes[w]?).join = none)
      (hreason : x.killReason s.timeout s.clock ≠ none) (hfirst : x.terminationRequested = false) :
      Edit s w x (x.condemned s.clock) [.terminate w s.clock, .requested w]
  | reissue (hlive : x.lifecycle.terminal = false) (hruns : (s.processes[w]?).join = none)
      (hreason : x.killReason s.timeout s.clock ≠ none) (hagain : x.terminationRequested = true)
      (hlate : s.clock - x.terminationRequestedAt > milliseconds kTerminateEscalateMs) :
      Edit s w x { x with terminationRequestedAt := s.clock } [.terminate w s.clock]

theorem Edit.about_eq {y : Session} {events : List Event} (hedit : Edit s w x y events) :
    ∀ e ∈ events, e.about = some w := by
  cases hedit <;> simp [Event.about, Session.info]

variable (launch : Nat) (connection : Nat)

@[simp] theorem sessions_setLaunch (state : Launch) :
    (s.setLaunch launch state).sessions = s.sessions := rfl

@[simp] theorem sessions_setHandler (state : Handler) :
    (s.setHandler connection state).sessions = s.sessions := rfl

theorem getElem?_edit (change : Session → Session) (other : Bytes) :
    (s.edit w change).sessions[other]? =
      if w = other then (s.sessions[other]?).map change else s.sessions[other]? := by
  rw [edit, Std.ExtTreeMap.getElem?_modify]
  simp only [Std.LawfulEqCmp.compare_eq_iff_eq]
  split
  next hsame => rw [hsame]
  next => rfl

theorem findByToken_eq_some {token name : Bytes}
    (hfound : s.findByToken token = some (name, x)) :
    s.sessions[name]? = some x ∧ x.token = token := by
  refine ⟨?_, by simpa using List.find?_some hfound⟩
  exact Std.ExtTreeMap.mem_toList_iff_getElem?_eq_some.mp (List.mem_of_find?_eq_some hfound)

/-- A hello on the connection finds the session of a worker that awaits it. -/
structure Registers (s : WorkerSupervisor) (connection : Nat) (w : Bytes) (hello : WorkerHello)
    (x : Session) : Prop where
  handler : ∃ attempts < kRegisterAttempts,
    s.handlers[connection]? = some (.registering hello attempts)
  found : s.findByToken hello.token = some (w, x)
  awaits : x.Awaits hello

theorem edit_congr {w : Bytes} {x : Session} {first : Session → Session}
    (second : Session → Session) (hx : s.sessions[w]? = some x) (hsame : first x = second x) :
    s.edit w first = s.edit w second := by
  have hsessions : (s.edit w first).sessions = (s.edit w second).sessions := by
    apply Std.ExtTreeMap.ext_getElem?
    intro other
    rw [getElem?_edit, getElem?_edit]
    split
    · next hname =>
        subst hname
        rw [hx, Option.map_some, Option.map_some, hsame]
    · rfl
  simpa [edit] using hsessions

theorem edit_id (w : Bytes) : s.edit w id = s := by
  have hsessions : (s.edit w id).sessions = s.sessions := by
    apply Std.ExtTreeMap.ext_getElem?
    intro other
    rw [getElem?_edit]
    split <;> simp
  simpa [edit] using congrArg (fun sessions => { s with sessions }) hsessions

/-- What an attempt can do: only a hello that is awaited touches a session. -/
inductive Attempt (s : WorkerSupervisor) (connection : Nat) :
    WorkerSupervisor → List Event → Prop
  | idle (hidle : ∀ hello attempts, s.handlers[connection]? ≠ some (.registering hello attempts)) :
      Attempt s connection s []
  | refused (hello : WorkerHello) (attempts : Nat)
      (hhandler : s.handlers[connection]? = some (.registering hello attempts))
      (hspent : kRegisterAttempts ≤ attempts) :
      Attempt s connection (s.setHandler connection .refused)
        [.acked connection { reason := ascii "unknown or already-used worker token" }]
  | missed (hello : WorkerHello) (attempts : Nat)
      (hhandler : s.handlers[connection]? = some (.registering hello attempts))
      (hnobody : ∀ w x, s.findByToken hello.token = some (w, x) → ¬x.Awaits hello) :
      Attempt s connection (s.setHandler connection (.registering hello (attempts + 1))) []
  | registered (w : Bytes) (hello : WorkerHello) (x : Session)
      (hregisters : s.Registers connection w hello x) :
      Attempt s connection
        ((s.edit w (Session.registered s.clock hello)).setHandler connection (.serving x.workerId))
        [.registered connection w hello,
          .acked connection { ok := true, displayLayout := x.displayLayout }]

theorem attempt_cases (s : WorkerSupervisor) (connection : Nat) :
    ∃ next events, s.attempt connection = (next, events) ∧ Attempt s connection next events := by
  refine ⟨(s.attempt connection).1, (s.attempt connection).2, rfl, ?_⟩
  unfold attempt
  split
  · next hello attempts hhandler =>
      split
      · next hfew =>
          split
          · next w x hfound =>
              obtain ⟨hx, -⟩ := findByToken_eq_some hfound
              by_cases hawaits : x.Awaits hello
              · have hregister := Session.register_of_awaits s.clock hawaits
                rw [if_pos (by rw [hregister]),
                  edit_congr (Session.registered s.clock hello) hx (by rw [hregister])]
                exact .registered w hello x ⟨⟨attempts, hfew, hhandler⟩, hfound, hawaits⟩
              · have hregister := Session.register_of_not_awaits s.clock hawaits
                rw [if_neg (by rw [hregister]; simp), edit_congr id hx (by rw [hregister]; rfl),
                  edit_id]
                refine .missed hello attempts hhandler fun name y hy => ?_
                obtain ⟨-, rfl⟩ := Prod.mk.inj (Option.some.inj (hfound.symm.trans hy))
                exact hawaits
          · next hnone =>
              exact .missed hello attempts hhandler fun w x hx =>
                absurd (hnone.symm.trans hx) (by simp)
      · next hspent => exact .refused hello attempts hhandler (not_lt.mp hspent)
  · next hidle => exact .idle fun hello attempts hhandler => hidle hello attempts hhandler

/-! ## Turns -/

def Pending (s : WorkerSupervisor) (launch : Nat) (y : Session) : Prop :=
  ∃ app, s.launches[launch]? = some (.spawned y app)

theorem pending_setLaunch {launch other : Nat} {state : Launch} {y : Session} :
    (s.setLaunch launch state).Pending other y ↔
      if launch = other then ∃ app, state = .spawned y app else s.Pending other y := by
  simp only [Pending, setLaunch, Table.getElem?_insert_eq]
  split <;> simp

/-- A turn that names no worker and hands over no session. -/
structure Kept (s next : WorkerSupervisor) : Prop where
  clock : s.clock ≤ next.clock
  config : next.config = s.config
  nextWorker : next.nextWorker = s.nextWorker
  nextToken : next.nextToken = s.nextToken
  pending : ∀ launch y, next.Pending launch y → s.Pending launch y

namespace Kept

variable {next : WorkerSupervisor}

theorem same (hclock : next.clock = s.clock) (hconfig : next.config = s.config)
    (hworker : next.nextWorker = s.nextWorker) (htoken : next.nextToken = s.nextToken)
    (hlaunches : next.launches = s.launches) : Kept s next :=
  ⟨hclock.ge, hconfig, hworker, htoken, fun _ _ hpending => by rwa [Pending, hlaunches] at hpending⟩

theorem setLaunch (launch : Nat) {state : Launch} (hstate : ∀ y app, state ≠ .spawned y app) :
    Kept s (s.setLaunch launch state) := by
  refine ⟨le_rfl, rfl, rfl, rfl, fun other y hpending => ?_⟩
  rw [pending_setLaunch] at hpending
  split at hpending
  · obtain ⟨app, happ⟩ := hpending
    exact absurd happ (hstate y app)
  · exact hpending

theorem clock_config (hkept : Kept s next) : s.clock ≤ next.clock ∧ next.config = s.config :=
  ⟨hkept.clock, hkept.config⟩

end Kept

/-- What a turn does, apart from the first two of a launch. -/
structure Turned (s : WorkerSupervisor) (op : Op) (next : WorkerSupervisor)
    (events : List Event) : Prop where
  kept : Kept s next
  /-- The other threads leave the handlers and their events alone. -/
  handlers : op.connection = none →
    next.handlers = s.handlers ∧ ∀ e ∈ events, e.ofHandler = none
  returned : ∀ info, Event.returned info ∈ events → ∃ launch, op = .poll launch
  /-- A worker without a session is left alone. -/
  absent : ∀ w, s.sessions[w]? = none → next.sessions[w]? = none ∧ about w events = []
  /-- A known session is treated by an edit. -/
  edit : ∀ w x, s.sessions[w]? = some x →
    ∃ y, next.sessions[w]? = some y ∧ Edit s w x y (about w events)

namespace Turned

variable {op : Op} {next : WorkerSupervisor} {events : List Event}

theorem silent (hsessions : next.sessions = s.sessions) (hkept : Kept s next)
    (hhandlers : op.connection = none → next.handlers = s.handlers) : Turned s op next [] where
  kept := hkept
  handlers := fun hop => ⟨hhandlers hop, by simp⟩
  returned := by simp
  absent := fun w hnone => ⟨hsessions ▸ hnone, rfl⟩
  edit := fun w x hx => ⟨x, hsessions ▸ hx, .keep⟩

theorem treat (name : Bytes) (change : Session → Session) (hkept : Kept s next)
    (hsessions : ∀ w, next.sessions[w]? = if name = w then (s.sessions[w]?).map change
      else s.sessions[w]?)
    (hhandlers : op.connection = none →
      next.handlers = s.handlers ∧ ∀ e ∈ events, e.ofHandler = none)
    (hreturned : ∀ info, Event.returned info ∈ events → ∃ launch, op = .poll launch)
    (honly : ∀ e ∈ events, ∀ other, e.about = some other → other = name)
    (habsent : s.sessions[name]? = none → about name events = [])
    (hedit : ∀ x, s.sessions[name]? = some x → Edit s name x (change x) (about name events)) :
    Turned s op next events := by
  have hothers : ∀ w, name ≠ w → about w events = [] := fun w hname =>
    about_eq_nil fun e he habout => hname (honly e he w habout).symm
  refine ⟨hkept, hhandlers, hreturned, fun w hnone => ?_, fun w x hx => ?_⟩
  · refine ⟨by rw [hsessions, hnone]; split <;> rfl, ?_⟩
    by_cases hname : name = w
    · exact hname ▸ habsent (hname ▸ hnone)
    · exact hothers w hname
  · by_cases hname : name = w
    · subst hname
      exact ⟨change x, by rw [hsessions, if_pos rfl, hx, Option.map_some], hedit x hx⟩
    · exact ⟨x, by rw [hsessions, if_neg hname, hx], hothers w hname ▸ .keep⟩

end Turned

theorem turned_poll : Turned s (.poll launch) (s.poll launch).1 (s.poll launch).2 := by
  have hfails : ∀ workerId, Turned s (.poll launch) (s.setLaunch launch (.failing workerId)) [] :=
    fun workerId => .silent rfl (.setLaunch launch (by simp)) fun _ => rfl
  have hstays : Turned s (.poll launch) s [] := .silent rfl (.same rfl rfl rfl rfl rfl) fun _ => rfl
  unfold poll
  split
  · next workerId deadline _ =>
      split
      · next session hsession =>
          split_ifs with hready
          · refine .treat workerId id (.setLaunch launch (by simp)) (by simp)
              (fun _ => ⟨rfl, by simp [Event.ofHandler]⟩) (fun _ _ => ⟨launch, rfl⟩)
              (by simp [Event.about, Session.info]) (by simp [hsession]) fun x hx => ?_
            obtain rfl := Option.some.inj (hsession.symm.trans hx)
            simpa [about, Event.about, Session.info] using Edit.returned hready
          · exact hfails workerId
          · exact hstays
      · split_ifs
        · exact hfails workerId
        · exact hstays
  · exact hstays

theorem turned_giveUp : Turned s (.giveUp launch) (s.giveUp launch).1 (s.giveUp launch).2 := by
  unfold giveUp
  split
  · next workerId _ =>
      have hkept : Kept s (s.setLaunch launch (.threw
          (ascii "worker " ++ workerId ++ ascii " did not report a data-plane endpoint"))) :=
        .setLaunch launch (by simp)
      cases hknown : s.sessions[workerId]? with
      | none => exact .silent rfl hkept fun _ => rfl
      | some session =>
        refine .treat workerId id hkept (by simp) (fun _ => ⟨rfl, by simp [Event.ofHandler]⟩)
          (by simp) (by simp [Event.about]) (by simp [hknown]) fun x hx => ?_
        simpa [about, Event.about] using Edit.terminate
  · exact .silent rfl (.same rfl rfl rfl rfl rfl) fun _ => rfl

theorem turned_closeSession (closer : Nat) (appInstanceId workerId appToken : Bytes) :
    Turned s (.closeSession closer appInstanceId workerId appToken)
      (s.closeSession closer appInstanceId workerId appToken).1
      (s.closeSession closer appInstanceId workerId appToken).2 := by
  unfold closeSession
  dsimp only
  split
  · exact .silent rfl (.same rfl rfl rfl rfl rfl) fun _ => rfl
  · split
    · exact .silent rfl (.same rfl rfl rfl rfl rfl) fun _ => rfl
    · next session hsession =>
        split_ifs with _ hlive hfirst
        · exact .silent rfl (.same rfl rfl rfl rfl rfl) fun _ => rfl
        · exact .silent rfl (.same rfl rfl rfl rfl rfl) fun _ => rfl
        · exact .silent rfl (.same rfl rfl rfl rfl rfl) fun _ => rfl
        · refine .treat workerId (Session.requestClose s.clock) (.same rfl rfl rfl rfl rfl)
            (fun w => getElem?_edit (s := s.setCloser _ _) _ w)
            (fun _ => ⟨rfl, by simp [Event.ofHandler]⟩) (by simp) (by simp [Event.about])
            (by simp [hsession]) fun x hx => ?_
          obtain rfl := Option.some.inj (hsession.symm.trans hx)
          simpa [about, Event.about] using
            Edit.requestClose (by simpa using hlive) (by simpa using hfirst)

theorem turned_receive (type : Wire.MessageType) (body : Value) :
    Turned s (.receive connection type body) (s.receive connection type body).1
      (s.receive connection type body).2 := by
  unfold receive
  split
  · split <;> exact .silent rfl (.same rfl rfl rfl rfl rfl) nofun
  · next workerId _ =>
      split
      · exact .treat workerId (Session.beat s.clock) (.same rfl rfl rfl rfl rfl)
          (fun w => getElem?_edit _ w) nofun (by simp) (by simp) (fun _ => rfl) fun _ _ => .beat
      · exact .silent rfl (.same rfl rfl rfl rfl rfl) nofun
  · exact .silent rfl (.same rfl rfl rfl rfl rfl) nofun

theorem turned_disconnect :
    Turned s (.disconnect connection) (s.disconnect connection).1 (s.disconnect connection).2 := by
  unfold disconnect
  split
  · exact .silent rfl (.same rfl rfl rfl rfl rfl) nofun
  · next workerId _ =>
      exact .treat workerId (Session.closeChannel s.clock) (.same rfl rfl rfl rfl rfl)
        (fun w => getElem?_edit _ w) nofun (by simp) (by simp) (fun _ => rfl)
        fun _ _ => .closeChannel
  · exact .silent rfl (.same rfl rfl rfl rfl rfl) nofun

theorem turned_attempt :
    Turned s (.attempt connection) (s.attempt connection).1 (s.attempt connection).2 := by
  obtain ⟨next, events, hturn, hattempt⟩ := s.attempt_cases connection
  rw [hturn]
  cases hattempt with
  | idle => exact .silent rfl (.same rfl rfl rfl rfl rfl) nofun
  | missed => exact .silent rfl (.same rfl rfl rfl rfl rfl) nofun
  | refused =>
    exact .treat [] id (.same rfl rfl rfl rfl rfl) (by simp) nofun (by simp) (by simp [Event.about])
      (fun _ => rfl) fun _ _ => by simpa [about, Event.about] using Edit.keep
  | registered w hello x hregisters =>
    have hx := (findByToken_eq_some hregisters.found).1
    refine .treat w (Session.registered s.clock hello) (.same rfl rfl rfl rfl rfl)
      (fun other => getElem?_edit _ other) nofun (by simp) (by simp [Event.about])
      (by simp [hx]) fun y hy => ?_
    obtain rfl := Option.some.inj (hx.symm.trans hy)
    simpa [about, Event.about] using
      Edit.register connection hello hregisters.found hregisters.awaits

theorem edit_inspect : Edit s w x (s.inspect w x).1 (s.inspect w x).2 := by
  unfold inspect Session.inspect
  split
  · exact .keep
  · next hlive =>
      have hlive : x.lifecycle.terminal = false := by simpa using hlive
      split
      · next code hended =>
          change Edit s w x
            { x with lifecycle := (x.lifecycle.transition (x.verdict code)).1, connected := false }
            [.recorded w code (x.lifecycle.transition (x.verdict code)).1.state]
          rw [Session.transition_verdict hlive]
          exact .observe code hlive hended
      · next hruns =>
          split
          · exact .keep
          · next hreason =>
              have hreason : x.killReason s.timeout s.clock ≠ none := by simpa using hreason
              split
              · next hfirst => exact .condemn hlive hruns hreason (by simpa using hfirst)
              · next hagain =>
                  split
                  · next hlate => exact .reissue hlive hruns hreason (by simpa using hagain) hlate
                  · exact .keep

/-- The events of a pass about one worker are those of its own session. -/
theorem about_monitor (hx : s.sessions[w]? = some x) : about w s.monitor.2 = (s.inspect w x).2 := by
  obtain ⟨before, after, hsplit⟩ := List.append_of_mem
    (Std.ExtTreeMap.mem_toList_iff_getElem?_eq_some.mpr hx)
  have hdistinct := @Std.ExtTreeMap.distinct_keys_toList _ _ _ s.sessions _
  rw [hsplit, List.pairwise_append] at hdistinct
  obtain ⟨-, hafter, hbefore⟩ := hdistinct
  have hothers : ∀ entries : List (Bytes × Session), (∀ entry ∈ entries, entry.1 ≠ w) →
      about w (entries.flatMap fun entry => (s.inspect entry.1 entry.2).2) = [] := by
    intro entries hne
    apply about_eq_nil
    intro e he habout
    obtain ⟨entry, hentry, he⟩ := List.mem_flatMap.mp he
    exact hne entry hentry (Option.some.inj ((edit_inspect.about_eq e he).symm.trans habout))
  have hself : about w (s.inspect w x).2 = (s.inspect w x).2 :=
    List.filter_eq_self.mpr fun e he => decide_eq_true (edit_inspect.about_eq e he)
  rw [monitor, hsplit, List.flatMap_append, List.flatMap_cons, about_append, about_append, hself,
    hothers before, hothers after, List.nil_append, List.append_nil]
  · intro entry hentry hname
    exact (List.pairwise_cons.mp hafter).1 entry hentry (by simp [hname])
  · intro entry hentry hname
    exact hbefore entry hentry (w, x) List.mem_cons_self (by simp [hname])

theorem ofHandler_inspect (w : Bytes) (x : Session) :
    ∀ e ∈ (s.inspect w x).2, e.ofHandler = none ∧ ∀ info, e ≠ .returned info := by
  unfold inspect Session.inspect
  split
  · simp
  · split
    · simp [Event.ofHandler]
    · split_ifs <;> simp [Event.ofHandler]

theorem turned_monitor : Turned s .monitor s.monitor.1 s.monitor.2 where
  kept := .same rfl rfl rfl rfl rfl
  handlers := fun _ => ⟨rfl, fun e he => by
    obtain ⟨entry, -, he⟩ := List.mem_flatMap.mp he
    exact (ofHandler_inspect entry.1 entry.2 e he).1⟩
  returned := fun info he => by
    obtain ⟨entry, -, he⟩ := List.mem_flatMap.mp he
    exact absurd rfl ((ofHandler_inspect entry.1 entry.2 _ he).2 info)
  absent := fun w hnone => by
    refine ⟨by rw [monitor, Std.ExtTreeMap.getElem?_map, hnone]; rfl, about_eq_nil ?_⟩
    intro e he habout
    obtain ⟨entry, hentry, he⟩ := List.mem_flatMap.mp he
    have hname := Option.some.inj ((edit_inspect.about_eq e he).symm.trans habout)
    rw [← hname, Std.ExtTreeMap.mem_toList_iff_getElem?_eq_some.mp hentry] at hnone
    cases hnone
  edit := fun w x hx => by
    refine ⟨(s.inspect w x).1, ?_, about_monitor hx ▸ edit_inspect⟩
    rw [monitor, Std.ExtTreeMap.getElem?_map, hx]
    rfl

theorem turned {op : Op} (hordinary : op.Ordinary) : Turned s op (s.step op).1 (s.step op).2 := by
  cases op with
  | spawn launch req => exact absurd rfl (hordinary.1 launch req)
  | insert launch => exact absurd rfl (hordinary.2 launch)
  | advance elapsed =>
    exact .silent rfl ⟨Int.le_add_of_nonneg_right (Int.natCast_nonneg elapsed), rfl, rfl, rfl,
      fun _ _ => id⟩ fun _ => rfl
  | exit workerId code => exact .silent rfl (.same rfl rfl rfl rfl rfl) fun _ => rfl
  | poll launch => exact turned_poll launch
  | giveUp launch => exact turned_giveUp launch
  | closeSession closer appInstanceId workerId appToken =>
    exact turned_closeSession closer appInstanceId workerId appToken
  | awaitClosed closer =>
    simp only [step]
    unfold awaitClosed
    split
    · split_ifs <;> exact .silent rfl (.same rfl rfl rfl rfl rfl) fun _ => rfl
    · exact .silent rfl (.same rfl rfl rfl rfl rfl) fun _ => rfl
  | accept connection =>
    simp only [step]
    unfold accept
    split <;> exact .silent rfl (.same rfl rfl rfl rfl rfl) nofun
  | receive connection type body => exact turned_receive connection type body
  | attempt connection => exact turned_attempt connection
  | disconnect connection => exact turned_disconnect connection
  | monitor => exact turned_monitor

end WorkerSupervisor

end VkRelay.Supervisor
