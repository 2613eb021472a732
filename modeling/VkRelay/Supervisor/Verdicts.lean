import VkRelay.Supervisor.Sessions

/-!
What the monitor makes of a worker that is to be terminated. It reports a kill when it has asked
for the termination itself; a failed launch asks as well and leaves no mark in the session, so
the end of that worker can be reported as a crash or a clean exit. And it asks again only while
it still finds a reason, which a late heartbeat, a closing channel or a close request can take
away.
-/

namespace VkRelay.Supervisor

open VkRelay.Lib VkRelay.Json

/-! ## Marks and log -/

def Terminated (w : Bytes) (log : List Event) : Prop := ∃ time, Event.terminate w time ∈ log

/-- The times of the terminate calls on the worker, oldest first. -/
def terminateTimes (w : Bytes) (log : List Event) : List Int :=
  log.filterMap fun e =>
    match e with
    | .terminate name time => if name = w then some time else none
    | _ => none

theorem terminateTimes_append (w : Bytes) (first second : List Event) :
    terminateTimes w (first ++ second) = terminateTimes w first ++ terminateTimes w second :=
  List.filterMap_append ..

theorem terminateTimes_about (w : Bytes) (log : List Event) :
    terminateTimes w (about w log) = terminateTimes w log := by
  rw [terminateTimes, about, List.filterMap_filter]
  refine List.filterMap_congr fun e _ => ?_
  cases e <;> simp [Event.about]

/-- The marks of a session say what the log says about its worker. -/
structure Marked (clock : Int) (w : Bytes) (x : Session) (log : List Event) : Prop where
  requested : Event.requested w ∈ log ↔ x.terminationRequested = true
  closing : Event.closeRequested w ∈ log ↔ x.launcherCloseRequested = true
  terminated : x.terminationRequested = true → x.terminationRequestedAt ≤ clock ∧
    ∃ time ∈ (terminateTimes w log).getLast?, x.terminationRequestedAt ≤ time
  recorded : ∀ code state, Event.recorded w code state ∈ log →
    x.lifecycle.state = state ∧ state.isTerminal = true

theorem Marked.fresh {w token : Bytes} {y : Session} (hfresh : y.Fresh w token) (clock : Int) :
    Marked clock w y [.minted w token] where
  requested := by simp [hfresh.terminationRequested]
  closing := by simp [hfresh.launcherCloseRequested]
  terminated hrequested := by simp [hfresh.terminationRequested] at hrequested
  recorded code state hmem := by simp at hmem

theorem Marked.edit {s : WorkerSupervisor} {w : Bytes} {x y : Session} {log events : List Event}
    (hedit : s.Edit w x y events) (hmarked : Marked s.clock w x log) :
    Marked s.clock w y (log ++ events) := by
  obtain ⟨hrequested, hclosing, hterminated, hrecorded⟩ := hmarked
  have hlive : x.lifecycle.terminal = false → ∀ code state, Event.recorded w code state ∉ log := by
    intro hlive code state hmem
    obtain ⟨hstate, hterminal⟩ := hrecorded code state hmem
    rw [WorkerLifecycle.terminal, hstate, hterminal] at hlive
    cases hlive
  refine ⟨?_, ?_, ?_, ?_⟩
  · cases hedit <;> simp [hrequested, Session.beat, Session.closeChannel, Session.requestClose,
      Session.registered, Session.observed, Session.condemned]
  · cases hedit <;> simp [hclosing, Session.beat, Session.closeChannel, Session.requestClose,
      Session.registered, Session.observed, Session.condemned]
  · rw [terminateTimes_append]
    cases hedit with
    | terminate =>
      intro hmark
      exact ⟨(hterminated hmark).1, s.clock, by simp [terminateTimes], (hterminated hmark).1⟩
    | condemn _ _ _ _ | reissue _ _ _ _ _ =>
      exact fun _ => ⟨le_rfl, s.clock, by simp [terminateTimes], le_rfl⟩
    | _ =>
      rw [← List.append_nil (terminateTimes w log)] at hterminated
      exact hterminated
  · cases hedit with
    | register connection hello hfound hawaits =>
      intro code state hmem
      have hspawned : x.lifecycle.terminal = false := by
        rw [WorkerLifecycle.terminal, hawaits.2.1]
        rfl
      simp [hlive hspawned] at hmem
    | observe code hrunning hended =>
      intro other state hmem
      simp only [List.mem_append, hlive hrunning, List.mem_singleton, Event.recorded.injEq,
        false_or] at hmem
      exact ⟨hmem.2.2.symm, hmem.2.2 ▸ x.isTerminal_verdict code⟩
    | _ => exact fun code state hmem => hrecorded code state (by simpa using hmem)

variable (config : WorkerSupervisorConfig) (nextToken : Nat) (ops : List Op) {w : Bytes}

/-- Every session of a run is marked as the log says. -/
theorem marked_historyOf {x : Session}
    (hx : (historyOf config nextToken ops).state.sessions[w]? = some x) :
    Marked (historyOf config nextToken ops).state.clock w x
      (about w (historyOf config nextToken ops).log) := by
  apply session_invariant config nextToken ops _ _ _ hx
  · exact fun clock w token y hfresh _ => Marked.fresh hfresh clock
  · exact fun s w x y log events _ hedit hmarked => hmarked.edit hedit
  · intro clock later w x log hle hmarked
    refine { hmarked with terminated := fun hmark => ?_ }
    exact ⟨(hmarked.terminated hmark).1.trans hle, (hmarked.terminated hmark).2⟩

/-! ## Reports -/

/-- The end of a process that is observed in a turn is reported as the log explains it. -/
def Reported (h : History WorkerSupervisor Event) (op : Op) : Prop :=
  ∀ w code state, Event.recorded w code state ∈ (h.state.step op).2 →
    (Terminated w h.log → state = .killed) ∧
    (¬Terminated w h.log → state =
      if code = 0 ∧ (h.state.sessions[w]?).map (·.lifecycle.state) = some .running then .exited
      else .crashed)

/-- What has been recorded of a worker is still the state of its session. -/
def Final (h : History WorkerSupervisor Event) : Prop :=
  ∀ w code state, Event.recorded w code state ∈ h.log →
    (h.state.sessions[w]?).map (·.lifecycle.state) = some state

/-- Only a session that is not terminal has the end of its process recorded. -/
theorem recorded_step {h : History WorkerSupervisor Event} (hsound : Sound h) {op : Op} {w : Bytes}
    {code : Int} {state : WorkerState} (he : Event.recorded w code state ∈ (h.state.step op).2) :
    ∃ x, h.state.sessions[w]? = some x ∧ state = x.verdict code := by
  rcases hsound.event_step op he rfl with ⟨token, hminted⟩ | ⟨x, y, hx, -, hedit, hmem⟩
  · cases hminted
  · refine ⟨x, hx, ?_⟩
    generalize about w (h.state.step op).2 = events at hedit hmem
    cases hedit with
    | observe code hlive hended =>
      simp only [List.mem_singleton, Event.recorded.injEq] at hmem
      rw [hmem.2.2, hmem.2.1]
    | _ => simp at hmem

theorem mem_terminateTimes {log : List Event} {time : Int} :
    time ∈ terminateTimes w log ↔ Event.terminate w time ∈ log := by
  simp only [terminateTimes, List.mem_filterMap]
  constructor
  · rintro ⟨e, he, htime⟩
    cases e with
    | terminate name at' =>
      rw [Option.ite_none_right_eq_some] at htime
      obtain ⟨rfl, hsame⟩ := htime
      exact Option.some.inj hsame ▸ he
    | _ => cases htime
  · exact fun he => ⟨_, he, if_pos rfl⟩

theorem terminated_of_requested (he : Event.requested w ∈ (historyOf config nextToken ops).log) :
    Terminated w (historyOf config nextToken ops).log := by
  obtain ⟨x, hx⟩ := known_of_event config nextToken ops he rfl (by simp)
  have hmarked := marked_historyOf config nextToken ops hx
  obtain ⟨-, time, htime, -⟩ := hmarked.terminated
    (hmarked.requested.mp ((mem_about rfl).mpr he))
  rw [terminateTimes_about] at htime
  exact ⟨time, mem_terminateTimes.mp (List.mem_of_getLast? htime)⟩

/-- The reports of a turn are right exactly when no worker that ends in it had been terminated
without a request of the monitor. -/
theorem reported_iff (op : Op) : Reported (historyOf config nextToken ops) op ↔ ∀ w code state,
        Event.recorded w code state ∈ ((historyOf config nextToken ops).state.step op).2 →
        Terminated w (historyOf config nextToken ops).log →
        Event.requested w ∈ (historyOf config nextToken ops).log := by
  refine forall_congr' fun w => forall_congr' fun code => forall_congr' fun state =>
    forall_congr' fun he => ?_
  obtain ⟨x, hx, rfl⟩ := recorded_step (sound_historyOf config nextToken ops) he
  have hrequested := (marked_historyOf config nextToken ops hx).requested
  rw [mem_about rfl] at hrequested
  have hterminated := @terminated_of_requested config nextToken ops w
  generalize historyOf config nextToken ops = h at hx hrequested hterminated
  rw [hrequested] at hterminated ⊢
  rw [hx, Session.verdict, terminalState]
  cases hmark : x.terminationRequested with
  | true => simp [hterminated hmark]
  | false =>
    have hkilled : (if code = 0 ∧ x.lifecycle.state = .running then WorkerState.exited
        else .crashed) ≠ .killed := by
      split <;> simp
    simp [hkilled]

theorem final_historyOf : Final (historyOf config nextToken ops) := by
  intro w code state he
  obtain ⟨x, hx⟩ := known_of_event config nextToken ops he rfl (by simp)
  have hmarked := marked_historyOf config nextToken ops hx
  rw [hx, Option.map_some, (hmarked.recorded code state ((mem_about rfl).mpr he)).1]

/-- Along a run, every end of a process is reported right and for good exactly when every worker
that ends after a terminate call had its termination requested by the monitor as well. -/
theorem supervised_kill_reported_iff (config : WorkerSupervisorConfig) (nextToken : Nat)
    (ops : List Op) :
    ((∀ before op after, ops = before ++ op :: after →
        Reported (historyOf config nextToken before) op) ∧
      ∀ before after, ops = before ++ after → Final (historyOf config nextToken before)) ↔
    ∀ before op after, ops = before ++ op :: after → ∀ w code state,
      Event.recorded w code state ∈ ((historyOf config nextToken before).state.step op).2 →
      Terminated w (historyOf config nextToken before).log →
      Event.requested w ∈ (historyOf config nextToken before).log := by
  rw [and_iff_left fun before _ _ => final_historyOf config nextToken before]
  refine forall_congr' fun before => forall_congr' fun op => forall_congr' fun _ =>
    forall_congr' fun _ => reported_iff config nextToken before op

/-- The launch of the first worker gives up after four seconds, and the worker then ends. -/
def failedLaunch : List Op :=
  [.spawn 0 {}, .insert 0, .advance 4000000000, .poll 0, .giveUp 0, .exit (workerName 1) 1]

theorem failed_launch_reported_as_crash :
    (historyOf {} 1 failedLaunch).log = [.minted (workerName 1) (mintToken 2 (workerName 1)),
      .terminate (workerName 1) 4000000000] ∧
    ((historyOf {} 1 failedLaunch).state.step .monitor).2 =
      [.recorded (workerName 1) 1 .crashed] := by
  decide

/-! ## Asking again -/

/-- The worker still runs although terminate was called more than the escalation time ago. -/
structure Overdue (h : History WorkerSupervisor Event) (w : Bytes) (x : Session) : Prop where
  known : h.state.sessions[w]? = some x
  live : x.lifecycle.terminal = false
  runs : (h.state.processes[w]?).join = none
  requested : x.terminationRequested = true
  late : ∃ time ∈ (terminateTimes w h.log).getLast?,
    h.state.clock - time > milliseconds kTerminateEscalateMs

/-- The monitor still finds a reason: the graces are over and the last heartbeat is too old, as
far as each of them counts. -/
def StillWanted (timeout now : Int) (x : Session) : Prop :=
  if x.launcherCloseRequested then
    now - x.launcherCloseRequestedAt > milliseconds kLauncherCloseGraceMs
  else if x.channelClosed then now - x.channelClosedAt > milliseconds kChannelCloseGraceMs
  else now - x.lastHeartbeat > timeout

theorem killReason_ne_none (timeout now : Int) (x : Session) :
    x.killReason timeout now ≠ none ↔ StillWanted timeout now x := by
  unfold Session.killReason StillWanted
  cases x.launcherCloseRequested <;> cases x.channelClosed <;> cases x.connected <;>
    simp [lt_sub_iff_add_lt]

/-- A worker that still runs past the escalation time is terminated again for any reason. -/
theorem inspect_overdue {timeout now : Int} {x : Session} (w : Bytes)
    (hlive : x.lifecycle.terminal = false) (hrequested : x.terminationRequested = true)
    (hlate : now - x.terminationRequestedAt > milliseconds kTerminateEscalateMs) :
    (x.inspect w timeout now none).2 =
      if x.killReason timeout now = none then [] else [.terminate w now] := by
  unfold Session.inspect
  rw [if_neg (by simp [hlive])]
  by_cases hreason : x.killReason timeout now = none
  · simp [hreason]
  · have hsome : ¬(x.killReason timeout now).isNone = true := by simpa using hreason
    dsimp only
    rw [if_neg hsome, if_neg (by simp [hrequested]), if_pos hlate, if_neg hreason]

theorem terminate_mem_monitor_iff {config : WorkerSupervisorConfig} {nextToken : Nat}
    {ops : List Op} {w : Bytes} {x : Session}
    (hoverdue : Overdue (historyOf config nextToken ops) w x) :
    Event.terminate w (historyOf config nextToken ops).state.clock ∈
        ((historyOf config nextToken ops).state.step .monitor).2 ↔
      StillWanted (historyOf config nextToken ops).state.timeout
        (historyOf config nextToken ops).state.clock x := by
  obtain ⟨hknown, hlive, hruns, hrequested, time, htime, hlate⟩ := hoverdue
  obtain ⟨-, last, hlast, hle⟩ :=
    (marked_historyOf config nextToken ops hknown).terminated hrequested
  rw [terminateTimes_about] at hlast
  obtain rfl := Option.some.inj (hlast.symm.trans htime)
  generalize historyOf config nextToken ops = h at hknown hruns hlate ⊢
  have hescalates : h.state.clock - x.terminationRequestedAt >
      milliseconds kTerminateEscalateMs := by
    omega
  have hevents : about w (h.state.step .monitor).2 =
      if x.killReason h.state.timeout h.state.clock = none then []
      else [.terminate w h.state.clock] := by
    rw [← inspect_overdue w hlive hrequested hescalates, ← hruns]
    exact WorkerSupervisor.about_monitor hknown
  have habout : (Event.terminate w h.state.clock).about = some w := rfl
  rw [← killReason_ne_none, ← mem_about habout, hevents]
  split
  next hnone => simp [hnone]
  next hreason => simp [hreason]

/-- Along a run, no terminate request is forgotten exactly when each pass that finds a worker
overdue still finds a reason to terminate it. -/
theorem terminate_reissued_iff (config : WorkerSupervisorConfig) (nextToken : Nat)
    (ops : List Op) :
    (∀ before after, ops = before ++ .monitor :: after → ∀ w x,
      Overdue (historyOf config nextToken before) w x →
      Event.terminate w (historyOf config nextToken before).state.clock ∈
        ((historyOf config nextToken before).state.step .monitor).2) ↔
    ∀ before after, ops = before ++ .monitor :: after → ∀ w x,
      Overdue (historyOf config nextToken before) w x →
      StillWanted (historyOf config nextToken before).state.timeout
        (historyOf config nextToken before).state.clock x := by
  refine forall_congr' fun before => forall_congr' fun after => forall_congr' fun _ =>
    forall_congr' fun w => forall_congr' fun x => forall_congr' fun hoverdue =>
      terminate_mem_monitor_iff hoverdue

def firstHello : Value :=
  .object [(ascii "worker_id", .string (workerName 1)),
    (ascii "token", .string (mintToken 1 (workerName 1)))]

/-- The worker registers and falls silent; after four seconds the monitor asks for its
termination, half a second later a heartbeat arrives after all, and a second passes. -/
def lateHeartbeat : List Op :=
  [.spawn 0 { app := false }, .insert 0, .accept 0, .receive 0 .workerHello firstHello, .attempt 0,
    .advance 4000000000, .monitor, .advance 500000000, .receive 0 .heartbeat .null,
    .advance 1000000000]

theorem late_heartbeat_hides_terminate :
    (∃ x, Overdue (historyOf {} 1 lateHeartbeat) (workerName 1) x) ∧
      ((historyOf {} 1 lateHeartbeat).state.step .monitor).2 = [] := by
  have hmarks : ((historyOf {} 1 lateHeartbeat).state.sessions[workerName 1]?).map
      (fun x => (x.lifecycle.terminal, x.terminationRequested)) = some (false, true) := by
    decide
  obtain ⟨x, hx, hflags⟩ := Option.map_eq_some_iff.mp hmarks
  rw [Prod.mk.injEq] at hflags
  have hruns : ((historyOf {} 1 lateHeartbeat).state.processes[workerName 1]?).join = none := by
    decide
  have htimes : (terminateTimes (workerName 1) (historyOf {} 1 lateHeartbeat).log).getLast? =
      some 4000000000 := by
    decide
  have hlate : (historyOf {} 1 lateHeartbeat).state.clock - 4000000000 >
      milliseconds kTerminateEscalateMs := by
    decide
  exact ⟨⟨x, hx, hflags.1, hruns, hflags.2, _, htimes, hlate⟩, by decide⟩

end VkRelay.Supervisor
