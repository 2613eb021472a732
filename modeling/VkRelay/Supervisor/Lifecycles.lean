import VkRelay.Supervisor.Registration

/-!
What a session has been through. Its lifecycle takes the steps the log tells of and no others:
one registration at most, and then one recorded end at most. The endpoint a client is given is
the one the worker has reported.
-/

namespace VkRelay.Supervisor

open VkRelay.Json

/-- What changes a lifecycle, as the log tells it. -/
inductive Milestone where
  | registered (hello : WorkerHello)
  | ended (state : WorkerState)

/-- The registrations and the recorded ends, in the order of the log. -/
def milestones (log : List Event) : List Milestone :=
  log.filterMap fun
    | .registered _ _ hello => some (.registered hello)
    | .recorded _ _ state => some (.ended state)
    | _ => none

/-- A lifecycle that is explained by what the log tells. -/
inductive Story : WorkerLifecycle → List Milestone → Prop
  | spawned : Story {} []
  | running (hello : WorkerHello) :
      Story ⟨.running, [.spawned, .handshaking, .running]⟩ [.registered hello]
  | ended {lifecycle : WorkerLifecycle} {past : List Milestone} (state : WorkerState)
      (hstory : Story lifecycle past) (hlive : lifecycle.terminal = false)
      (hend : state.isTerminal = true) :
      Story ⟨state, lifecycle.history ++ [state]⟩ (past ++ [.ended state])

variable {s : WorkerSupervisor} {w : Bytes} {x y : Session} {log events : List Event}

theorem Story.edit (hedit : s.Edit w x y events) (hstory : Story x.lifecycle (milestones log)) :
    Story y.lifecycle (milestones (log ++ events)) := by
  rw [milestones, List.filterMap_append]
  change Story _ (milestones log ++ milestones events)
  generalize milestones log = past at hstory
  cases hedit with
  | register connection hello hfound hawaits =>
    have hspawned : x.lifecycle.state = .spawned := hawaits.2.1
    simp only [Session.registered]
    generalize x.lifecycle = lifecycle at hstory hspawned
    cases hstory with
    | spawned => exact .running hello
    | running => cases hspawned
    | ended state _ _ hend =>
      obtain rfl : state = .spawned := hspawned
      cases hend
  | observe code hlive hended => exact .ended _ hstory hlive (x.isTerminal_verdict code)
  | _ =>
    simpa [milestones, Session.beat, Session.closeChannel, Session.requestClose,
      Session.condemned] using hstory

variable (config : WorkerSupervisorConfig) (nextToken : Nat) (ops : List Op)

/-- In every run the lifecycle of every session is the one its log tells. -/
theorem lifecycle_follows_log (hx : (historyOf config nextToken ops).state.sessions[w]? = some x) :
    Story x.lifecycle (milestones (about w (historyOf config nextToken ops).log)) := by
  refine session_invariant (P := fun _ _ x log => Story x.lifecycle (milestones log))
    config nextToken ops (fun _ _ _ y hfresh _ => ?_)
    (fun _ _ _ _ _ _ _ hedit hstory => hstory.edit hedit) (fun _ _ _ _ _ _ => id) hx
  rw [hfresh.lifecycle]
  exact .spawned

/-- The worker registers late, and its launch returns. -/
def served : List Op := lateHello ++ [.attempt 0, .poll 0]

theorem lifecycle_follows_log_served :
    ∃ x, (historyOf {} 1 served).state.sessions[workerName 1]? = some x ∧
      Story x.lifecycle (milestones (about (workerName 1) (historyOf {} 1 served).log)) := by
  obtain ⟨x, hx⟩ : ∃ x, (historyOf {} 1 served).state.sessions[workerName 1]? = some x :=
    Option.isSome_iff_exists.mp (by decide +kernel)
  exact ⟨x, hx, lifecycle_follows_log {} 1 served hx⟩

/-- The session has been registered, with the endpoints of the hello that registered it. -/
def Session.Reported (x : Session) (w : Bytes) (log : List Event) : Prop :=
  x.lifecycle.state ≠ .spawned ∧ ∃ connection hello, .registered connection w hello ∈ log ∧
    x.dataPlanePort = hello.dataPlanePort ∧ x.sidecarPlanePort = hello.sidecarPlanePort

/-- The client was told all of the session, whose worker has reported the ports it needs. -/
def SessionInfo.Reported (info : SessionInfo) (sidecarPlane : Bool) (x : Session)
    (log : List Event) : Prop :=
  info = x.info info.workerId sidecarPlane ∧ 0 < x.dataPlanePort ∧
    (sidecarPlane = true → 0 < x.sidecarPlanePort) ∧ x.Reported info.workerId log

structure Told (sidecarPlane : Bool) (w : Bytes) (x : Session) (log : List Event) : Prop where
  connected : x.connected = true → x.Reported w log
  returned : ∀ info, info.workerId = w → .returned info ∈ log → info.Reported sidecarPlane x log

theorem Session.Reported.later (hreported : x.Reported w log) : x.Reported w (log ++ events) := by
  obtain ⟨hstate, connection, hello, hin, hports⟩ := hreported
  exact ⟨hstate, connection, hello, List.mem_append_left _ hin, hports⟩

theorem Told.edit (hedit : s.Edit w x y events) (htold : Told s.config.sidecarPlane w x log) :
    Told s.config.sidecarPlane w y (log ++ events) := by
  have hconnected : x.connected = true → x.Reported w (log ++ events) :=
    fun hup => (htold.connected hup).later
  have hearlier : ∀ info, info.workerId = w → .returned info ∈ log →
      info.Reported s.config.sidecarPlane x (log ++ events) := by
    intro info hname hin
    obtain ⟨hinfo, hdata, hsidecar, hreported⟩ := htold.returned info hname hin
    exact ⟨hinfo, hdata, hsidecar, hreported.later⟩
  cases hedit with
  | register connection hello hfound hawaits =>
    refine ⟨fun _ => ⟨nofun, connection, hello, by simp, rfl, rfl⟩, fun info hname hin => ?_⟩
    obtain ⟨-, -, -, hstate, -⟩ := htold.returned info hname (by simpa using hin)
    exact absurd hawaits.2.1 hstate
  | returned hready =>
    refine ⟨hconnected, fun info hname hin => ?_⟩
    rcases List.mem_append.mp hin with hin | hnew
    · exact hearlier info hname hin
    · obtain rfl := Event.returned.inj (List.mem_singleton.mp hnew)
      simp only [Session.ready, Bool.and_eq_true, decide_eq_true_eq] at hready
      obtain ⟨⟨hup, hdata⟩, hsidecar⟩ := hready
      exact ⟨rfl, hdata, fun hplane => by simpa [hplane] using hsidecar, hconnected hup⟩
  | observe code =>
    refine ⟨nofun, fun info hname hin => ?_⟩
    obtain ⟨hinfo, hdata, hsidecar, -, hhello⟩ := hearlier info hname (by simpa using hin)
    refine ⟨hinfo, hdata, hsidecar, fun hspawned => ?_, hhello⟩
    have hend := x.isTerminal_verdict code
    rw [show x.verdict code = .spawned from hspawned] at hend
    cases hend
  | keep | beat | terminate | reissue | requestClose =>
    exact ⟨hconnected, fun info hname hin => hearlier info hname (by simpa using hin)⟩
  | closeChannel | condemn =>
    exact ⟨nofun, fun info hname hin => hearlier info hname (by simpa using hin)⟩

/-- Whatever a launch has returned to its client is what the table says of that session, under the
configuration of the supervisor: the tokens are its own, its worker itself reported the endpoints
when it registered, and the ports the client needs are there. -/
theorem returned_endpoint_reported (info : SessionInfo)
    (hin : .returned info ∈ (historyOf config nextToken ops).log) :
    ∃ x, (historyOf config nextToken ops).state.sessions[info.workerId]? = some x ∧
      info.Reported config.sidecarPlane x
        (about info.workerId (historyOf config nextToken ops).log) := by
  obtain ⟨x, hx⟩ := known_of_event config nextToken ops hin rfl nofun
  have htold : Told config.sidecarPlane info.workerId x
      (about info.workerId (historyOf config nextToken ops).log) :=
    session_invariant (P := fun _ w x log => Told config.sidecarPlane w x log)
      config nextToken ops
      (fun _ _ _ y hfresh _ => ⟨fun hup => by simp [hfresh.connected] at hup, by simp⟩)
      (fun s w x y log events hconfig hedit htold => by
        rw [← hconfig] at htold ⊢
        exact htold.edit hedit)
      (fun _ _ _ _ _ _ => id) hx
  exact ⟨x, hx, htold.returned info rfl ((mem_about rfl).mpr hin)⟩

def servedInfo : SessionInfo :=
  { workerId := workerName 1, dataPlaneHost := ascii "127.0.0.1", dataPlanePort := 5000
    appToken := ascii "app-" ++ mintToken 1 [] }

theorem returned_endpoint_reported_served :
    ∃ x, (historyOf {} 1 served).state.sessions[workerName 1]? = some x ∧
      servedInfo.Reported false x (about (workerName 1) (historyOf {} 1 served).log) :=
  returned_endpoint_reported {} 1 served servedInfo (by decide +kernel)

end VkRelay.Supervisor
