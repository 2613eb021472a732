import VkRelay.Supervisor.Verdicts

/-!
Who may register. A worker registers by a hello with its own name and its one-time token, on one
connection, once: a token is consumed when it is used, a consumed token is empty, and a session
whose token is empty no longer awaits anybody. Neither a request for termination nor a close
request is looked at, though, when a hello or a launch finds the session.
-/

namespace VkRelay.Supervisor

open VkRelay.Lib VkRelay.Json

namespace WorkerSupervisor

variable {s : WorkerSupervisor}

variable {op : Op}

/-- The other threads leave the handlers and their events alone. -/
theorem handlers_kept (hop : op.connection = none) :
    (s.step op).1.handlers = s.handlers ∧ ∀ e ∈ (s.step op).2, e.ofHandler = none := by
  rcases op.kinds with ⟨launch, req, rfl⟩ | ⟨launch, rfl⟩ | hordinary
  · obtain ⟨next, events, hturn, hspawned⟩ := s.spawn_cases launch req
    simp only [step, hturn]
    cases hspawned <;> exact ⟨rfl, by simp [Event.ofHandler]⟩
  · simp only [step]
    unfold insert
    split <;> exact ⟨rfl, by simp⟩
  · exact (s.turned hordinary).handlers hop

/-- A handler speaks only of its attempts. -/
theorem handler_silent (connection : Nat) (hop : op.connection = some connection)
    (hattempt : op ≠ .attempt connection) : (s.step op).2 = [] := by
  cases op with
  | accept other =>
    simp only [step, accept]
    split <;> rfl
  | receive other type body =>
    simp only [step, receive]
    split
    · split <;> rfl
    · split <;> rfl
    · rfl
  | disconnect other =>
    simp only [step, disconnect]
    split <;> rfl
  | attempt other => exact absurd (congrArg Op.attempt (Option.some.inj hop)) hattempt
  | _ => cases hop

/-- Exactly an attempt that is awaited registers a worker. -/
theorem registered_mem_step {connection : Nat} {w : Bytes} {hello : WorkerHello} :
    Event.registered connection w hello ∈ (s.step op).2 ↔
      op = .attempt connection ∧ ∃ x, s.Registers connection w hello x := by
  have hturn : ∀ other, Event.registered connection w hello ∈ (s.attempt other).2 ↔
      other = connection ∧ ∃ x, s.Registers connection w hello x := by
    intro other
    obtain ⟨next, events, hturn, hattempt⟩ := s.attempt_cases other
    rw [hturn]
    have hnever : (∀ x, ¬s.Registers other w hello x) →
        ¬(other = connection ∧ ∃ x, s.Registers connection w hello x) := by
      rintro hnone ⟨rfl, x, hregisters⟩
      exact hnone x hregisters
    cases hattempt with
    | idle hidle =>
      refine iff_of_false List.not_mem_nil (hnever fun x hregisters => ?_)
      obtain ⟨attempts, -, hhandler⟩ := hregisters.handler
      exact hidle hello attempts hhandler
    | refused greeting attempts hhandler hspent =>
      refine iff_of_false (by simp) (hnever fun x hregisters => ?_)
      obtain ⟨count, hfew, hsame⟩ := hregisters.handler
      obtain ⟨-, rfl⟩ := Handler.registering.inj (Option.some.inj (hhandler.symm.trans hsame))
      omega
    | missed greeting attempts hhandler hnobody =>
      refine iff_of_false List.not_mem_nil (hnever fun x hregisters => ?_)
      obtain ⟨count, -, hsame⟩ := hregisters.handler
      obtain ⟨rfl, -⟩ := Handler.registering.inj (Option.some.inj (hhandler.symm.trans hsame))
      exact hnobody w x hregisters.found hregisters.awaits
    | registered name greeting y hregisters =>
      simp only [List.mem_cons, Event.registered.injEq, reduceCtorEq, List.not_mem_nil, or_false]
      constructor
      · rintro ⟨rfl, rfl, rfl⟩
        exact ⟨rfl, y, hregisters⟩
      · rintro ⟨rfl, x, hother⟩
        obtain ⟨count, -, hhandler⟩ := hregisters.handler
        obtain ⟨count', -, hsame⟩ := hother.handler
        obtain ⟨rfl, -⟩ := Handler.registering.inj (Option.some.inj (hhandler.symm.trans hsame))
        have hfound := Prod.mk.inj (Option.some.inj (hregisters.found.symm.trans hother.found))
        exact ⟨rfl, hfound.1.symm, rfl⟩
  cases hconnection : op.connection with
  | none =>
    refine iff_of_false (fun he => ?_) ?_
    · cases (handlers_kept hconnection).2 _ he
    · rintro ⟨rfl, -⟩
      cases hconnection
  | some other =>
    by_cases hop : op = .attempt other
    · subst hop
      simpa [step] using hturn other
    · rw [handler_silent other hconnection hop]
      refine iff_of_false List.not_mem_nil ?_
      rintro ⟨rfl, -⟩
      exact hop (congrArg Op.attempt (Option.some.inj hconnection))

/-- A launch finds the endpoints of its worker. -/
structure Returns (s : WorkerSupervisor) (launch : Nat) (w : Bytes) (x : Session) : Prop where
  polling : ∃ deadline, s.launches[launch]? = some (.polling w deadline)
  known : s.sessions[w]? = some x
  ready : x.ready s.config.sidecarPlane = true

theorem poll_of_returned {info : SessionInfo} (he : Event.returned info ∈ (s.step op).2) :
    ∃ launch, op = .poll launch := by
  rcases op.kinds with ⟨launch, req, rfl⟩ | ⟨launch, rfl⟩ | hordinary
  · obtain ⟨next, events, hturn, hspawned⟩ := s.spawn_cases launch req
    simp only [step, hturn] at he
    cases hspawned <;> simp at he
  · simp only [step, (s.insert_kept launch).1] at he
    cases he
  · exact (s.turned hordinary).returned info he

/-- Exactly a launch that finds its worker's endpoints hands them out. -/
theorem returned_mem_step {w : Bytes} :
    (∃ info, Event.returned info ∈ (s.step op).2 ∧ info.workerId = w) ↔
      ∃ launch x, op = .poll launch ∧ s.Returns launch w x := by
  constructor
  · rintro ⟨info, he, rfl⟩
    obtain ⟨launch, rfl⟩ := poll_of_returned he
    simp only [step, poll] at he
    split at he
    · next workerId deadline hlaunch =>
        split at he
        · next x hx =>
            split_ifs at he with hready
            · obtain rfl : info = _ := Event.returned.inj (List.mem_singleton.mp he)
              exact ⟨launch, x, rfl, ⟨deadline, hlaunch⟩, hx, hready⟩
            · cases he
            · cases he
        · split_ifs at he <;> cases he
    · cases he
  · rintro ⟨launch, x, rfl, ⟨deadline, hlaunch⟩, hx, hready⟩
    refine ⟨x.info w s.config.sidecarPlane, ?_, rfl⟩
    simp [step, poll, hlaunch, hx, hready]

end WorkerSupervisor

/-! ## Condemned sessions -/

/-- The termination of the worker or the close of its session has been asked for. -/
def Condemned (w : Bytes) (log : List Event) : Prop :=
  Event.requested w ∈ log ∨ Event.closeRequested w ∈ log

/-- The turn neither registers a condemned worker nor hands its session out. -/
def Withheld (h : History WorkerSupervisor Event) (op : Op) : Prop :=
  ∀ w, Condemned w h.log →
    (∀ connection hello, Event.registered connection w hello ∉ (h.state.step op).2) ∧
      ∀ info, Event.returned info ∈ (h.state.step op).2 → info.workerId ≠ w

def Session.Clear (x : Session) : Prop :=
  x.terminationRequested = false ∧ x.launcherCloseRequested = false

/-- An awaited hello and a launch that finds its endpoints meet a session without marks. -/
def MeetsClear (s : WorkerSupervisor) (op : Op) : Prop :=
  (∀ connection w hello x, op = .attempt connection → s.Registers connection w hello x →
    x.Clear) ∧
    ∀ launch w x, op = .poll launch → s.Returns launch w x → x.Clear

theorem condemned_iff {config : WorkerSupervisorConfig} {nextToken : Nat} {ops : List Op}
    {w : Bytes} {x : Session} (hx : (historyOf config nextToken ops).state.sessions[w]? = some x) :
    Condemned w (historyOf config nextToken ops).log ↔ ¬x.Clear := by
  have hmarked := marked_historyOf config nextToken ops hx
  have hrequested := hmarked.requested
  have hclosing := hmarked.closing
  rw [mem_about rfl] at hrequested hclosing
  rw [Condemned, hrequested, hclosing, Session.Clear]
  cases x.terminationRequested <;> cases x.launcherCloseRequested <;> simp

theorem withheld_iff (config : WorkerSupervisorConfig) (nextToken : Nat) (ops : List Op) (op : Op) :
    Withheld (historyOf config nextToken ops) op ↔
      MeetsClear (historyOf config nextToken ops).state op := by
  have hcondemned := @condemned_iff config nextToken ops
  generalize historyOf config nextToken ops = h at hcondemned ⊢
  constructor
  · intro hwithheld
    refine ⟨fun connection w hello x hop hregisters => ?_, fun launch w x hop hreturns => ?_⟩
    · have hx := (WorkerSupervisor.findByToken_eq_some hregisters.found).1
      by_contra hmarks
      exact (hwithheld w ((hcondemned hx).mpr hmarks)).1 connection hello
        (WorkerSupervisor.registered_mem_step.mpr ⟨hop, x, hregisters⟩)
    · by_contra hmarks
      obtain ⟨info, hinfo, hname⟩ :=
        WorkerSupervisor.returned_mem_step.mpr ⟨launch, x, hop, hreturns⟩
      exact (hwithheld w ((hcondemned hreturns.known).mpr hmarks)).2 info hinfo hname
  · rintro ⟨hattempts, hpolls⟩ w hmarks
    refine ⟨fun connection hello he => ?_, fun info he hname => ?_⟩
    · obtain ⟨hop, x, hregisters⟩ := WorkerSupervisor.registered_mem_step.mp he
      have hx := (WorkerSupervisor.findByToken_eq_some hregisters.found).1
      exact (hcondemned hx).mp hmarks (hattempts connection w hello x hop hregisters)
    · obtain ⟨launch, x, hop, hreturns⟩ := WorkerSupervisor.returned_mem_step.mp ⟨info, he, hname⟩
      exact (hcondemned hreturns.known).mp hmarks (hpolls launch w x hop hreturns)

/-- Along a run, no condemned session is registered or handed out exactly when every awaited
hello and every launch that finds its endpoints meets a session without marks. -/
theorem condemned_withheld_iff (config : WorkerSupervisorConfig) (nextToken : Nat)
    (ops : List Op) :
    (∀ before op after, ops = before ++ op :: after →
      Withheld (historyOf config nextToken before) op) ↔
    ∀ before op after, ops = before ++ op :: after →
      MeetsClear (historyOf config nextToken before).state op := by
  refine forall_congr' fun before => forall_congr' fun op => forall_congr' fun _ =>
    forall_congr' fun _ => withheld_iff config nextToken before op

def appHello : Value :=
  .object [(ascii "worker_id", .string (workerName 1)),
    (ascii "token", .string (mintToken 2 (workerName 1))), (ascii "data_plane_port", .number 5000)]

/-- The worker misses the deadline by a nanosecond, the monitor asks for its termination, and
the hello arrives after all. -/
def lateHello : List Op :=
  [.spawn 0 {}, .insert 0, .advance 3000000001, .monitor, .accept 0,
    .receive 0 .workerHello appHello]

theorem condemned_session_handed_out :
    Condemned (workerName 1) (historyOf {} 1 lateHello).log ∧
      ((historyOf {} 1 lateHello).state.step (.attempt 0)).2 =
        [.registered 0 (workerName 1) (.fromBody appHello), .acked 0 { ok := true }] ∧
      ((historyOf {} 1 (lateHello ++ [.attempt 0])).state.step (.poll 0)).2 =
        [.returned { workerId := workerName 1, dataPlaneHost := ascii "127.0.0.1"
                     dataPlanePort := 5000, appToken := ascii "app-" ++ mintToken 1 [] }] := by
  refine ⟨.inl ?_, ?_, ?_⟩
  · decide
  · decide
  · decide

end VkRelay.Supervisor
