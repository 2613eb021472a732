import VkRelay.Supervisor.Turns

/-!
Sessions over a whole run. A session starts fresh, with nothing in the log about its worker but
the minting of its token, and from then on it changes by edits alone. An invariant of one
session and the events about it therefore only has to be kept by every edit.
-/

namespace VkRelay.Supervisor

open VkRelay.Lib VkRelay.Json

/-- A session as a launch hands it over. -/
structure Session.Fresh (y : Session) (name token : Bytes) : Prop where
  workerId : y.workerId = name
  token : y.token = token
  lifecycle : y.lifecycle = {}
  connected : y.connected = false
  terminationRequested : y.terminationRequested = false
  launcherCloseRequested : y.launcherCloseRequested = false

theorem Op.kinds (op : Op) :
    (∃ launch req, op = .spawn launch req) ∨ (∃ launch, op = .insert launch) ∨ op.Ordinary := by
  cases op <;> simp [Op.Ordinary]

namespace WorkerSupervisor

variable {s : WorkerSupervisor}

/-- The first turn of a launch: at most it names one new worker. -/
inductive Spawned (s : WorkerSupervisor) (launch : Nat) : WorkerSupervisor → List Event → Prop
  | same : Spawned s launch s []
  | refused (nextToken : Nat) (hlater : s.nextToken ≤ nextToken) (reason : Bytes) :
      Spawned s launch ({ s with nextToken }.setLaunch launch (.threw reason)) []
  | failed (k nextToken : Nat) (hfirst : s.nextToken ≤ k) (hlater : k < nextToken)
      (reason : Bytes) :
      Spawned s launch
        ({ s with nextWorker := s.nextWorker + 1, nextToken }.setLaunch launch (.threw reason))
        [.minted (workerName s.nextWorker) (mintToken k (workerName s.nextWorker))]
  | named (k nextToken : Nat) (hfirst : s.nextToken ≤ k) (hlater : k < nextToken) (y : Session)
      (app : Bool)
      (hfresh : y.Fresh (workerName s.nextWorker) (mintToken k (workerName s.nextWorker)))
      (processes : Named (Option Int)) :
      Spawned s launch
        ({ s with nextWorker := s.nextWorker + 1, nextToken, processes }.setLaunch launch
          (.spawned y app))
        [.minted (workerName s.nextWorker) (mintToken k (workerName s.nextWorker))]

theorem spawn_cases (s : WorkerSupervisor) (launch : Nat) (req : LaunchRequest) :
    ∃ next events, s.spawn launch req = (next, events) ∧ Spawned s launch next events := by
  refine ⟨(s.spawn launch req).1, (s.spawn launch req).2, rfl, ?_⟩
  unfold spawn
  split
  · exact .same
  · dsimp only
    have happ : s.nextToken ≤ if req.app then s.nextToken + 1 else s.nextToken := by
      split <;> omega
    split
    · exact .refused _ happ _
    · have hsidecar : ∀ n : Nat, n < if req.app && s.config.sidecarPlane then n + 2 else n + 1 := by
        intro n
        split <;> omega
      split
      · exact .failed _ _ happ (hsidecar _) _
      · exact .named _ _ happ (hsidecar _) _ _ ⟨rfl, rfl, rfl, rfl, rfl, rfl⟩ _

theorem Edit.workerId_eq {w : Bytes} {x y : Session} {events : List Event}
    (hedit : Edit s w x y events) : y.workerId = x.workerId := by
  cases hedit <;> rfl

/-- The session of one worker before and after an insertion. -/
theorem getElem?_insert_turn (launch : Nat) (w : Bytes) :
    (s.insert launch).1.sessions[w]? = s.sessions[w]? ∨
      ∃ y, s.Pending launch y ∧ y.workerId = w ∧ (s.insert launch).1.sessions[w]? = some y := by
  unfold insert
  split
  · next y app hy =>
      by_cases hname : y.workerId = w
      · refine .inr ⟨y, ⟨app, hy⟩, hname, ?_⟩
        simp [hname]
      · refine .inl ?_
        rw [sessions_setLaunch, Std.ExtTreeMap.getElem?_insert, if_neg (by simpa using hname)]
  · exact .inl rfl

theorem insert_kept (launch : Nat) :
    (s.insert launch).2 = [] ∧ (s.insert launch).1.nextWorker = s.nextWorker ∧
      (s.insert launch).1.nextToken = s.nextToken ∧
      ∀ other y, (s.insert launch).1.Pending other y → s.Pending other y ∧ other ≠ launch := by
  unfold insert
  split
  · next y app hy =>
      refine ⟨rfl, rfl, rfl, fun other z hpending => ?_⟩
      rw [pending_setLaunch] at hpending
      split at hpending
      · obtain ⟨_, hstate⟩ := hpending
        split at hstate <;> cases hstate
      · next hother => exact ⟨hpending, Ne.symm hother⟩
  · next hnone =>
      refine ⟨rfl, rfl, rfl, fun other z hpending => ⟨hpending, ?_⟩⟩
      rintro rfl
      obtain ⟨app, hz⟩ := hpending
      exact hnone z app hz

end WorkerSupervisor

/-! ## Runs -/

/-- No worker is named twice, and before its session is known the log only has its token. -/
structure Sound (h : History WorkerSupervisor Event) : Prop where
  names : ∀ (w : Bytes) (x : Session), h.state.sessions[w]? = some x →
    x.workerId = w ∧ ∃ n < h.state.nextWorker, w = workerName n
  pending : ∀ launch y, h.state.Pending launch y →
    h.state.sessions[y.workerId]? = none ∧ ∃ n < h.state.nextWorker, ∃ k,
      y.Fresh (workerName n) (mintToken k (workerName n)) ∧
        about (workerName n) h.log = [.minted (workerName n) (mintToken k (workerName n))]
  apart : ∀ first second y z, h.state.Pending first y → h.state.Pending second z →
    y.workerId = z.workerId → first = second
  unnamed : ∀ n, h.state.nextWorker ≤ n → about (workerName n) h.log = []

namespace Sound

variable {h : History WorkerSupervisor Event}

theorem not_known (hsound : Sound h) {n : Nat} (hn : h.state.nextWorker ≤ n) :
    h.state.sessions[workerName n]? = none := by
  cases hx : h.state.sessions[workerName n]? with
  | none => rfl
  | some x =>
    obtain ⟨-, m, hm, hname⟩ := hsound.names _ x hx
    have hsame := workerName_injective hname
    omega

theorem next_ordinary (hsound : Sound h) {op : Op} (hordinary : op.Ordinary) :
    Sound (h.next WorkerSupervisor.step op) := by
  have hturned := h.state.turned hordinary
  obtain ⟨-, -, hworker, -, hpending⟩ := hturned.kept
  have hquiet : ∀ {w : Bytes}, h.state.sessions[w]? = none →
      (h.state.step op).1.sessions[w]? = none ∧
        about w (h.next WorkerSupervisor.step op).log = about w h.log := by
    intro w hnone
    obtain ⟨hsame, hevents⟩ := hturned.absent w hnone
    refine ⟨hsame, ?_⟩
    rw [History.next, about_append, hevents, List.append_nil]
  refine ⟨?_, ?_, ?_, ?_⟩
  · intro w y hy
    cases hx : h.state.sessions[w]? with
    | none => exact absurd ((hquiet hx).1.symm.trans hy) (by simp)
    | some x =>
      obtain ⟨hid, hname⟩ := hsound.names w x hx
      obtain ⟨z, hz, hedit⟩ := hturned.edit w x hx
      obtain rfl := Option.some.inj (hz.symm.trans hy)
      rw [hedit.workerId_eq]
      exact ⟨hid, hworker ▸ hname⟩
  · intro launch y hy
    obtain ⟨hnone, n, hn, k, hfresh, hlog⟩ := hsound.pending launch y (hpending launch y hy)
    rw [← hfresh.workerId] at hlog
    refine ⟨(hquiet hnone).1, n, hworker ▸ hn, k, hfresh, ?_⟩
    rw [← hfresh.workerId, (hquiet hnone).2, hlog]
  · intro first second y z hy hz
    exact hsound.apart first second y z (hpending first y hy) (hpending second z hz)
  · intro n hn
    have hn : h.state.nextWorker ≤ n := hworker ▸ hn
    rw [(hquiet (hsound.not_known hn)).2, hsound.unnamed n hn]

theorem next_insert (hsound : Sound h) (launch : Nat) :
    Sound (h.next WorkerSupervisor.step (.insert launch)) := by
  obtain ⟨hquiet, hworker, -, hpending⟩ := h.state.insert_kept launch
  have hlog : (h.next WorkerSupervisor.step (.insert launch)).log = h.log := by
    change h.log ++ (h.state.insert launch).2 = h.log
    rw [hquiet, List.append_nil]
  refine ⟨?_, ?_, ?_, ?_⟩
  · intro w y hy
    rcases h.state.getElem?_insert_turn launch w with hsame | ⟨z, hz, hname, hinserted⟩
    · obtain ⟨hid, hname⟩ := hsound.names w y (hsame.symm.trans hy)
      exact ⟨hid, hworker ▸ hname⟩
    · obtain rfl := Option.some.inj (hinserted.symm.trans hy)
      obtain ⟨-, n, hn, k, hfresh, -⟩ := hsound.pending launch z hz
      exact ⟨hname, n, hworker ▸ hn, hname.symm.trans hfresh.workerId⟩
  · intro other y hy
    obtain ⟨hold, hother⟩ := hpending other y hy
    obtain ⟨hnone, n, hn, k, hfresh, hminted⟩ := hsound.pending other y hold
    refine ⟨?_, n, hworker ▸ hn, k, hfresh, hlog ▸ hminted⟩
    rcases h.state.getElem?_insert_turn launch y.workerId with hsame | ⟨z, hz, hname, -⟩
    · exact hsame.trans hnone
    · exact absurd (hsound.apart other launch y z hold hz hname.symm) hother
  · intro first second y z hy hz
    exact hsound.apart first second y z (hpending first y hy).1 (hpending second z hz).1
  · intro n hn
    rw [hlog]
    exact hsound.unnamed n (hworker ▸ hn)

theorem of_minted (hsound : Sound h) {next : WorkerSupervisor} (launch : Nat) {k : Nat}
    (hsessions : next.sessions = h.state.sessions)
    (hworker : next.nextWorker = h.state.nextWorker + 1)
    (hpending : ∀ other y, next.Pending other y → if launch = other then
        y.Fresh (workerName h.state.nextWorker) (mintToken k (workerName h.state.nextWorker))
      else h.state.Pending other y) :
    Sound ⟨next, h.log ++
      [.minted (workerName h.state.nextWorker) (mintToken k (workerName h.state.nextWorker))]⟩ := by
  -- Nobody has heard of the new name.
  have hquiet : ∀ n, n ≠ h.state.nextWorker → about (workerName n)
      [.minted (workerName h.state.nextWorker) (mintToken k (workerName h.state.nextWorker))] =
        [] := by
    intro n hn
    apply about_eq_nil
    simpa [Event.about] using fun hsame => hn (workerName_injective hsame).symm
  have hold : ∀ {y : Session} {n : Nat}, y.workerId = workerName n → n < h.state.nextWorker →
      y.workerId ≠ workerName h.state.nextWorker := by
    intro y n hname hn hsame
    have hsame := workerName_injective (hname.symm.trans hsame)
    omega
  refine ⟨?_, ?_, ?_, ?_⟩
  · intro w x hx
    obtain ⟨hid, n, hn, hname⟩ := hsound.names w x (hsessions ▸ hx)
    exact ⟨hid, n, by dsimp only; omega, hname⟩
  · intro other y hy
    have hcase := hpending other y hy
    split at hcase
    · refine ⟨?_, h.state.nextWorker, by dsimp only; omega, k, hcase, ?_⟩
      · rw [hcase.workerId]
        exact hsessions ▸ hsound.not_known le_rfl
      · rw [about_append, hsound.unnamed _ le_rfl]
        simp [about, Event.about]
    · obtain ⟨hnone, n, hn, j, hfresh, hlog⟩ := hsound.pending other y hcase
      refine ⟨hsessions ▸ hnone, n, by dsimp only; omega, j, hfresh, ?_⟩
      rw [about_append, hlog, hquiet n (by omega), List.append_nil]
  · intro first second y z hy hz hname
    have hfirst := hpending first y hy
    have hsecond := hpending second z hz
    split at hfirst
    · next hlaunch =>
        split at hsecond
        · next hlaunch' => exact hlaunch.symm.trans hlaunch'
        · obtain ⟨-, n, hn, j, hfresh, -⟩ := hsound.pending second z hsecond
          exact absurd (hname.symm.trans hfirst.workerId) (hold hfresh.workerId hn)
    · split at hsecond
      · obtain ⟨-, n, hn, j, hfresh, -⟩ := hsound.pending first y hfirst
        exact absurd (hname.trans hsecond.workerId) (hold hfresh.workerId hn)
      · exact hsound.apart first second y z hfirst hsecond hname
  · intro n hn
    have hn : h.state.nextWorker + 1 ≤ n := hworker ▸ hn
    rw [about_append, hsound.unnamed n (by omega), hquiet n (by omega), List.append_nil]

theorem of_unnamed (hsound : Sound h) {next : WorkerSupervisor}
    (hsessions : next.sessions = h.state.sessions) (hworker : next.nextWorker = h.state.nextWorker)
    (hpending : ∀ launch y, next.Pending launch y → h.state.Pending launch y) :
    Sound ⟨next, h.log ++ []⟩ := by
  rw [List.append_nil]
  refine ⟨fun w x hx => ?_, fun launch y hy => ?_, fun first second y z hy hz => ?_, fun n hn => ?_⟩
  · exact hworker ▸ hsound.names w x (hsessions ▸ hx)
  · exact hworker ▸ hsessions ▸ hsound.pending launch y (hpending launch y hy)
  · exact hsound.apart first second y z (hpending first y hy) (hpending second z hz)
  · exact hsound.unnamed n (hworker ▸ hn)

theorem next_spawn (hsound : Sound h) (launch : Nat) (req : LaunchRequest) :
    Sound (h.next WorkerSupervisor.step (.spawn launch req)) := by
  obtain ⟨next, events, hturn, hspawned⟩ := h.state.spawn_cases launch req
  simp only [History.next, WorkerSupervisor.step, hturn]
  cases hspawned with
  | same => exact hsound.of_unnamed rfl rfl fun _ _ => id
  | refused nextToken hlater reason =>
    refine hsound.of_unnamed rfl rfl fun other y hy => ?_
    rw [WorkerSupervisor.pending_setLaunch] at hy
    split at hy
    · simp at hy
    · exact hy
  | failed k nextToken hfirst hlater reason =>
    refine hsound.of_minted launch rfl rfl fun other y hy => ?_
    rw [WorkerSupervisor.pending_setLaunch] at hy
    split at hy
    · simp at hy
    · next hother => exact (if_neg hother).mpr hy
  | named k nextToken hfirst hlater y app hfresh processes =>
    refine hsound.of_minted launch rfl rfl fun other z hz => ?_
    rw [WorkerSupervisor.pending_setLaunch] at hz
    split at hz
    · next hself =>
        rw [if_pos hself]
        simp only [Launch.spawned.injEq, exists_and_left] at hz
        exact hz.1 ▸ hfresh
    · next hother => exact (if_neg hother).mpr hz

theorem next (hsound : Sound h) (op : Op) : Sound (h.next WorkerSupervisor.step op) := by
  cases op with
  | spawn launch req => exact hsound.next_spawn launch req
  | insert launch => exact hsound.next_insert launch
  | _ => exact hsound.next_ordinary ⟨by simp, by simp⟩

/-- A known session is edited, whatever the turn. -/
theorem edit_step (hsound : Sound h) (op : Op) {w : Bytes} {x : Session}
    (hx : h.state.sessions[w]? = some x) :
    ∃ y, (h.state.step op).1.sessions[w]? = some y ∧
      h.state.Edit w x y (about w (h.state.step op).2) := by
  cases op with
  | spawn launch req =>
    obtain ⟨-, n, hn, rfl⟩ := hsound.names w x hx
    have hother : workerName h.state.nextWorker ≠ workerName n := fun hsame =>
      hn.ne (workerName_injective hsame).symm
    obtain ⟨next, events, hturn, hspawned⟩ := h.state.spawn_cases launch req
    simp only [WorkerSupervisor.step, hturn]
    cases hspawned with
    | same => exact ⟨x, hx, .keep⟩
    | refused nextToken hlater reason => exact ⟨x, hx, .keep⟩
    | failed k nextToken hfirst hlater reason
    | named k nextToken hfirst hlater y app hfresh processes =>
      rw [about_eq_nil (by simpa [Event.about] using hother)]
      exact ⟨x, hx, .keep⟩
  | insert launch =>
    simp only [WorkerSupervisor.step, (h.state.insert_kept launch).1]
    rcases h.state.getElem?_insert_turn launch w with hsame | ⟨y, hy, hname, -⟩
    · exact ⟨x, hsame.trans hx, .keep⟩
    · have hnone := (hsound.pending launch y hy).1
      rw [hname, hx] at hnone
      cases hnone
  | _ => exact (h.state.turned ⟨by simp, by simp⟩).edit w x hx

/-- A session that was not known before is fresh. -/
theorem fresh_step (hsound : Sound h) (op : Op) {w : Bytes} {y : Session}
    (hnone : h.state.sessions[w]? = none) (hy : (h.state.step op).1.sessions[w]? = some y) :
    ∃ token, token ≠ [] ∧ y.Fresh w token ∧
      about w (h.next WorkerSupervisor.step op).log = [.minted w token] := by
  cases op with
  | spawn launch req =>
    obtain ⟨next, events, hturn, hspawned⟩ := h.state.spawn_cases launch req
    simp only [WorkerSupervisor.step, hturn] at hy
    cases hspawned <;> exact absurd (hnone.symm.trans hy) (by simp)
  | insert launch =>
    rcases h.state.getElem?_insert_turn launch w with hsame | ⟨z, hz, hname, hinserted⟩
    · exact absurd (hnone.symm.trans (hsame.symm.trans hy)) (by simp)
    · obtain rfl := Option.some.inj (hinserted.symm.trans hy)
      obtain ⟨-, n, -, k, hfresh, hlog⟩ := hsound.pending launch z hz
      obtain rfl : workerName n = w := hfresh.workerId.symm.trans hname
      refine ⟨_, mintToken_ne_nil k _, hfresh, ?_⟩
      change about _ (h.log ++ (h.state.insert launch).2) = _
      rw [(h.state.insert_kept launch).1, List.append_nil, hlog]
  | _ =>
    refine absurd (((h.state.turned ?_).absent w hnone).1.symm.trans hy) (by simp)
    exact ⟨by simp, by simp⟩

/-- An event about a worker is the minting of its token or belongs to an edit of its session. -/
theorem event_step (hsound : Sound h) (op : Op) {w : Bytes} {e : Event}
    (he : e ∈ (h.state.step op).2) (habout : e.about = some w) :
    (∃ token, e = .minted w token) ∨
      ∃ x y, h.state.sessions[w]? = some x ∧ (h.state.step op).1.sessions[w]? = some y ∧
        h.state.Edit w x y (about w (h.state.step op).2) ∧ e ∈ about w (h.state.step op).2 := by
  have hmem : e ∈ about w (h.state.step op).2 := (mem_about habout).mpr he
  cases hx : h.state.sessions[w]? with
  | some x =>
    obtain ⟨y, hy, hedit⟩ := hsound.edit_step op hx
    exact .inr ⟨x, y, rfl, hy, hedit, hmem⟩
  | none =>
    left
    cases op with
    | spawn launch req =>
      obtain ⟨next, events, hturn, hspawned⟩ := h.state.spawn_cases launch req
      simp only [WorkerSupervisor.step, hturn] at he
      cases hspawned <;> simp_all [Event.about]
    | insert launch =>
      simp only [WorkerSupervisor.step, (h.state.insert_kept launch).1] at he
      exact absurd he List.not_mem_nil
    | _ =>
      rw [((h.state.turned ⟨by simp, by simp⟩).absent w hx).2] at hmem
      exact absurd hmem List.not_mem_nil

end Sound

variable (config : WorkerSupervisorConfig) (nextToken : Nat) (ops : List Op)

theorem sound_historyOf : Sound (historyOf config nextToken ops) := by
  apply History.invariant _ fun h op hsound => hsound.next op
  refine ⟨fun w x hx => ?_, ?_, ?_, fun n _ => rfl⟩
  · simp at hx
  · rintro launch y ⟨app, hy⟩
    simp at hy
  · rintro first second y z ⟨app, hy⟩
    simp at hy

/-- A worker of which the log tells more than its token has a session. -/
theorem known_of_event {w : Bytes} {e : Event} (he : e ∈ (historyOf config nextToken ops).log)
    (habout : e.about = some w) (hmore : ∀ token, e ≠ .minted w token) :
    ∃ x, (historyOf config nextToken ops).state.sessions[w]? = some x := by
  induction ops using List.reverseRecOn with
  | nil => simp [historyOf] at he
  | append_singleton ops op ih =>
    have hsound := sound_historyOf config nextToken ops
    unfold historyOf at he ih hsound ⊢
    rw [History.of_concat] at he ⊢
    generalize History.of WorkerSupervisor.step { config, nextToken } ops = h at he ih hsound ⊢
    rcases List.mem_append.mp he with hold | hnew
    · obtain ⟨x, hx⟩ := ih hold
      obtain ⟨y, hy, -⟩ := hsound.edit_step op hx
      exact ⟨y, hy⟩
    · rcases hsound.event_step op hnew habout with ⟨token, hminted⟩ | ⟨x, y, -, hy, -⟩
      · exact absurd hminted (hmore token)
      · exact ⟨y, hy⟩

theorem WorkerSupervisor.clock_config_step (s : WorkerSupervisor) (op : Op) :
    s.clock ≤ (s.step op).1.clock ∧ (s.step op).1.config = s.config := by
  cases op with
  | spawn launch req =>
    obtain ⟨next, events, hturn, hspawned⟩ := s.spawn_cases launch req
    simp only [step, hturn]
    cases hspawned <;> exact ⟨le_rfl, rfl⟩
  | insert launch =>
    simp only [step]
    unfold insert
    split <;> exact ⟨le_rfl, rfl⟩
  | _ => exact (s.turned ⟨by simp, by simp⟩).kept.clock_config

theorem config_historyOf : (historyOf config nextToken ops).state.config = config := by
  induction ops using List.reverseRecOn with
  | nil => rfl
  | append_singleton ops op ih =>
    rw [historyOf, History.of_concat]
    exact (WorkerSupervisor.clock_config_step _ op).2.trans ih

/-- What every fresh session has and every edit keeps, every session has at any time. -/
theorem session_invariant {P : Int → Bytes → Session → List Event → Prop}
    (config : WorkerSupervisorConfig) (nextToken : Nat) (ops : List Op)
    (hfresh : ∀ clock w token y, y.Fresh w token → token ≠ [] → P clock w y [.minted w token])
    (hedit : ∀ (s : WorkerSupervisor) w x y log events, s.config = config →
      s.Edit w x y events → P s.clock w x log → P s.clock w y (log ++ events))
    (hlater : ∀ clock later w x log, clock ≤ later → P clock w x log → P later w x log)
    {w : Bytes} {x : Session} (hx : (historyOf config nextToken ops).state.sessions[w]? = some x) :
    P (historyOf config nextToken ops).state.clock w x
      (about w (historyOf config nextToken ops).log) := by
  induction ops using List.reverseRecOn generalizing w x with
  | nil => simp [historyOf] at hx
  | append_singleton ops op ih =>
    have hsound := sound_historyOf config nextToken ops
    have hconfig := config_historyOf config nextToken ops
    unfold historyOf at hx ih hsound hconfig ⊢
    rw [History.of_concat] at hx ⊢
    generalize History.of WorkerSupervisor.step { config, nextToken } ops = h
      at hx ih hsound hconfig ⊢
    apply hlater h.state.clock _ w x _ (h.state.clock_config_step op).1
    cases hold : h.state.sessions[w]? with
    | none =>
      obtain ⟨token, htoken, hnew, hlog⟩ := hsound.fresh_step op hold hx
      rw [hlog]
      exact hfresh _ w token x hnew htoken
    | some old =>
      obtain ⟨y, hy, hchange⟩ := hsound.edit_step op hold
      obtain rfl := Option.some.inj (hy.symm.trans hx)
      rw [History.next, about_append]
      exact hedit _ w old y _ _ hconfig hchange (ih hold)

end VkRelay.Supervisor
