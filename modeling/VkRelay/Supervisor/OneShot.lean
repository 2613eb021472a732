import VkRelay.Supervisor.Registration

/-!
One registration for each worker. The tokens of a run are all different and never empty, the
token of a session that awaits its worker is the one minted for it, and a handler serves the
worker it has registered. Whatever else connects, with whatever hello, changes no session.
-/

namespace VkRelay.Supervisor

open VkRelay.Lib VkRelay.Json

/-! ## Tokens -/

namespace WorkerSupervisor

variable {s : WorkerSupervisor}

theorem counters_step (s : WorkerSupervisor) (op : Op) :
    s.nextWorker ≤ (s.step op).1.nextWorker ∧ s.nextToken ≤ (s.step op).1.nextToken := by
  rcases op.kinds with ⟨launch, req, rfl⟩ | ⟨launch, rfl⟩ | hordinary
  · obtain ⟨next, events, hturn, hspawned⟩ := s.spawn_cases launch req
    simp only [step, hturn]
    cases hspawned with
    | same => exact ⟨le_rfl, le_rfl⟩
    | refused nextToken hlater reason => exact ⟨le_rfl, hlater⟩
    | failed k nextToken hfirst hlater reason => exact ⟨Nat.le_succ _, hfirst.trans hlater.le⟩
    | named k nextToken hfirst hlater y app hfresh processes =>
      exact ⟨Nat.le_succ _, hfirst.trans hlater.le⟩
  · obtain ⟨-, hworker, htoken, -⟩ := s.insert_kept launch
    exact ⟨hworker.ge, htoken.ge⟩
  · have hkept := (s.turned hordinary).kept
    exact ⟨hkept.nextWorker.ge, hkept.nextToken.ge⟩

/-- A token is minted for the next worker, from a counter nobody has used. -/
theorem minted_step {op : Op} {w token : Bytes} (he : Event.minted w token ∈ (s.step op).2) :
    w = workerName s.nextWorker ∧ (s.step op).1.nextWorker = s.nextWorker + 1 ∧
      (s.step op).2 = [.minted w token] ∧
      ∃ k, s.nextToken ≤ k ∧ k < (s.step op).1.nextToken ∧ token = mintToken k w := by
  rcases op.kinds with ⟨launch, req, rfl⟩ | ⟨launch, rfl⟩ | hordinary
  · obtain ⟨next, events, hturn, hspawned⟩ := s.spawn_cases launch req
    simp only [step, hturn] at he ⊢
    cases hspawned with
    | same => cases he
    | refused nextToken hlater reason => cases he
    | failed k nextToken hfirst hlater reason
    | named k nextToken hfirst hlater y app hfresh processes =>
      obtain ⟨rfl, rfl⟩ := Event.minted.inj (List.mem_singleton.mp he)
      exact ⟨rfl, rfl, rfl, k, hfirst, hlater, rfl⟩
  · simp only [step, (s.insert_kept launch).1] at he
    cases he
  · have habout : Event.minted w token ∈ about w (s.step op).2 := (mem_about rfl).mpr he
    cases hx : s.sessions[w]? with
    | none =>
      rw [((s.turned hordinary).absent _ hx).2] at habout
      cases habout
    | some x =>
      obtain ⟨y, -, hedit⟩ := (s.turned hordinary).edit _ _ hx
      generalize about w (s.step op).2 = events at hedit habout
      cases hedit <;> simp at habout

end WorkerSupervisor

/-- Each worker has one token and each token one worker. -/
structure Tokens (h : History WorkerSupervisor Event) : Prop where
  counted : ∀ w token, Event.minted w token ∈ h.log → ∃ n < h.state.nextWorker,
    ∃ k < h.state.nextToken, w = workerName n ∧ token = mintToken k w
  once : ∀ w first second, Event.minted w first ∈ h.log → Event.minted w second ∈ h.log →
    first = second
  distinct : ∀ first second token, Event.minted first token ∈ h.log →
    Event.minted second token ∈ h.log → first = second

theorem Tokens.next {h : History WorkerSupervisor Event} (htokens : Tokens h) (op : Op) :
    Tokens (h.next WorkerSupervisor.step op) := by
  obtain ⟨hworkers, hcounters⟩ := h.state.counters_step op
  have hsplit : ∀ w token, Event.minted w token ∈ (h.next WorkerSupervisor.step op).log →
      Event.minted w token ∈ h.log ∨ Event.minted w token ∈ (h.state.step op).2 :=
    fun w token he => List.mem_append.mp he
  -- The new name and the new counter occur in no older event.
  have hnew : ∀ {first second token other}, Event.minted first token ∈ h.log →
      Event.minted second other ∈ (h.state.step op).2 → first ≠ second ∧ token ≠ other := by
    intro first second token other hold hminted
    obtain ⟨n, hn, k, hk, rfl, rfl⟩ := htokens.counted first token hold
    obtain ⟨rfl, -, -, j, hj, -, rfl⟩ := WorkerSupervisor.minted_step hminted
    refine ⟨fun hsame => hn.ne (workerName_injective hsame), fun hsame => ?_⟩
    have hcount := mintToken_injective hsame
    omega
  have hsingle : ∀ {first second token other}, Event.minted first token ∈ (h.state.step op).2 →
      Event.minted second other ∈ (h.state.step op).2 → first = second ∧ token = other := by
    intro first second token other hfirst hsecond
    rw [(WorkerSupervisor.minted_step hfirst).2.2.1, List.mem_singleton] at hsecond
    exact ⟨(Event.minted.inj hsecond).1.symm, (Event.minted.inj hsecond).2.symm⟩
  refine ⟨?_, ?_, ?_⟩
  · intro w token he
    rcases hsplit w token he with hold | hminted
    · obtain ⟨n, hn, k, hk, hname, htoken⟩ := htokens.counted w token hold
      exact ⟨n, hn.trans_le hworkers, k, hk.trans_le hcounters, hname, htoken⟩
    · obtain ⟨hname, hnext, -, k, -, hk, htoken⟩ := WorkerSupervisor.minted_step hminted
      exact ⟨h.state.nextWorker, hnext.ge, k, hk, hname, htoken⟩
  · intro w first second hfirst hsecond
    rcases hsplit w first hfirst with hfirst | hfirst
    · rcases hsplit w second hsecond with hsecond | hsecond
      · exact htokens.once w first second hfirst hsecond
      · exact absurd rfl (hnew hfirst hsecond).1
    · rcases hsplit w second hsecond with hsecond | hsecond
      · exact absurd rfl (hnew hsecond hfirst).1
      · exact (hsingle hfirst hsecond).2
  · intro first second token hfirst hsecond
    rcases hsplit first token hfirst with hfirst | hfirst
    · rcases hsplit second token hsecond with hsecond | hsecond
      · exact htokens.distinct first second token hfirst hsecond
      · exact absurd rfl (hnew hfirst hsecond).2
    · rcases hsplit second token hsecond with hsecond | hsecond
      · exact absurd rfl (hnew hsecond hfirst).2
      · exact (hsingle hfirst hsecond).1

variable (config : WorkerSupervisorConfig) {s : WorkerSupervisor} (nextToken : Nat) (ops : List Op)

theorem tokens_historyOf : Tokens (historyOf config nextToken ops) := by
  apply History.invariant _ fun h op htokens => htokens.next op
  refine ⟨?_, ?_, ?_⟩ <;> simp

/-! ## Sessions -/

def Event.registers (w : Bytes) : Event → Bool
  | .registered _ name _ => name = w
  | _ => false

/-- A session awaits its worker until one registration consumes the token. -/
structure Enrolled (w : Bytes) (x : Session) (log : List Event) : Prop where
  awaiting : x.lifecycle.state = .spawned → x.token ≠ [] ∧ log.countP (·.registers w) = 0
  token : x.token ≠ [] → Event.minted w x.token ∈ log
  once : log.countP (·.registers w) ≤ 1
  credentials : ∀ connection hello, Event.registered connection w hello ∈ log →
    hello.workerId = x.workerId ∧ Event.minted w hello.token ∈ log ∧ x.token = []

theorem Enrolled.fresh {w token : Bytes} {y : Session} (hfresh : y.Fresh w token)
    (htoken : token ≠ []) : Enrolled w y [.minted w token] where
  awaiting _ := ⟨hfresh.token ▸ htoken, rfl⟩
  token _ := by simp [hfresh.token]
  once := by simp [Event.registers]
  credentials connection hello he := by simp at he

theorem Enrolled.edit {w : Bytes} {x y : Session} {log events : List Event}
    (hedit : s.Edit w x y events) (henrolled : Enrolled w x log) :
    Enrolled w y (log ++ events) := by
  obtain ⟨hawaiting, htoken, honce, hcredentials⟩ := henrolled
  -- An edit without a registration keeps the token and the name and leaves no state for `spawned`.
  have hplain : (∀ connection hello, Event.registered connection w hello ∉ events) →
      y.token = x.token → y.workerId = x.workerId →
      (y.lifecycle.state = .spawned → x.lifecycle.state = .spawned) →
      Enrolled w y (log ++ events) := by
    intro hnone hsame hname hstate
    have hcount : (log ++ events).countP (·.registers w) = log.countP (·.registers w) := by
      rw [List.countP_append, Nat.add_eq_left, List.countP_eq_zero]
      intro e he hregisters
      cases e with
      | registered connection name hello =>
        obtain rfl : name = w := of_decide_eq_true hregisters
        exact hnone connection hello he
      | _ => cases hregisters
    refine ⟨fun hspawned => ?_, fun hne => ?_, ?_, fun connection hello he => ?_⟩
    · rw [hsame, hcount]
      exact hawaiting (hstate hspawned)
    · rw [hsame] at hne ⊢
      exact List.mem_append_left _ (htoken hne)
    · rw [hcount]
      exact honce
    · have hold := (List.mem_append.mp he).resolve_right (hnone connection hello)
      obtain ⟨hid, hminted, hconsumed⟩ := hcredentials connection hello hold
      exact ⟨hid.trans hname.symm, List.mem_append_left _ hminted, hsame.trans hconsumed⟩
  cases hedit with
  | register connection hello hfound hawaits =>
    obtain ⟨-, hpresented⟩ := WorkerSupervisor.findByToken_eq_some hfound
    obtain ⟨hne, hcount⟩ := hawaiting hawaits.2.1
    have hminted : Event.minted w hello.token ∈ log := hpresented ▸ htoken hne
    refine ⟨fun hspawned => ?_, fun hempty => absurd rfl hempty, ?_, fun other greeting he => ?_⟩
    · cases hspawned
    · rw [List.countP_append, hcount]
      simp [Event.registers]
    · rcases List.mem_append.mp he with hold | hnew
      · exact absurd (hcredentials other greeting hold).2.2 hne
      · obtain ⟨-, -, rfl⟩ := Event.registered.inj (List.mem_singleton.mp hnew)
        exact ⟨hawaits.1.symm, List.mem_append_left _ hminted, rfl⟩
  | observe code hlive hended =>
    refine hplain (by simp) rfl rfl fun hspawned => ?_
    have hterminal := x.isTerminal_verdict code
    rw [show x.verdict code = .spawned from hspawned] at hterminal
    cases hterminal
  | _ => exact hplain (by simp) rfl rfl id

theorem enrolled_historyOf {w : Bytes} {x : Session}
    (hx : (historyOf config nextToken ops).state.sessions[w]? = some x) :
    Enrolled w x (about w (historyOf config nextToken ops).log) :=
  session_invariant config nextToken ops
    (fun _ _ _ _ hfresh htoken => Enrolled.fresh hfresh htoken)
    (fun _ _ _ _ _ _ _ hedit henrolled => henrolled.edit hedit) (fun _ _ _ _ _ _ => id) hx

/-! ## Connections -/

/-- How a handler gets on without a word: it stays, it works on a connection that has not been
answered yet, or it closes one that is served. -/
inductive Follows : Option Handler → Option Handler → Prop
  | same (state : Option Handler) : Follows state state
  | works {state next : Option Handler}
      (hopen : state = none ∨ state = some .waiting ∨
        ∃ hello attempts, state = some (.registering hello attempts))
      (hquiet : ∀ w, next ≠ some (.serving w)) : Follows state next
  | closes (w : Bytes) : Follows (some (.serving w)) (some .closed)

theorem follows_insert {handlers : Table Handler} {connection : Nat} {state : Handler}
    (hfollows : Follows handlers[connection]? (some state)) (other : Nat) :
    Follows handlers[other]? (handlers.insert connection state)[other]? := by
  rw [Table.getElem?_insert_eq]
  split
  · next hsame => exact hsame ▸ hfollows
  · exact .same _

theorem WorkerSupervisor.handler_follows {op : Op} {connection : Nat}
    (hop : op.connection = some connection) (hattempt : op ≠ .attempt connection) (other : Nat) :
    Follows s.handlers[other]? (s.step op).1.handlers[other]? := by
  cases op with
  | accept caller =>
    simp only [step, accept]
    split
    · exact .same _
    · next hunused =>
        exact follows_insert (.works (.inl (by simpa using hunused)) (by simp)) other
  | receive caller type body =>
    simp only [step, receive]
    split
    · next hwaiting =>
        split <;> exact follows_insert (.works (.inr (.inl hwaiting)) (by simp)) other
    · split <;> exact .same _
    · exact .same _
  | disconnect caller =>
    simp only [step, disconnect]
    split
    · next hwaiting => exact follows_insert (.works (.inr (.inl hwaiting)) (by simp)) other
    · next w hserving => exact follows_insert (hserving ▸ .closes w) other
    · exact .same _
  | attempt caller => exact absurd (congrArg Op.attempt (Option.some.inj hop)) hattempt
  | _ => cases hop

/-- The handlers stand where the log says. -/
structure Wired (h : History WorkerSupervisor Event) : Prop where
  serving : ∀ (connection : Nat) w, h.state.handlers[connection]? = some (.serving w) →
    ∃ hello, Event.registered connection w hello ∈ h.log
  registered : ∀ connection w hello, Event.registered connection w hello ∈ h.log →
    h.state.handlers[connection]? = some (.serving w) ∨
      h.state.handlers[connection]? = some .closed
  refused : ∀ connection ack, Event.acked connection ack ∈ h.log → ack.ok = false →
    h.state.handlers[connection]? = some .refused
  single : ∀ connection first second f g, Event.registered connection first f ∈ h.log →
    Event.registered connection second g ∈ h.log → first = second

namespace Wired

variable {h : History WorkerSupervisor Event}

/-- Turns without a word from a handler. -/
theorem of_silent (hwired : Wired h) {next : WorkerSupervisor} {events : List Event}
    (hsilent : ∀ e ∈ events, e.ofHandler = none)
    (hfollows : ∀ connection : Nat,
      Follows h.state.handlers[connection]? next.handlers[connection]?) :
    Wired ⟨next, h.log ++ events⟩ := by
  have hold : ∀ {e : Event}, e.ofHandler ≠ none → e ∈ h.log ++ events → e ∈ h.log := by
    intro e hof he
    exact (List.mem_append.mp he).resolve_right fun hnew => hof (hsilent e hnew)
  refine ⟨fun connection w hw => ?_, fun connection w hello he => ?_,
    fun connection ack he hok => ?_, fun connection first second f g hf hg => ?_⟩
  · have hstate : h.state.handlers[connection]? = some (.serving w) := by
      have hfollow := hfollows connection
      rw [show next.handlers[connection]? = some (.serving w) from hw] at hfollow
      generalize h.state.handlers[connection]? = state at hfollow ⊢
      cases hfollow with
      | same => rfl
      | works hopen hquiet => exact absurd rfl (hquiet w)
    obtain ⟨hello, he⟩ := hwired.serving connection w hstate
    exact ⟨hello, List.mem_append_left _ he⟩
  · have hstate := hwired.registered connection w hello (hold (by simp [Event.ofHandler]) he)
    have hfollow := hfollows connection
    change next.handlers[connection]? = _ ∨ next.handlers[connection]? = _
    generalize h.state.handlers[connection]? = state, next.handlers[connection]? = after
      at hfollow hstate ⊢
    cases hfollow with
    | same => exact hstate
    | works hopen hquiet => rcases hstate with rfl | rfl <;> simp at hopen
    | closes w => exact .inr rfl
  · have hstate := hwired.refused connection ack (hold (by simp [Event.ofHandler]) he) hok
    have hfollow := hfollows connection
    change next.handlers[connection]? = _
    rw [hstate] at hfollow
    generalize next.handlers[connection]? = after at hfollow ⊢
    cases hfollow with
    | same => rfl
    | works hopen hquiet => simp at hopen
  · exact hwired.single connection first second f g (hold (by simp [Event.ofHandler]) hf)
      (hold (by simp [Event.ofHandler]) hg)

/-- A connection that is still matching its hello has not been answered. -/
theorem unanswered (hwired : Wired h) {connection : Nat} {hello : WorkerHello} {attempts : Nat}
    (hhandler : h.state.handlers[connection]? = some (.registering hello attempts)) :
    (∀ w greeting, Event.registered connection w greeting ∉ h.log) ∧
      ∀ ack, ack.ok = false → Event.acked connection ack ∉ h.log := by
  refine ⟨fun w greeting he => ?_, fun ack hok he => ?_⟩
  · rcases hwired.registered connection w greeting he with hstate | hstate
    · exact absurd (hhandler.symm.trans hstate) (by simp)
    · exact absurd (hhandler.symm.trans hstate) (by simp)
  · exact absurd (hhandler.symm.trans (hwired.refused connection ack he hok)) (by simp)

theorem of_refused (hwired : Wired h) {connection : Nat} {hello : WorkerHello} {attempts : Nat}
    (hhandler : h.state.handlers[connection]? = some (.registering hello attempts))
    (ack : WorkerAck) :
    Wired ⟨h.state.setHandler connection .refused, h.log ++ [.acked connection ack]⟩ := by
  obtain ⟨hunregistered, -⟩ := hwired.unanswered hhandler
  have hlookup : ∀ other : Nat, (h.state.setHandler connection .refused).handlers[other]? =
      if connection = other then some .refused else h.state.handlers[other]? :=
    fun other => Table.getElem?_insert_eq ..
  have hold : ∀ {other : Nat} {w : Bytes} {greeting : WorkerHello},
      Event.registered other w greeting ∈ h.log ++ [.acked connection ack] →
        Event.registered other w greeting ∈ h.log := by
    intro other w greeting he
    simpa using he
  refine ⟨fun other w hw => ?_, fun other w greeting he => ?_, fun other answer he hok => ?_,
    fun other first second f g hf hg => hwired.single other first second f g (hold hf) (hold hg)⟩
  · rw [hlookup] at hw
    split at hw
    · simp at hw
    · obtain ⟨greeting, he⟩ := hwired.serving other w hw
      exact ⟨greeting, List.mem_append_left _ he⟩
  · rw [hlookup, if_neg]
    · exact hwired.registered other w greeting (hold he)
    · rintro rfl
      exact hunregistered w greeting (hold he)
  · rw [hlookup]
    split
    · rfl
    · next hother =>
        refine hwired.refused other answer ?_ hok
        simpa [Ne.symm hother] using he

theorem of_registered (hwired : Wired h) {connection : Nat} {hello : WorkerHello} {attempts : Nat}
    (hhandler : h.state.handlers[connection]? = some (.registering hello attempts)) (w : Bytes)
    (ack : WorkerAck) (hok : ack.ok = true) {next : WorkerSupervisor}
    (hnext : next.handlers = h.state.handlers.insert connection (.serving w)) :
    Wired ⟨next, h.log ++ [.registered connection w hello, .acked connection ack]⟩ := by
  obtain ⟨hunregistered, hunrefused⟩ := hwired.unanswered hhandler
  have hlookup : ∀ other : Nat, next.handlers[other]? =
      if connection = other then some (.serving w) else h.state.handlers[other]? := by
    intro other
    rw [hnext, Table.getElem?_insert_eq]
  have hcases : ∀ {other : Nat} {name : Bytes} {greeting : WorkerHello},
      Event.registered other name greeting ∈
          h.log ++ [.registered connection w hello, .acked connection ack] →
        Event.registered other name greeting ∈ h.log ∧ connection ≠ other ∨
          connection = other ∧ name = w := by
    intro other name greeting he
    simp only [List.mem_append, List.mem_cons, Event.registered.injEq, reduceCtorEq,
      List.not_mem_nil, or_false] at he
    rcases he with hold | ⟨rfl, rfl, -⟩
    · refine .inl ⟨hold, ?_⟩
      rintro rfl
      exact hunregistered name greeting hold
    · exact .inr ⟨rfl, rfl⟩
  refine ⟨fun other name hname => ?_, fun other name greeting he => ?_,
    fun other answer he hrefused => ?_, fun other first second f g hf hg => ?_⟩
  · rw [hlookup] at hname
    split at hname
    · next hself =>
        obtain rfl := Handler.serving.inj (Option.some.inj hname)
        exact ⟨hello, by simp [hself]⟩
    · obtain ⟨greeting, he⟩ := hwired.serving other name hname
      exact ⟨greeting, List.mem_append_left _ he⟩
  · rw [hlookup]
    rcases hcases he with ⟨hold, hne⟩ | ⟨hself, rfl⟩
    · rw [if_neg hne]
      exact hwired.registered other name greeting hold
    · exact .inl (if_pos hself)
  · have hold : Event.acked other answer ∈ h.log := by
      simp only [List.mem_append, List.mem_cons, reduceCtorEq, Event.acked.injEq, List.not_mem_nil,
        or_false, false_or] at he
      rcases he with hold | ⟨-, rfl⟩
      · exact hold
      · rw [hok] at hrefused
        cases hrefused
    rw [hlookup, if_neg]
    · exact hwired.refused other answer hold hrefused
    · rintro rfl
      exact hunrefused answer hrefused hold
  · rcases hcases hf with ⟨hfirst, hne⟩ | ⟨hself, rfl⟩
    · rcases hcases hg with ⟨hsecond, -⟩ | ⟨hself, -⟩
      · exact hwired.single other first second f g hfirst hsecond
      · exact absurd hself hne
    · rcases hcases hg with ⟨-, hne⟩ | ⟨-, rfl⟩
      · exact absurd hself hne
      · rfl

theorem next_attempt (hwired : Wired h) (hsound : Sound h) (connection : Nat) :
    Wired (h.next WorkerSupervisor.step (.attempt connection)) := by
  obtain ⟨next, events, hturn, hattempt⟩ := h.state.attempt_cases connection
  simp only [History.next, WorkerSupervisor.step, hturn]
  cases hattempt with
  | idle hidle => exact hwired.of_silent (by simp) fun _ => .same _
  | missed hello attempts hhandler hnobody =>
    exact hwired.of_silent (by simp)
      (follows_insert (.works (.inr (.inr ⟨hello, attempts, hhandler⟩)) (by simp)))
  | refused hello attempts hhandler hspent => exact hwired.of_refused hhandler _
  | registered w hello x hregisters =>
    obtain ⟨attempts, -, hhandler⟩ := hregisters.handler
    obtain ⟨hx, -⟩ := WorkerSupervisor.findByToken_eq_some hregisters.found
    refine hwired.of_registered hhandler w _ rfl ?_
    rw [← (hsound.names w x hx).1]
    rfl

theorem next (hwired : Wired h) (hsound : Sound h) (op : Op) :
    Wired (h.next WorkerSupervisor.step op) := by
  cases hconnection : op.connection with
  | none =>
    obtain ⟨hsame, hsilent⟩ := h.state.handlers_kept hconnection
    exact hwired.of_silent hsilent fun other => hsame ▸ .same _
  | some connection =>
    by_cases hop : op = .attempt connection
    · subst hop
      exact hwired.next_attempt hsound connection
    · refine hwired.of_silent ?_ (WorkerSupervisor.handler_follows hconnection hop)
      rw [WorkerSupervisor.handler_silent connection hconnection hop]
      simp

end Wired

theorem wired_historyOf : Wired (historyOf config nextToken ops) := by
  have hboth : Sound (historyOf config nextToken ops) ∧ Wired (historyOf config nextToken ops) := by
    apply @History.invariant _ _ _ _ fun h => Sound h ∧ Wired h
    · exact fun h op hh => ⟨hh.1.next op, hh.2.next hh.1 op⟩
    · exact ⟨sound_historyOf config nextToken [], by constructor <;> simp⟩
  exact hboth.2

/-! ## Registration -/

/-- Workers register once, with what was minted for them, and connections keep to themselves. -/
structure OneShot (h : History WorkerSupervisor Event) : Prop where
  once : ∀ w, h.log.countP (·.registers w) ≤ 1
  credentials : ∀ connection w hello, Event.registered connection w hello ∈ h.log →
    hello.workerId = w ∧ ∀ token, Event.minted w token ∈ h.log ↔ token = hello.token
  spent : ∀ (connection : Nat) hello attempts,
    h.state.handlers[connection]? = some (.registering hello attempts) →
    (hello.token = [] ∨ ∃ other w greeting, Event.registered other w greeting ∈ h.log ∧
      greeting.token = hello.token) →
    (h.state.step (.attempt connection)).1.sessions = h.state.sessions
  own : ∀ op connection, op.connection = some connection → ∀ w : Bytes,
    (h.state.step op).1.sessions[w]? ≠ h.state.sessions[w]? →
    ∃ hello, Event.registered connection w hello ∈ h.log ++ (h.state.step op).2
  single : ∀ connection first second f g, Event.registered connection first f ∈ h.log →
    Event.registered connection second g ∈ h.log → first = second
  refused : ∀ connection ack, Event.acked connection ack ∈ h.log → ack.ok = false →
    ∀ w hello, Event.registered connection w hello ∉ h.log

theorem countP_about (w : Bytes) (log : List Event) :
    (about w log).countP (·.registers w) = log.countP (·.registers w) := by
  rw [about, List.countP_filter]
  apply List.countP_congr
  intro e _
  cases e <;> simp [Event.registers, Event.about]

/-- A turn of a handler changes at most the session of the worker it serves or registers. -/
theorem WorkerSupervisor.own_session {op : Op} {connection : Nat}
    (hop : op.connection = some connection) {w : Bytes}
    (hchanged : (s.step op).1.sessions[w]? ≠ s.sessions[w]?) :
    s.handlers[connection]? = some (.serving w) ∨
      ∃ hello, Event.registered connection w hello ∈ (s.step op).2 := by
  have hnamed : ∀ {name : Bytes} {change : Session → Session},
      (s.edit name change).sessions[w]? ≠ s.sessions[w]? → name = w := by
    intro name change hne
    by_contra hother
    rw [getElem?_edit, if_neg hother] at hne
    exact hne rfl
  cases op with
  | accept caller =>
    simp only [step, accept] at hchanged
    split at hchanged <;> exact absurd rfl hchanged
  | receive caller type body =>
    obtain rfl := Option.some.inj hop
    simp only [step, receive] at hchanged
    split at hchanged
    · split at hchanged <;> exact absurd rfl hchanged
    · next name hserving =>
        split at hchanged
        · exact .inl (hnamed hchanged ▸ hserving)
        · exact absurd rfl hchanged
    · exact absurd rfl hchanged
  | disconnect caller =>
    obtain rfl := Option.some.inj hop
    simp only [step, disconnect] at hchanged
    split at hchanged
    · exact absurd rfl hchanged
    · next name hserving => exact .inl (hnamed hchanged ▸ hserving)
    · exact absurd rfl hchanged
  | attempt caller =>
    obtain rfl := Option.some.inj hop
    obtain ⟨next, events, hturn, hattempt⟩ := s.attempt_cases caller
    simp only [step, hturn] at hchanged ⊢
    cases hattempt with
    | registered name hello x hregisters =>
      obtain rfl := hnamed hchanged
      exact .inr ⟨hello, List.mem_cons_self⟩
    | _ => exact absurd rfl hchanged
  | _ => cases hop

/-- However the connections, the launches and the monitor take turns, every worker registers at
most once, and a connection touches no session but the one it registered. -/
theorem registration_one_shot (config : WorkerSupervisorConfig) (nextToken : Nat) (ops : List Op) :
    OneShot (historyOf config nextToken ops) := by
  have hsound := sound_historyOf config nextToken ops
  have htokens := tokens_historyOf config nextToken ops
  have hwired := wired_historyOf config nextToken ops
  have henrolled := @enrolled_historyOf config nextToken ops
  have hknown := @known_of_event config nextToken ops
  generalize historyOf config nextToken ops = h at hsound htokens hwired henrolled hknown ⊢
  have hminted : ∀ {connection : Nat} {w : Bytes} {hello : WorkerHello},
      Event.registered connection w hello ∈ h.log →
        hello.workerId = w ∧ Event.minted w hello.token ∈ h.log := by
    intro connection w hello he
    obtain ⟨x, hx⟩ := hknown he rfl (by simp)
    obtain ⟨hid, hminted, -⟩ := (henrolled hx).credentials connection hello ((mem_about rfl).mpr he)
    exact ⟨hid.trans (hsound.names w x hx).1, (mem_about rfl).mp hminted⟩
  refine ⟨fun w => ?_, fun connection w hello he => ?_, ?_, fun op connection hop w hchanged => ?_,
    hwired.single, fun connection ack hack hok w hello he => ?_⟩
  · cases hx : h.state.sessions[w]? with
    | some x =>
      rw [← countP_about]
      exact (henrolled hx).once
    | none =>
      rw [Nat.le_one_iff_eq_zero_or_eq_one, List.countP_eq_zero]
      refine .inl fun e he hregisters => ?_
      cases e with
      | registered connection name hello =>
        obtain rfl : name = w := of_decide_eq_true hregisters
        obtain ⟨x, hsome⟩ := hknown he rfl (by simp)
        rw [hx] at hsome
        cases hsome
      | _ => cases hregisters
  · obtain ⟨hid, htoken⟩ := hminted he
    refine ⟨hid, fun token => ⟨fun hother => htokens.once w token hello.token hother htoken, ?_⟩⟩
    rintro rfl
    exact htoken
  · intro connection hello attempts hhandler hspent
    obtain ⟨next, events, hturn, hattempt⟩ := h.state.attempt_cases connection
    simp only [WorkerSupervisor.step, hturn]
    cases hattempt with
    | registered w greeting x hregisters =>
      -- The session that awaits the hello still has its token, so the token is not spent.
      obtain ⟨count, -, hsame⟩ := hregisters.handler
      obtain ⟨rfl, -⟩ := Handler.registering.inj (Option.some.inj (hhandler.symm.trans hsame))
      obtain ⟨hx, hpresented⟩ := WorkerSupervisor.findByToken_eq_some hregisters.found
      obtain ⟨hne, -⟩ := (henrolled hx).awaiting hregisters.awaits.2.1
      rcases hspent with hempty | ⟨other, name, earlier, he, htoken⟩
      · exact absurd (hpresented.trans hempty) hne
      · have hfirst := (mem_about rfl).mp ((henrolled hx).token hne)
        rw [hpresented, ← htoken] at hfirst
        obtain rfl := htokens.distinct w name earlier.token hfirst (hminted he).2
        exact absurd ((henrolled hx).credentials other earlier ((mem_about rfl).mpr he)).2.2 hne
    | _ => rfl
  · rcases WorkerSupervisor.own_session hop hchanged with hserving | ⟨hello, he⟩
    · obtain ⟨hello, he⟩ := hwired.serving connection w hserving
      exact ⟨hello, List.mem_append_left _ he⟩
    · exact ⟨hello, List.mem_append_right _ he⟩
  · have hstate := hwired.refused connection ack hack hok
    rcases hwired.registered connection w hello he with hother | hother <;>
      exact absurd (hstate.symm.trans hother) (by simp)

end VkRelay.Supervisor
