import VkRelay.Input.Queue

/-!
Captures and polls. The ring stays in order and within its caps; every captured event is
delivered, still pending, given way to a newer motion of its window, or lost for capacity,
and every such loss is reported by the next poll.
-/

namespace VkRelay.Input

namespace InputQueue

variable {q next : InputQueue} {ev : SidecarInputEvent}

theorem Enqueued.nextSeq (henq : Enqueued q ev next) : next.nextSeq = q.nextSeq + 1 := by
  cases henq <;> rfl

/-- The ring holds what it held and the incoming event, in that order, or less. -/
theorem Enqueued.sublist (henq : Enqueued q ev next) : next.events.Sublist (q.events ++ [ev]) := by
  cases henq with
  | room => exact pending_sublist.append_right _
  | evict => exact List.eraseP_sublist.append_right _
  | refuse => exact List.sublist_append_left _ _
  | overrun => exact List.Sublist.refl _
  | discard => exact (List.tail_sublist _).append_right _

theorem Enqueued.dropped (henq : Enqueued q ev next) (hdue : q.dropped = true) :
    next.dropped = true := by
  cases henq with
  | room => exact hdue
  | evict | refuse | overrun | discard => rfl

variable {events : List SidecarInputEvent}

theorem singleMotion_append (hsingle : SingleMotion events)
    (hnone : ev.isMotion = true → ∀ e ∈ events, e.isMotionOf ev.xid = false) :
    SingleMotion (events ++ [ev]) := by
  refine List.pairwise_append.mpr ⟨hsingle, List.pairwise_singleton _ _, fun e he f hf => ?_⟩
  cases List.mem_singleton.mp hf
  intro hmotion hev hxid
  have := hnone hev e he
  simp [SidecarInputEvent.isMotionOf, hmotion, hxid] at this

theorem forall_quiet_append (hquiet : ∀ e ∈ events, e.isMotion = false)
    (hprotected : ev.isMotion = false) : ∀ e ∈ events ++ [ev], e.isMotion = false := by
  intro e he
  rcases List.mem_append.mp he with hold | hnew
  · exact hquiet e hold
  · cases List.mem_singleton.mp hnew
    exact hprotected

theorem WellFormed.enqueued (hq : q.WellFormed) (hseq : ev.seq = q.nextSeq + 1)
    (henq : Enqueued q ev next) : next.WellFormed := by
  have hsub := henq.sublist
  have hall : (q.events ++ [ev]).Pairwise fun a b => a.seq < b.seq := by
    refine List.pairwise_append.mpr ⟨hq.ascending, List.pairwise_singleton _ _, fun e he f hf => ?_⟩
    cases List.mem_singleton.mp hf
    have := hq.numbered e he
    omega
  refine ⟨hall.sublist hsub, fun e he => ?_, ?_, ?_, ?_⟩
  · rw [henq.nextSeq]
    rcases List.mem_append.mp (hsub.mem he) with hold | hnew
    · exact (hq.numbered e hold).trans (Nat.le_succ _)
    · cases List.mem_singleton.mp hnew
      exact hseq.le
  · -- Only a motion can make a second one of its window, and it takes the pending one out.
    cases henq with
    | room =>
      exact singleMotion_append (hq.single.sublist pending_sublist) fun hm => hq.pending_single hm
    | evict hfull hsame =>
      refine singleMotion_append (hq.single.sublist List.eraseP_sublist) fun hm e he => ?_
      exact hq.pending_single hm e (hsame ▸ List.eraseP_sublist.mem he)
    | refuse => exact hq.single
    | overrun hfull hquiet hprotected =>
      exact singleMotion_append hq.single fun hm => absurd hm (by simp [hprotected])
    | discard hquiet hprotected =>
      exact singleMotion_append (hq.single.sublist (List.tail_sublist _)) fun hm =>
        absurd hm (by simp [hprotected])
  · have hcaps := softCap_lt_hardCeiling
    have hceiling := hq.ceiling
    cases henq with
    | room hroom =>
      rw [List.length_append, List.length_singleton]
      omega
    | evict hfull hsame hmotion =>
      obtain ⟨e, he, hpass⟩ := hmotion
      have hpos := List.length_pos_of_mem he
      rw [List.length_append, List.length_singleton, List.length_eraseP_of_mem he hpass]
      omega
    | refuse => exact hceiling
    | overrun hfull hquiet hprotected hbelow =>
      rw [List.length_append, List.length_singleton]
      omega
    | discard hquiet hprotected hatCeiling =>
      rw [List.length_append, List.length_singleton, List.length_tail]
      omega
  · -- Above the soft cap nothing can be evicted: the ring holds no motion any more.
    cases henq with
    | room hroom =>
      intro habove
      rw [List.length_append, List.length_singleton] at habove
      omega
    | evict hfull hsame hmotion =>
      obtain ⟨e, he, hpass⟩ := hmotion
      have hpos := List.length_pos_of_mem he
      intro habove
      rw [List.length_append, List.length_singleton, List.length_eraseP_of_mem he hpass] at habove
      have hquiet := hq.above (by omega) e he
      simp [hpass] at hquiet
    | refuse => exact hq.above
    | overrun hfull hquiet hprotected hbelow =>
      exact fun _ => forall_quiet_append hquiet hprotected
    | discard hquiet hprotected hceiling =>
      exact fun _ =>
        forall_quiet_append (fun e he => hquiet e (List.mem_of_mem_tail he)) hprotected

/-! ## Losses -/

/-- The event was in the ring or came in, and is no longer there. -/
def Loses (q next : InputQueue) (ev e : SidecarInputEvent) : Prop :=
  e ∈ q.events ++ [ev] ∧ e ∉ next.events

/-- The event gets lost at a full ring and not to a newer motion of its window, and the loss
is on record. -/
structure ForCapacity (q next : InputQueue) (ev e : SidecarInputEvent) : Prop where
  lost : Loses q next ev e
  kept : ¬ Supersedes ev e
  full : kMaxInputQueueEvents ≤ q.events.length
  recorded : next.dropped = true
  /-- Only the oldest event goes when it is no motion, for another such event at the ceiling. -/
  oldest : e.isMotion = false → ev.isMotion = false ∧
    kMaxInputQueueHardCeiling ≤ q.events.length ∧ q.events.head? = some e

/-- An event that gets lost gives way to a newer motion of its window, which is then in the
ring, or goes for capacity. -/
theorem Enqueued.loses (hq : q.WellFormed) (hseq : ev.seq = q.nextSeq + 1)
    (henq : Enqueued q ev next) {e : SidecarInputEvent} (hlost : Loses q next ev e) :
    Supersedes ev e ∧ ev ∈ next.events ∨ ForCapacity q next ev e := by
  have hin := hlost.1
  have hout := hlost.2
  cases henq with
  | room hroom =>
    left
    simp only [List.mem_append, List.mem_singleton, not_or] at hin hout
    have hold := hin.resolve_right hout.2
    by_cases hsame : ev.isMotion = true ∧ e.isMotionOf ev.xid = true
    · obtain ⟨hev, hmotion⟩ := hsame
      simp only [SidecarInputEvent.isMotionOf, Bool.and_eq_true, beq_iff_eq] at hmotion
      have := hq.numbered e hold
      exact ⟨⟨hmotion.1, hev, hmotion.2, by omega⟩, by simp⟩
    · exact absurd (mem_pending_of_not_motionOf hold hsame) hout.1
  | evict hfull hsame hmotion =>
    right
    simp only [List.mem_append, List.mem_singleton, not_or] at hin hout
    have hold := hin.resolve_right hout.2
    refine ⟨hlost, ?_, hfull, rfl, fun hquiet => absurd ?_ hout.1⟩
    · rintro ⟨hm, hev, hxid, -⟩
      have hother := hq.pending_single hev e (hsame ▸ hold)
      simp [SidecarInputEvent.isMotionOf, hm, hxid] at hother
    · exact (List.mem_eraseP_of_neg (by simp [hquiet])).mpr hold
  | refuse hfull hmotion =>
    right
    rcases List.mem_append.mp hin with hold | hnew
    · exact absurd hold hout
    · cases List.mem_singleton.mp hnew
      exact ⟨hlost, fun hnewer => lt_irrefl _ hnewer.2.2.2, hfull, rfl,
        fun hquiet => by simp [hmotion] at hquiet⟩
  | overrun => exact absurd hin hout
  | discard hquiet hprotected hceiling =>
    right
    simp only [List.mem_append, List.mem_singleton, not_or] at hin hout
    have hold := hin.resolve_right hout.2
    refine ⟨hlost, fun hnewer => by simp [hnewer.2.1] at hprotected,
      softCap_lt_hardCeiling.le.trans hceiling, rfl, fun _ => ⟨hprotected, hceiling, ?_⟩⟩
    cases hevents : q.events with
    | nil => simp [hevents] at hold
    | cons first rest =>
      rw [hevents] at hold hout
      rw [List.head?_cons, (List.mem_cons.mp hold).resolve_right hout.1]

/-- With the cursor of the last poll there are no stragglers to discard. -/
theorem drain_eq {cursor : Nat} (hfresh : ∀ e ∈ q.events, cursor < e.seq) : q.drain cursor =
      ({ events := q.events.take kMaxPollInputEvents
         nextSeq := ((q.events.take kMaxPollInputEvents).getLast?.map
          SidecarInputEvent.seq).getD cursor
         dropped := q.dropped },
        { q with events := q.events.drop kMaxPollInputEvents, dropped := false }) := by
  have hkeep : q.events.dropWhile (fun e => decide (e.seq ≤ cursor)) = q.events := by
    rw [List.dropWhile_eq_self_iff]
    intro hpos
    simpa using hfresh _ (List.getElem_mem hpos)
  simp only [drain, hkeep]

end InputQueue

/-! ## Runs -/

inductive Call where
  | enqueue (xid epoch : Nat) (ev : SidecarInputEvent)
  | drain

/-- The ring and a sidecar that polls it with the cursor of its last poll, with the events
captured and delivered so far. -/
structure Poller where
  queue : InputQueue := {}
  cursor : Nat := 0
  captured : List SidecarInputEvent := []
  delivered : List SidecarInputEvent := []

namespace Poller

def step (s : Poller) : Call → Poller
  | .enqueue xid epoch ev =>
    { s with
      queue := s.queue.enqueue xid epoch ev
      captured :=
        if ev.accepted xid then s.captured ++ [s.queue.stamp xid epoch ev] else s.captured }
  | .drain =>
    let drained := s.queue.drain s.cursor
    { s with
      queue := drained.2
      cursor := drained.1.nextSeq
      delivered := s.delivered ++ drained.1.events }

def after (calls : List Call) : Poller := calls.foldl step {}

theorem after_append (first second : List Call) :
    after (first ++ second) = second.foldl step (after first) := List.foldl_append

/-- The ring is well formed, ahead of the cursor, and holds with what was delivered a part of
what was captured, in the order of capture. -/
structure Sound (s : Poller) : Prop where
  queue : s.queue.WellFormed
  captured : s.captured.Pairwise fun a b => a.seq < b.seq
  numbered : ∀ e ∈ s.captured, e.seq ≤ s.queue.nextSeq
  history : (s.delivered ++ s.queue.events).Sublist s.captured
  ahead : ∀ e ∈ s.queue.events, s.cursor < e.seq
  cursor : s.cursor ≤ s.queue.nextSeq

variable {s : Poller}

theorem Sound.enqueue (hs : s.Sound) (xid epoch : Nat) (ev : SidecarInputEvent) :
    (s.step (.enqueue xid epoch ev)).Sound := by
  by_cases haccepted : ev.accepted xid = true
  · have henq : InputQueue.Enqueued s.queue (s.queue.stamp xid epoch ev)
        (s.queue.enqueue xid epoch ev) := InputQueue.enqueued hs.queue haccepted
    have hnext := henq.nextSeq
    have hcaptured : (s.step (.enqueue xid epoch ev)).captured =
        s.captured ++ [s.queue.stamp xid epoch ev] := if_pos haccepted
    refine ⟨hs.queue.enqueued rfl henq, ?_, fun e he => ?_, ?_, fun e he => ?_, ?_⟩
    · rw [hcaptured]
      refine List.pairwise_append.mpr
        ⟨hs.captured, List.pairwise_singleton _ _, fun e he f hf => ?_⟩
      cases List.mem_singleton.mp hf
      exact Nat.lt_succ_of_le (hs.numbered e he)
    · rw [hcaptured] at he
      refine le_trans ?_ hnext.ge
      rcases List.mem_append.mp he with hold | hnew
      · exact (hs.numbered e hold).trans (Nat.le_succ _)
      · cases List.mem_singleton.mp hnew
        exact le_rfl
    · rw [hcaptured]
      have hgrow : (s.delivered ++ (s.queue.enqueue xid epoch ev).events).Sublist
          (s.delivered ++ s.queue.events ++ [s.queue.stamp xid epoch ev]) := by
        rw [List.append_assoc]
        exact henq.sublist.append_left _
      exact hgrow.trans (hs.history.append_right _)
    · rcases List.mem_append.mp (henq.sublist.mem he) with hold | hnew
      · exact hs.ahead e hold
      · cases List.mem_singleton.mp hnew
        exact Nat.lt_succ_of_le hs.cursor
    · exact hs.cursor.trans (hnext ▸ Nat.le_succ _)
  · have hsame : s.step (.enqueue xid epoch ev) = s := by
      simp [step, InputQueue.enqueue, haccepted]
    rwa [hsame]

theorem Sound.drain (hs : s.Sound) : (s.step .drain).Sound := by
  have hq := hs.queue
  have hsplit := List.take_append_drop kMaxPollInputEvents s.queue.events
  have hrest := List.drop_sublist kMaxPollInputEvents s.queue.events
  have htaken := List.take_sublist kMaxPollInputEvents s.queue.events
  have hmove : s.step .drain = { s with
        queue := { s.queue with
          events := s.queue.events.drop kMaxPollInputEvents, dropped := false }
        cursor := ((s.queue.events.take kMaxPollInputEvents).getLast?.map
          SidecarInputEvent.seq).getD s.cursor
        delivered := s.delivered ++ s.queue.events.take kMaxPollInputEvents } := by
    simp only [step, InputQueue.drain_eq hs.ahead]
  -- The new cursor is the number of the last event taken, or the old one.
  have hcursor : ∀ bound : Nat, s.cursor ≤ bound →
      (∀ e ∈ s.queue.events.take kMaxPollInputEvents, e.seq ≤ bound) →
      (s.step .drain).cursor ≤ bound := by
    intro bound hold htake
    rw [hmove]
    cases hlast : (s.queue.events.take kMaxPollInputEvents).getLast? with
    | none => exact hold
    | some last => exact htake last (List.mem_of_getLast? hlast)
  have hbefore : ∀ e ∈ s.queue.events.take kMaxPollInputEvents,
      ∀ f ∈ s.queue.events.drop kMaxPollInputEvents, e.seq < f.seq :=
    (List.pairwise_append.mp (hsplit.symm ▸ hq.ascending)).2.2
  refine ⟨?_, ?_, ?_, ?_, fun f hf => ?_, ?_⟩
  · rw [hmove]
    refine ⟨hq.ascending.sublist hrest, fun e he => hq.numbered e (hrest.mem he),
      hq.single.sublist hrest, hrest.length_le.trans hq.ceiling, fun habove e he => ?_⟩
    exact hq.above (lt_of_lt_of_le habove hrest.length_le) e (hrest.mem he)
  · rw [hmove]
    exact hs.captured
  · rw [hmove]
    exact hs.numbered
  · rw [hmove]
    have := hs.history
    rwa [← hsplit, ← List.append_assoc] at this
  · rw [hmove] at hf
    have hlow := hs.ahead f (hrest.mem hf)
    have hle := hcursor (f.seq - 1) (by omega) fun e he => by
      have := hbefore e he f hf
      omega
    omega
  · refine le_trans (hcursor s.queue.nextSeq hs.cursor fun e he => ?_) (by rw [hmove])
    exact hq.numbered e (htaken.mem he)

theorem Sound.after (calls : List Call) : (after calls).Sound := by
  have hempty : ({} : Poller).Sound :=
    ⟨⟨by simp, by simp, List.Pairwise.nil, by simp, by simp⟩, by simp, by simp, by simp, by simp,
      le_rfl⟩
  induction calls using List.reverseRecOn with
  | nil => exact hempty
  | append_singleton calls call ih =>
    rw [Poller.after_append]
    cases call with
    | enqueue xid epoch ev => exact ih.enqueue xid epoch ev
    | drain => exact ih.drain

/-! ## What becomes of a captured event -/

/-- The event goes at some enqueue of the run, in the way the relation says. -/
def LostBy (way : InputQueue → InputQueue → SidecarInputEvent → SidecarInputEvent → Prop)
    (calls : List Call) (e : SidecarInputEvent) : Prop :=
  ∃ before xid epoch ev rest, calls = before ++ .enqueue xid epoch ev :: rest ∧
    ev.accepted xid = true ∧
    way (after before).queue ((after before).queue.enqueue xid epoch ev)
      ((after before).queue.stamp xid epoch ev) e

theorem LostBy.append {way : InputQueue → InputQueue → SidecarInputEvent → SidecarInputEvent → Prop}
    {calls : List Call} {e : SidecarInputEvent} (hlost : LostBy way calls e) (more : List Call) :
    LostBy way (calls ++ more) e := by
  obtain ⟨before, xid, epoch, ev, rest, rfl, hlost⟩ := hlost
  exact ⟨before, xid, epoch, ev, rest ++ more, by simp, hlost⟩

/-- A captured event is delivered, still pending, or was lost at an enqueue. -/
theorem fate (calls : List Call) {e : SidecarInputEvent} (he : e ∈ (after calls).captured) :
    e ∈ (after calls).delivered ∨ e ∈ (after calls).queue.events ∨
      LostBy InputQueue.Loses calls e := by
  induction calls using List.reverseRecOn with
  | nil => cases he
  | append_singleton calls call ih =>
    have hs := Sound.after calls
    have hlast : after (calls ++ [call]) = (after calls).step call := after_append calls [call]
    rw [hlast] at he ⊢
    cases call with
    | drain =>
      rcases ih he with hdone | hpending | hlost
      · exact .inl (List.mem_append_left _ hdone)
      · rw [step, InputQueue.drain_eq hs.ahead]
        rw [← List.take_append_drop kMaxPollInputEvents (after calls).queue.events] at hpending
        rcases List.mem_append.mp hpending with htaken | hkept
        · exact .inl (List.mem_append_right _ htaken)
        · exact .inr (.inl hkept)
      · exact .inr (.inr (hlost.append _))
    | enqueue xid epoch ev =>
      by_cases haccepted : ev.accepted xid = true
      · by_cases hthere : e ∈ ((after calls).queue.enqueue xid epoch ev).events
        · exact .inr (.inl hthere)
        · have hcaptured : e ∈ (after calls).captured ++
              [(after calls).queue.stamp xid epoch ev] := by
            simpa [step, haccepted] using he
          have hlost : e ∈ (after calls).queue.events ++ [(after calls).queue.stamp xid epoch ev] →
              LostBy InputQueue.Loses (calls ++ [.enqueue xid epoch ev]) e := fun hin =>
            ⟨calls, xid, epoch, ev, [], rfl, haccepted, hin, hthere⟩
          rcases List.mem_append.mp hcaptured with hold | hnew
          · rcases ih hold with hdone | hpending | hgone
            · exact .inl hdone
            · exact .inr (.inr (hlost (List.mem_append_left _ hpending)))
            · exact .inr (.inr (hgone.append _))
          · exact .inr (.inr (hlost (List.mem_append_right _ hnew)))
      · have hsame : (after calls).step (.enqueue xid epoch ev) = after calls := by
          simp [step, InputQueue.enqueue, haccepted]
        rw [hsame] at he ⊢
        exact (ih he).imp_right fun hrest => hrest.imp_right fun hlost => hlost.append _

/-- What was captured stays on record. -/
theorem captured_mono (calls more : List Call) {e : SidecarInputEvent}
    (he : e ∈ (after calls).captured) : e ∈ (after (calls ++ more)).captured := by
  induction more using List.reverseRecOn with
  | nil => rwa [List.append_nil]
  | append_singleton more call ih =>
    rw [← List.append_assoc, after_append (calls ++ more) [call]]
    cases call with
    | drain => exact ih
    | enqueue xid epoch ev =>
      change e ∈ if ev.accepted xid then _ else _
      split_ifs
      · exact List.mem_append_left _ ih
      · exact ih

/-- A loss at an enqueue: a newer motion of the window was captured, or it was for capacity. -/
theorem LostBy.superseded_or_capacity {calls : List Call} {e : SidecarInputEvent}
    (hlost : LostBy InputQueue.Loses calls e) :
    (∃ f ∈ (after calls).captured, Supersedes f e) ∨ LostBy InputQueue.ForCapacity calls e := by
  obtain ⟨before, xid, epoch, ev, rest, rfl, haccepted, hloses⟩ := hlost
  have hs := Sound.after before
  rcases (InputQueue.enqueued hs.queue haccepted).loses hs.queue rfl hloses with hnewer | hcapacity
  · refine .inl ⟨_, ?_, hnewer.1⟩
    have hat : (after before).queue.stamp xid epoch ev ∈
        (after (before ++ [.enqueue xid epoch ev])).captured := by
      rw [after_append]
      change _ ∈ if ev.accepted xid then _ else _
      rw [if_pos haccepted]
      exact List.mem_append_right _ (List.mem_singleton_self _)
    have hmono := captured_mono (before ++ [.enqueue xid epoch ev]) rest hat
    rwa [List.append_assoc, List.singleton_append] at hmono
  · exact .inr ⟨before, xid, epoch, ev, rest, rfl, haccepted, hcapacity⟩

/-- A report that is due stays due until the next poll. -/
theorem dropped_foldl {s : Poller} (hs : s.Sound) (hdue : s.queue.dropped = true)
    {calls : List Call} (hcalls : ∀ call ∈ calls, call ≠ .drain) :
    (calls.foldl step s).queue.dropped = true := by
  induction calls generalizing s with
  | nil => exact hdue
  | cons call calls ih =>
    obtain ⟨hcall, hrest⟩ := List.forall_mem_cons.mp hcalls
    cases call with
    | drain => exact absurd rfl hcall
    | enqueue xid epoch ev =>
      refine ih (hs.enqueue xid epoch ev) ?_ hrest
      by_cases haccepted : ev.accepted xid = true
      · exact (InputQueue.enqueued hs.queue haccepted).dropped hdue
      · simpa [step, InputQueue.enqueue, haccepted] using hdue

end Poller

/-- Captures and polls in any interleaving, each poll with the cursor of the one before.
Delivery is in ascending order and, with what is pending, a part of what was captured in the
order of capture. A captured event that is no motion is delivered, pending, or was the
oldest when another such event came in at the hard ceiling; the newest motion of a window
goes only for capacity. The ring keeps to its caps, and a loss for capacity is reported by
the next poll. -/
theorem input_delivery (calls : List Call) :
    (Poller.after calls).captured.Pairwise (fun a b => a.seq < b.seq) ∧
      (Poller.after calls).delivered.Pairwise (fun a b => a.seq < b.seq) ∧
      ((Poller.after calls).delivered ++ (Poller.after calls).queue.events).Sublist
        (Poller.after calls).captured ∧
      (∀ e ∈ (Poller.after calls).captured, e.isMotion = false →
        e ∈ (Poller.after calls).delivered ∨ e ∈ (Poller.after calls).queue.events ∨
          ∃ before xid epoch ev rest, calls = before ++ .enqueue xid epoch ev :: rest ∧
            ev.accepted xid = true ∧ ev.isMotion = false ∧
            kMaxInputQueueHardCeiling ≤ (Poller.after before).queue.events.length ∧
            (Poller.after before).queue.events.head? = some e) ∧
      (∀ e ∈ (Poller.after calls).captured, e.isMotion = true →
        (∀ f ∈ (Poller.after calls).captured, f.isMotion = true → f.xid = e.xid →
          f.seq ≤ e.seq) →
        e ∈ (Poller.after calls).delivered ∨ e ∈ (Poller.after calls).queue.events ∨
          Poller.LostBy InputQueue.ForCapacity calls e) ∧
      (Poller.after calls).queue.events.length ≤ kMaxInputQueueHardCeiling ∧
      (kMaxInputQueueEvents < (Poller.after calls).queue.events.length →
        ∀ e ∈ (Poller.after calls).queue.events, e.isMotion = false) ∧
      SingleMotion (Poller.after calls).queue.events ∧
      ∀ before xid epoch ev waiting rest,
        calls = before ++ .enqueue xid epoch ev :: (waiting ++ .drain :: rest) →
        (∀ call ∈ waiting, call ≠ .drain) → ev.accepted xid = true →
        (∃ e, InputQueue.Loses (Poller.after before).queue
            ((Poller.after before).queue.enqueue xid epoch ev)
            ((Poller.after before).queue.stamp xid epoch ev) e ∧
          ¬ Supersedes ((Poller.after before).queue.stamp xid epoch ev) e) →
        ((Poller.after (before ++ .enqueue xid epoch ev :: waiting)).queue.drain
          (Poller.after (before ++ .enqueue xid epoch ev :: waiting)).cursor).1.dropped = true := by
  have hs := Poller.Sound.after calls
  have hdelivered := (List.sublist_append_left _ _).trans hs.history
  refine ⟨hs.captured, hs.captured.sublist hdelivered, hs.history, fun e he hquiet => ?_,
    fun e he hmotion hnewest => ?_, hs.queue.ceiling, hs.queue.above, hs.queue.single, ?_⟩
  · refine (Poller.fate calls he).imp_right fun hrest => hrest.imp_right fun hlost => ?_
    rcases hlost.superseded_or_capacity with ⟨f, -, hnewer⟩ | hcapacity
    · simp [hnewer.1] at hquiet
    · obtain ⟨before, xid, epoch, ev, rest, hcalls, haccepted, hway⟩ := hcapacity
      exact ⟨before, xid, epoch, ev, rest, hcalls, haccepted, hway.oldest hquiet⟩
  · refine (Poller.fate calls he).imp_right fun hrest => hrest.imp_right fun hlost => ?_
    rcases hlost.superseded_or_capacity with ⟨f, hf, hnewer⟩ | hcapacity
    · obtain ⟨-, hfmotion, hxid, hlt⟩ := hnewer
      exact absurd (hnewest f hf hfmotion hxid.symm) (not_le.mpr hlt)
    · exact hcapacity
  · rintro before xid epoch ev waiting rest - hwaiting haccepted ⟨e, hloses, hkept⟩
    have hbefore := Poller.Sound.after before
    have hway := (InputQueue.enqueued hbefore.queue haccepted).loses hbefore.queue rfl hloses
    have hdue := (hway.resolve_left fun hnewer => hkept hnewer.1).recorded
    rw [Poller.after_append]
    exact Poller.dropped_foldl (hbefore.enqueue xid epoch ev) hdue hwaiting

end VkRelay.Input
