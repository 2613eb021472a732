import Mathlib

/-!
The input ring between the worker's window thread and the sidecar. Motion is the only
disposable kind: a new motion takes the place of the window's pending one, and a full
ring evicts its oldest motion or refuses the incoming one. Every other event is admitted
past the soft cap; only at the hard ceiling does the oldest one go.

Sequence numbers are natural numbers that do not overflow.
-/

namespace VkRelay.Input

inductive InputEventKind where
  | invalid | motion | button | wheel | key | focus | close | geometryRequest
deriving DecidableEq, Repr

def InputEventKind.code : InputEventKind → Nat
  | .invalid => 0
  | .motion => 1
  | .button => 2
  | .wheel => 3
  | .key => 4
  | .focus => 5
  | .close => 6
  | .geometryRequest => 7

structure SidecarInputEvent where
  xid : Nat := 0
  epoch : Nat := 0
  seq : Nat := 0
  kind : Nat := 0
  clientX : Int := 0
  clientY : Int := 0
  button : Int := 0
  wheel : Int := 0
  vk : Int := 0
  scancode : Int := 0
  modifiers : Nat := 0
  pressed : Bool := false
  rootX : Int := 0
  rootY : Int := 0
  reqW : Nat := 0
  reqH : Nat := 0
  hostRequest : Nat := 0
deriving DecidableEq, Repr

namespace SidecarInputEvent

def isMotion (e : SidecarInputEvent) : Bool := e.kind == InputEventKind.motion.code

def isMotionOf (xid : Nat) (e : SidecarInputEvent) : Bool := e.isMotion && e.xid == xid

def accepted (xid : Nat) (e : SidecarInputEvent) : Bool :=
  !(xid == 0 || e.kind == InputEventKind.invalid.code ||
    decide (e.kind > InputEventKind.geometryRequest.code))

end SidecarInputEvent

def kMaxInputQueueEvents : Nat := 4096

def kMaxPollInputEvents : Nat := 256

def kMaxInputQueueHardCeiling : Nat := kMaxInputQueueEvents + 1024

theorem softCap_lt_hardCeiling : kMaxInputQueueEvents < kMaxInputQueueHardCeiling :=
  Nat.lt_add_of_pos_right (by decide)

def eraseLast {α : Type*} (test : α → Bool) (list : List α) : List α :=
  (list.reverse.eraseP test).reverse

structure InputQueue where
  events : List SidecarInputEvent := []
  nextSeq : Nat := 0
  dropped : Bool := false

namespace InputQueue

variable (q : InputQueue)

def push (ev : SidecarInputEvent) : InputQueue := { q with events := q.events ++ [ev] }

def stamp (xid epoch : Nat) (ev : SidecarInputEvent) : SidecarInputEvent :=
  { ev with xid, epoch, seq := q.nextSeq + 1 }

/-- The pending events without the motion that the incoming one replaces. -/
def pending (ev : SidecarInputEvent) : List SidecarInputEvent :=
  if ev.isMotion then eraseLast (SidecarInputEvent.isMotionOf ev.xid) q.events else q.events

def dropOldestMotion : Option InputQueue :=
  if q.events.any SidecarInputEvent.isMotion then
    some { q with events := q.events.eraseP SidecarInputEvent.isMotion, dropped := true }
  else none

def append (ev : SidecarInputEvent) : InputQueue :=
  if kMaxInputQueueEvents ≤ q.events.length then
    match q.dropOldestMotion with
    | some room => room.push ev
    | none =>
      if ev.isMotion then { q with dropped := true }
      else if kMaxInputQueueHardCeiling ≤ q.events.length then
        { q with events := q.events.tail ++ [ev], dropped := true }
      else { q with events := q.events ++ [ev], dropped := true }
  else q.push ev

def enqueue (xid epoch : Nat) (ev : SidecarInputEvent) : InputQueue :=
  if ev.accepted xid then
    let ev := q.stamp xid epoch ev
    { q with events := q.pending ev, nextSeq := q.nextSeq + 1 }.append ev
  else q

structure Drained where
  events : List SidecarInputEvent
  nextSeq : Nat
  dropped : Bool

def drain (sinceSeq : Nat) : Drained × InputQueue :=
  let fresh := q.events.dropWhile fun e => e.seq ≤ sinceSeq
  let out := fresh.take kMaxPollInputEvents
  ({ events := out, nextSeq := (out.getLast?.map SidecarInputEvent.seq).getD sinceSeq
     dropped := q.dropped },
    { q with events := fresh.drop kMaxPollInputEvents, dropped := false })

end InputQueue

/-! ## What one enqueue can do -/

def SingleMotion (events : List SidecarInputEvent) : Prop :=
  events.Pairwise fun a b => a.isMotion = true → b.isMotion = true → a.xid ≠ b.xid

/-- The ring is in order, within its caps, and has no motion above the soft one. -/
structure InputQueue.WellFormed (q : InputQueue) : Prop where
  ascending : q.events.Pairwise fun a b => a.seq < b.seq
  numbered : ∀ e ∈ q.events, e.seq ≤ q.nextSeq
  single : SingleMotion q.events
  ceiling : q.events.length ≤ kMaxInputQueueHardCeiling
  above : kMaxInputQueueEvents < q.events.length → ∀ e ∈ q.events, e.isMotion = false

/-- The pending motion `e` gives way to a newer one of the same window. -/
def Supersedes (ev e : SidecarInputEvent) : Prop :=
  e.isMotion = true ∧ ev.isMotion = true ∧ e.xid = ev.xid ∧ e.seq < ev.seq

variable {α : Type*}

theorem eraseLast_sublist (test : α → Bool) (list : List α) :
    (eraseLast test list).Sublist list := by
  have hsub := (List.eraseP_sublist (l := list.reverse) (p := test)).reverse
  rwa [List.reverse_reverse] at hsub

variable {test : α → Bool} {list : List α}

/-- Only an element that passes the test is erased. -/
theorem mem_eraseLast_of_neg {x : α} (hx : test x = false) :
    x ∈ eraseLast test list ↔ x ∈ list := by
  rw [eraseLast, List.mem_reverse, List.mem_eraseP_of_neg (by simp [hx]), List.mem_reverse]

/-- Where at most one element passes the test, none is left. -/
theorem not_mem_eraseP (hsingle : list.Pairwise fun a b => test a = true → test b = true → False) :
    ∀ x ∈ list.eraseP test, test x = false := by
  induction list with
  | nil => simp
  | cons head tail ih =>
    obtain ⟨hhead, htail⟩ := List.pairwise_cons.mp hsingle
    intro x hx
    rw [List.eraseP_cons] at hx
    cases htest : test head with
    | true =>
      rw [htest, cond_true] at hx
      by_contra hpass
      exact hhead x hx htest (by simpa using hpass)
    | false =>
      rw [htest, cond_false] at hx
      rcases List.mem_cons.mp hx with rfl | hx
      · exact htest
      · exact ih htail x hx

namespace InputQueue

variable {q : InputQueue} {ev : SidecarInputEvent}

theorem pending_sublist : (q.pending ev).Sublist q.events := by
  unfold pending
  split_ifs
  · exact eraseLast_sublist _ _
  · exact List.Sublist.refl _

/-- Coalescing removes nothing but a motion of the same window. -/
theorem mem_pending_of_not_motionOf {e : SidecarInputEvent} (he : e ∈ q.events)
    (hother : ¬ (ev.isMotion = true ∧ e.isMotionOf ev.xid = true)) : e ∈ q.pending ev := by
  unfold pending
  split_ifs with hmotion
  · exact (mem_eraseLast_of_neg (by simpa [hmotion] using hother)).mpr he
  · exact he

namespace WellFormed

/-- No motion of the window is left beside the incoming one. -/
theorem pending_single (hq : q.WellFormed) (hmotion : ev.isMotion = true) :
    ∀ e ∈ q.pending ev, e.isMotionOf ev.xid = false := by
  intro e he
  rw [pending, if_pos hmotion, eraseLast, List.mem_reverse] at he
  refine not_mem_eraseP ?_ e he
  rw [List.pairwise_reverse]
  refine hq.single.imp fun {a b} hab hb ha => ?_
  simp only [SidecarInputEvent.isMotionOf, Bool.and_eq_true, beq_iff_eq] at ha hb
  exact hab ha.1 hb.1 (ha.2.trans hb.2.symm)

/-- In a ring that is full without the window's motion there was none. -/
theorem pending_eq (hq : q.WellFormed) (hfull : kMaxInputQueueEvents ≤ (q.pending ev).length) :
    q.pending ev = q.events := by
  unfold pending at hfull ⊢
  split_ifs at hfull ⊢ with hmotion
  · by_contra hne
    have hmem : ∃ e ∈ q.events, e.isMotionOf ev.xid = true := by
      by_contra hnone
      push Not at hnone
      refine hne ?_
      rw [eraseLast, List.eraseP_of_forall_not fun e he => ?_, List.reverse_reverse]
      exact hnone e (List.mem_reverse.mp he)
    obtain ⟨e, he, hpass⟩ := hmem
    have hlength : (eraseLast (SidecarInputEvent.isMotionOf ev.xid) q.events).length =
        q.events.length - 1 := by
      rw [eraseLast, List.length_reverse,
        List.length_eraseP_of_mem (List.mem_reverse.mpr he) hpass, List.length_reverse]
    have hpos := List.length_pos_of_mem he
    have hquiet := hq.above (by omega) e he
    simp [SidecarInputEvent.isMotionOf, hquiet] at hpass
  · rfl

end WellFormed

/-- The ways an accepted event enters the ring. -/
inductive Enqueued (q : InputQueue) (ev : SidecarInputEvent) : InputQueue → Prop
  | room (hroom : (q.pending ev).length < kMaxInputQueueEvents) :
      Enqueued q ev
        { events := q.pending ev ++ [ev], nextSeq := q.nextSeq + 1, dropped := q.dropped }
  /-- The oldest motion makes room. -/
  | evict (hfull : kMaxInputQueueEvents ≤ q.events.length) (hsame : q.pending ev = q.events)
      (hmotion : ∃ e ∈ q.events, e.isMotion = true) :
      Enqueued q ev
        { events := q.events.eraseP SidecarInputEvent.isMotion ++ [ev], nextSeq := q.nextSeq + 1
          dropped := true }
  /-- A motion is not worth an overrun. -/
  | refuse (hfull : kMaxInputQueueEvents ≤ q.events.length) (hmotion : ev.isMotion = true) :
      Enqueued q ev { events := q.events, nextSeq := q.nextSeq + 1, dropped := true }
  | overrun (hfull : kMaxInputQueueEvents ≤ q.events.length)
      (hquiet : ∀ e ∈ q.events, e.isMotion = false) (hprotected : ev.isMotion = false)
      (hbelow : q.events.length < kMaxInputQueueHardCeiling) :
      Enqueued q ev { events := q.events ++ [ev], nextSeq := q.nextSeq + 1, dropped := true }
  /-- At the hard ceiling the oldest event goes. -/
  | discard (hquiet : ∀ e ∈ q.events, e.isMotion = false) (hprotected : ev.isMotion = false)
      (hceiling : kMaxInputQueueHardCeiling ≤ q.events.length) :
      Enqueued q ev { events := q.events.tail ++ [ev], nextSeq := q.nextSeq + 1, dropped := true }

theorem enqueued (hq : q.WellFormed) {xid epoch : Nat} (haccepted : ev.accepted xid = true) :
    Enqueued q (q.stamp xid epoch ev) (q.enqueue xid epoch ev) := by
  rw [enqueue, if_pos haccepted]
  generalize q.stamp xid epoch ev = stamped
  unfold append
  by_cases hfull : kMaxInputQueueEvents ≤ (q.pending stamped).length
  · simp only [if_pos hfull, dropOldestMotion]
    have hsame := hq.pending_eq hfull
    simp only [hsame] at hfull ⊢
    by_cases hany : q.events.any SidecarInputEvent.isMotion = true
    · simp only [if_pos hany]
      exact .evict hfull hsame (by simpa using hany)
    · simp only [if_neg hany]
      have hquiet : ∀ e ∈ q.events, e.isMotion = false := by simpa using hany
      by_cases hmotion : stamped.isMotion = true
      · simp only [if_pos hmotion]
        exact .refuse hfull hmotion
      · simp only [if_neg hmotion]
        have hprotected : stamped.isMotion = false := by simpa using hmotion
        split_ifs with hceiling
        · exact .discard hquiet hprotected hceiling
        · exact .overrun hfull hquiet hprotected (not_le.mp hceiling)
  · simp only [if_neg hfull]
    exact .room (not_le.mp hfull)

end InputQueue

end VkRelay.Input
