import VkRelay.Input.Queue
import VkRelay.Registry.Bindings

/-!
The gate of a poll. Every event is stamped with the epoch its window had when it was
captured, and a poll lets through the events whose window still has that epoch. A new
representation takes a new epoch and an erased entry has none; but the entry of a
registered window whose surface is destroyed keeps its epoch until the window gets another
representation, and so do the events captured from that surface.
-/

namespace VkRelay.Registry.WindowRegistry

open VkRelay.Lib

variable {r next : WindowRegistry} {op : Op} {effs : List RegistryEffect} {xid epoch : Nat}

/-- Every entry has an epoch that was drawn from the counter. -/
structure Dated (r : WindowRegistry) : Prop where
  placed : r.Placed
  drawn : ∀ (key : Nat) (e : Entry), r.entries[key]? = some e →
    0 < e.representationEpoch ∧ e.representationEpoch ≤ r.nextEpoch

/-- The call ends the window's representation: it promotes a placeholder or replaces a
surface, destroys the surface, unregisters the window while a placeholder stands for it, or
takes it down with its owner. -/
def EndsRepresentation (xid : Nat) (r : WindowRegistry) : Op → Prop
  | .bindSurface x _ => x = xid ∧ ∃ e, r.entries[xid]? = some e ∧ e.representation ≠ .none
  | .unbindSurface x surface =>
    x = xid ∧ ∃ e, r.entries[xid]? = some e ∧ e.representation = .surface ∧ e.surface = surface
  | .unregisterToplevel x generation =>
    x = xid ∧ ∃ e, r.entries[xid]? = some e ∧ e.representation = .placeholder ∧
      e.generation < generation
  | .takeOrphanedPopups ownerXid =>
    ownerXid ≠ 0 ∧ ∃ e, r.entries[xid]? = some e ∧ e.representation ≠ .none ∧
      e.ownedBy ownerXid = true
  | .registerToplevel _ _ _ | .updateToplevel _ _ _ _ _ | .setVisibility _ _ _
  | .commitPlaceholderPaint _ _ _ => False

/-- The call at most moves, resizes, restacks, hides, shows or paints the window. -/
def OnlySteers (xid : Nat) (r : WindowRegistry) : Op → Prop
  | .bindSurface x _ | .unbindSurface x _ | .registerToplevel x _ _ | .unregisterToplevel x _ =>
    x ≠ xid
  | .takeOrphanedPopups ownerXid =>
    ownerXid ≠ 0 → ∀ e, r.entries[xid]? = some e → e.ownedBy ownerXid = false
  | .updateToplevel _ _ _ _ _ | .setVisibility _ _ _ | .commitPlaceholderPaint _ _ _ => True

/-- The window's surface is gone and nothing stands in its place; the epoch is still there. -/
def AwaitsWindow (r : WindowRegistry) (xid epoch : Nat) : Prop :=
  ∃ e, r.entries[xid]? = some e ∧ e.representation = .none ∧ e.representationEpoch = epoch

/-- A representation with this epoch is over: if the entry still has the epoch, it stands
for no window. -/
structure Over (r : WindowRegistry) (xid epoch : Nat) : Prop where
  drawn : epoch ≤ r.nextEpoch
  none : ∀ e, r.entries[xid]? = some e → e.representationEpoch = epoch → e.representation = .none

/-- The entry keeps its epoch, and its representation unless that is given up or a bound surface
takes over. -/
def Keeps (old e : Entry) : Prop :=
  e.representationEpoch = old.representationEpoch ∧
    (e.representation = old.representation ∨ e.representation = .none ∨ old.surface ≠ 0)

/-- What a call makes of an entry: it keeps its epoch, or that is the next one. -/
theorem entry_move (hmove : Move r op effs next) {key : Nat} {e : Entry}
    (hentry : next.entries[key]? = some e) :
    (∃ old, r.entries[key]? = some old ∧ Keeps old e) ∨
      e.representationEpoch = r.nextEpoch + 1 ∧ next.nextEpoch = r.nextEpoch + 1 := by
  have hkept : ∀ {x : Nat} {old f : Entry}, (r.entries.insert x f)[key]? = some e →
      r.entries[x]? = some old → Keeps old f → ∃ old, r.entries[key]? = some old ∧ Keeps old e := by
    intro x old f hfound hold hkeeps
    rcases Table.insert_cases hfound with ⟨rfl, rfl⟩ | hsame
    · exact ⟨old, hold, hkeeps⟩
    · exact ⟨e, hsame, rfl, .inl rfl⟩
  have hfresh : ∀ {x : Nat} {f : Entry}, (r.entries.insert x f)[key]? = some e →
      f.representationEpoch = r.nextEpoch + 1 → (∃ old, r.entries[key]? = some old ∧ Keeps old e) ∨
        e.representationEpoch = r.nextEpoch + 1 := by
    intro x f hfound hepoch
    rcases Table.insert_cases hfound with ⟨-, rfl⟩ | hsame
    · exact .inr hepoch
    · exact .inl ⟨e, hsame, rfl, .inl rfl⟩
  cases hmove with
  | idle => exact .inl ⟨e, hentry, rfl, .inl rfl⟩
  | bindNew | bindPromote | bindOver | registerAgain | registerCreate =>
    exact (hfresh hentry rfl).imp_right fun hepoch => ⟨hepoch, rfl⟩
  | unbindKeep hx hold => exact .inl (hkept hentry hold ⟨rfl, .inr (.inl rfl)⟩)
  | registerSurface hx hold hgen howner hsurface =>
    exact .inl (hkept hentry hold ⟨rfl, .inr (.inr hsurface)⟩)
  | registerPlaceholder hx hold | update hx hold | visibility hx hold | unregisterSurface hx hold =>
    exact .inl (hkept hentry hold ⟨rfl, .inl rfl⟩)
  | paint hold => exact .inl (hkept hentry hold ⟨rfl, .inl rfl⟩)
  | unbindErase | unregisterPlaceholder | unregisterEmpty =>
    exact .inl ⟨e, Table.of_erase hentry, rfl, .inl rfl⟩
  | cascade => exact .inl ⟨e, Table.of_filter hentry, rfl, .inl rfl⟩

theorem nextEpoch_move (hmove : Move r op effs next) : r.nextEpoch ≤ next.nextEpoch := by
  cases hmove
  case bindNew | bindPromote | bindOver | registerAgain | registerCreate => exact Nat.le_succ _
  all_goals exact le_rfl

theorem Dated.move (hdated : r.Dated) (hmove : Move r op effs next) : next.Dated := by
  refine ⟨hdated.placed.move hmove, fun key e hentry => ?_⟩
  have hle := nextEpoch_move hmove
  rcases entry_move hmove hentry with ⟨old, hold, hepoch, -⟩ | ⟨hepoch, hcounter⟩
  · have := hdated.drawn key old hold
    omega
  · omega

theorem Over.move (hover : r.Over xid epoch) (hdated : r.Dated) (hmove : Move r op effs next) :
    next.Over xid epoch := by
  refine ⟨hover.drawn.trans (nextEpoch_move hmove), fun e hentry hepoch => ?_⟩
  have hdrawn := hover.drawn
  rcases entry_move hmove hentry with ⟨old, hold, hkept, hrep⟩ | ⟨hfresh, -⟩
  · have hnone := hover.none old hold (hkept.symm.trans hepoch)
    rcases hrep with hsame | hgone | hsurface
    · exact hsame.trans hnone
    · exact hgone
    · exact absurd ((hdated.placed xid old hold).2 (by simp [hnone])) hsurface
  · omega

/-- A call that ends a representation is not dropped. -/
theorem EndsRepresentation.not_drops (hends : EndsRepresentation xid r op) (hplaced : r.Placed) :
    ¬ r.Drops op := by
  intro hdrops
  cases op with
  | bindSurface x surface =>
    obtain ⟨rfl, e, hentry, -⟩ := hends
    exact (hplaced x e hentry).1 hdrops
  | unbindSurface x surface =>
    obtain ⟨rfl, e, hentry, -, hsurface⟩ := hends
    exact hdrops.elim (hplaced x e hentry).1 fun hother => hother e hentry hsurface
  | unregisterToplevel x generation =>
    obtain ⟨rfl, e, hentry, -, hgen⟩ := hends
    exact hdrops.elim (hplaced x e hentry).1 fun hstale =>
      absurd hgen (not_lt.mpr (hstale e hentry))
  | takeOrphanedPopups ownerXid => exact hends.1 hdrops
  | registerToplevel | updateToplevel | setVisibility | commitPlaceholderPaint => exact hends

/-- The call that ends a representation leaves its epoch behind. -/
theorem EndsRepresentation.over (hends : EndsRepresentation xid r op) (hdated : r.Dated)
    (hmove : Move r op effs next) {e : Entry} (hentry : r.entries[xid]? = some e) :
    next.Over xid e.representationEpoch := by
  have hdrawn := (hdated.drawn xid e hentry).2
  have hnot := hends.not_drops hdated.placed
  refine ⟨hdrawn.trans (nextEpoch_move hmove), fun f hfound hepoch => ?_⟩
  have hput : ∀ {g : Entry}, (r.entries.insert xid g)[xid]? = some f → g = f := by
    intro g hg
    rwa [Table.getElem?_insert_eq, if_pos rfl, Option.some.injEq] at hg
  have hgone : ¬ (r.entries.erase xid)[xid]? = some f := by simp
  cases hmove with
  | idle op effs heffs hdrops => exact absurd hdrops hnot
  | bindNew hx hnone =>
    obtain ⟨rfl, -⟩ := hends
    cases hnone.symm.trans hentry
  | bindPromote | bindOver =>
    obtain ⟨rfl, -⟩ := hends
    have hfresh : r.nextEpoch + 1 = f.representationEpoch := by rw [← hput hfound]
    omega
  | unbindKeep =>
    obtain ⟨rfl, -⟩ := hends
    rw [← hput hfound]
  | unbindErase | unregisterPlaceholder =>
    obtain ⟨rfl, -⟩ := hends
    exact absurd hfound hgone
  | unregisterEmpty hx hold hgen hrep | unregisterSurface hx hold hgen hrep =>
    obtain ⟨rfl, g, hg, hplaceholder, -⟩ := hends
    cases hold.symm.trans hg
    exact absurd hplaceholder hrep
  | cascade =>
    obtain ⟨-, g, hg, -, howned⟩ := hends
    rw [Table.getElem?_filter_eq, hg, Option.filter_some, howned] at hfound
    cases hfound
  | registerSurface | registerAgain | registerPlaceholder | registerCreate | update | visibility
  | paint => exact absurd hends id

/-- A window that is only steered keeps its epoch. -/
theorem OnlySteers.epochForXid_eq (hsteers : OnlySteers xid r op) (hmove : Move r op effs next) :
    next.epochForXid xid = r.epochForXid xid := by
  have hother : ∀ {x : Nat} {f : Entry}, x ≠ xid →
      Table.read (r.entries.insert x f) Entry.representationEpoch xid = r.epochForXid xid := by
    intro x f hx
    rw [Table.read_insert, Function.update_of_ne hx.symm]
    rfl
  have hkept : ∀ {x : Nat} {old : Entry} (f : Entry), r.entries[x]? = some old →
      old.representationEpoch = f.representationEpoch →
      (r.put x f).epochForXid xid = r.epochForXid xid := fun f hold hsame =>
    congrFun (Table.read_insert_kept r.entries Entry.representationEpoch hold hsame) xid
  have hgone : ∀ {x : Nat}, x ≠ xid → (r.drop x).epochForXid xid = r.epochForXid xid := by
    intro x hx
    rw [epochForXid, WindowRegistry.drop, Table.read_erase, Function.update_of_ne hx.symm]
    rfl
  cases hmove with
  | idle => rfl
  | bindNew | bindPromote | bindOver | unbindKeep | registerSurface | registerAgain
  | registerPlaceholder | registerCreate | unregisterSurface => exact hother hsteers
  | unbindErase | unregisterPlaceholder | unregisterEmpty => exact hgone hsteers
  | update hx hentry | visibility hx hentry => exact hkept _ hentry rfl
  | paint hentry => exact hkept _ hentry rfl
  | cascade howner =>
    rw [epochForXid, Table.read_filter, if_pos]
    · rfl
    · cases hentry : r.entries[xid]? with
      | none => rfl
      | some e => simp [hsteers howner e hentry]

end VkRelay.Registry.WindowRegistry

namespace VkRelay.Input

open VkRelay.Lib VkRelay.Registry

structure SidecarPollInputResponse where
  ok : Bool := false
  reason : String := ""
  events : List SidecarInputEvent := []
  nextSeq : Nat := 0
  dropped : Bool := false

structure Worker where
  registry : WindowRegistry := {}
  inputQueue : InputQueue := {}

inductive Action where
  | call (op : Op)
  | capture (xid : Nat) (ev : SidecarInputEvent)
  | poll (sinceSeq : Nat)

namespace Worker

/-- Drain the ring, then let through the events whose window still has their epoch. -/
def pollInput (w : Worker) (sinceSeq : Nat) : SidecarPollInputResponse × Worker :=
  let drained := w.inputQueue.drain sinceSeq
  ({ ok := true, reason := "ok"
     events := drained.1.events.filter fun e => w.registry.epochForXid e.xid == e.epoch
     nextSeq := drained.1.nextSeq
     dropped := drained.1.dropped },
    { w with inputQueue := drained.2 })

/-- The window thread stamps an event with the epoch its window has. -/
def capture (w : Worker) (xid : Nat) (ev : SidecarInputEvent) : Worker :=
  { w with inputQueue := w.inputQueue.enqueue xid (w.registry.epochForXid xid) ev }

def captured (w : Worker) (xid : Nat) (ev : SidecarInputEvent) : SidecarInputEvent :=
  w.inputQueue.stamp xid (w.registry.epochForXid xid) ev

def step (w : Worker) : Action → Worker
  | .call op => { w with registry := (w.registry.call op).2 }
  | .capture xid ev => w.capture xid ev
  | .poll sinceSeq => (w.pollInput sinceSeq).2

def after (w : Worker) (actions : List Action) : Worker := actions.foldl step w

theorem after_append_cons (w : Worker) (before rest : List Action) (action : Action) :
    w.after (before ++ action :: rest) = ((w.after before).step action).after rest :=
  List.foldl_append

/-- The window's representation ends at one of the calls. -/
def Ends (xid : Nat) (w : Worker) (actions : List Action) : Prop :=
  ∃ before op rest, actions = before ++ .call op :: rest ∧
    WindowRegistry.EndsRepresentation xid (w.after before).registry op

/-- The window is at most moved, resized, restacked, hidden, shown or painted. -/
def Steers (xid : Nat) (w : Worker) (actions : List Action) : Prop :=
  AlongFold step (fun w action => ∀ op, action = .call op →
    WindowRegistry.OnlySteers xid w.registry op) w actions

variable {w : Worker} {xid epoch : Nat}

theorem mem_pollInput_iff {sinceSeq : Nat} {e : SidecarInputEvent} :
    e ∈ (w.pollInput sinceSeq).1.events ↔
      e ∈ (w.inputQueue.drain sinceSeq).1.events ∧ w.registry.epochForXid e.xid = e.epoch := by
  simp [pollInput]

theorem dated_after (hdated : w.registry.Dated) (actions : List Action) :
    (w.after actions).registry.Dated := by
  induction actions generalizing w with
  | nil => exact hdated
  | cons action actions ih =>
    refine @ih (w.step action) ?_
    cases action with
    | call op => exact hdated.move (w.registry.call_move op)
    | capture | poll => exact hdated

theorem over_after (hdated : w.registry.Dated) (hover : w.registry.Over xid epoch)
    (actions : List Action) : (w.after actions).registry.Over xid epoch := by
  induction actions generalizing w with
  | nil => exact hover
  | cons action actions ih =>
    cases action with
    | call op =>
      have hmove := w.registry.call_move op
      exact @ih (w.step (.call op)) (hdated.move hmove) (hover.move hdated hmove)
    | capture x ev => exact @ih (w.step (.capture x ev)) hdated hover
    | poll sinceSeq => exact @ih (w.step (.poll sinceSeq)) hdated hover

theorem nextEpoch_after (actions : List Action) :
    w.registry.nextEpoch ≤ (w.after actions).registry.nextEpoch := by
  induction actions generalizing w with
  | nil => exact le_rfl
  | cons action actions ih =>
    refine le_trans ?_ (@ih (w.step action))
    cases action with
    | call op => exact WindowRegistry.nextEpoch_move (w.registry.call_move op)
    | capture | poll => exact le_rfl

/-- Once the window's representation has ended, no window has the epoch it had before. -/
theorem Ends.over {actions : List Action} (hends : Ends xid w actions) (hdated : w.registry.Dated)
    (hdrawn : epoch ≤ w.registry.nextEpoch) : (w.after actions).registry.Over xid epoch := by
  obtain ⟨before, op, rest, rfl, hend⟩ := hends
  have hdated' := dated_after hdated before
  have hmove := (w.after before).registry.call_move op
  have hnext : ((w.after before).step (.call op)).registry.Over xid epoch := by
    by_cases hsame : ∃ e, (w.after before).registry.entries[xid]? = some e ∧
        e.representationEpoch = epoch
    · obtain ⟨e, hentry, rfl⟩ := hsame
      exact hend.over hdated' hmove hentry
    · refine WindowRegistry.Over.move ⟨hdrawn.trans (nextEpoch_after before), ?_⟩ hdated' hmove
      exact fun e hentry hepoch => absurd ⟨e, hentry, hepoch⟩ hsame
  rw [after_append_cons]
  exact over_after (hdated'.move hmove) hnext rest

/-- A window that was only steered still has its epoch. -/
theorem Steers.epochForXid_eq {actions : List Action} (hsteers : Steers xid w actions) :
    (w.after actions).registry.epochForXid xid = w.registry.epochForXid xid := by
  induction actions generalizing w with
  | nil => rfl
  | cons action actions ih =>
    obtain ⟨hfirst, hrest⟩ := hsteers
    refine (@ih (w.step action) hrest).trans ?_
    cases action with
    | call op => exact (hfirst op rfl).epochForXid_eq (w.registry.call_move op)
    | capture | poll => rfl

end Worker

/-- An event captured from a representation that has ended is not returned, and one whose
window was only steered is not held back, exactly when no poll drains an event whose window
has lost the surface it came from and got no other representation yet. -/
theorem stale_input_iff (first rest : List Action) (xid sinceSeq : Nat) (ev : SidecarInputEvent)
    (hrep : ∃ e, (Worker.after {} first).registry.entries[xid]? = some e ∧
      e.representation ≠ .none) :
    (Worker.Ends xid ((Worker.after {} first).capture xid ev) rest →
          (Worker.after {} first).captured xid ev ∉
            ((((Worker.after {} first).capture xid ev).after rest).pollInput sinceSeq).1.events) ∧
        (Worker.Steers xid ((Worker.after {} first).capture xid ev) rest →
          (Worker.after {} first).captured xid ev ∈
            ((((Worker.after {} first).capture xid ev).after rest).inputQueue.drain
              sinceSeq).1.events →
          (Worker.after {} first).captured xid ev ∈
            ((((Worker.after {} first).capture xid ev).after rest).pollInput sinceSeq).1.events) ↔
      (Worker.Ends xid ((Worker.after {} first).capture xid ev) rest →
        (Worker.after {} first).captured xid ev ∈
          ((((Worker.after {} first).capture xid ev).after rest).inputQueue.drain
            sinceSeq).1.events →
        ¬ (((Worker.after {} first).capture xid ev).after rest).registry.AwaitsWindow xid
          ((Worker.after {} first).captured xid ev).epoch) := by
  have hempty : ({} : Worker).registry.Dated := ⟨by simp [WindowRegistry.Placed], by simp⟩
  have hdated := Worker.dated_after hempty first
  generalize Worker.after {} first = w at hrep hdated ⊢
  obtain ⟨e, hentry, -⟩ := hrep
  obtain ⟨hpos, hdrawn⟩ := hdated.drawn xid e hentry
  have hepoch : (w.captured xid ev).epoch = e.representationEpoch := Table.read_of_some _ _ hentry
  constructor
  · rintro ⟨hgated, -⟩ hends hdrained ⟨f, hfound, -, hsame⟩
    refine hgated hends (Worker.mem_pollInput_iff.mpr ⟨hdrained, ?_⟩)
    exact (Table.read_of_some _ _ hfound).trans hsame
  · intro hspares
    refine ⟨fun hends hreturned => ?_, fun hsteers hdrained => ?_⟩
    · obtain ⟨hdrained, hpassed⟩ := Worker.mem_pollInput_iff.mp hreturned
      have hover := hends.over hdated hdrawn
      have hne : (((w.capture xid ev).after rest).registry.epochForXid xid) ≠ 0 := by
        refine ne_of_eq_of_ne (hpassed.trans hepoch) (by omega)
      obtain ⟨f, hfound⟩ := Table.exists_of_read_ne_zero _ _ hne
      have hsame : f.representationEpoch = (w.captured xid ev).epoch :=
        (Table.read_of_some _ _ hfound).symm.trans hpassed
      exact hspares hends hdrained ⟨f, hfound, hover.none f hfound (hsame.trans hepoch), hsame⟩
    · exact Worker.mem_pollInput_iff.mpr ⟨hdrained, hsteers.epochForXid_eq⟩

/-- The surface is replaced after a key press; the key press is held back. -/
theorem replaced_surface_input_is_held_back :
    (Worker.after {} [.call (.bindSurface 5 9)]).captured 5 { kind := 4 } ∉
      ((((Worker.after {} [.call (.bindSurface 5 9)]).capture 5 { kind := 4 }).after
        [.call (.bindSurface 5 10)]).pollInput 0).1.events := by
  have hentry : (Worker.after {} [.call (.bindSurface 5 9)]).registry.entries[5]? =
      some { xid := 5, surface := 9, representation := .surface, representationEpoch := 1 } := by
    decide +kernel
  refine ((stale_input_iff [.call (.bindSurface 5 9)] [.call (.bindSurface 5 10)] 5 0 { kind := 4 }
    ⟨_, hentry, by decide⟩).mpr ?_).1 ?_
  · rintro - - ⟨e, hfound, hnone, -⟩
    have hnow : ((((Worker.after {} [.call (.bindSurface 5 9)]).capture 5 { kind := 4 }).after
        [.call (.bindSurface 5 10)]).registry.entries[5]?).map Entry.representation =
        some .surface := by decide +kernel
    rw [hfound, Option.map_some, hnone] at hnow
    cases hnow
  · exact ⟨[], .bindSurface 5 10, [], rfl, rfl, _, hentry, by decide⟩

/-- The surface of a registered window is destroyed after a key press; the next poll still
returns the key press. -/
theorem destroyed_surface_input_is_returned :
    (((Worker.after {} [.call (.registerToplevel 5 1 {}), .call (.bindSurface 5 9),
        .capture 5 { kind := 4 }, .call (.unbindSurface 5 9)]).pollInput 0).1.events.map
          SidecarInputEvent.xid) = [5] := by
  decide +kernel

end VkRelay.Input
