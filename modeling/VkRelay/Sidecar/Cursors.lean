import VkRelay.Lib.Folds
import VkRelay.Sidecar.Turns

/-!
A cursor belongs to the registration of its window. The mock keeps cursors in a store of their
own, and every way a registration ends empties it but one: a popup that goes with its owner and
is no placeholder keeps its cursor, which is then reported for a window that is not registered,
and for the next registration of that window.
-/

namespace VkRelay.Sidecar

open VkRelay.Lib VkRelay.Json VkRelay.Registry VkRelay.Wire

/-- The window was registered, and that registration has not ended. -/
def Began (log : List Event) (xid : Nat) : Prop :=
  ∃ earlier later, log = earlier ++ .registered xid :: later ∧ .ended xid ∉ later

/-- The cursor was accepted in the registration of the window that still lasts. -/
def AcceptedSince (log : List Event) (xid : Nat) (cursor : MockCursor) : Prop :=
  ∃ earlier later, log = earlier ++ .cursorSet xid cursor :: later ∧ .ended xid ∉ later ∧
    Began earlier xid

/-- Every cursor that is reported is of the current registration of its window. -/
def OwnCursors (h : MockHistory) : Prop :=
  ∀ xid cursor, h.state.debugCursorState xid = some cursor →
    MockBackend.toplevelRegistered h.state.registry xid = true ∧ AcceptedSince h.log xid cursor

/-- An unregistration leaves no cursor on a popup that goes with the window and is no
placeholder. -/
def SparesCursors (h : MockHistory) : Op → Prop
  | .unregisterToplevel xid generation =>
    (h.state.registry.unregisterToplevel xid generation).1.applied = true →
    ∀ (popup : Nat) (e : Entry), popup ≠ xid →
      (h.state.registry.unregisterToplevel xid generation).2.entries[popup]? = some e →
      e.ownedBy xid = true → e.representation ≠ .placeholder → h.state.cursors[popup]? = none
  | _ => True

/-! ## The log -/

section Log

variable {log events : List Event} {xid : Nat} {cursor : MockCursor}

theorem mem_about {event : Event} :
    event ∈ about xid log ↔ event ∈ log ∧ event.window = some xid := by
  simp [about]

theorem Began.append (hbegan : Began log xid) (hkept : .ended xid ∉ events) :
    Began (log ++ events) xid := by
  obtain ⟨earlier, later, rfl, hlater⟩ := hbegan
  exact ⟨earlier, later ++ events, by simp, by simp [hlater, hkept]⟩

theorem began_of_mem (hmem : .registered xid ∈ events) (hkept : .ended xid ∉ events) :
    Began (log ++ events) xid := by
  obtain ⟨first, last, rfl⟩ := List.append_of_mem hmem
  refine ⟨log ++ first, last, by simp, ?_⟩
  simp only [List.mem_append, List.mem_cons, not_or] at hkept
  exact hkept.2.2

theorem AcceptedSince.append (haccepted : AcceptedSince log xid cursor)
    (hkept : .ended xid ∉ events) : AcceptedSince (log ++ events) xid cursor := by
  obtain ⟨earlier, later, rfl, hlater, hbegan⟩ := haccepted
  exact ⟨earlier, later ++ events, by simp, by simp [hlater, hkept], hbegan⟩

theorem acceptedSince_of_mem (hbegan : Began log xid) (hmem : .cursorSet xid cursor ∈ events)
    (hkept : .ended xid ∉ events) : AcceptedSince (log ++ events) xid cursor := by
  obtain ⟨first, last, rfl⟩ := List.append_of_mem hmem
  simp only [List.mem_append, List.mem_cons, not_or] at hkept
  exact ⟨log ++ first, last, by simp, hkept.2.2, hbegan.append hkept.1⟩

end Log

/-! ## One request -/

/-- The backend is sound and every registered window is so by the log. -/
structure Listed (h : MockHistory) : Prop where
  sound : h.state.Sound
  began : ∀ xid, MockBackend.toplevelRegistered h.state.registry xid = true → Began h.log xid

theorem Turn.ended_not_mem {xid : Nat} {w next : Window} {log : List Event}
    (hturn : Turn xid w next (about xid log)) (hreg : next.registered = true) :
    .ended xid ∉ log := by
  intro hmem
  have habout : .ended xid ∈ about xid log := mem_about.mpr ⟨hmem, rfl⟩
  generalize about xid log = events at hturn habout
  cases hturn with
  | unregistered _ hgone => rw [hgone] at hreg; cases hreg
  | closed => cases hreg
  | abandoned => cases hreg
  | _ => simp at habout

theorem Turn.began {xid : Nat} {w next : Window} {log events : List Event}
    (hturn : Turn xid w next (about xid events)) (hreg : next.registered = true)
    (hbefore : w.registered = true → Began log xid) : Began (log ++ events) xid := by
  have hkept := hturn.ended_not_mem hreg
  have hsame : next.registered = w.registered → Began (log ++ events) xid :=
    fun h => (hbefore (h ▸ hreg)).append hkept
  have hnew : .registered xid ∈ about xid events → Began (log ++ events) xid :=
    fun h => began_of_mem (mem_about.mp h).1 hkept
  generalize about xid events = seen at hturn hnew
  cases hturn with
  | still => exact hsame rfl
  | tended hentry _ hkeeps => exact hsame (by simpa [Window.registered, hentry] using hkeeps)
  | rehosted _ _ hkeeps => exact hsame hkeeps
  | promoted _ hkeeps => exact hsame hkeeps
  | registered => exact hnew (by simp)
  | opened => exact hnew (by simp)
  | unregistered _ hgone => rw [hgone] at hreg; cases hreg
  | closed => cases hreg
  | abandoned => cases hreg
  | painted hentry => exact hsame (by simp [Window.registered, hentry])
  | cursorSet => exact hsame rfl

theorem Listed.next {h : MockHistory} (hlisted : Listed h) (op : Op) :
    Listed (h.next MockBackend.step op) where
  sound := hlisted.sound.step op
  began := fun xid hreg =>
    (MockBackend.turn_step hlisted.sound op xid).began hreg (hlisted.began xid)

theorem Listed.start : Listed ⟨{}, []⟩ :=
  ⟨.start, by simp [MockBackend.toplevelRegistered]⟩

/-- A cursor there is after a request that does not end its registration. -/
theorem Turn.cursor_kept {xid : Nat} {w next : Window} {log events : List Event}
    (hturn : Turn xid w next (about xid events)) {cursor : MockCursor}
    (hcursor : next.cursor = some cursor) (hkept : .ended xid ∉ events)
    (hbegan : w.registered = true → Began log xid)
    (hbefore : w.cursor = some cursor → w.registered = true ∧ AcceptedSince log xid cursor) :
    next.registered = true ∧ AcceptedSince (log ++ events) xid cursor := by
  have hended : .ended xid ∉ about xid events := fun h => hkept (mem_about.mp h).1
  have hsame : w.cursor = some cursor → (w.registered = true → next.registered = true) →
      next.registered = true ∧ AcceptedSince (log ++ events) xid cursor :=
    fun h hreg => ⟨hreg (hbefore h).1, (hbefore h).2.append hkept⟩
  have hnew : .cursorSet xid cursor ∈ about xid events → w.registered = true →
      AcceptedSince (log ++ events) xid cursor :=
    fun h hreg => acceptedSince_of_mem (hbegan hreg) (mem_about.mp h).1 hkept
  have hsome : ∀ {seen : List Event}, seen ≠ [] → (∀ event ∈ seen, event = .ended xid) →
      .ended xid ∈ seen := by
    intro seen hseen hall
    obtain ⟨event, rest, rfl⟩ := List.exists_cons_of_ne_nil hseen
    rw [hall event List.mem_cons_self]
    exact List.mem_cons_self
  generalize about xid events = seen at hturn hnew hended
  cases hturn with
  | still => exact hsame hcursor id
  | tended hentry _ hkeeps =>
    exact hsame hcursor (by simpa [Window.registered, hentry] using Eq.trans hkeeps)
  | rehosted _ _ hkeeps _ hstore => exact hsame (hstore ▸ hcursor) (Eq.trans hkeeps)
  | promoted _ _ _ hgone | unregistered _ _ _ hgone => rw [hgone] at hcursor; cases hcursor
  | registered _ _ hreg | opened _ _ hreg => exact hsame hcursor fun _ => hreg
  | closed => cases hcursor
  | abandoned _ hseen hall => exact absurd (hsome hseen hall) hended
  | painted hentry => exact hsame hcursor (by simp [Window.registered, hentry])
  | cursorSet _ hreg =>
    cases hcursor
    exact ⟨hreg, hnew (by simp) hreg⟩

/-- One request leaves every reported cursor its own exactly when it leaves none where a
registration ended. -/
theorem OwnCursors.next_iff {h : MockHistory} (hlisted : Listed h) (hown : OwnCursors h)
    (op : Op) :
    OwnCursors (h.next MockBackend.step op) ↔
      ∀ xid, .ended xid ∈ (h.state.step op).2 → (h.state.step op).1.cursors[xid]? = none := by
  constructor
  · intro hnext xid hended
    by_contra hsome
    obtain ⟨cursor, hcursor⟩ := Option.ne_none_iff_exists'.mp hsome
    have hreg := (hnext xid cursor hcursor).1
    exact (MockBackend.turn_step hlisted.sound op xid).ended_not_mem hreg hended
  · intro hnone xid cursor hcursor
    have hturn := MockBackend.turn_step hlisted.sound op xid
    refine hturn.cursor_kept hcursor (fun hended => ?_) (hlisted.began xid) (hown xid cursor)
    have hgone : (h.state.step op).1.cursors[xid]? = some cursor := hcursor
    rw [hnone xid hended] at hgone
    cases hgone

/-! ## Unregistrations -/

theorem MockBackend.cursors_cascade {m : MockBackend} (hsound : m.registry.Sound)
    {ownerXid xid : Nat} {e : Entry} (horphan : Orphan m.registry ownerXid xid e) :
    (m.cascade ownerXid).1.cursors[xid]? =
      if e.representation = .placeholder then none else m.cursors[xid]? := by
  have hsome := (mem_about_cascade hsound).mpr ⟨rfl, e, horphan⟩
  have hwindow := window_of_entry horphan.2.1
  have hcursor : ∀ {w : Window}, (m.cascade ownerXid).1.window xid = w →
      (m.cascade ownerXid).1.cursors[xid]? = w.cursor := fun h => congrArg Window.cursor h
  rcases cascade_cases hsound ownerXid xid with ⟨-, hnone⟩ | ⟨-, ⟨hwas, hlast⟩ | ⟨hwas, hlast⟩⟩
  · rw [hnone] at hsome
    cases hsome
  · rw [hwindow, Window.placeholder_some] at hwas
    rw [hcursor hlast, if_pos hwas]
  · rw [hwindow, Window.placeholder_some] at hwas
    rw [hcursor hlast, if_neg hwas]
    rfl

theorem MockBackend.cursors_unregistered {m : MockBackend} (hsound : m.registry.Sound)
    {key generation : Nat}
    (happlied : (m.registry.unregisterToplevel key generation).1.applied = true) :
    ((m.unlisted key generation).cascade key).1.cursors[key]? = none := by
  obtain ⟨hnow, -, -, hcursor⟩ := window_unlisted_self happlied
  have hmid := sound_unlisted hsound key generation
  rcases cascade_cases hmid key key with ⟨hlast, -⟩ | ⟨-, ⟨hwas, -⟩ | ⟨-, hlast⟩⟩
  · exact (congrArg Window.cursor hlast).trans hcursor
  · exact absurd hwas hnow
  · exact (congrArg Window.cursor hlast).trans hcursor

/-- Only an unregistration that is applied ends registrations. -/
theorem mem_step_ended {m : MockBackend} {op : Op} {xid : Nat}
    (hmem : .ended xid ∈ (m.step op).2) :
    ∃ key generation, op = .unregisterToplevel key generation ∧
      (m.registry.unregisterToplevel key generation).1.applied = true := by
  cases op with
  | unregisterToplevel key generation =>
    refine ⟨key, generation, rfl, ?_⟩
    by_contra happlied
    simp [MockBackend.step, MockBackend.unregisterToplevel, happlied] at hmem
  | createSwapchain admitted surface width height =>
    simp only [MockBackend.step, MockBackend.createSwapchain] at hmem
    split at hmem
    · cases hmem
    · split_ifs at hmem <;> simp at hmem
  | acquireNextImage handle =>
    simp only [MockBackend.step, MockBackend.acquireNextImage] at hmem
    split at hmem
    · cases hmem
    · split at hmem <;> simp at hmem
  | queuePresent admitted targets =>
    simp only [MockBackend.step, MockBackend.queuePresent] at hmem
    split_ifs at hmem <;> simp at hmem
  | registerToplevel key generation top =>
    simp only [MockBackend.step, MockBackend.registerToplevel] at hmem
    split_ifs at hmem <;> simp at hmem
  | paintChrome body =>
    simp only [MockBackend.step, MockBackend.paintChrome] at hmem
    split at hmem
    · cases hmem
    · split at hmem <;> simp at hmem
  | setCursor body =>
    simp only [MockBackend.step, MockBackend.setCursor] at hmem
    split at hmem
    · cases hmem
    · split at hmem <;> simp at hmem
  | _ => cases hmem

theorem ne_zero_of_applied {r : WindowRegistry} {key generation : Nat}
    (happlied : (r.unregisterToplevel key generation).1.applied = true) : key ≠ 0 := by
  rintro rfl
  simp [WindowRegistry.unregisterToplevel, WindowRegistry.ifNewer] at happlied

theorem sparesCursors_iff {h : MockHistory} (hlisted : Listed h) (op : Op) :
    (∀ xid, .ended xid ∈ (h.state.step op).2 → (h.state.step op).1.cursors[xid]? = none) ↔
      SparesCursors h op := by
  have hstep : ∀ {key generation : Nat},
      (h.state.registry.unregisterToplevel key generation).1.applied = true →
      h.state.step (.unregisterToplevel key generation) =
        (((h.state.unlisted key generation).cascade key).1,
          .ended key :: ((h.state.unlisted key generation).cascade key).2) :=
    fun happlied => MockBackend.unregisterToplevel_applied happlied
  have hmid := fun key generation =>
    MockBackend.sound_unlisted hlisted.sound.registry key generation
  have hcursors : ∀ {key generation xid : Nat}, xid ≠ key →
      (h.state.unlisted key generation).cursors[xid]? = h.state.cursors[xid]? :=
    fun hxid => congrArg Window.cursor (MockBackend.window_unlisted_other hxid)
  constructor
  · intro hnone
    cases op with
    | unregisterToplevel key generation =>
      intro happlied popup e hpopup hentry howned hrep
      have horphan : MockBackend.Orphan (h.state.unlisted key generation).registry key popup e := by
        rw [MockBackend.registry_unlisted]
        exact ⟨ne_zero_of_applied happlied, hentry, howned⟩
      have hended := (MockBackend.mem_about_cascade (hmid key generation)).mpr ⟨rfl, e, horphan⟩
      have hgone := hnone popup
      rw [hstep happlied] at hgone
      have hafter := hgone (List.mem_cons_of_mem _ (mem_about.mp hended).1)
      rwa [MockBackend.cursors_cascade (hmid key generation) horphan, if_neg hrep,
        hcursors hpopup] at hafter
    | _ => trivial
  · intro hspares xid hended
    obtain ⟨key, generation, rfl, happlied⟩ := mem_step_ended hended
    rw [hstep happlied] at hended ⊢
    by_cases hxid : xid = key
    · subst hxid
      exact MockBackend.cursors_unregistered hlisted.sound.registry happlied
    · have hcascade : .ended xid ∈ ((h.state.unlisted key generation).cascade key).2 := by
        simpa [hxid] using hended
      obtain ⟨-, e, horphan⟩ := (MockBackend.mem_about_cascade (hmid key generation)).mp
        (mem_about.mpr ⟨hcascade, rfl⟩)
      rw [MockBackend.cursors_cascade (hmid key generation) horphan]
      split
      · rfl
      · rename_i hrep
        rw [hcursors hxid]
        rw [MockBackend.registry_unlisted] at horphan
        exact hspares happlied xid e hxid horphan.2.1 horphan.2.2 hrep

/-! ## Runs -/

/-- In a run of both planes every cursor reported is of a registered window and was accepted in
its current registration, in every state, exactly when no unregistration takes along a popup
that has a cursor and is no placeholder. -/
theorem cursors_keep_to_registration_iff (ops : List Op) :
    (∀ before after, ops = before ++ after → ∀ xid cursor,
        (historyOf before).state.debugCursorState xid = some cursor →
        MockBackend.toplevelRegistered (historyOf before).state.registry xid = true ∧
          AcceptedSince (historyOf before).log xid cursor) ↔
      AlongFold (History.next MockBackend.step) SparesCursors ⟨{}, []⟩ ops := by
  have hstart : Listed ⟨{}, []⟩ ∧ OwnCursors ⟨{}, []⟩ :=
    ⟨.start, by simp [OwnCursors, MockBackend.debugCursorState]⟩
  have hstep : ∀ (h : MockHistory) (op : Op), Listed h ∧ OwnCursors h →
      (Listed (h.next MockBackend.step op) ∧ OwnCursors (h.next MockBackend.step op) ↔
        SparesCursors h op) := by
    rintro h op ⟨hlisted, hown⟩
    rw [← sparesCursors_iff hlisted op, ← hown.next_iff hlisted op]
    exact and_iff_right (hlisted.next op)
  rw [← invariant_along_iff hstep hstart ops]
  refine forall₃_congr fun before after hsplit => ?_
  exact (and_iff_right (History.invariant MockBackend.step (fun _ op hlisted => hlisted.next op)
    .start before)).symm

/-- The body of a one-pixel cursor for window 6 in its third epoch. -/
def cursorBody : Bytes :=
  let header := ascii ("\x7b\"xid\":\"6\",\"epoch\":\"3\",\"width\":\"1\",\"height\":\"1\"," ++
    "\"format\":1,\"payload_size\":\"4\"\x7d")
  storeLe32 header.length ++ header ++ [0, 0, 0, 0]

/-- A popup gets a surface and a cursor and its owner is unregistered: the popup is gone from
the registry, and its cursor is still reported. -/
theorem popup_cursor_outlives_owner :
    ∃ ops, (historyOf ops).state.debugCursorState 6 =
        some { w := 1, h := 1, bgra := [0, 0, 0, 0] } ∧
      MockBackend.toplevelRegistered (historyOf ops).state.registry 6 = false :=
  ⟨[.registerToplevel 5 1 {}, .registerToplevel 6 1 { isPopup := true, ownerXid := 5 },
    .createSurface true 6, .setCursor cursorBody, .unregisterToplevel 5 2], by decide +kernel⟩

end VkRelay.Sidecar
