import VkRelay.Registry.Invariant
import VkRelay.Sidecar.Mock

/-!
What one request does to one window. A window is its registry entry, its chrome and its cursor;
a request leaves it as it was or takes it through one of a few turns, and the log tells which.
The effects of the registry reach the stores of the window they name and no others.
-/

namespace VkRelay.Sidecar

open VkRelay.Lib VkRelay.Json VkRelay.Registry

/-! ## Windows -/

structure Window where
  entry : Option Entry
  chrome : Option MockChrome
  cursor : Option MockCursor

namespace Window

def Placeholder (w : Window) : Prop := ∃ e, w.entry = some e ∧ e.representation = .placeholder

def registered (w : Window) : Bool := w.entry.any (·.toplevelRegistered)

variable {e : Entry} {chrome : Option MockChrome} {cursor : Option MockCursor}

@[simp] theorem placeholder_some :
    Placeholder ⟨some e, chrome, cursor⟩ ↔ e.representation = .placeholder := by
  simp [Placeholder]

@[simp] theorem not_placeholder_none : ¬ Placeholder ⟨none, chrome, cursor⟩ := by
  simp [Placeholder]

@[simp] theorem registered_some : registered ⟨some e, chrome, cursor⟩ = e.toplevelRegistered := rfl

@[simp] theorem registered_none : registered ⟨none, chrome, cursor⟩ = false := rfl

end Window

def MockBackend.window (m : MockBackend) (xid : Nat) : Window :=
  ⟨m.registry.entries[xid]?, m.chrome[xid]?, m.cursors[xid]?⟩

def Event.window : Event → Option Nat
  | .registered xid | .opened xid | .ended xid | .cursorSet xid _ => some xid
  | .painted req => some req.xid
  | .swapchainCreated _ _ | .flowed _ => none

def about (xid : Nat) (log : List Event) : List Event :=
  log.filter fun event => event.window = some xid

/-- What a request can do to a window, and what the log says of it. -/
inductive Turn (xid : Nat) (w : Window) : Window → List Event → Prop
  | still : Turn xid w w []
  /-- An update of the entry that is no registration. -/
  | tended {e e' : Entry} (hentry : w.entry = some e)
      (hrep : e'.representation = e.representation)
      (hreg : e'.toplevelRegistered = e.toplevelRegistered)
      (hseq : e'.lastPaintSeq = e.lastPaintSeq) : Turn xid w { w with entry := some e' } []
  /-- A surface came or went. -/
  | rehosted {next : Window} (hwas : ¬ w.Placeholder) (hnow : ¬ next.Placeholder)
      (hreg : next.registered = w.registered) (hchrome : next.chrome = w.chrome)
      (hcursor : next.cursor = w.cursor) : Turn xid w next []
  /-- A surface took the place of the placeholder. -/
  | promoted {next : Window} (hnow : ¬ next.Placeholder)
      (hreg : next.registered = w.registered) (hchrome : next.chrome = none)
      (hcursor : next.cursor = none) : Turn xid w next []
  | registered {e e' : Entry} (hentry : w.entry = some e)
      (hrep : e'.representation = e.representation) (hreg : e'.toplevelRegistered = true)
      (hseq : e'.lastPaintSeq = e.lastPaintSeq) :
      Turn xid w { w with entry := some e' } [.registered xid]
  | opened {e : Entry} (hwas : ¬ w.Placeholder) (hrep : e.representation = .placeholder)
      (hreg : e.toplevelRegistered = true) (hseq : e.lastPaintSeq = 0) :
      Turn xid w { w with entry := some e } [.opened xid, .registered xid]
  | unregistered {next : Window} {events : List Event} (hnow : ¬ next.Placeholder)
      (hreg : next.registered = false)
      (hchrome : next.chrome = none ∨ ¬ w.Placeholder ∧ next.chrome = w.chrome)
      (hcursor : next.cursor = none) (hsome : events ≠ [])
      (hevents : ∀ event ∈ events, event = .ended xid) : Turn xid w next events
  /-- The window went with its owner and was a placeholder. -/
  | closed {events : List Event} (hwas : w.Placeholder) (hsome : events ≠ [])
      (hevents : ∀ event ∈ events, event = .ended xid) : Turn xid w ⟨none, none, none⟩ events
  /-- The window went with its owner and was none: its stores stay. -/
  | abandoned {events : List Event} (hwas : ¬ w.Placeholder) (hsome : events ≠ [])
      (hevents : ∀ event ∈ events, event = .ended xid) :
      Turn xid w { w with entry := none } events
  | painted {e : Entry} {req : SidecarPaintChromeRequest} (hentry : w.entry = some e)
      (hrep : e.representation = .placeholder) (hxid : req.xid = xid)
      (hgeneration : req.lifecycleGeneration = e.generation) (hseq : e.lastPaintSeq < req.seq)
      (hwf : req.WellFormed) :
      Turn xid w
        { w with
          entry := some { e with shown := true, lastPaintSeq := req.seq }
          chrome := some ((w.chrome.getD {}).paint req) } [.painted req]
  | cursorSet (cursor : MockCursor) (hreg : w.registered = true) :
      Turn xid w { w with cursor := some cursor } [.cursorSet xid cursor]

/-! ## Effects -/

def closes (eff : RegistryEffect) : Bool :=
  decide (eff.kind = .destroyPlaceholder ∨ eff.kind = .promotePlaceholderToSurface)

namespace MockBackend

variable {m : MockBackend} {eff : RegistryEffect} {xid : Nat}

theorem recordGeometry_frame (m : MockBackend) (eff : RegistryEffect) :
    ∃ geometry, m.recordGeometry eff = { m with geometry } := by
  rw [recordGeometry]
  split
  · exact ⟨_, rfl⟩
  · exact ⟨m.geometry, rfl⟩

theorem markDirty_frame (m : MockBackend) (eff : RegistryEffect) :
    ∃ surfaces, m.markDirty eff = { m with surfaces } ∧
      ∀ handle : Nat, surfaces[handle]?.isSome = m.surfaces[handle]?.isSome := by
  rw [markDirty]
  split
  · exact ⟨_, rfl, fun handle => Table.isSome_modify _ _ handle _⟩
  · exact ⟨m.surfaces, rfl, fun _ => rfl⟩

theorem applyKind_frame (m : MockBackend) (eff : RegistryEffect) :
    ∃ placeholders geometry, m.applyKind eff = { m with
      placeholders, geometry
      chrome := if closes eff then m.chrome.erase eff.xid else m.chrome
      cursors := if closes eff then m.cursors.erase eff.xid else m.cursors } := by
  rw [applyKind, closes]
  cases eff.kind <;> exact ⟨_, _, rfl⟩

/-- An effect leaves the registry alone, and only one that closes a placeholder reaches the
chrome and the cursor of its window. -/
theorem applyMockEffect_frame (m : MockBackend) (eff : RegistryEffect) :
    ∃ placeholders geometry surfaces, m.applyMockEffect eff = { m with
        placeholders, geometry, surfaces
        chrome := if closes eff then m.chrome.erase eff.xid else m.chrome
        cursors := if closes eff then m.cursors.erase eff.xid else m.cursors } ∧
      ∀ handle : Nat, surfaces[handle]?.isSome = m.surfaces[handle]?.isSome := by
  obtain ⟨placeholders, geometry, hkind⟩ := m.applyKind_frame eff
  obtain ⟨recorded, hrecord⟩ := (m.applyKind eff).recordGeometry_frame eff
  obtain ⟨surfaces, hmark, hsome⟩ := ((m.applyKind eff).recordGeometry eff).markDirty_frame eff
  refine ⟨placeholders, recorded, surfaces, ?_, ?_⟩
  · rw [applyMockEffect, hmark, hrecord, hkind]
  · intro handle
    rw [hsome, hrecord, hkind]

/-- What an effect leaves of the chrome or the cursor of a window. -/
def left {α : Type} (eff : RegistryEffect) (xid : Nat) (store : Option α) : Option α :=
  if closes eff = true ∧ eff.xid = xid then none else store

variable {α : Type} {store : Option α}

theorem getElem?_closed (store : Table α) (eff : RegistryEffect) (xid : Nat) :
    (if closes eff then store.erase eff.xid else store)[xid]? = left eff xid store[xid]? := by
  rw [left]
  by_cases hcloses : closes eff = true
  · simp [hcloses]
  · simp [hcloses]

theorem window_applyMockEffect (m : MockBackend) (eff : RegistryEffect) (xid : Nat) :
    (m.applyMockEffect eff).window xid =
      ⟨m.registry.entries[xid]?, left eff xid m.chrome[xid]?, left eff xid m.cursors[xid]?⟩ := by
  obtain ⟨placeholders, geometry, surfaces, heq, -⟩ := m.applyMockEffect_frame eff
  rw [heq, window]
  dsimp only
  rw [getElem?_closed, getElem?_closed]

theorem window_follow (m : MockBackend) (result : RegistryEffect × WindowRegistry) (xid : Nat) :
    (m.follow result).window xid = ⟨result.2.entries[xid]?, left result.1 xid m.chrome[xid]?,
        left result.1 xid m.cursors[xid]?⟩ :=
  window_applyMockEffect _ _ _

theorem left_of_other (hother : closes eff = true → eff.xid ≠ xid) :
    left eff xid store = store := by
  rw [left, if_neg]
  rintro ⟨hcloses, hxid⟩
  exact hother hcloses hxid

theorem left_of_kind
    (hkind : eff.kind ≠ .destroyPlaceholder ∧ eff.kind ≠ .promotePlaceholderToSurface) :
    left eff xid store = store :=
  left_of_other fun hcloses => absurd hcloses (by simpa [closes] using hkind)

theorem left_of_closes (hcloses : closes eff = true) (hxid : eff.xid = xid) :
    left eff xid store = none :=
  if_pos ⟨hcloses, hxid⟩

end MockBackend

/-! ## Calls of the registry -/

/-- The window a call of the registry names; a cascade names none. -/
def callXid : Registry.Op → Option Nat
  | .bindSurface xid _ | .unbindSurface xid _ | .registerToplevel xid _ _
  | .updateToplevel xid _ _ _ _ | .setVisibility xid _ _ | .unregisterToplevel xid _
  | .commitPlaceholderPaint xid _ _ => some xid
  | .takeOrphanedPopups _ => none

section Calls

variable {r next : WindowRegistry} {op : Registry.Op} {effs : List RegistryEffect} {key other : Nat}

theorem entries_of_other (hmove : Move r op effs next) (hop : callXid op = some key)
    (hother : other ≠ key) : next.entries[other]? = r.entries[other]? := by
  have hput : ∀ e : Entry, (r.entries.insert key e)[other]? = r.entries[other]? := fun e => by
    rw [Table.getElem?_insert_eq, if_neg (Ne.symm hother)]
  have hdrop : (r.entries.erase key)[other]? = r.entries[other]? := by
    rw [Table.getElem?_erase_eq, if_neg (Ne.symm hother)]
  cases hmove with
  | idle => rfl
  | unbindErase | unregisterPlaceholder | unregisterEmpty => cases hop; exact hdrop
  | cascade => cases hop
  | _ => cases hop; exact hput _

theorem closes_idle {eff : RegistryEffect} (heffs : ∀ e ∈ [eff], e = {}) : closes eff = false := by
  rw [heffs eff (by simp)]
  rfl

/-- A call closes no window but its own. -/
theorem xid_of_closes {eff : RegistryEffect} (hmove : Move r op [eff] next)
    (hop : callXid op = some key) (hcloses : closes eff = true) : eff.xid = key := by
  cases hmove with
  | idle _ _ heffs => simp [closes_idle heffs] at hcloses
  | bindPromote _ _ _ _ _ _ _ _ heff =>
    cases hop
    exact heff
  | unregisterPlaceholder =>
    cases hop
    rfl
  | cascade => cases hop
  | bindNew | unbindKeep | unbindErase | unregisterEmpty | unregisterSurface => cases hcloses
  | update _ _ _ _ _ _ _ hkind | visibility _ _ _ _ _ _ _ hkind =>
    rw [closes, hkind] at hcloses
    split at hcloses <;> cases hcloses
  | _ => simp_all [closes]

end Calls

namespace MockBackend

variable {m : MockBackend}

variable {op : Registry.Op} {eff : RegistryEffect}

variable {next : WindowRegistry} {r : WindowRegistry}

/-- Every window but that of the call is left as it was. -/
theorem window_follow_other {key xid : Nat} (hmove : Move m.registry op [eff] next)
    (hop : callXid op = some key) (hxid : xid ≠ key) :
    (m.follow (eff, next)).window xid = m.window xid := by
  have hother : closes eff = true → eff.xid ≠ xid :=
    fun h => (xid_of_closes hmove hop h).trans_ne (Ne.symm hxid)
  rw [window_follow, entries_of_other hmove hop hxid, left_of_other hother, left_of_other hother]
  rfl

theorem window_of_entry {key : Nat} {entry : Option Entry}
    (hentry : m.registry.entries[key]? = entry) :
    m.window key = ⟨entry, m.chrome[key]?, m.cursors[key]?⟩ := by
  rw [window, hentry]

/-- What the backend logs of a call that it follows. -/
def told (key : Nat) (eff : RegistryEffect) : Registry.Op → List Event
  | .registerToplevel _ _ _ =>
    (if eff.kind = .createPlaceholder then [.opened key] else []) ++
      if eff.applied then [.registered key] else []
  | _ => []

variable {key : Nat}

theorem told_idle : told key {} op = [] := by cases op <;> rfl

theorem about_told (xid : Nat) :
    about xid (told key eff op) = if xid = key then told key eff op else [] := by
  have hwindow : ∀ event ∈ told key eff op, event.window = some key := by
    cases op with
    | registerToplevel => simp [told, or_imp, forall_and, Event.window]
    | _ => simp [told]
  split
  · next hxid => exact List.filter_eq_self.mpr fun event hmem => by simp [hwindow event hmem, hxid]
  · next hxid =>
    exact List.filter_eq_nil_iff.mpr fun event hmem => by simp [hwindow event hmem, Ne.symm hxid]

theorem turn_put {w : Window} {events : List Event} {entries : Table Entry} {e : Entry}
    {chrome : Option MockChrome} {cursor : Option MockCursor}
    (hturn : Turn key w ⟨some e, chrome, cursor⟩ events) :
    Turn key w ⟨(entries.insert key e)[key]?, chrome, cursor⟩ events := by
  rwa [Std.ExtTreeMap.getElem?_insert_self]

/-- A call that is no unregistration is a turn of its own window. -/
theorem turn_key (hsound : m.registry.Sound) (hmove : Move m.registry op [eff] next)
    (hop : op.Handled) (hkey : callXid op = some key)
    (hkept : ∀ generation, op ≠ .unregisterToplevel key generation) :
    Turn key (m.window key)
      ⟨next.entries[key]?, left eff key m.chrome[key]?, left eff key m.cursors[key]?⟩
      (told key eff op) := by
  have hopen {entry : Option Entry} {events : List Event} (hopen : closes eff = false)
      (hturn : Turn key (m.window key) ⟨entry, m.chrome[key]?, m.cursors[key]?⟩ events) :
      Turn key (m.window key)
        ⟨entry, left eff key m.chrome[key]?, left eff key m.cursors[key]?⟩ events := by
    rwa [left_of_other (by simp [hopen]), left_of_other (by simp [hopen])]
  have hhosted : ∀ {e : Entry}, m.registry.entries[key]? = some e → e.surface ≠ 0 →
      e.representation = .surface :=
    fun hentry hsurface => (hsound.entry key _ hentry).surface_iff.mpr hsurface
  -- Only a promotion closes the placeholder; every other move leaves its buffers as they are.
  cases hmove with
  | idle _ _ heffs =>
    refine hopen (closes_idle heffs) ?_
    rw [heffs eff (by simp), told_idle]
    exact .still
  | cascade => cases hkey
  | unregisterPlaceholder | unregisterEmpty | unregisterSurface =>
    cases hkey
    exact absurd rfl (hkept _)
  | bindNew hxid hentry =>
    cases hkey
    refine hopen rfl (turn_put ?_)
    rw [window_of_entry hentry]
    exact .rehosted (by simp) (by simp) (by simp) rfl rfl
  | bindPromote hxid hentry hrep eff seq happlied hkind hid heff =>
    cases hkey
    have hall : closes eff = true := by simp [closes, hkind]
    rw [left_of_closes hall heff, left_of_closes hall heff, window_of_entry hentry]
    exact turn_put (.promoted (by simp) (by simp) rfl rfl)
  | bindOver hxid hentry hrep eff seq happlied hkind =>
    cases hkey
    refine hopen (by simp [closes, hkind]) (turn_put ?_)
    rw [window_of_entry hentry]
    exact .rehosted (by simpa using hrep) (by simp) (by simp) rfl rfl
  | unbindKeep hxid hentry hreg =>
    cases hkey
    refine hopen rfl (turn_put ?_)
    rw [window_of_entry hentry]
    exact .rehosted (by simp [hhosted hentry hop]) (by simp) (by simp) rfl rfl
  | unbindErase hxid hentry hreg =>
    cases hkey
    refine hopen rfl ?_
    change Turn _ _ ⟨(m.registry.entries.erase key)[key]?, _, _⟩ _
    rw [Std.ExtTreeMap.getElem?_erase_self, window_of_entry hentry]
    exact .rehosted (by simp [hhosted hentry hop]) (by simp) (by simp [hreg]) rfl rfl
  | registerSurface hxid hentry _ _ hsurface _ seq happlied hkind
  | registerAgain hxid hentry _ _ hsurface _ _ seq happlied hkind =>
    cases hkey
    refine hopen (by simp [closes, hkind]) (turn_put ?_)
    rw [told, hkind, happlied]
    exact .registered hentry (hhosted hentry hsurface).symm rfl rfl
  | registerPlaceholder hxid hentry _ _ hsurface hrep _ seq happlied hkind =>
    cases hkey
    refine hopen (by simp [closes, hkind]) (turn_put ?_)
    rw [told, hkind, happlied]
    exact .registered hentry rfl rfl rfl
  | registerCreate hxid hentry _ _ hsurface hrep _ seq happlied hkind =>
    cases hkey
    refine hopen (by simp [closes, hkind]) (turn_put ?_)
    rw [told, hkind, happlied]
    refine .opened ?_ rfl rfl rfl
    rintro ⟨e, he, hplaceholder⟩
    change m.registry.entries[key]? = some e at he
    rw [he] at hentry
    exact hrep (hentry ▸ hplaceholder)
  | update hxid hentry _ _ _ _ _ hkind | visibility hxid hentry _ _ _ _ _ hkind =>
    cases hkey
    refine hopen ?_ (turn_put (.tended hentry rfl rfl rfl))
    rw [closes, hkind]
    split <;> rfl

/-- Such a call is a turn of every window. -/
theorem turn_follow (hsound : m.registry.Sound) (hmove : Move m.registry op [eff] next)
    (hop : op.Handled) (hkey : callXid op = some key)
    (hkept : ∀ generation, op ≠ .unregisterToplevel key generation) (xid : Nat) :
    Turn xid (m.window xid) ((m.follow (eff, next)).window xid) (about xid (told key eff op)) := by
  rw [about_told]
  split
  · next hxid =>
    rw [hxid, window_follow]
    exact turn_key hsound hmove hop hkey hkept
  · next hxid =>
    rw [window_follow_other hmove hkey hxid]
    exact .still

/-! ## Cascades -/

theorem window_foldl_applyMockEffect (effs : List RegistryEffect) (m : MockBackend) (xid : Nat) :
    (effs.foldl applyMockEffect m).window xid = if ∃ eff ∈ effs, closes eff = true ∧ eff.xid = xid
      then ⟨m.registry.entries[xid]?, none, none⟩ else m.window xid := by
  induction effs generalizing m with
  | nil => simp
  | cons eff effs ih =>
    have hwindow := m.window_applyMockEffect eff xid
    rw [List.foldl_cons, ih]
    have hentry : (m.applyMockEffect eff).registry.entries[xid]? = m.registry.entries[xid]? :=
      congrArg Window.entry hwindow
    by_cases hlater : ∃ eff ∈ effs, closes eff = true ∧ eff.xid = xid
    · rw [if_pos hlater, hentry, if_pos]
      obtain ⟨later, hmem, hcloses⟩ := hlater
      exact ⟨later, List.mem_cons_of_mem eff hmem, hcloses⟩
    · rw [if_neg hlater, hwindow]
      by_cases hfirst : closes eff = true ∧ eff.xid = xid
      · rw [if_pos ⟨eff, List.mem_cons_self, hfirst⟩, left, left, if_pos hfirst, if_pos hfirst]
      · rw [left, left, if_neg hfirst, if_neg hfirst, if_neg]
        · rfl
        · rintro ⟨other, hmem, hcloses⟩
          rcases List.mem_cons.mp hmem with rfl | hmem
          · exact hfirst hcloses
          · exact hlater ⟨other, hmem, hcloses⟩

def Orphan (r : WindowRegistry) (ownerXid xid : Nat) (e : Entry) : Prop :=
  ownerXid ≠ 0 ∧ r.entries[xid]? = some e ∧ e.ownedBy ownerXid = true

theorem mem_takeOrphanedPopups {ownerXid : Nat} {eff : RegistryEffect} :
    eff ∈ (r.takeOrphanedPopups ownerXid).1 ↔
      ∃ xid e, Orphan r ownerXid xid e ∧ eff = e.orphanEffect ownerXid := by
  rw [WindowRegistry.takeOrphanedPopups]
  split
  · rename_i hzero
    simp [Orphan, hzero]
  · rename_i howner
    simp only [List.mem_map, List.mem_filter, Prod.exists, Orphan, Table.mem_toList_iff]
    constructor
    · rintro ⟨xid, e, ⟨hentry, howned⟩, rfl⟩
      exact ⟨xid, e, ⟨howner, hentry, howned⟩, rfl⟩
    · rintro ⟨xid, e, ⟨-, hentry, howned⟩, rfl⟩
      exact ⟨xid, e, ⟨hentry, howned⟩, rfl⟩

theorem xid_orphanEffect (e : Entry) (ownerXid : Nat) : (e.orphanEffect ownerXid).xid = e.xid := by
  rw [Entry.orphanEffect]
  split <;> rfl

theorem closes_orphanEffect (e : Entry) (ownerXid : Nat) :
    closes (e.orphanEffect ownerXid) = true ↔ e.representation = .placeholder := by
  rw [Entry.orphanEffect]
  split
  · rename_i hrep
    simp [closes, hrep]
  · rename_i hrep
    simp [closes, hrep]

theorem mem_about_cascade (hsound : m.registry.Sound) {ownerXid xid : Nat} {event : Event} :
    event ∈ about xid (m.cascade ownerXid).2 ↔
      event = .ended xid ∧ ∃ e, Orphan m.registry ownerXid xid e := by
  simp only [about, cascade, List.mem_filter, List.mem_map, mem_takeOrphanedPopups,
    decide_eq_true_eq]
  constructor
  · rintro ⟨⟨eff, ⟨key, e, horphan, rfl⟩, rfl⟩, hxid⟩
    have hkey : e.xid = key := (hsound.entry key e horphan.2.1).keyed
    rw [xid_orphanEffect, hkey] at hxid ⊢
    obtain rfl : key = xid := by simpa [Event.window] using hxid
    exact ⟨rfl, e, horphan⟩
  · rintro ⟨rfl, e, horphan⟩
    have hkey : e.xid = xid := (hsound.entry xid e horphan.2.1).keyed
    exact ⟨⟨_, ⟨xid, e, horphan, rfl⟩, by rw [xid_orphanEffect, hkey]⟩, rfl⟩

theorem entries_takeOrphanedPopups (r : WindowRegistry) (ownerXid xid : Nat) :
    (r.takeOrphanedPopups ownerXid).2.entries[xid]? =
      (r.entries[xid]?).filter fun e => ownerXid = 0 || !e.ownedBy ownerXid := by
  rw [WindowRegistry.takeOrphanedPopups]
  split
  · rename_i hzero
    cases r.entries[xid]? with
    | none => rfl
    | some e => simp [hzero, Option.filter_some]
  · rename_i howner
    simp [howner]

/-- An effect of the cascade closes the window if it is a placeholder that goes. -/
theorem closes_cascade (hsound : m.registry.Sound) (ownerXid xid : Nat) :
    (∃ eff ∈ (m.registry.takeOrphanedPopups ownerXid).1, closes eff = true ∧ eff.xid = xid) ↔
      ∃ e, Orphan m.registry ownerXid xid e ∧ e.representation = .placeholder := by
  constructor
  · rintro ⟨eff, hmem, hcloses, hxid⟩
    obtain ⟨key, e, horphan, rfl⟩ := mem_takeOrphanedPopups.mp hmem
    rw [xid_orphanEffect, (hsound.entry key e horphan.2.1).keyed] at hxid
    exact ⟨e, hxid ▸ horphan, (closes_orphanEffect e ownerXid).mp hcloses⟩
  · rintro ⟨e, horphan, hrep⟩
    refine ⟨_, mem_takeOrphanedPopups.mpr ⟨xid, e, horphan, rfl⟩,
      (closes_orphanEffect e ownerXid).mpr hrep, ?_⟩
    rw [xid_orphanEffect, (hsound.entry xid e horphan.2.1).keyed]

theorem window_cascade (m : MockBackend) (ownerXid xid : Nat) : (m.cascade ownerXid).1.window xid =
      if ∃ eff ∈ (m.registry.takeOrphanedPopups ownerXid).1, closes eff = true ∧ eff.xid = xid
      then ⟨(m.registry.takeOrphanedPopups ownerXid).2.entries[xid]?, none, none⟩
      else { m.window xid with
        entry := (m.registry.takeOrphanedPopups ownerXid).2.entries[xid]? } :=
  window_foldl_applyMockEffect _ _ _

/-- A cascade passes a window by, closes its placeholder, or drops its entry alone. -/
theorem cascade_cases (hsound : m.registry.Sound) (ownerXid xid : Nat) :
    ((m.cascade ownerXid).1.window xid = m.window xid ∧ about xid (m.cascade ownerXid).2 = []) ∨
      (about xid (m.cascade ownerXid).2 ≠ [] ∧
        ((m.window xid).Placeholder ∧ (m.cascade ownerXid).1.window xid = ⟨none, none, none⟩ ∨
          ¬ (m.window xid).Placeholder ∧
            (m.cascade ownerXid).1.window xid = { m.window xid with entry := none })) := by
  rw [window_cascade, entries_takeOrphanedPopups]
  have hcloses := closes_cascade hsound ownerXid xid
  by_cases horphan : ∃ e, Orphan m.registry ownerXid xid e
  · refine .inr ⟨List.ne_nil_of_mem ((mem_about_cascade hsound).mpr ⟨rfl, horphan⟩), ?_⟩
    obtain ⟨e, howner, hentry, howned⟩ := horphan
    have hdropped : (some e).filter (fun e => ownerXid = 0 || !e.ownedBy ownerXid) = none := by
      simp [howner, howned]
    rw [hentry, hdropped, window_of_entry hentry]
    by_cases hrep : e.representation = .placeholder
    · rw [if_pos (hcloses.mpr ⟨e, ⟨howner, hentry, howned⟩, hrep⟩)]
      exact .inl ⟨by simpa using hrep, rfl⟩
    · rw [if_neg]
      · exact .inr ⟨by simpa using hrep, rfl⟩
      · intro hclosed
        obtain ⟨other, ⟨-, hother, -⟩, hplaceholder⟩ := hcloses.mp hclosed
        exact hrep (Option.some.inj (hentry.symm.trans hother) ▸ hplaceholder)
  · have hnone : about xid (m.cascade ownerXid).2 = [] := by
      rw [List.eq_nil_iff_forall_not_mem]
      exact fun event hmem => horphan ((mem_about_cascade hsound).mp hmem).2
    have hkept : (m.registry.entries[xid]?).filter
        (fun e => ownerXid = 0 || !e.ownedBy ownerXid) = m.registry.entries[xid]? := by
      cases hentry : m.registry.entries[xid]? with
      | none => rfl
      | some e =>
        rw [Option.filter_some, if_pos]
        by_contra hdropped
        exact horphan ⟨e, by simpa [Orphan, hentry] using hdropped⟩
    refine .inl ⟨?_, hnone⟩
    rw [hkept, if_neg]
    · rfl
    · intro hclosed
      obtain ⟨e, he, -⟩ := hcloses.mp hclosed
      exact horphan ⟨e, he⟩

/-! ## Requests -/

/-- The backend between an unregistration and its cascade. -/
def unlisted (m : MockBackend) (key generation : Nat) : MockBackend :=
  let followed := m.follow (m.registry.unregisterToplevel key generation)
  { followed with cursors := followed.cursors.erase key }

theorem unregisterToplevel_applied {key generation : Nat}
    (happlied : (m.registry.unregisterToplevel key generation).1.applied = true) :
    m.unregisterToplevel key generation = (((m.unlisted key generation).cascade key).1,
        .ended key :: ((m.unlisted key generation).cascade key).2) := by
  rw [unregisterToplevel]
  dsimp only
  rw [if_pos happlied]
  rfl

theorem registry_unlisted (m : MockBackend) (key generation : Nat) :
    (m.unlisted key generation).registry = (m.registry.unregisterToplevel key generation).2 := by
  obtain ⟨_, _, _, heq, -⟩ :=
    ({ m with registry := (m.registry.unregisterToplevel key generation).2 }).applyMockEffect_frame
      (m.registry.unregisterToplevel key generation).1
  rw [unlisted, follow, heq]

theorem sound_unlisted (hsound : m.registry.Sound) (key generation : Nat) :
    (m.unlisted key generation).registry.Sound := by
  have hop : Op.Handled (.unregisterToplevel key generation) := trivial
  rw [registry_unlisted]
  exact hsound.move hop (m.registry.move_unregisterToplevel key generation)

theorem window_unlisted_other {key generation xid : Nat} (hxid : xid ≠ key) :
    (m.unlisted key generation).window xid = m.window xid := by
  rw [← window_follow_other (m.registry.move_unregisterToplevel key generation) rfl hxid, unlisted,
    window]
  dsimp only
  rw [Table.getElem?_erase_eq, if_neg (Ne.symm hxid)]
  rfl

/-- The window of an unregistration that was applied, before the cascade. -/
theorem window_unlisted_self {key generation : Nat}
    (happlied : (m.registry.unregisterToplevel key generation).1.applied = true) :
    ¬ ((m.unlisted key generation).window key).Placeholder ∧
      ((m.unlisted key generation).window key).registered = false ∧
      (((m.unlisted key generation).window key).chrome = none ∨ ¬ (m.window key).Placeholder ∧
        ((m.unlisted key generation).window key).chrome = (m.window key).chrome) ∧
      ((m.unlisted key generation).window key).cursor = none := by
  have hmove := m.registry.move_unregisterToplevel key generation
  have hwindow : (m.unlisted key generation).window key =
      { (m.follow (m.registry.unregisterToplevel key generation)).window key with
        cursor := none } := by
    rw [unlisted, window]
    dsimp only
    rw [Std.ExtTreeMap.getElem?_erase_self]
    rfl
  rw [hwindow]
  generalize m.registry.unregisterToplevel key generation = result at happlied hmove ⊢
  obtain ⟨eff, next⟩ := result
  dsimp only at happlied hmove
  have hgone : (m.registry.entries.erase key)[key]? = none := Std.ExtTreeMap.getElem?_erase_self
  cases hmove with
  | idle _ _ heffs =>
    rw [heffs eff (by simp)] at happlied
    cases happlied
  | unregisterPlaceholder hxid hentry hgen hrep =>
    have hnow : (m.registry.drop key).entries[key]? = none := hgone
    rw [window_follow, hnow]
    exact ⟨by simp, rfl, .inl (left_of_closes rfl rfl), rfl⟩
  | unregisterEmpty hxid hentry hgen hrep =>
    have hnow : (m.registry.drop key).entries[key]? = none := hgone
    rw [window_follow, hnow, window_of_entry hentry]
    refine ⟨by simp, rfl, .inr ⟨by simpa using hrep, ?_⟩, rfl⟩
    dsimp only
    exact left_of_kind (by simp)
  | unregisterSurface hxid hentry hgen hrep =>
    rename_i e hsurface
    have hnow : (m.registry.put key (e.unregistered generation)).entries[key]? =
        some (e.unregistered generation) := Std.ExtTreeMap.getElem?_insert_self
    rw [window_follow, hnow, window_of_entry hentry]
    refine ⟨by simpa [Entry.unregistered] using hrep, rfl, .inr ⟨by simpa using hrep, ?_⟩, rfl⟩
    dsimp only
    exact left_of_kind (by simp)

theorem turn_unregisterToplevel (hsound : m.registry.Sound) (key generation xid : Nat) :
    Turn xid (m.window xid) ((m.unregisterToplevel key generation).1.window xid)
      (about xid (m.unregisterToplevel key generation).2) := by
  by_cases happlied : (m.registry.unregisterToplevel key generation).1.applied = true
  · rw [unregisterToplevel_applied happlied]
    have hmid := sound_unlisted hsound key generation
    have hcascade := cascade_cases hmid key xid
    have hended : ∀ event ∈ about xid ((m.unlisted key generation).cascade key).2,
        event = .ended xid := fun event hmem => ((mem_about_cascade hmid).mp hmem).1
    by_cases hxid : xid = key
    · subst hxid
      obtain ⟨hnow, hreg, hchrome, hcursor⟩ := window_unlisted_self happlied
      have habout : ∀ events, about xid (.ended xid :: events) = .ended xid :: about xid events :=
        by simp [about, Event.window]
      have hall : ∀ event ∈ .ended xid :: about xid ((m.unlisted xid generation).cascade xid).2,
          event = .ended xid := List.forall_mem_cons.mpr ⟨rfl, hended⟩
      rw [habout]
      rcases hcascade with ⟨hlast, -⟩ | ⟨-, ⟨hwas, -⟩ | ⟨-, hlast⟩⟩
      · rw [hlast]
        exact .unregistered hnow hreg hchrome hcursor (by simp) hall
      · exact absurd hwas hnow
      · rw [hlast]
        exact .unregistered (by simp) rfl hchrome hcursor (by simp) hall
    · have habout : ∀ events, about xid (.ended key :: events) = about xid events := by
        simp [about, Event.window, Ne.symm hxid]
      rw [habout]
      rw [window_unlisted_other hxid] at hcascade
      rcases hcascade with ⟨hlast, hnone⟩ | ⟨hsome, ⟨hwas, hlast⟩ | ⟨hwas, hlast⟩⟩
      · rw [hlast, hnone]
        exact .still
      · rw [hlast]
        exact .closed hwas hsome hended
      · rw [hlast]
        exact .abandoned hwas hsome hended
  · rw [unregisterToplevel]
    dsimp only
    rw [if_neg happlied]
    have hmove := m.registry.move_unregisterToplevel key generation
    generalize m.registry.unregisterToplevel key generation = result at happlied hmove ⊢
    obtain ⟨eff, next⟩ := result
    dsimp only at happlied hmove
    cases hmove with
    | idle _ _ heffs =>
      have hopen := closes_idle heffs
      rw [window_follow, left_of_other (by simp [hopen]), left_of_other (by simp [hopen])]
      exact .still
    | _ => exact absurd rfl happlied

theorem turn_paintChrome (m : MockBackend) {req : SidecarPaintChromeRequest}
    (hwf : req.WellFormed) (xid : Nat) :
    Turn xid (m.window xid) ((m.paintChrome req).1.window xid)
      (about xid (m.paintChrome req).2) := by
  rw [paintChrome]
  split
  · rename_i haccept
    rw [acceptPlaceholderPaint] at haccept
    cases hentry : m.registry.entries[req.xid]? with
    | none => simp [hentry] at haccept
    | some e =>
      obtain ⟨hrep, hgeneration, hseq⟩ : e.representation = .placeholder ∧
          req.lifecycleGeneration = e.generation ∧ e.lastPaintSeq < req.seq := by
        simpa [hentry] using haccept
      have hcommit : (m.registry.commitPlaceholderPaint req.xid req.lifecycleGeneration req.seq).2 =
            m.registry.put req.xid { e with shown := true, lastPaintSeq := req.seq } := by
        rw [WindowRegistry.commitPlaceholderPaint, hentry]
        simp [hrep, hgeneration, not_le.mpr hseq]
      have hlast : ({ m.mockPaintChrome req with
          registry := ((m.mockPaintChrome req).registry.commitPlaceholderPaint req.xid
            req.lifecycleGeneration req.seq).2 }).window xid =
          ⟨(m.registry.entries.insert req.xid
              { e with shown := true, lastPaintSeq := req.seq })[xid]?,
            (m.chrome.insert req.xid ((m.chrome[req.xid]?.getD {}).paint req))[xid]?,
            m.cursors[xid]?⟩ := by
        rw [window, mockPaintChrome]
        dsimp only
        rw [hcommit, Std.ExtTreeMap.getD_eq_getD_getElem?]
        rfl
      dsimp only
      rw [hlast]
      by_cases hxid : xid = req.xid
      · subst hxid
        rw [Std.ExtTreeMap.getElem?_insert_self, Std.ExtTreeMap.getElem?_insert_self]
        have habout : about req.xid [Event.painted req] = [.painted req] := by
          simp [about, Event.window]
        rw [habout]
        exact .painted hentry hrep rfl hgeneration hseq hwf
      · have habout : about xid [Event.painted req] = [] := by
          simp [about, Event.window, Ne.symm hxid]
        rw [Table.getElem?_insert_eq, Table.getElem?_insert_eq, if_neg (Ne.symm hxid),
          if_neg (Ne.symm hxid), habout]
        exact .still
  · exact .still

theorem turn_setCursor (m : MockBackend) (req : SidecarSetCursorRequest) (xid : Nat) :
    Turn xid (m.window xid) ((m.setCursor req).1.window xid) (about xid (m.setCursor req).2) := by
  rw [setCursor]
  split
  · exact .still
  · rename_i hgate
    have hreg : toplevelRegistered m.registry req.xid = true := by
      simpa using (not_or.mp hgate).1
    by_cases hxid : xid = req.xid
    · subst hxid
      simp only [about, Event.window, List.filter_cons, decide_true, if_true, List.filter_nil,
        window, Std.ExtTreeMap.getElem?_insert_self]
      exact .cursorSet _ hreg
    · have habout : ∀ cursor, about xid [Event.cursorSet req.xid cursor] = [] := by
        simp [about, Event.window, Ne.symm hxid]
      simp only [habout, window, Table.getElem?_insert_eq, if_neg (Ne.symm hxid)]
      exact .still

/-! ## Steps -/

/-- The registry is sound and no surface has the null handle. -/
structure Sound (m : MockBackend) : Prop where
  registry : m.registry.Sound
  handles : m.nextHandle ≠ 0
  surfaces : m.surfaces[0]? = none

theorem Sound.start : Sound {} := ⟨.empty, by decide, by simp⟩

theorem Sound.applyMockEffect (hsound : m.Sound) (eff : RegistryEffect) :
    (m.applyMockEffect eff).Sound := by
  obtain ⟨_, _, surfaces, heq, hsome⟩ := m.applyMockEffect_frame eff
  rw [heq]
  refine ⟨hsound.registry, hsound.handles, ?_⟩
  rw [← Option.isNone_iff_eq_none, ← Option.not_isSome, hsome]
  simp [hsound.surfaces]

theorem Sound.follow (hsound : m.Sound) {result : RegistryEffect × WindowRegistry}
    (hmove : Move m.registry op [result.1] result.2) (hop : op.Handled) :
    (m.follow result).Sound :=
  Sound.applyMockEffect (m := { m with registry := result.2 })
    ⟨hsound.registry.move hop hmove, hsound.handles, hsound.surfaces⟩ result.1

theorem Sound.cascade (hsound : m.Sound) (ownerXid : Nat) : (m.cascade ownerXid).1.Sound := by
  have hop : Registry.Op.Handled (.takeOrphanedPopups ownerXid) := trivial
  have hnext := hsound.registry.move hop (m.registry.move_takeOrphanedPopups ownerXid)
  exact List.foldlRecOn _ _ ⟨hnext, hsound.handles, hsound.surfaces⟩
    fun next hsound eff _ => hsound.applyMockEffect eff

theorem Sound.ne_zero (hsound : m.Sound) {handle : Nat} {surface : Surface}
    (hfound : m.surfaces[handle]? = some surface) : handle ≠ 0 := by
  rintro rfl
  rw [hsound.surfaces] at hfound
  cases hfound

theorem Sound.modify (hsound : m.Sound) (handle : Nat) (change : Surface → Surface)
    (swapchains : Table Swapchain) :
    Sound { m with swapchains, surfaces := m.surfaces.modify handle change } := by
  refine ⟨hsound.registry, hsound.handles, ?_⟩
  rw [Table.getElem?_modify_eq, hsound.surfaces]
  split <;> rfl

theorem Sound.insert (hsound : m.Sound) {handle : Nat} (hhandle : handle ≠ 0) (surface : Surface)
    (swapchains : Table Swapchain) :
    Sound { m with
      nextHandle := m.nextHandle + 1, swapchains
      surfaces := m.surfaces.insert handle surface } := by
  refine ⟨hsound.registry, Nat.succ_ne_zero _, ?_⟩
  rw [Table.getElem?_insert_eq, if_neg hhandle, hsound.surfaces]

theorem Sound.reveal (hsound : m.Sound) (handle : Nat) : (m.reveal handle).Sound := by
  rw [MockBackend.reveal]
  split
  · exact hsound
  · exact hsound.modify _ _ m.swapchains

theorem window_reveal (m : MockBackend) (handle xid : Nat) :
    (m.reveal handle).window xid = m.window xid := by
  rw [reveal]
  split <;> rfl

theorem about_flowed (xid : Nat) (targets : List Nat) :
    about xid (targets.map Event.flowed) = [] := by
  simp [about, Event.window]

theorem Sound.step (hsound : m.Sound) (op : Op) : (m.step op).1.Sound := by
  cases op with
  | createSurface admitted xid =>
    simp only [MockBackend.step, createSurface]
    split
    · exact (hsound.insert hsound.handles { xid } m.swapchains).follow
        (m.registry.move_bindSurface xid m.nextHandle) hsound.handles
    · exact hsound
  | destroySurface handle =>
    simp only [MockBackend.step, destroySurface]
    split
    · exact hsound
    · rename_i surface hfound
      split
      · exact hsound
      · have hnext := hsound.follow (m.registry.move_unbindSurface surface.xid handle)
          (hsound.ne_zero hfound)
        refine ⟨hnext.registry, hnext.handles, ?_⟩
        rw [Table.getElem?_erase_eq, hnext.surfaces]
        split <;> rfl
  | createSwapchain admitted surface width height =>
    simp only [MockBackend.step, createSwapchain]
    split
    · exact hsound
    · rename_i target hfound
      split_ifs
      · exact hsound
      · exact hsound
      · exact hsound.insert (hsound.ne_zero hfound) _ _
  | destroySwapchain admitted handle =>
    simp only [MockBackend.step, destroySwapchain]
    split
    · exact hsound
    · split
      · exact hsound.modify _ _ _
      · exact hsound
  | acquireNextImage handle =>
    simp only [MockBackend.step, acquireNextImage]
    split
    · exact hsound
    · split <;> exact hsound
  | queuePresent admitted targets =>
    simp only [MockBackend.step, queuePresent]
    split_ifs
    · exact hsound
    · exact hsound
    · exact List.foldlRecOn targets _ hsound fun next hnext handle _ => hnext.reveal handle
  | takeHandle => exact ⟨hsound.registry, Nat.succ_ne_zero _, hsound.surfaces⟩
  | registerToplevel xid generation top =>
    exact hsound.follow (m.registry.move_registerToplevel xid generation top) trivial
  | updateToplevel xid generation role geometry zOrder =>
    exact hsound.follow (m.registry.move_updateToplevel xid generation role geometry zOrder) trivial
  | setVisibility xid generation state =>
    exact hsound.follow (m.registry.move_setVisibility xid generation state) trivial
  | unregisterToplevel xid generation =>
    have hnext := hsound.follow (m.registry.move_unregisterToplevel xid generation) trivial
    simp only [MockBackend.step, unregisterToplevel]
    split
    · refine Sound.cascade ?_ xid
      exact ⟨hnext.registry, hnext.handles, hnext.surfaces⟩
    · exact hnext
  | paintChrome body =>
    simp only [MockBackend.step]
    split
    · exact hsound
    · rename_i req _
      rw [MockBackend.paintChrome]
      split
      · have hop : Registry.Op.Handled
            (.commitPlaceholderPaint req.xid req.lifecycleGeneration req.seq) := trivial
        exact ⟨hsound.registry.move hop (m.registry.move_commitPlaceholderPaint req.xid
          req.lifecycleGeneration req.seq), hsound.handles, hsound.surfaces⟩
      · exact hsound
  | setCursor body =>
    simp only [MockBackend.step]
    split
    · exact hsound
    · rw [MockBackend.setCursor]
      split
      · exact hsound
      · exact ⟨hsound.registry, hsound.handles, hsound.surfaces⟩

theorem turn_step (hsound : m.Sound) (op : Op) (xid : Nat) :
    Turn xid (m.window xid) ((m.step op).1.window xid) (about xid (m.step op).2) := by
  cases op with
  | createSurface admitted key =>
    simp only [step, createSurface]
    split
    · have hsound' := hsound.insert hsound.handles { xid := key } m.swapchains
      exact turn_follow hsound'.registry (m.registry.move_bindSurface key m.nextHandle)
        hsound.handles rfl nofun xid
    · exact .still
  | destroySurface handle =>
    simp only [step, destroySurface]
    split
    · exact .still
    · rename_i surface hfound
      split
      · exact .still
      · exact turn_follow hsound.registry (m.registry.move_unbindSurface surface.xid handle)
          (hsound.ne_zero hfound) rfl nofun xid
  | createSwapchain admitted surface width height =>
    simp only [step, createSwapchain]
    split
    · exact .still
    · split_ifs <;> exact .still
  | destroySwapchain admitted handle =>
    simp only [step, destroySwapchain]
    split
    · exact .still
    · split <;> exact .still
  | acquireNextImage handle =>
    simp only [step, acquireNextImage]
    split
    · exact .still
    · split <;> exact .still
  | queuePresent admitted targets =>
    simp only [step, queuePresent]
    split_ifs
    · exact .still
    · exact .still
    · have hsame : (targets.foldl reveal m).window xid = m.window xid :=
        List.foldlRecOn (motive := fun next => next.window xid = m.window xid) targets _ rfl
          fun next hnext handle _ => (window_reveal next handle xid).trans hnext
      rw [hsame, about_flowed]
      exact .still
  | takeHandle => exact .still
  | registerToplevel key generation top =>
    exact turn_follow hsound.registry (m.registry.move_registerToplevel key generation top) trivial
      rfl nofun xid
  | updateToplevel key generation role geometry zOrder =>
    exact turn_follow hsound.registry
      (m.registry.move_updateToplevel key generation role geometry zOrder) trivial rfl nofun xid
  | setVisibility key generation state =>
    exact turn_follow hsound.registry (m.registry.move_setVisibility key generation state) trivial
      rfl nofun xid
  | unregisterToplevel key generation =>
    exact turn_unregisterToplevel hsound.registry key generation xid
  | paintChrome body =>
    simp only [step]
    split
    · exact .still
    · rename_i req hdecode
      exact turn_paintChrome m (SidecarPaintChromeRequest.wellFormed_of_fromWire hdecode) xid
  | setCursor body =>
    simp only [step]
    split
    · exact .still
    · exact turn_setCursor m _ xid

end MockBackend

end VkRelay.Sidecar
