import VkRelay.Lib.Folds
import VkRelay.Registry.Moves

/-!
Popups and their owners. Both backends run the cascade right after an unregistration
that was applied, so an owner takes its popups with it. A registration checks that a
popup's owner is a live toplevel, but not that the window is not its own owner, nor that
it does not own popups itself; these are the only ways to a popup without an owner.
-/

namespace VkRelay.Registry

open VkRelay.Lib

namespace WindowRegistry

variable {r next : WindowRegistry} {xid key owner : Nat} {e : Entry}

/-- One call as the backends make it: an applied unregistration runs the cascade. -/
def backendCall (r : WindowRegistry) : Op → WindowRegistry
  | .unregisterToplevel xid generation =>
    let gone := r.unregisterToplevel xid generation
    if gone.1.applied then (gone.2.takeOrphanedPopups xid).2 else gone.2
  | op => (r.call op).2

def IsOwner (r : WindowRegistry) (key : Nat) : Prop :=
  ∃ e, r.entries[key]? = some e ∧ e.toplevelRegistered = true ∧ e.isPopup = false

def PopupOf (r : WindowRegistry) (key owner : Nat) : Prop :=
  ∃ e, r.entries[key]? = some e ∧ e.toplevelRegistered = true ∧ e.isPopup = true ∧
    e.ownerXid = owner

/-- Every registered popup has a live owner other than itself. -/
def OwnersLive (r : WindowRegistry) : Prop :=
  ∀ key owner : Nat, r.PopupOf key owner → r.IsOwner owner ∧ owner ≠ key

/-- A popup registration that goes through names another window as its owner, and the window
it turns into a popup owns none. -/
def KeepsOwners (r : WindowRegistry) : Op → Prop
  | .registerToplevel xid generation top =>
    ¬ r.Drops (.registerToplevel xid generation top) → top.isPopup = true →
      top.ownerXid ≠ xid ∧ ∀ key, ¬ r.PopupOf key xid
  | _ => True

theorem isOwner_of_ownerLive (hlive : r.ownerLive owner = true) : r.IsOwner owner := by
  cases hentry : r.entries[owner]? with
  | none => simp [ownerLive, hentry] at hlive
  | some e =>
    simp only [ownerLive, hentry, Option.any_some, decide_eq_true_eq, Bool.and_eq_true,
      Bool.not_eq_true'] at hlive
    exact ⟨e, hentry, hlive.2⟩

/-! ## How owners and popups move -/

theorem isOwner_put : (r.put xid e).IsOwner key ↔
    if key = xid then e.toplevelRegistered = true ∧ e.isPopup = false else r.IsOwner key := by
  unfold IsOwner put
  by_cases hkey : key = xid
  · simp [hkey]
  · simp [hkey, Ne.symm hkey]

theorem popupOf_put : (r.put xid e).PopupOf key owner ↔
    if key = xid then e.toplevelRegistered = true ∧ e.isPopup = true ∧ e.ownerXid = owner
    else r.PopupOf key owner := by
  unfold PopupOf put
  by_cases hkey : key = xid
  · simp [hkey]
  · simp [hkey, Ne.symm hkey]

theorem isOwner_drop : (r.drop xid).IsOwner key ↔ key ≠ xid ∧ r.IsOwner key := by
  unfold IsOwner drop
  by_cases hkey : key = xid
  · simp [hkey]
  · simp [hkey, Ne.symm hkey]

theorem popupOf_drop : (r.drop xid).PopupOf key owner ↔ key ≠ xid ∧ r.PopupOf key owner := by
  unfold PopupOf drop
  by_cases hkey : key = xid
  · simp [hkey]
  · simp [hkey, Ne.symm hkey]

def withoutPopupsOf (r : WindowRegistry) (owner : Nat) : WindowRegistry :=
  { r with entries := r.entries.filter fun _ e => !e.ownedBy owner }

theorem isOwner_withoutPopupsOf {gone : Nat} :
    (r.withoutPopupsOf gone).IsOwner key ↔ r.IsOwner key := by
  unfold IsOwner withoutPopupsOf
  simp only [Table.getElem?_filter_eq, Option.filter_eq_some_iff]
  constructor
  · rintro ⟨e, ⟨hentry, -⟩, hrest⟩
    exact ⟨e, hentry, hrest⟩
  · rintro ⟨e, hentry, hreg, hplain⟩
    exact ⟨e, ⟨hentry, by simp [Entry.ownedBy, hplain]⟩, hreg, hplain⟩

theorem popupOf_withoutPopupsOf {gone : Nat} :
    (r.withoutPopupsOf gone).PopupOf key owner ↔ r.PopupOf key owner ∧ owner ≠ gone := by
  unfold PopupOf withoutPopupsOf
  simp only [Table.getElem?_filter_eq, Option.filter_eq_some_iff]
  constructor
  · rintro ⟨e, ⟨hentry, hkept⟩, hreg, hpopup, rfl⟩
    refine ⟨⟨e, hentry, hreg, hpopup, rfl⟩, fun hgone => ?_⟩
    simp [Entry.ownedBy, hpopup, hgone] at hkept
  · rintro ⟨⟨e, hentry, hreg, hpopup, rfl⟩, hne⟩
    exact ⟨e, ⟨hentry, by simp [Entry.ownedBy, hne]⟩, hreg, hpopup, rfl⟩

namespace OwnersLive

/-- No popup is new, and the owners of those that stay are still there. -/
theorem of_sub (hlive : r.OwnersLive)
    (hsub : ∀ key owner : Nat, next.PopupOf key owner →
      r.PopupOf key owner ∧ (r.IsOwner owner → next.IsOwner owner)) : next.OwnersLive := by
  intro key owner hpopup
  obtain ⟨hwas, hstays⟩ := hsub key owner hpopup
  exact ⟨hstays (hlive key owner hwas).1, (hlive key owner hwas).2⟩

theorem put_kept (hlive : r.OwnersLive) {old : Entry} (hold : r.entries[xid]? = some old)
    (hreg : e.toplevelRegistered = old.toplevelRegistered) (hpopup : e.isPopup = old.isPopup)
    (howner : e.ownerXid = old.ownerXid) : (r.put xid e).OwnersLive := by
  refine hlive.of_sub fun key owner hkey => ?_
  rw [isOwner_put]
  rw [popupOf_put, hreg, hpopup, howner] at hkey
  refine ⟨?_, fun hwas => ?_⟩
  · split_ifs at hkey with hxid
    · exact hxid ▸ ⟨old, hold, hkey⟩
    · exact hkey
  · split_ifs with hxid
    · subst hxid
      obtain ⟨f, hfound, hflags⟩ := hwas
      cases hold.symm.trans hfound
      exact hreg ▸ hpopup ▸ hflags
    · exact hwas

theorem put_unregistered (hlive : r.OwnersLive) (hwas : ¬ r.IsOwner xid)
    (hreg : e.toplevelRegistered = false) : (r.put xid e).OwnersLive := by
  refine hlive.of_sub fun key owner hkey => ?_
  rw [popupOf_put] at hkey
  split_ifs at hkey with hxid
  · simp [hreg] at hkey
  · refine ⟨hkey, fun howner => ?_⟩
    have hother : owner ≠ xid := fun hsame => hwas (hsame ▸ howner)
    rwa [isOwner_put, if_neg hother]

theorem drop (hlive : r.OwnersLive) (hwas : ¬ r.IsOwner xid) : (r.drop xid).OwnersLive := by
  refine hlive.of_sub fun key owner hkey => ?_
  refine ⟨(popupOf_drop.mp hkey).2, fun howner => isOwner_drop.mpr ⟨fun hsame => ?_, howner⟩⟩
  exact hwas (hsame ▸ howner)

/-- A registration: a plain window may only gain the rank of an owner; a popup has one, and
must not be one. -/
theorem put_registered_iff (hlive : r.OwnersLive) (hreg : e.toplevelRegistered = true)
    (howner : e.isPopup = true → r.IsOwner e.ownerXid) :
    (r.put xid e).OwnersLive ↔
      (e.isPopup = true → e.ownerXid ≠ xid ∧ ∀ key, ¬ r.PopupOf key xid) := by
  constructor
  · intro hafter hpopup
    have hself := hafter xid e.ownerXid (popupOf_put.mpr (by simp [hreg, hpopup]))
    refine ⟨hself.2, fun key hkey => ?_⟩
    have hne : key ≠ xid := fun hsame => (hlive key xid hkey).2 hsame.symm
    have hstill := hafter key xid (popupOf_put.mpr (by rwa [if_neg hne]))
    simpa [isOwner_put, hpopup] using hstill.1
  · intro hkeeps key owner hkey
    cases hpopup : e.isPopup with
    | false =>
      rw [popupOf_put] at hkey
      split_ifs at hkey with hxid
      · simp [hpopup] at hkey
      · obtain ⟨hwas, hne⟩ := hlive key owner hkey
        refine ⟨isOwner_put.mpr ?_, hne⟩
        split_ifs
        · exact ⟨hreg, hpopup⟩
        · exact hwas
    | true =>
      obtain ⟨hother, hnone⟩ := hkeeps hpopup
      rw [popupOf_put] at hkey
      split_ifs at hkey with hxid
      · obtain ⟨-, -, rfl⟩ := hkey
        exact ⟨isOwner_put.mpr (by rw [if_neg hother]; exact howner hpopup), hxid ▸ hother⟩
      · obtain ⟨hwas, hne⟩ := hlive key owner hkey
        have hplain : owner ≠ xid := fun hsame => hnone key (hsame ▸ hkey)
        exact ⟨isOwner_put.mpr (by rwa [if_neg hplain]), hne⟩

theorem teardown (hlive : r.OwnersLive) (hnext : next = r.drop xid ∨
      ∃ f, f.toplevelRegistered = false ∧ next = r.put xid f) :
    (next.withoutPopupsOf xid).OwnersLive := by
  refine hlive.of_sub fun key owner hkey => ?_
  obtain ⟨hpopup, hne⟩ := popupOf_withoutPopupsOf.mp hkey
  rw [isOwner_withoutPopupsOf]
  rcases hnext with rfl | ⟨f, hreg, rfl⟩
  · exact ⟨(popupOf_drop.mp hpopup).2, fun howner => isOwner_drop.mpr ⟨hne, howner⟩⟩
  · rw [popupOf_put] at hpopup
    split_ifs at hpopup with hxid
    · simp [hreg] at hpopup
    · exact ⟨hpopup, fun howner => by rwa [isOwner_put, if_neg hne]⟩

end OwnersLive

/-- An unregistration as the backends run it is dropped, or ends the window and its popups. -/
theorem backendCall_unregisterToplevel (r : WindowRegistry) (xid generation : Nat) :
    r.backendCall (.unregisterToplevel xid generation) = r ∨ ∃ next : WindowRegistry,
        r.backendCall (.unregisterToplevel xid generation) = next.withoutPopupsOf xid ∧
        (next = r.drop xid ∨ ∃ f, f.toplevelRegistered = false ∧ next = r.put xid f) := by
  have hmove := move_unregisterToplevel (r := r) xid generation
  rw [backendCall]
  generalize r.unregisterToplevel xid generation = gone at hmove ⊢
  obtain ⟨eff, next⟩ := gone
  have hcascade : xid ≠ 0 → eff.applied = true →
      (if eff.applied then (next.takeOrphanedPopups xid).2 else next) =
        next.withoutPopupsOf xid := by
    intro hxid happlied
    rw [if_pos happlied, takeOrphanedPopups, if_neg hxid]
    rfl
  cases hmove with
  | idle op effs heffs =>
    refine .inl ?_
    rw [heffs eff (List.mem_singleton_self _)]
    rfl
  | unregisterPlaceholder hxid | unregisterEmpty hxid => exact .inr ⟨_, hcascade hxid rfl, .inl rfl⟩
  | unregisterSurface hxid => exact .inr ⟨_, hcascade hxid rfl, .inr ⟨_, rfl, rfl⟩⟩

theorem OwnersLive.move_iff (hlive : r.OwnersLive) {op : Op} {effs : List RegistryEffect}
    (hop : ∀ xid generation, op ≠ .unregisterToplevel xid generation)
    (hmove : Move r op effs next) : next.OwnersLive ↔ r.KeepsOwners op := by
  -- The ways a registration goes through all file the same flags.
  have hregister : ∀ {x generation : Nat} {top : Toplevel} {f : Entry}, x ≠ 0 →
      (∀ e, r.entries[x]? = some e → e.generation < generation) →
      (top.isPopup = true → r.ownerLive top.ownerXid = true) → f.toplevelRegistered = true →
      f.isPopup = top.isPopup → f.ownerXid = top.ownerXid →
      ((r.put x f).OwnersLive ↔ r.KeepsOwners (.registerToplevel x generation top)) := by
    intro x generation top f hx hgen howner hreg hpopup hxid
    rw [hlive.put_registered_iff hreg fun h => isOwner_of_ownerLive (hxid ▸ howner (hpopup ▸ h)),
      hpopup, hxid]
    exact (imp_iff_right (not_drops_registerToplevel hx hgen howner)).symm
  cases hmove with
  | idle op effs heffs hdrops =>
    refine iff_of_true hlive ?_
    cases op with
    | registerToplevel => exact fun happlied => absurd hdrops happlied
    | _ => trivial
  | bindNew hx hentry =>
    refine iff_of_true (hlive.put_unregistered ?_ rfl) trivial
    rintro ⟨e, hfound, -⟩
    cases hentry.symm.trans hfound
  | bindPromote hx hentry | bindOver hx hentry | unbindKeep hx hentry | update hx hentry
  | visibility hx hentry | paint hentry =>
    exact iff_of_true (hlive.put_kept hentry rfl rfl rfl) trivial
  | unbindErase hx hentry hreg =>
    refine iff_of_true (hlive.drop ?_) trivial
    rintro ⟨e, hfound, hlive, -⟩
    cases hentry.symm.trans hfound
    simp [hreg] at hlive
  | registerSurface hx hentry hgen howner | registerAgain hx hentry hgen howner
  | registerPlaceholder hx hentry hgen howner =>
    exact hregister hx (forall_newer hentry hgen) howner rfl rfl rfl
  | registerCreate hx hentry hgen howner =>
    exact hregister hx (forall_newer_getD hentry hgen) howner rfl rfl rfl
  | unregisterPlaceholder | unregisterEmpty | unregisterSurface => exact absurd rfl (hop _ _)
  | cascade howner =>
    refine iff_of_true (hlive.of_sub fun key owner hkey => ?_) trivial
    exact ⟨(popupOf_withoutPopupsOf.mp hkey).1, isOwner_withoutPopupsOf.mpr⟩

theorem OwnersLive.backendCall_iff (hlive : r.OwnersLive) (op : Op) :
    (r.backendCall op).OwnersLive ↔ r.KeepsOwners op := by
  have hmove := r.call_move op
  cases op with
  | unregisterToplevel xid generation =>
    refine iff_of_true ?_ trivial
    rcases r.backendCall_unregisterToplevel xid generation with hsame | ⟨mid, hmid, hend⟩
    · rwa [hsame]
    · rw [hmid]
      exact hlive.teardown hend
  | _ => exact hlive.move_iff nofun hmove

end WindowRegistry

/-- In a run of the backends' calls every registered popup has a live, registered owner that
is no popup and not itself, in every state, exactly when every popup registration that goes
through names another window as owner and none that owns popups becomes one. -/
theorem popup_owners_live_iff (ops : List Op) :
    (∀ before after, ops = before ++ after → ∀ (key : Nat) (e : Entry),
        (before.foldl WindowRegistry.backendCall {}).entries[key]? = some e →
        e.toplevelRegistered = true → e.isPopup = true →
        e.ownerXid ≠ key ∧ ∃ owner,
          (before.foldl WindowRegistry.backendCall {}).entries[e.ownerXid]? = some owner ∧
            owner.toplevelRegistered = true ∧ owner.isPopup = false) ↔
      AlongFold WindowRegistry.backendCall WindowRegistry.KeepsOwners {} ops := by
  have hempty : ({} : WindowRegistry).OwnersLive := by
    rintro key owner ⟨e, hentry, -⟩
    simp at hentry
  have hstep : ∀ (r : WindowRegistry) (op : Op), r.OwnersLive →
      ((r.backendCall op).OwnersLive ↔ r.KeepsOwners op) := fun r op hlive =>
    hlive.backendCall_iff op
  rw [← invariant_along_iff hstep hempty ops]
  refine forall₃_congr fun before after hsplit => ?_
  constructor
  · rintro hall key owner ⟨e, hentry, hreg, hpopup, rfl⟩
    exact (hall key e hentry hreg hpopup).symm
  · intro hlive key e hentry hreg hpopup
    exact (hlive key e.ownerXid ⟨e, hentry, hreg, hpopup, rfl⟩).symm

/-- A toplevel registers again as a popup of itself. -/
theorem popup_owns_itself :
    ∃ e, (List.foldl WindowRegistry.backendCall {} [.registerToplevel 5 1 {},
        .registerToplevel 5 2 { isPopup := true, ownerXid := 5 }]).entries[5]? = some e ∧
      e.toplevelRegistered = true ∧ e.isPopup = true ∧ e.ownerXid = 5 := by
  refine ⟨{ xid := 5, representation := .placeholder, placeholderId := 1, generation := 2
            toplevelRegistered := true, representationEpoch := 1, isPopup := true
            ownerXid := 5 }, ?_⟩
  decide +kernel

end VkRelay.Registry
