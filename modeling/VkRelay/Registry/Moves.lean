import VkRelay.Registry.Model

/-!
What one call can do to the registry. Each constructor is one way through one of the
mutators, with the tests that lead there; every invariant is proved over these.
-/

namespace VkRelay.Registry

/-- The call falls through one of the tests at its head: the null window, an unknown one, a
surface that is not the bound one, a generation that is not newer, a popup without an owner,
or a paint that is late. -/
def WindowRegistry.Drops (r : WindowRegistry) : Op → Prop
  | .bindSurface xid _ => xid = 0
  | .unbindSurface xid surface => xid = 0 ∨ ∀ e, r.entries[xid]? = some e → e.surface ≠ surface
  | .registerToplevel xid generation top =>
    xid = 0 ∨ r.stale xid generation = true ∨
      top.isPopup = true ∧ r.ownerLive top.ownerXid = false
  | .updateToplevel xid generation _ _ _ | .setVisibility xid generation _
  | .unregisterToplevel xid generation =>
    xid = 0 ∨ ∀ e, r.entries[xid]? = some e → generation ≤ e.generation
  | .takeOrphanedPopups ownerXid => ownerXid = 0
  | .commitPlaceholderPaint xid generation seq =>
    ∀ e, r.entries[xid]? = some e → e.representation = .placeholder →
      generation ≠ e.generation ∨ seq ≤ e.lastPaintSeq

inductive Move (r : WindowRegistry) : Op → List RegistryEffect → WindowRegistry → Prop
  /-- The call is dropped. -/
  | idle (op : Op) (effs : List RegistryEffect) (heffs : ∀ eff ∈ effs, eff = {})
      (hdrops : r.Drops op) : Move r op effs r
  | bindNew {xid surface : Nat} (hxid : xid ≠ 0) (hentry : r.entries[xid]? = none) :
      Move r (.bindSurface xid surface) [{ applied := true, xid, surface }]
        (r.mintEpoch.put xid
          { xid, surface, representation := .surface, representationEpoch := r.nextEpoch + 1 })
  | bindPromote {xid surface : Nat} {e : Entry} (hxid : xid ≠ 0) (hentry : r.entries[xid]? = some e)
      (hrep : e.representation = .placeholder) (eff : RegistryEffect) (seq : Nat)
      (happlied : eff.applied = true) (hkind : eff.kind = .promotePlaceholderToSurface)
      (hid : eff.placeholderId = e.placeholderId) (heff : eff.xid = xid) :
      Move r (.bindSurface xid surface) [eff]
        ((r.mintEpoch.put xid
            { e with
              surface, representation := .surface, placeholderId := 0
              representationEpoch := r.nextEpoch + 1 }).placed seq)
  | bindOver {xid surface : Nat} {e : Entry} (hxid : xid ≠ 0) (hentry : r.entries[xid]? = some e)
      (hrep : e.representation ≠ .placeholder) (eff : RegistryEffect) (seq : Nat)
      (happlied : eff.applied = true) (hkind : eff.kind = .none) :
      Move r (.bindSurface xid surface) [eff]
        ((r.mintEpoch.put xid
            { e with
              surface, representation := .surface
              representationEpoch := r.nextEpoch + 1 }).placed seq)
  | unbindKeep {xid : Nat} {e : Entry} (hxid : xid ≠ 0) (hentry : r.entries[xid]? = some e)
      (hreg : e.toplevelRegistered = true) :
      Move r (.unbindSurface xid e.surface) [{ applied := true }]
        (r.put xid { e with surface := 0, representation := .none })
  | unbindErase {xid : Nat} {e : Entry} (hxid : xid ≠ 0) (hentry : r.entries[xid]? = some e)
      (hreg : e.toplevelRegistered = false) :
      Move r (.unbindSurface xid e.surface) [{ applied := true }] (r.drop xid)
  /-- A registration over a surface, which stays the representation. -/
  | registerSurface {xid generation : Nat} {top : Toplevel} {e : Entry} (hxid : xid ≠ 0)
      (hentry : r.entries[xid]? = some e) (hgen : e.generation < generation)
      (howner : top.isPopup = true → r.ownerLive top.ownerXid = true) (hsurface : e.surface ≠ 0)
      (eff : RegistryEffect) (seq : Nat) (happlied : eff.applied = true)
      (hkind : eff.kind = .none) :
      Move r (.registerToplevel xid generation top) [eff]
        ((r.put xid { e.annotate xid generation top with representation := .surface }).placed seq)
  /-- The same after an earlier registration has ended: a new representation. -/
  | registerAgain {xid generation : Nat} {top : Toplevel} {e : Entry} (hxid : xid ≠ 0)
      (hentry : r.entries[xid]? = some e) (hgen : e.generation < generation)
      (howner : top.isPopup = true → r.ownerLive top.ownerXid = true) (hsurface : e.surface ≠ 0)
      (hended : e.toplevelRegistered = false)
      (eff : RegistryEffect) (seq : Nat) (happlied : eff.applied = true)
      (hkind : eff.kind = .none) :
      Move r (.registerToplevel xid generation top) [eff]
        ((r.mintEpoch.put xid
            { e.annotate xid generation top with
              representation := .surface, representationEpoch := r.nextEpoch + 1 }).placed seq)
  | registerPlaceholder {xid generation : Nat} {top : Toplevel} {e : Entry} (hxid : xid ≠ 0)
      (hentry : r.entries[xid]? = some e) (hgen : e.generation < generation)
      (howner : top.isPopup = true → r.ownerLive top.ownerXid = true) (hsurface : e.surface = 0)
      (hrep : e.representation = .placeholder)
      (eff : RegistryEffect) (seq : Nat) (happlied : eff.applied = true)
      (hkind : eff.kind = .none) :
      Move r (.registerToplevel xid generation top) [eff]
        ((r.put xid (e.annotate xid generation top)).placed seq)
  /-- A registration that opens a placeholder, for a new entry or one without a host window. -/
  | registerCreate {xid generation : Nat} {top : Toplevel} {e : Entry} (hxid : xid ≠ 0)
      (hentry : (r.entries[xid]?).getD {} = e)
      (hgen : r.entries[xid]? = some e → e.generation < generation)
      (howner : top.isPopup = true → r.ownerLive top.ownerXid = true) (hsurface : e.surface = 0)
      (hrep : e.representation ≠ .placeholder) (eff : RegistryEffect) (seq : Nat)
      (happlied : eff.applied = true) (hkind : eff.kind = .createPlaceholder)
      (hid : eff.placeholderId = r.nextPlaceholderId + 1) :
      Move r (.registerToplevel xid generation top) [eff]
        ((r.mintEpoch.mintPlaceholder.put xid
            { e.annotate xid generation top with
              representation := .placeholder, placeholderId := r.nextPlaceholderId + 1
              representationEpoch := r.nextEpoch + 1, shown := false, lastPaintSeq := 0 }).placed
          seq)
  | update {xid generation : Nat} {role : String} {geometry : ToplevelGeometry} {zOrder : ZOrder}
      {e : Entry} (hxid : xid ≠ 0) (hentry : r.entries[xid]? = some e)
      (hgen : e.generation < generation) (eff : RegistryEffect) (seq : Nat)
      (happlied : eff.applied = true) (heff : eff.xid = xid)
      (hkind : eff.kind = if e.posChanged geometry ∨ e.sizeChanged geometry ∨ zOrder ≠ .none
        then .applyGeometry else .none)
      (hsize : eff.kind = .applyGeometry →
        eff.applySize = (e.extentAuthoritative || e.sizeChanged geometry)) :
      Move r (.updateToplevel xid generation role geometry zOrder) [eff]
        ((r.put xid (e.updated generation role geometry zOrder)).placed seq)
  | visibility {xid generation : Nat} {state : VisibilityState} {e : Entry} (hxid : xid ≠ 0)
      (hentry : r.entries[xid]? = some e) (hgen : e.generation < generation)
      (eff : RegistryEffect) (seq : Nat) (happlied : eff.applied = true) (heff : eff.xid = xid)
      (hkind : eff.kind = if e.visibilityState ≠ state then .setVisibility else .none) :
      Move r (.setVisibility xid generation state) [eff]
        ((r.put xid { e with generation, visibilityState := state }).placed seq)
  | unregisterPlaceholder {xid generation : Nat} {e : Entry} (hxid : xid ≠ 0)
      (hentry : r.entries[xid]? = some e) (hgen : e.generation < generation)
      (hrep : e.representation = .placeholder) :
      Move r (.unregisterToplevel xid generation)
        [{ kind := .destroyPlaceholder, applied := true, xid, placeholderId := e.placeholderId }]
        (r.drop xid)
  | unregisterEmpty {xid generation : Nat} {e : Entry} (hxid : xid ≠ 0)
      (hentry : r.entries[xid]? = some e) (hgen : e.generation < generation)
      (hrep : e.representation ≠ .placeholder) (hsurface : e.surface = 0) :
      Move r (.unregisterToplevel xid generation) [{ applied := true, xid }] (r.drop xid)
  | unregisterSurface {xid generation : Nat} {e : Entry} (hxid : xid ≠ 0)
      (hentry : r.entries[xid]? = some e) (hgen : e.generation < generation)
      (hrep : e.representation ≠ .placeholder) (hsurface : e.surface ≠ 0) :
      Move r (.unregisterToplevel xid generation) [{ applied := true, xid }]
        (r.put xid (e.unregistered generation))
  | cascade {ownerXid : Nat} {effs : List RegistryEffect} (howner : ownerXid ≠ 0)
      (heffs : effs = (r.takeOrphanedPopups ownerXid).1) :
      Move r (.takeOrphanedPopups ownerXid) effs
        { r with entries := r.entries.filter fun _ e => !e.ownedBy ownerXid }
  | paint {xid generation seq : Nat} {e : Entry} (hentry : r.entries[xid]? = some e)
      (hrep : e.representation = .placeholder) :
      Move r (.commitPlaceholderPaint xid generation seq) []
        (r.put xid { e with shown := true, lastPaintSeq := seq })

namespace WindowRegistry

variable {r : WindowRegistry}

theorem move_idle {op : Op} (hdrops : r.Drops op) : Move r op [{}] r :=
  .idle op _ (by simp) hdrops

theorem move_bindSurface (xid surface : Nat) :
    Move r (.bindSurface xid surface) [(r.bindSurface xid surface).1]
      (r.bindSurface xid surface).2 := by
  unfold bindSurface
  by_cases hxid : xid = 0
  · rw [if_pos hxid]
    exact move_idle hxid
  rw [if_neg hxid]
  cases hentry : r.entries[xid]? with
  | none => exact .bindNew hxid hentry
  | some e =>
    by_cases hrep : e.representation = .placeholder
    · simp only [if_pos hrep]
      exact .bindPromote hxid hentry hrep _ _ rfl rfl rfl rfl
    · simp only [if_neg hrep]
      split_ifs
      · exact .bindOver hxid hentry hrep _ _ rfl rfl
      · exact .bindOver hxid hentry hrep _ r.nextHostApplySeq rfl rfl

theorem move_unbindSurface (xid surface : Nat) :
    Move r (.unbindSurface xid surface) [(r.unbindSurface xid surface).1]
      (r.unbindSurface xid surface).2 := by
  unfold unbindSurface
  by_cases hxid : xid = 0
  · rw [if_pos hxid]
    exact move_idle (.inl hxid)
  rw [if_neg hxid]
  cases hentry : r.entries[xid]? with
  | none => exact move_idle (.inr (by simp [hentry]))
  | some e =>
    by_cases hsurface : e.surface = surface
    · subst hsurface
      simp only [ne_eq, not_true_eq_false, if_false]
      split_ifs with hreg
      · exact .unbindKeep hxid hentry hreg
      · exact .unbindErase hxid hentry (by simpa using hreg)
    · simp only [ne_eq, hsurface, not_false_eq_true, if_true]
      exact move_idle (.inr (by simpa [hentry] using hsurface))

variable {xid generation : Nat}

theorem stale_eq_false_iff :
    r.stale xid generation = false ↔ ∀ e, r.entries[xid]? = some e → e.generation < generation := by
  cases hentry : r.entries[xid]? <;> simp [stale, hentry]

/-- Only the window's own entry is held against a generation. -/
theorem forall_newer {e : Entry} (hentry : r.entries[xid]? = some e)
    (hgen : e.generation < generation) :
    ∀ f, r.entries[xid]? = some f → f.generation < generation := by
  intro f hfound
  cases hentry.symm.trans hfound
  exact hgen

theorem forall_newer_getD {e : Entry} (hentry : (r.entries[xid]?).getD {} = e)
    (hgen : r.entries[xid]? = some e → e.generation < generation) :
    ∀ f, r.entries[xid]? = some f → f.generation < generation := by
  intro f hfound
  rw [hfound, Option.getD_some] at hentry
  exact hentry ▸ hgen (hentry ▸ hfound)

theorem not_drops_registerToplevel {top : Toplevel} (hxid : xid ≠ 0)
    (hgen : ∀ e, r.entries[xid]? = some e → e.generation < generation)
    (howner : top.isPopup = true → r.ownerLive top.ownerXid = true) :
    ¬ r.Drops (.registerToplevel xid generation top) := by
  rintro (hzero | hstale | ⟨hpopup, hdead⟩)
  · exact hxid hzero
  · rw [stale_eq_false_iff.mpr hgen] at hstale
    cases hstale
  · rw [howner hpopup] at hdead
    cases hdead

theorem move_registerToplevel (xid generation : Nat) (top : Toplevel) :
    Move r (.registerToplevel xid generation top) [(r.registerToplevel xid generation top).1]
      (r.registerToplevel xid generation top).2 := by
  unfold registerToplevel
  by_cases hxid : xid = 0
  · rw [if_pos hxid]
    exact move_idle (.inl hxid)
  rw [if_neg hxid]
  by_cases hstale : r.stale xid generation = true
  · rw [if_pos hstale]
    exact move_idle (.inr (.inl hstale))
  rw [if_neg hstale]
  by_cases hrefused : top.isPopup = true ∧ (!r.ownerLive top.ownerXid) = true
  · rw [if_pos hrefused]
    exact move_idle (.inr (.inr (by simpa using hrefused)))
  rw [if_neg hrefused]
  have hgen := stale_eq_false_iff.mp (by simpa using hstale)
  have howner : top.isPopup = true → r.ownerLive top.ownerXid = true := by
    simpa using hrefused
  by_cases hsurface : ((r.entries[xid]?).getD {}).surface = 0
  · have hannotated : (Entry.annotate ((r.entries[xid]?).getD {}) xid generation top).surface = 0 :=
      hsurface
    simp only [if_neg (not_not.mpr hannotated)]
    split_ifs with hrep
    · cases hentry : r.entries[xid]? with
      | none =>
        rw [hentry] at hrep
        cases hrep
      | some e =>
        rw [hentry] at hrep hsurface
        exact .registerPlaceholder hxid hentry (hgen e hentry) howner hsurface hrep _ _ rfl rfl
    · refine .registerCreate hxid rfl (fun hentry => hgen _ hentry) howner hsurface hrep _ _
        ?_ ?_ ?_
      all_goals rfl
  · have hannotated : (Entry.annotate ((r.entries[xid]?).getD {}) xid generation top).surface ≠ 0 :=
      hsurface
    simp only [if_pos hannotated]
    cases hentry : r.entries[xid]? with
    | none =>
      rw [hentry] at hsurface
      exact absurd rfl hsurface
    | some e =>
      rw [hentry] at hsurface
      split_ifs with hended
      · simp only [Option.any_some, Bool.and_eq_true, Bool.not_eq_true'] at hended
        exact .registerAgain hxid hentry (hgen e hentry) howner hsurface hended.1 _ _ rfl rfl
      · exact .registerSurface hxid hentry (hgen e hentry) howner hsurface _ _ rfl rfl

theorem move_ifNewer {op : Op} {apply : Entry → RegistryEffect × WindowRegistry}
    (hdrops : (xid = 0 ∨ ∀ e, r.entries[xid]? = some e → generation ≤ e.generation) → r.Drops op)
    (happly : ∀ e, xid ≠ 0 → r.entries[xid]? = some e → e.generation < generation →
      Move r op [(apply e).1] (apply e).2) :
    Move r op [(r.ifNewer xid generation apply).1] (r.ifNewer xid generation apply).2 := by
  unfold ifNewer
  by_cases hxid : xid = 0
  · rw [if_pos hxid]
    exact move_idle (hdrops (.inl hxid))
  rw [if_neg hxid]
  cases hentry : r.entries[xid]? with
  | none => exact move_idle (hdrops (.inr (by simp [hentry])))
  | some e =>
    by_cases hgen : generation ≤ e.generation
    · simp only [if_pos hgen]
      exact move_idle (hdrops (.inr (by simpa [hentry] using hgen)))
    · simp only [if_neg hgen]
      exact happly e hxid hentry (not_le.mp hgen)

theorem move_updateToplevel (xid generation : Nat) (role : String) (geometry : ToplevelGeometry)
    (zOrder : ZOrder) :
    Move r (.updateToplevel xid generation role geometry zOrder)
      [(r.updateToplevel xid generation role geometry zOrder).1]
      (r.updateToplevel xid generation role geometry zOrder).2 := by
  refine move_ifNewer id fun e hxid hentry hgen => ?_
  dsimp only
  split_ifs with hchanged
  · exact .update hxid hentry hgen _ _ rfl rfl (if_pos hchanged).symm fun _ => rfl
  · exact .update hxid hentry hgen _ r.nextHostApplySeq rfl rfl (if_neg hchanged).symm nofun

theorem move_setVisibility (xid generation : Nat) (state : VisibilityState) :
    Move r (.setVisibility xid generation state) [(r.setVisibility xid generation state).1]
      (r.setVisibility xid generation state).2 := by
  refine move_ifNewer id fun e hxid hentry hgen => ?_
  dsimp only
  split_ifs with hchanged
  · exact .visibility hxid hentry hgen _ _ rfl rfl (if_pos hchanged).symm
  · exact .visibility hxid hentry hgen _ r.nextHostApplySeq rfl rfl (if_neg hchanged).symm

theorem move_unregisterToplevel (xid generation : Nat) :
    Move r (.unregisterToplevel xid generation) [(r.unregisterToplevel xid generation).1]
      (r.unregisterToplevel xid generation).2 := by
  refine move_ifNewer id fun e hxid hentry hgen => ?_
  split_ifs with hrep hsurface
  · exact .unregisterPlaceholder hxid hentry hgen hrep
  · exact .unregisterEmpty hxid hentry hgen hrep hsurface
  · exact .unregisterSurface hxid hentry hgen hrep hsurface

theorem move_takeOrphanedPopups (ownerXid : Nat) :
    Move r (.takeOrphanedPopups ownerXid) (r.takeOrphanedPopups ownerXid).1
      (r.takeOrphanedPopups ownerXid).2 := by
  by_cases howner : ownerXid = 0
  · rw [takeOrphanedPopups, if_pos howner]
    exact .idle _ _ (by simp) howner
  · have hnext : (r.takeOrphanedPopups ownerXid).2 =
        { r with entries := r.entries.filter fun _ e => !e.ownedBy ownerXid } := by
      rw [takeOrphanedPopups, if_neg howner]
    rw [hnext]
    exact .cascade howner rfl

theorem move_commitPlaceholderPaint (xid generation seq : Nat) :
    Move r (.commitPlaceholderPaint xid generation seq) []
      (r.commitPlaceholderPaint xid generation seq).2 := by
  unfold commitPlaceholderPaint
  cases hentry : r.entries[xid]? with
  | none => exact .idle _ _ (by simp) (by simp [Drops, hentry])
  | some e =>
    by_cases hrep : e.representation = .placeholder
    · simp only [if_neg (not_not.mpr hrep)]
      split_ifs with hlate
      · exact .idle _ _ (by simp) (by simpa [Drops, hentry, hrep] using hlate)
      · exact .paint hentry hrep
    · simp only [if_pos hrep]
      exact .idle _ _ (by simp) (by simp [Drops, hentry, hrep])

theorem call_move (r : WindowRegistry) (op : Op) : Move r op (r.call op).1 (r.call op).2 := by
  cases op with
  | bindSurface xid surface => exact move_bindSurface xid surface
  | unbindSurface xid surface => exact move_unbindSurface xid surface
  | registerToplevel xid generation top => exact move_registerToplevel xid generation top
  | updateToplevel xid generation role geometry zOrder =>
    exact move_updateToplevel xid generation role geometry zOrder
  | setVisibility xid generation state => exact move_setVisibility xid generation state
  | unregisterToplevel xid generation => exact move_unregisterToplevel xid generation
  | takeOrphanedPopups ownerXid => exact move_takeOrphanedPopups ownerXid
  | commitPlaceholderPaint xid generation seq =>
    exact move_commitPlaceholderPaint xid generation seq

end WindowRegistry

end VkRelay.Registry
