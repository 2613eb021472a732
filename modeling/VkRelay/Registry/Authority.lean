import VkRelay.Lib.Folds
import VkRelay.Registry.Moves

/-!
The sidecar's authority over windows that are not registered. An update or a change of
visibility asks only whether the window has an entry and whether the generation is newer,
so it also reaches an entry that the app's surface alone keeps alive.
-/

namespace VkRelay.Registry

open VkRelay.Lib

/-- The effect moves, resizes, restacks, hides or shows a host window. -/
def RegistryEffect.Steers (eff : RegistryEffect) : Prop :=
  eff.kind = .applyGeometry ∨ eff.kind = .setVisibility

namespace WindowRegistry

variable {r next : WindowRegistry} {xid : Nat} {e : Entry}

/-- No entry that is not registered has an authored extent. -/
def AuthorityEnds (r : WindowRegistry) : Prop :=
  ∀ (key : Nat) (e : Entry), r.entries[key]? = some e → e.toplevelRegistered = false →
    e.extentAuthoritative = false

/-- Host windows are steered for registered toplevels only. -/
def SteersRegistered (r : WindowRegistry) (effs : List RegistryEffect) : Prop :=
  ∀ eff ∈ effs, eff.Steers → ∃ e, r.entries[eff.xid]? = some e ∧ e.toplevelRegistered = true

/-- A newer call for an entry that is not registered changes nothing that the host shows. -/
def SparesUnregistered (r : WindowRegistry) : Op → Prop
  | .updateToplevel xid generation _ geometry zOrder =>
    xid ≠ 0 → ∀ e, r.entries[xid]? = some e → e.generation < generation →
      e.toplevelRegistered = false →
      e.posChanged geometry = false ∧ e.sizeChanged geometry = false ∧ zOrder = .none
  | .setVisibility xid generation state =>
    xid ≠ 0 → ∀ e, r.entries[xid]? = some e → e.generation < generation →
      e.toplevelRegistered = false → e.visibilityState = state
  | _ => True

theorem AuthorityEnds.put (hends : r.AuthorityEnds)
    (he : e.toplevelRegistered = false → e.extentAuthoritative = false) :
    (r.put xid e).AuthorityEnds := by
  intro key f hfound
  rcases Table.insert_cases hfound with ⟨-, rfl⟩ | hfound
  · exact he
  · exact hends key f hfound

theorem AuthorityEnds.put_kept (hends : r.AuthorityEnds) {old : Entry}
    (hold : r.entries[xid]? = some old) (hreg : e.toplevelRegistered = old.toplevelRegistered)
    (hauthority : e.extentAuthoritative = old.extentAuthoritative) :
    (r.put xid e).AuthorityEnds :=
  hends.put fun hnot => hauthority.trans (hends xid old hold (hreg.symm.trans hnot))

theorem AuthorityEnds.drop (hends : r.AuthorityEnds) : (r.drop xid).AuthorityEnds := by
  intro key f hfound
  exact hends key f (Table.of_erase hfound)

theorem steersRegistered_of_kind {eff : RegistryEffect} (hone : eff.kind ≠ .applyGeometry)
    (htwo : eff.kind ≠ .setVisibility) : r.SteersRegistered [eff] := by
  intro other hother hsteers
  cases List.mem_singleton.mp hother
  exact (hsteers.elim hone htwo).elim

theorem AuthorityEnds.update_iff (hends : r.AuthorityEnds) (hxid : xid ≠ 0)
    (hentry : r.entries[xid]? = some e) {generation : Nat} (hgen : e.generation < generation)
    (role : String) (geometry : ToplevelGeometry) (zOrder : ZOrder) {eff : RegistryEffect}
    (heff : eff.xid = xid)
    (hkind : eff.kind = if e.posChanged geometry ∨ e.sizeChanged geometry ∨ zOrder ≠ .none
      then .applyGeometry else .none) :
    (r.put xid (e.updated generation role geometry zOrder)).AuthorityEnds ∧
        r.SteersRegistered [eff] ↔
      r.SparesUnregistered (.updateToplevel xid generation role geometry zOrder) := by
  constructor
  · rintro ⟨-, hsteers⟩ - f hfound - hreg
    cases hentry.symm.trans hfound
    by_contra hchanged
    have hsteer : eff.kind = .applyGeometry := by
      rw [hkind, if_pos]
      cases hpos : e.posChanged geometry <;> cases hsize : e.sizeChanged geometry <;>
        simp_all
    obtain ⟨g, hg, hlive⟩ := hsteers eff (List.mem_singleton_self _) (.inl hsteer)
    cases hentry.symm.trans (heff ▸ hg)
    simp [hreg] at hlive
  · intro hspares
    cases hreg : e.toplevelRegistered with
    | true =>
      refine ⟨hends.put fun hnot => ?_, fun other hother _ => ?_⟩
      · simp [Entry.updated, hreg] at hnot
      · cases List.mem_singleton.mp hother
        exact ⟨e, heff ▸ hentry, hreg⟩
    | false =>
      obtain ⟨hpos, hsize, hz⟩ := hspares hxid e hentry hgen hreg
      refine ⟨hends.put fun _ => ?_, steersRegistered_of_kind ?_ ?_⟩
      · simp [Entry.updated, hsize, hends xid e hentry hreg]
      all_goals simp [hkind, hpos, hsize, hz]

theorem AuthorityEnds.visibility_iff (hends : r.AuthorityEnds) (hxid : xid ≠ 0)
    (hentry : r.entries[xid]? = some e) {generation : Nat} (hgen : e.generation < generation)
    (state : VisibilityState) {eff : RegistryEffect} (heff : eff.xid = xid)
    (hkind : eff.kind = if e.visibilityState ≠ state then .setVisibility else .none) :
    (r.put xid { e with generation, visibilityState := state }).AuthorityEnds ∧
        r.SteersRegistered [eff] ↔
      r.SparesUnregistered (.setVisibility xid generation state) := by
  have hput : (r.put xid { e with generation, visibilityState := state }).AuthorityEnds :=
    hends.put_kept hentry rfl rfl
  refine (and_iff_right hput).trans ⟨fun hsteers _ f hfound _ hreg => ?_, fun hspares => ?_⟩
  · cases hentry.symm.trans hfound
    by_contra hchanged
    have hsteer : eff.kind = .setVisibility := hkind.trans (if_pos hchanged)
    obtain ⟨g, hg, hlive⟩ := hsteers eff (List.mem_singleton_self _) (.inr hsteer)
    cases hentry.symm.trans (heff ▸ hg)
    simp [hreg] at hlive
  · cases hreg : e.toplevelRegistered with
    | true =>
      intro other hother _
      cases List.mem_singleton.mp hother
      exact ⟨e, heff ▸ hentry, hreg⟩
    | false =>
      have hsame := hspares hxid e hentry hgen hreg
      refine steersRegistered_of_kind ?_ ?_
      all_goals simp [hkind, hsame]

/-- One call keeps the sidecar to registered toplevels exactly under the condition. -/
theorem AuthorityEnds.move_iff (hends : r.AuthorityEnds) {op : Op} {effs : List RegistryEffect}
    (hmove : Move r op effs next) :
    next.AuthorityEnds ∧ r.SteersRegistered effs ↔ r.SparesUnregistered op := by
  cases hmove with
  | idle op effs heffs hdrops =>
    refine iff_of_true ⟨hends, fun eff heff hsteers => ?_⟩ ?_
    · simp [heffs eff heff, RegistryEffect.Steers] at hsteers
    · cases op with
      | updateToplevel | setVisibility =>
        intro hxid e hentry hgen
        exact absurd hgen (not_lt.mpr (hdrops.resolve_left hxid e hentry))
      | _ => trivial
  | bindNew | unregisterSurface =>
    exact iff_of_true ⟨hends.put fun _ => rfl, steersRegistered_of_kind nofun nofun⟩ trivial
  | bindPromote hxid hentry hrep eff seq happlied hkind
  | bindOver hxid hentry hrep eff seq happlied hkind =>
    refine iff_of_true ⟨hends.put_kept hentry rfl rfl, steersRegistered_of_kind ?_ ?_⟩ trivial
    all_goals simp [hkind]
  | unbindKeep hxid hentry hreg =>
    exact iff_of_true ⟨hends.put_kept hentry rfl rfl, steersRegistered_of_kind nofun nofun⟩
      trivial
  | unbindErase => exact iff_of_true ⟨hends.drop, steersRegistered_of_kind nofun nofun⟩ trivial
  | registerSurface hxid hentry hgen howner hsurface eff seq happlied hkind
  | registerAgain hxid hentry hgen howner hsurface hended eff seq happlied hkind
  | registerPlaceholder hxid hentry hgen howner hsurface hrep eff seq happlied hkind
  | registerCreate hxid hentry hgen howner hsurface hrep eff seq happlied hkind =>
    refine iff_of_true ⟨hends.put nofun, steersRegistered_of_kind ?_ ?_⟩ trivial
    all_goals simp [hkind]
  | update hxid hentry hgen eff seq happlied heff hkind =>
    exact hends.update_iff hxid hentry hgen _ _ _ heff hkind
  | visibility hxid hentry hgen eff seq happlied heff hkind =>
    exact hends.visibility_iff hxid hentry hgen _ heff hkind
  | unregisterPlaceholder | unregisterEmpty =>
    exact iff_of_true ⟨hends.drop, steersRegistered_of_kind nofun nofun⟩ trivial
  | cascade howner heffs =>
    refine iff_of_true ⟨fun key e hfound => ?_, fun eff heff hsteers => ?_⟩ trivial
    · exact hends key e (Table.of_filter hfound)
    · rw [heffs, takeOrphanedPopups, if_neg howner] at heff
      obtain ⟨o, -, rfl⟩ := List.mem_map.mp heff
      unfold Entry.orphanEffect RegistryEffect.Steers at hsteers
      split_ifs at hsteers <;> simp at hsteers
  | paint hentry =>
    exact iff_of_true ⟨hends.put_kept hentry rfl rfl, by simp [SteersRegistered]⟩ trivial

end WindowRegistry

/-- In every state of a run no unregistered entry has an authored extent, and every call
steers registered toplevels only, exactly when no newer update or visibility call changes
anything for an entry that is not registered. -/
theorem authority_ends_iff (ops : List Op) :
    (∀ before after, ops = before ++ after → ∀ (key : Nat) (e : Entry),
        (({} : WindowRegistry).after before).entries[key]? = some e →
        e.toplevelRegistered = false → e.extentAuthoritative = false) ∧
      AlongFold (fun r op => (WindowRegistry.call r op).2)
        (fun r op => ∀ eff ∈ (r.call op).1, eff.kind = .applyGeometry ∨ eff.kind = .setVisibility →
          ∃ e, r.entries[eff.xid]? = some e ∧ e.toplevelRegistered = true) {} ops ↔
      AlongFold (fun r op => (WindowRegistry.call r op).2) WindowRegistry.SparesUnregistered {}
        ops := by
  have hempty : ({} : WindowRegistry).AuthorityEnds := by simp [WindowRegistry.AuthorityEnds]
  have hstep : ∀ (r : WindowRegistry) (op : Op), r.AuthorityEnds →
      ((r.call op).2.AuthorityEnds ∧ r.SteersRegistered (r.call op).1 ↔
        r.SparesUnregistered op) := fun r op hends => hends.move_iff (r.call_move op)
  exact holds_along_iff hstep hempty ops

/-- A window known only from its surface is resized by an update. -/
theorem update_steers_unregistered :
    ∃ eff ∈ ((({} : WindowRegistry).after [.bindSurface 5 9]).call
        (.updateToplevel 5 1 "" { width := 640, height := 480 } .none)).1,
      eff.kind = .applyGeometry ∧ eff.xid = 5 ∧
        (({} : WindowRegistry).after [.bindSurface 5 9,
            .updateToplevel 5 1 "" { width := 640, height := 480 }
              .none]).authoritativeExtentForXid 5 = some (640, 480) ∧
        ((({} : WindowRegistry).after [.bindSurface 5 9]).entries[5]?).map
          Entry.toplevelRegistered = some false := by
  decide +kernel

end VkRelay.Registry
