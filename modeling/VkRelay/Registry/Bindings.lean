import VkRelay.Lib.Folds
import VkRelay.Registry.Moves

/-!
The surface bound to a window, against what the app's own bind and unbind calls make of
it. The sidecar's calls leave a binding alone, except for one: the cascade of an owner's
teardown erases a popup's entry whether or not the app has a surface on it.
-/

namespace VkRelay.Registry

open VkRelay.Lib

/-- The surface of one window as the app's own calls have it: the last bind wins, and an
unbind of the bound handle clears it. -/
def bound (xid surface : Nat) : Op → Nat
  | .bindSurface x s => if x = xid then s else surface
  | .unbindSurface x s => if x = xid ∧ s = surface then 0 else surface
  | _ => surface

namespace WindowRegistry

variable {r next : WindowRegistry}

/-- The null window has no entry, and only a surface representation has a surface. -/
def Placed (r : WindowRegistry) : Prop :=
  ∀ (key : Nat) (e : Entry), r.entries[key]? = some e →
    key ≠ 0 ∧ (e.representation ≠ .surface → e.surface = 0)

/-- The call leaves the binding of a window to the app: it binds nothing to the null window
and erases no popup that has a surface. -/
def KeepsBinding (xid : Nat) (r : WindowRegistry) : Op → Prop
  | .bindSurface x surface => x = xid → xid = 0 → surface = 0
  | .takeOrphanedPopups ownerXid =>
    ownerXid ≠ 0 → ∀ e, r.entries[xid]? = some e → e.ownedBy ownerXid = true → e.surface = 0
  | _ => True

theorem Placed.put (hplaced : r.Placed) {xid : Nat} {e : Entry} (hxid : xid ≠ 0)
    (he : e.representation ≠ .surface → e.surface = 0) : (r.put xid e).Placed := by
  intro key value hfound
  rcases Table.insert_cases hfound with ⟨rfl, rfl⟩ | hfound
  · exact ⟨hxid, he⟩
  · exact hplaced key value hfound

theorem Placed.drop (hplaced : r.Placed) (xid : Nat) : (r.drop xid).Placed := by
  intro key value hfound
  exact hplaced key value (Table.of_erase hfound)

theorem Placed.move (hplaced : r.Placed) {op : Op} {effs : List RegistryEffect}
    (hmove : Move r op effs next) : next.Placed := by
  cases hmove with
  | idle => exact hplaced
  | bindNew hxid | bindPromote hxid | bindOver hxid | registerSurface hxid | registerAgain hxid =>
    exact hplaced.put hxid fun hrep => absurd rfl hrep
  | unbindKeep hxid => exact hplaced.put hxid fun _ => rfl
  | unbindErase | unregisterPlaceholder | unregisterEmpty => exact hplaced.drop _
  | registerPlaceholder hxid hentry hgen howner hsurface
  | registerCreate hxid hentry hgen howner hsurface =>
    exact hplaced.put hxid fun _ => hsurface
  | update hxid hentry | visibility hxid hentry | unregisterSurface hxid hentry =>
    exact hplaced.put hxid (hplaced _ _ hentry).2
  | cascade howner =>
    intro key e hfound
    exact hplaced key e (Table.of_filter hfound)
  | paint hentry => exact hplaced.put (hplaced _ _ hentry).1 (hplaced _ _ hentry).2

theorem Placed.surfaceForXid_zero (hplaced : r.Placed) : r.surfaceForXid 0 = 0 := by
  cases hentry : r.entries[0]? with
  | none => exact Table.read_of_none _ _ hentry
  | some e => exact absurd rfl (hplaced 0 e hentry).1

/-- A dropped call: the app's own view moves only with the null window. -/
theorem Drops.bound_eq_iff (hplaced : r.Placed) {op : Op} (hdrops : r.Drops op) (xid : Nat) :
    r.surfaceForXid xid = bound xid (r.surfaceForXid xid) op ↔ KeepsBinding xid r op := by
  cases op with
  | bindSurface x surface =>
    subst hdrops
    rw [bound, KeepsBinding]
    split_ifs with hxid
    · subst hxid
      simp [hplaced.surfaceForXid_zero, eq_comm]
    · simp [hxid]
  | unbindSurface x surface =>
    refine iff_of_true ?_ trivial
    rw [bound]
    split_ifs with hsame
    · obtain ⟨rfl, hsurface⟩ := hsame
      rcases hdrops with rfl | hother
      · exact hplaced.surfaceForXid_zero
      · cases hentry : r.entries[x]? with
        | none => exact Table.read_of_none _ _ hentry
        | some e =>
          exact absurd ((Table.read_of_some _ _ hentry).symm.trans hsurface.symm)
            (hother e hentry)
    · rfl
  | takeOrphanedPopups ownerXid => exact iff_of_true rfl fun howner => absurd hdrops howner
  | registerToplevel | updateToplevel | setVisibility | unregisterToplevel
  | commitPlaceholderPaint => exact iff_of_true rfl trivial

theorem surfaceForXid_cascade (xid ownerXid : Nat) :
    Table.read (r.entries.filter fun _ e => !e.ownedBy ownerXid) Entry.surface xid =
        r.surfaceForXid xid ↔
      ∀ e, r.entries[xid]? = some e → e.ownedBy ownerXid = true → e.surface = 0 := by
  rw [Table.read_filter]
  cases hentry : r.entries[xid]? with
  | none => simp [surfaceForXid]
  | some e =>
    have hread : r.surfaceForXid xid = e.surface := Table.read_of_some _ _ hentry
    cases howned : e.ownedBy ownerXid with
    | false => simp [howned, surfaceForXid]
    | true =>
      rw [Option.all_some, howned, Bool.not_true, if_neg Bool.false_ne_true, hread]
      constructor
      · rintro hzero other hother -
        cases hother
        exact hzero.symm
      · exact fun hall => (hall e rfl howned).symm

/-- One call: the binding is what the app's own calls make of it exactly when the call
leaves it to them. -/
theorem surfaceForXid_move (hplaced : r.Placed) {op : Op} {effs : List RegistryEffect}
    (hmove : Move r op effs next) (xid : Nat) :
    next.surfaceForXid xid = bound xid (r.surfaceForXid xid) op ↔ KeepsBinding xid r op := by
  have hput : ∀ {x : Nat} {e : Entry}, Table.read (r.entries.insert x e) Entry.surface xid =
      if xid = x then e.surface else r.surfaceForXid xid := fun {x e} => by
    rw [Table.read_insert, Function.update_apply]
    rfl
  have hkept : ∀ {x : Nat} {old e : Entry}, r.entries[x]? = some old → old.surface = e.surface →
      Table.read (r.entries.insert x e) Entry.surface xid = r.surfaceForXid xid :=
    fun hold hsame => congrFun (Table.read_insert_kept _ _ hold hsame) xid
  have hdrop : ∀ {x : Nat}, r.surfaceForXid x = 0 →
      (r.drop x).surfaceForXid xid = r.surfaceForXid xid := fun {x} hzero => by
    rw [surfaceForXid, WindowRegistry.drop, Table.read_erase]
    exact congrFun (Function.update_eq_self_iff.mpr hzero.symm) xid
  have hread : ∀ {x : Nat} {e : Entry}, r.entries[x]? = some e → r.surfaceForXid x = e.surface :=
    fun hentry => Table.read_of_some _ _ hentry
  have hbind : ∀ {x surface : Nat} {e : Entry}, x ≠ 0 → e.surface = surface →
      (Table.read (r.entries.insert x e) Entry.surface xid =
        bound xid (r.surfaceForXid xid) (.bindSurface x surface) ↔
      KeepsBinding xid r (.bindSurface x surface)) := by
    intro x surface e hx hsurface
    refine iff_of_true ?_ fun hsame hzero => absurd (hsame.trans hzero) hx
    rw [hput, hsurface, bound]
    simp only [eq_comm]
  have hunbind : ∀ {x : Nat} {e : Entry}, r.entries[x]? = some e →
      (if xid = x then 0 else r.surfaceForXid xid) =
        bound xid (r.surfaceForXid xid) (.unbindSurface x e.surface) := by
    intro x e hentry
    by_cases hxid : xid = x
    · subst hxid
      simp [bound, hread hentry]
    · simp [bound, hxid, Ne.symm hxid]
  cases hmove with
  | idle op effs heffs hdrops => exact hdrops.bound_eq_iff hplaced xid
  | bindNew hx | bindPromote hx | bindOver hx => exact hbind hx rfl
  | unbindKeep hx hentry => exact iff_of_true (hput.trans (hunbind hentry)) trivial
  | unbindErase hx hentry =>
    refine iff_of_true (Eq.trans ?_ (hunbind hentry)) trivial
    rw [surfaceForXid, WindowRegistry.drop, Table.read_erase, Function.update_apply]
    rfl
  | registerSurface hx hentry | registerAgain hx hentry | registerPlaceholder hx hentry
  | update hx hentry | visibility hx hentry | unregisterSurface hx hentry | paint hentry =>
    exact iff_of_true (hkept hentry rfl) trivial
  | @registerCreate x generation top e hx hentry hgen howner hsurface =>
    have hzero : r.surfaceForXid x = 0 := by
      cases hfound : r.entries[x]? with
      | none => exact Table.read_of_none _ _ hfound
      | some old =>
        rw [hfound, Option.getD_some] at hentry
        exact (hread hfound).trans (hentry ▸ hsurface)
    -- A placeholder is made only where no surface is bound.
    refine iff_of_true (hput.trans ?_) trivial
    split_ifs with hxid
    · exact hsurface.trans (hxid ▸ hzero.symm)
    · rfl
  | unregisterPlaceholder hx hentry hgen hrep =>
    have hzero := (hplaced _ _ hentry).2 (by simp [hrep])
    exact iff_of_true (hdrop ((hread hentry).trans hzero)) trivial
  | unregisterEmpty hx hentry hgen hrep hsurface =>
    exact iff_of_true (hdrop ((hread hentry).trans hsurface)) trivial
  | cascade howner => exact (surfaceForXid_cascade xid _).trans (imp_iff_right howner).symm

end WindowRegistry

/-! ## Whole runs -/

/-- The binding of a window is what the app's own calls make of it in every state of a run
exactly when every call of the run leaves it to them. -/
theorem surface_follows_app_iff (xid : Nat) (ops : List Op) :
    (∀ before after, ops = before ++ after →
        (({} : WindowRegistry).after before).surfaceForXid xid = before.foldl (bound xid) 0) ↔
      AlongFold (fun r op => (WindowRegistry.call r op).2) (WindowRegistry.KeepsBinding xid) {}
        ops := by
  have hempty : ({} : WindowRegistry).Placed := by simp [WindowRegistry.Placed]
  have hstep : ∀ (r : WindowRegistry) (op : Op), r.Placed →
      ((r.call op).2.surfaceForXid xid = bound xid (r.surfaceForXid xid) op ↔
        WindowRegistry.KeepsBinding xid r op) := fun r op hplaced =>
    WindowRegistry.surfaceForXid_move hplaced (r.call_move op) xid
  exact @follows_iff _ _ _ _ (bound xid) (fun r => r.surfaceForXid xid) _
    (WindowRegistry.KeepsBinding xid) (fun r op hplaced => hplaced.move (r.call_move op)) hstep _
    hempty ops

/-- A popup with a surface goes down with its owner. -/
theorem cascade_unbinds_popup_surface :
    (({} : WindowRegistry).after
        [.registerToplevel 5 1 {}, .registerToplevel 6 1 { isPopup := true, ownerXid := 5 },
          .bindSurface 6 9, .unregisterToplevel 5 2, .takeOrphanedPopups 5]).surfaceForXid 6 = 0 ∧
      [Op.registerToplevel 5 1 {}, .registerToplevel 6 1 { isPopup := true, ownerXid := 5 },
          .bindSurface 6 9, .unregisterToplevel 5 2, .takeOrphanedPopups 5].foldl (bound 6) 0 =
        9 := by
  decide +kernel

end VkRelay.Registry
