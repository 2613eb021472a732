import VkRelay.Registry.Moves

/-!
Late sidecar calls. The generation a call is held against is the one recorded in the
window's entry, so it is forgotten when the entry is erased: a late call is dropped as
long as the entry has stayed, and may go through once the entry is gone or another stands
in its place.
-/

namespace VkRelay.Registry

open VkRelay.Lib

def Op.tag : Op → Option (Nat × Nat)
  | .registerToplevel xid generation _ | .updateToplevel xid generation _ _ _
  | .setVisibility xid generation _ | .unregisterToplevel xid generation => some (xid, generation)
  | .bindSurface _ _ | .unbindSurface _ _ | .takeOrphanedPopups _
  | .commitPlaceholderPaint _ _ _ => none

def Op.isRegister : Op → Bool
  | .registerToplevel _ _ _ => true
  | _ => false

def WindowRegistry.refusesPopup (r : WindowRegistry) : Op → Bool
  | .registerToplevel _ _ top => top.isPopup && !r.ownerLive top.ownerXid
  | _ => false

namespace WindowRegistry

variable {r next : WindowRegistry} {op : Op} {effs : List RegistryEffect} {xid generation : Nat}

/-- A toplevel call is dropped and changes nothing, or is applied and says so. -/
theorem drops_or_applied (hmove : Move r op effs next) (htag : op.tag = some (xid, generation)) :
    r.Drops op ∧ next = r ∧ (∀ eff ∈ effs, eff = {}) ∨
      ¬ r.Drops op ∧ ∃ eff ∈ effs, eff.applied = true := by
  have hnewer : ∀ {x g : Nat} {e : Entry}, x ≠ 0 → r.entries[x]? = some e → e.generation < g →
      ¬ (x = 0 ∨ ∀ f, r.entries[x]? = some f → g ≤ f.generation) := by
    rintro x g e hx hentry hgen (hzero | hall)
    · exact hx hzero
    · exact absurd hgen (not_lt.mpr (hall e hentry))
  cases hmove with
  | idle op effs heffs hdrops => exact .inl ⟨hdrops, rfl, heffs⟩
  | bindNew | bindPromote | bindOver | unbindKeep | unbindErase | cascade | paint => cases htag
  | registerSurface hx hentry hgen howner hsurface eff seq happlied
  | registerAgain hx hentry hgen howner hsurface hended eff seq happlied
  | registerPlaceholder hx hentry hgen howner hsurface hrep eff seq happlied =>
    exact .inr ⟨not_drops_registerToplevel hx (forall_newer hentry hgen) howner, eff,
      List.mem_singleton_self _, happlied⟩
  | registerCreate hx hentry hgen howner hsurface hrep eff seq happlied =>
    exact .inr ⟨not_drops_registerToplevel hx (forall_newer_getD hentry hgen) howner, eff,
      List.mem_singleton_self _, happlied⟩
  | update hx hentry hgen eff seq happlied | visibility hx hentry hgen eff seq happlied =>
    exact .inr ⟨hnewer hx hentry hgen, eff, List.mem_singleton_self _, happlied⟩
  | unregisterPlaceholder hx hentry hgen | unregisterEmpty hx hentry hgen
  | unregisterSurface hx hentry hgen =>
    exact .inr ⟨hnewer hx hentry hgen, _, List.mem_singleton_self _, rfl⟩

/-- The call is harmless exactly when it falls through a test at its head. -/
theorem call_eq_iff_drops (htag : op.tag = some (xid, generation)) :
    r.call op = ([{}], r) ↔ r.Drops op := by
  have hone : ∃ eff, (r.call op).1 = [eff] := by
    cases op with
    | registerToplevel | updateToplevel | setVisibility | unregisterToplevel => exact ⟨_, rfl⟩
    | bindSurface | unbindSurface | takeOrphanedPopups | commitPlaceholderPaint => cases htag
  obtain ⟨eff, heff⟩ := hone
  rcases drops_or_applied (r.call_move op) htag with
    ⟨hdrops, hnext, heffs⟩ | ⟨happlied, other, hother, hset⟩
  · refine iff_of_true (Prod.ext ?_ hnext) hdrops
    rw [heff, heffs eff (by simp [heff])]
  · refine iff_of_false (fun hcall => ?_) happlied
    rw [hcall] at hother
    cases List.mem_singleton.mp hother
    cases hset

theorem drops_iff (htag : op.tag = some (xid, generation)) (hxid : xid ≠ 0) :
    r.Drops op ↔ (∃ e, r.entries[xid]? = some e ∧ generation ≤ e.generation) ∨
      (r.entries[xid]? = none ∧ op.isRegister = false) ∨ r.refusesPopup op = true := by
  cases op with
  | registerToplevel x g top =>
    cases htag
    cases hentry : r.entries[xid]? <;>
      simp [Drops, hxid, stale, hentry, Op.isRegister, refusesPopup]
  | updateToplevel | setVisibility | unregisterToplevel =>
    cases htag
    cases hentry : r.entries[xid]? <;>
      simp [Drops, hxid, hentry, Op.isRegister, refusesPopup]
  | bindSurface | unbindSurface | takeOrphanedPopups | commitPlaceholderPaint => cases htag

/-! ## The recorded generation -/

/-- An entry that stays never goes back. -/
theorem generationForXid_move (hmove : Move r op effs next) (key : Nat) :
    next.entries[key]? = none ∨ r.generationForXid key ≤ next.generationForXid key := by
  have hput : ∀ {x : Nat} {e : Entry}, r.generationForXid x ≤ e.generation →
      r.generationForXid key ≤ Table.read (r.entries.insert x e) Entry.generation key := by
    intro x e hle
    rw [Table.read_insert, Function.update_apply]
    split_ifs with hkey
    · exact hkey ▸ hle
    · exact le_rfl
  have hread : ∀ {x : Nat} {e : Entry}, r.entries[x]? = some e →
      r.generationForXid x = e.generation := fun hentry => Table.read_of_some _ _ hentry
  have hdrop : ∀ {x : Nat}, (r.drop x).entries[key]? = none ∨
      r.generationForXid key ≤ (r.drop x).generationForXid key := by
    intro x
    rw [generationForXid, generationForXid, WindowRegistry.drop, Table.read_erase,
      Table.getElem?_erase_eq]
    by_cases hkey : key = x
    · exact .inl (if_pos hkey.symm)
    · exact .inr (by rw [Function.update_of_ne hkey])
  cases hmove with
  | idle => exact .inr le_rfl
  | bindNew hx hentry => exact .inr (hput (Table.read_of_none _ _ hentry).le)
  | bindPromote hx hentry | bindOver hx hentry | unbindKeep hx hentry | paint hentry =>
    exact .inr (hput (hread hentry).le)
  | unbindErase => exact hdrop
  | registerSurface hx hentry hgen | registerAgain hx hentry hgen
  | registerPlaceholder hx hentry hgen | update hx hentry hgen | visibility hx hentry hgen
  | unregisterSurface hx hentry hgen =>
    exact .inr (hput ((hread hentry).trans_le hgen.le))
  | @registerCreate x g top e hx hentry hgen =>
    refine .inr (hput ?_)
    rw [generationForXid, Table.read]
    cases hfound : r.entries[x]? with
    | none => exact Nat.zero_le _
    | some f => exact (forall_newer_getD hentry hgen f hfound).le
  | unregisterPlaceholder => exact hdrop
  | unregisterEmpty => exact hdrop
  | cascade =>
    rw [generationForXid, generationForXid, Table.read_filter, Table.getElem?_filter_eq]
    split_ifs with hkept
    · exact .inr le_rfl
    · refine .inl (Option.filter_eq_none_iff.mpr fun e hentry hkeep => hkept ?_)
      rw [hentry]
      exact hkeep

/-- An applied call records its generation, unless it erases the entry. -/
theorem generationForXid_applied (hmove : Move r op effs next)
    (htag : op.tag = some (xid, generation)) (happlied : ¬ r.Drops op) :
    next.entries[xid]? = none ∨ next.generationForXid xid = generation := by
  have hput : ∀ {x g : Nat} {e : Entry}, some (x, g) = some (xid, generation) → e.generation = g →
      Table.read (r.entries.insert x e) Entry.generation xid = generation := by
    rintro x g e htag rfl
    cases htag
    rw [Table.read_insert, Function.update_self]
  cases hmove with
  | idle op effs heffs hdrops => exact absurd hdrops happlied
  | bindNew | bindPromote | bindOver | unbindKeep | unbindErase | cascade | paint => cases htag
  | registerSurface | registerAgain | registerPlaceholder | registerCreate | update | visibility
  | unregisterSurface => exact .inr (hput htag rfl)
  | unregisterPlaceholder | unregisterEmpty =>
    cases htag
    exact .inl (by simp [WindowRegistry.drop])

theorem generationForXid_after {ops : List Op} {key : Nat}
    (hstays : ∀ before after, ops = before ++ after → (r.after before).entries[key]? ≠ none) :
    r.generationForXid key ≤ (r.after ops).generationForXid key := by
  induction ops generalizing r with
  | nil => exact le_rfl
  | cons op ops ih =>
    have hstep := (generationForXid_move (r.call_move op) key).resolve_left (hstays [op] ops rfl)
    refine hstep.trans (ih fun before after hsplit => ?_)
    exact hstays (op :: before) after (by rw [hsplit, List.cons_append])

theorem ne_zero_of_not_drops (htag : op.tag = some (xid, generation)) (happlied : ¬ r.Drops op) :
    xid ≠ 0 := by
  rintro rfl
  cases op with
  | registerToplevel | updateToplevel | setVisibility | unregisterToplevel =>
    cases htag
    exact happlied (.inl rfl)
  | bindSurface | unbindSurface | takeOrphanedPopups | commitPlaceholderPaint => cases htag

end WindowRegistry

/-- A call with a generation that an applied call on the window has already reached leaves
the registry alone exactly when the entry still records such a generation, or there is no
entry and the call does not register one, or it is a popup registration that is refused.
It always does when the entry has stayed since the applied call. -/
theorem late_call_harmless_iff (first later : List Op) (prior op : Op)
    (xid reached generation : Nat) (hprior : prior.tag = some (xid, reached))
    (happlied : ∃ eff ∈ ((({} : WindowRegistry).after first).call prior).1, eff.applied = true)
    (htag : op.tag = some (xid, generation)) (hlate : generation ≤ reached) :
    ((({} : WindowRegistry).after (first ++ prior :: later)).call op =
          ([{}], ({} : WindowRegistry).after (first ++ prior :: later)) ↔
        (∃ e, (({} : WindowRegistry).after (first ++ prior :: later)).entries[xid]? = some e ∧
          generation ≤ e.generation) ∨
        ((({} : WindowRegistry).after (first ++ prior :: later)).entries[xid]? = none ∧
          op.isRegister = false) ∨
        (({} : WindowRegistry).after (first ++ prior :: later)).refusesPopup op = true) ∧
      ((∀ before after, later = before ++ after →
          (({} : WindowRegistry).after (first ++ prior :: before)).entries[xid]? ≠ none) →
        (({} : WindowRegistry).after (first ++ prior :: later)).call op =
          ([{}], ({} : WindowRegistry).after (first ++ prior :: later))) := by
  have hmove := (({} : WindowRegistry).after first).call_move prior
  have hpassed : ¬ (({} : WindowRegistry).after first).Drops prior := by
    intro hdrops
    obtain ⟨eff, heff, hset⟩ := happlied
    rcases WindowRegistry.drops_or_applied hmove hprior with ⟨-, -, hnone⟩ | ⟨hnot, -⟩
    · cases hnone eff heff ▸ hset
    · exact hnot hdrops
  have hxid := WindowRegistry.ne_zero_of_not_drops hprior hpassed
  have hsplit : ∀ rest, ({} : WindowRegistry).after (first ++ prior :: rest) =
      ((({} : WindowRegistry).after first).call prior).2.after rest := fun rest => by
    rw [WindowRegistry.after_append]
    rfl
  refine ⟨?_, fun hstays => ?_⟩
  · rw [WindowRegistry.call_eq_iff_drops htag, WindowRegistry.drops_iff htag hxid]
  · rw [WindowRegistry.call_eq_iff_drops htag, WindowRegistry.drops_iff htag hxid]
    simp only [hsplit] at hstays ⊢
    have hrecorded := (WindowRegistry.generationForXid_applied hmove hprior hpassed).resolve_left
      (hstays [] later rfl)
    have hkept := WindowRegistry.generationForXid_after hstays
    obtain ⟨e, hentry⟩ := Option.ne_none_iff_exists'.mp (hstays later [] (by simp))
    refine .inl ⟨e, hentry, ?_⟩
    have hread : (((({} : WindowRegistry).after first).call prior).2.after
        later).generationForXid xid = e.generation := Table.read_of_some _ _ hentry
    omega

/-- A registered window is updated; a late update then changes nothing. -/
theorem late_update_is_dropped :
    (({} : WindowRegistry).after [.registerToplevel 5 5 {}, .bindSurface 5 9]).call
        (.updateToplevel 5 3 "dialog" {} .raise) =
      ([{}], ({} : WindowRegistry).after [.registerToplevel 5 5 {}, .bindSurface 5 9]) := by
  refine (late_call_harmless_iff [] [.bindSurface 5 9] (.registerToplevel 5 5 {})
    (.updateToplevel 5 3 "dialog" {} .raise) 5 5 3 rfl ?_ rfl (by decide)).1.mpr (.inl ?_)
  · exact ⟨_, List.mem_singleton_self _, by decide +kernel⟩
  · exact ⟨{ xid := 5, surface := 9, representation := .surface, toplevelRegistered := true
             generation := 5, representationEpoch := 2 }, by decide +kernel, by decide⟩

/-- The window was unregistered with generation 6; a registration with generation 3 opens
a new placeholder. -/
theorem late_register_reopens :
    ((({} : WindowRegistry).after
        [.registerToplevel 5 5 {}, .unregisterToplevel 5 6]).call
        (.registerToplevel 5 3 {})).1.map RegistryEffect.kind = [.createPlaceholder] := by
  decide +kernel

end VkRelay.Registry
