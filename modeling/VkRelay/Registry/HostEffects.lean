import VkRelay.Lib.Machine
import VkRelay.Registry.Invariant

/-!
The host's placeholder windows, as the effects open and close them. The host refuses
to open an id twice and to close or promote one that is not open; the effects of a run
are never refused, and the windows left open are those of the live entries.
-/

namespace VkRelay.Registry

open VkRelay.Lib

/-- The ids of every placeholder window ever opened, and of those still open. -/
structure Host where
  created : Finset Nat := ∅
  windows : Finset Nat := ∅

def Host.apply (host : Host) (eff : RegistryEffect) : Option Host :=
  match eff.kind with
  | .createPlaceholder =>
    if eff.placeholderId ∈ host.created then none
    else some
      { created := insert eff.placeholderId host.created
        windows := insert eff.placeholderId host.windows }
  | .destroyPlaceholder | .promotePlaceholderToSurface =>
    if eff.placeholderId ∈ host.windows then
      some { host with windows := host.windows.erase eff.placeholderId }
    else none
  | .none | .applyGeometry | .setVisibility => some host

namespace Host

variable {host : Host} {eff : RegistryEffect}

theorem run_keep {effs : List RegistryEffect}
    (hkinds : ∀ eff ∈ effs, eff.kind = .none ∨ eff.kind = .applyGeometry ∨
      eff.kind = .setVisibility) :
    run apply host effs = some host := by
  induction effs with
  | nil => rfl
  | cons eff effs ih =>
    obtain ⟨hkind, hrest⟩ := List.forall_mem_cons.mp hkinds
    have happly : host.apply eff = some host := by
      rcases hkind with hkind | hkind | hkind <;> simp [apply, hkind]
    rw [run_cons, happly, Option.bind_some, ih hrest]

theorem run_open (hkind : eff.kind = .createPlaceholder)
    (hfresh : eff.placeholderId ∉ host.created) :
    run apply host [eff] = some
      { created := insert eff.placeholderId host.created
        windows := insert eff.placeholderId host.windows } := by
  simp [run_cons, apply, hkind, hfresh]

theorem apply_close
    (hkind : eff.kind = .destroyPlaceholder ∨ eff.kind = .promotePlaceholderToSurface)
    (hopen : eff.placeholderId ∈ host.windows) :
    host.apply eff = some { host with windows := host.windows.erase eff.placeholderId } := by
  rcases hkind with hkind | hkind <;> simp [apply, hkind, hopen]

/-- The host follows the effects of a cascade: each closes the popup's own window. -/
theorem run_orphans (ownerXid : Nat) {orphans : List (Nat × Entry)}
    (hopen : ∀ o ∈ orphans, o.2.representation = .placeholder → o.2.placeholderId ∈ host.windows)
    (hdistinct : orphans.Pairwise fun a b =>
      a.2.representation = .placeholder → b.2.representation = .placeholder →
        a.2.placeholderId ≠ b.2.placeholderId) :
    ∃ last, run apply host (orphans.map fun o => o.2.orphanEffect ownerXid) = some last ∧
      last.created = host.created ∧
      ∀ id, id ∈ last.windows ↔ id ∈ host.windows ∧
        ∀ o ∈ orphans, o.2.representation = .placeholder → o.2.placeholderId ≠ id := by
  induction orphans generalizing host with
  | nil => exact ⟨host, rfl, rfl, by simp⟩
  | cons o rest ih =>
    obtain ⟨hhead, hrest⟩ := List.forall_mem_cons.mp hopen
    obtain ⟨hapart, hdistinct⟩ := List.pairwise_cons.mp hdistinct
    rw [List.map_cons, run_cons]
    by_cases hrep : o.2.representation = .placeholder
    · have hstep : host.apply (o.2.orphanEffect ownerXid) =
          some { host with windows := host.windows.erase o.2.placeholderId } := by
        rw [Entry.orphanEffect, if_pos hrep]
        exact apply_close (.inl rfl) (hhead hrep)
      have hkept : ∀ p ∈ rest, p.2.representation = .placeholder →
          p.2.placeholderId ∈ host.windows.erase o.2.placeholderId := fun p hp hprep =>
        Finset.mem_erase.mpr ⟨(hapart p hp hrep hprep).symm, hrest p hp hprep⟩
      obtain ⟨last, hrun, hcreated, hwindows⟩ :=
        @ih { host with windows := host.windows.erase o.2.placeholderId } hkept hdistinct
      refine ⟨last, by rw [hstep, Option.bind_some, hrun], hcreated, fun id => ?_⟩
      rw [hwindows, Finset.mem_erase, List.forall_mem_cons]
      constructor
      · rintro ⟨⟨hne, hid⟩, hothers⟩
        exact ⟨hid, fun _ => hne.symm, hothers⟩
      · rintro ⟨hid, hne, hothers⟩
        exact ⟨⟨(hne hrep).symm, hid⟩, hothers⟩
    · have hstep : host.apply (o.2.orphanEffect ownerXid) = some host := by
        rw [Entry.orphanEffect, if_neg hrep]
        rfl
      obtain ⟨last, hrun, hcreated, hwindows⟩ := ih hrest hdistinct
      refine ⟨last, by rw [hstep, Option.bind_some, hrun], hcreated, fun id => ?_⟩
      rw [hwindows, List.forall_mem_cons]
      exact and_congr_right fun _ => (and_iff_right fun hplaceholder => absurd hplaceholder
        hrep).symm

end Host

/-- The host has open exactly the windows of the registry's placeholders. -/
structure Mirrors (r : WindowRegistry) (host : Host) : Prop where
  windows : ∀ id, id ∈ host.windows ↔ id ≠ 0 ∧ ∃ key, r.placeholderIdForXid key = id
  created : ∀ id ∈ host.created, id ≤ r.nextPlaceholderId

namespace Mirrors

variable {r next : WindowRegistry} {host : Host}

theorem keep (hmirrors : Mirrors r host)
    (hids : next.placeholderIdForXid = r.placeholderIdForXid)
    (hcounter : next.nextPlaceholderId = r.nextPlaceholderId) : Mirrors next host :=
  ⟨fun id => by rw [hids]; exact hmirrors.windows id,
    fun id hid => hcounter ▸ hmirrors.created id hid⟩

theorem add (hmirrors : Mirrors r host) {xid : Nat} (hnone : r.placeholderIdForXid xid = 0)
    (hids : next.placeholderIdForXid =
      Function.update r.placeholderIdForXid xid (r.nextPlaceholderId + 1))
    (hcounter : next.nextPlaceholderId = r.nextPlaceholderId + 1) :
    Mirrors next
      { created := insert (r.nextPlaceholderId + 1) host.created
        windows := insert (r.nextPlaceholderId + 1) host.windows } := by
  refine ⟨fun id => ?_, fun id hid => ?_⟩
  · rw [Finset.mem_insert, hmirrors.windows, hids]
    constructor
    · rintro (rfl | ⟨hne, key, hkey⟩)
      · exact ⟨Nat.succ_ne_zero _, xid, Function.update_self ..⟩
      · have hother : key ≠ xid := by
          rintro rfl
          exact hne (hkey.symm.trans hnone)
        exact ⟨hne, key, by rw [Function.update_of_ne hother, hkey]⟩
    · rintro ⟨hne, key, hkey⟩
      by_cases hsame : key = xid
      · subst hsame
        rw [Function.update_self] at hkey
        exact .inl hkey.symm
      · rw [Function.update_of_ne hsame] at hkey
        exact .inr ⟨hne, key, hkey⟩
  · rw [hcounter]
    rcases Finset.mem_insert.mp hid with rfl | hid
    · exact le_rfl
    · exact (hmirrors.created id hid).trans (Nat.le_succ _)

theorem remove (hmirrors : Mirrors r host) (hsound : r.Sound) {xid : Nat}
    (hids : next.placeholderIdForXid = Function.update r.placeholderIdForXid xid 0)
    (hcounter : next.nextPlaceholderId = r.nextPlaceholderId) :
    Mirrors next { host with windows := host.windows.erase (r.placeholderIdForXid xid) } := by
  refine ⟨fun id => ?_, fun id hid => hcounter ▸ hmirrors.created id hid⟩
  rw [Finset.mem_erase, hmirrors.windows, hids]
  constructor
  · rintro ⟨hne, hid, key, hkey⟩
    have hother : key ≠ xid := by
      rintro rfl
      exact hne hkey.symm
    exact ⟨hid, key, by rw [Function.update_of_ne hother, hkey]⟩
  · rintro ⟨hid, key, hkey⟩
    have hother : key ≠ xid := by
      rintro rfl
      exact hid (hkey.symm.trans (Function.update_self ..))
    rw [Function.update_of_ne hother] at hkey
    refine ⟨fun hsame => hother ?_, hid, key, hkey⟩
    exact hsound.placeholders.read_inj (hkey.trans hsame) (ne_of_eq_of_ne hkey hid)

/-- The owner's popups give up their windows, all at once in the registry and one after
another on the host. -/
theorem cascade (hmirrors : Mirrors r host) (hsound : r.Sound) {ownerXid : Nat}
    (howner : ownerXid ≠ 0) :
    ∃ last, run Host.apply host (r.takeOrphanedPopups ownerXid).1 = some last ∧
      Mirrors { r with entries := r.entries.filter fun _ e => !e.ownedBy ownerXid } last := by
  rw [WindowRegistry.takeOrphanedPopups, if_neg howner]
  set orphans := r.entries.toList.filter fun entry => entry.2.ownedBy ownerXid
  have hmem : ∀ o ∈ orphans, r.entries[o.1]? = some o.2 ∧ o.2.ownedBy ownerXid = true := by
    intro o ho
    obtain ⟨hlisted, howned⟩ := List.mem_filter.mp ho
    exact ⟨(Table.mem_toList_iff r.entries o.1 o.2).mp hlisted, howned⟩
  have hread : ∀ o ∈ orphans, r.placeholderIdForXid o.1 = o.2.placeholderId := fun o ho =>
    Table.read_of_some r.entries Entry.placeholderId (hmem o ho).1
  have hid : ∀ o ∈ orphans, o.2.representation = .placeholder → o.2.placeholderId ≠ 0 :=
    fun o ho hrep => (hsound.entry o.1 o.2 (hmem o ho).1).placeholder_iff.mp hrep
  have hdistinct : orphans.Pairwise fun a b =>
      a.2.representation = .placeholder → b.2.representation = .placeholder →
        a.2.placeholderId ≠ b.2.placeholderId := by
    have hkeys : orphans.Pairwise fun a b => a.1 ≠ b.1 :=
      (List.pairwise_map.mp (Table.nodup_keys_toList r.entries)).filter _
    refine hkeys.imp_of_mem fun {a b} ha hb hne hrep _ hsame => hne ?_
    exact hsound.placeholders.inj (hmem a ha).1 (hmem b hb).1 hsame (hid a ha hrep)
  obtain ⟨last, hrun, hcreated, hwindows⟩ := @Host.run_orphans host ownerXid orphans
    (fun o ho hrep => (hmirrors.windows _).mpr ⟨hid o ho hrep, o.1, hread o ho⟩) hdistinct
  refine ⟨last, hrun, fun id => ?_, fun id hin => hmirrors.created id (hcreated ▸ hin)⟩
  rw [hwindows, hmirrors.windows]
  simp only [WindowRegistry.placeholderIdForXid, Table.read_filter]
  constructor
  · rintro ⟨⟨hne, key, hkey⟩, hothers⟩
    refine ⟨hne, key, ?_⟩
    obtain ⟨e, hentry⟩ := Table.exists_of_read_ne_zero _ _ (ne_of_eq_of_ne hkey hne)
    have hsame : e.placeholderId = id := (Table.read_of_some _ _ hentry).symm.trans hkey
    have hkept : e.ownedBy ownerXid = false := by
      by_contra howned
      have hlisted : (key, e) ∈ orphans :=
        List.mem_filter.mpr ⟨(Table.mem_toList_iff _ _ _).mpr hentry, by simpa using howned⟩
      refine hothers _ hlisted ?_ hsame
      exact (hsound.entry key e hentry).placeholder_iff.mpr (hsame ▸ hne)
    rw [hentry, Option.all_some, hkept, Bool.not_false, if_pos rfl]
    exact hkey
  · rintro ⟨hne, key, hkey⟩
    split_ifs at hkey with hkept
    · refine ⟨⟨hne, key, hkey⟩, fun o ho _ hsame => ?_⟩
      have hother : o.1 = key := by
        refine hsound.placeholders.read_inj ?_ ?_
        · exact (hread o ho).trans (hsame.trans hkey.symm)
        · exact ne_of_eq_of_ne ((hread o ho).trans hsame) hne
      rw [← hother, (hmem o ho).1, Option.all_some, (hmem o ho).2] at hkept
      cases hkept
    · exact absurd hkey.symm hne

theorem move (hmirrors : Mirrors r host) (hsound : r.Sound) {op : Op} {effs : List RegistryEffect}
    (hop : op.Handled) (hmove : Move r op effs next) :
    ∃ last, run Host.apply host effs = some last ∧ Mirrors next last := by
  -- The entry keeps its id, and the host has nothing to open or close.
  have hkept : ∀ {xid : Nat} {old e : Entry}, r.entries[xid]? = some old →
      old.placeholderId = e.placeholderId →
      Table.read (r.entries.insert xid e) Entry.placeholderId = r.placeholderIdForXid :=
    fun hold hsame => Table.read_insert_kept _ _ hold hsame
  have hread : ∀ {xid : Nat} {e : Entry}, r.entries[xid]? = some e →
      r.placeholderIdForXid xid = e.placeholderId := fun hentry => Table.read_of_some _ _ hentry
  have hgone : ∀ {xid : Nat} {e : Entry}, r.entries[xid]? = some e → e.placeholderId = 0 →
      Table.read (r.entries.erase xid) Entry.placeholderId = r.placeholderIdForXid := by
    intro xid e hentry hzero
    rw [Table.read_erase]
    exact Function.update_eq_self_iff.mpr ((hread hentry).trans hzero).symm
  cases hmove with
  | idle op effs heffs hdrops =>
    exact ⟨host, Host.run_keep fun eff heff => .inl (by rw [heffs eff heff]), hmirrors⟩
  | bindNew hxid hentry =>
    refine ⟨host, Host.run_keep (by simp), hmirrors.keep ?_ rfl⟩
    have hzero : r.placeholderIdForXid _ = 0 := Table.read_of_none _ _ hentry
    refine (Table.read_insert _ _ _ _).trans ?_
    exact Function.update_eq_self_iff.mpr hzero.symm
  | bindPromote hxid hentry hrep eff seq happlied hkind hid =>
    have hne := (hsound.entry _ _ hentry).placeholder_iff.mp hrep
    have hopen : eff.placeholderId ∈ host.windows :=
      (hmirrors.windows _).mpr ⟨hid ▸ hne, _, (hread hentry).trans hid.symm⟩
    refine ⟨_, by rw [run_cons, Host.apply_close (.inr hkind) hopen]; rfl, ?_⟩
    rw [hid, ← hread hentry]
    exact hmirrors.remove hsound (Table.read_insert _ _ _ _) rfl
  | bindOver hxid hentry hrep eff seq happlied hkind
  | registerSurface hxid hentry hgen howner hsurface eff seq happlied hkind
  | registerAgain hxid hentry hgen howner hsurface hended eff seq happlied hkind
  | registerPlaceholder hxid hentry hgen howner hsurface hrep eff seq happlied hkind =>
    exact ⟨host, Host.run_keep (by simp [hkind]), hmirrors.keep (hkept hentry rfl) rfl⟩
  | unbindKeep hxid hentry hreg | unregisterSurface hxid hentry hgen hrep hsurface =>
    exact ⟨host, Host.run_keep (by simp), hmirrors.keep (hkept hentry rfl) rfl⟩
  | unbindErase hxid hentry hreg =>
    have he := hsound.entry _ _ hentry
    have hzero : _ = 0 := he.placeholderId_eq_zero fun hrep => by
      rw [he.registered (by simp [hrep])] at hreg
      cases hreg
    exact ⟨host, Host.run_keep (by simp), hmirrors.keep (hgone hentry hzero) rfl⟩
  | registerCreate hxid hentry hgen howner hsurface hrep eff seq happlied hkind hid =>
    have hzero := hsound.placeholderIdForXid_eq_zero (hentry ▸ hrep)
    have hfresh : eff.placeholderId ∉ host.created := fun hin => by
      have := hmirrors.created _ hin
      omega
    refine ⟨_, Host.run_open hkind hfresh, ?_⟩
    rw [hid]
    exact hmirrors.add hzero (Table.read_insert _ _ _ _) rfl
  | update hxid hentry hgen eff seq happlied heff hkind
  | visibility hxid hentry hgen eff seq happlied heff hkind =>
    refine ⟨host, Host.run_keep ?_, hmirrors.keep (hkept hentry rfl) rfl⟩
    split_ifs at hkind <;> simp [hkind]
  | unregisterPlaceholder hxid hentry hgen hrep =>
    have hne := (hsound.entry _ _ hentry).placeholder_iff.mp hrep
    have hopen := (hmirrors.windows _).mpr ⟨hne, _, hread hentry⟩
    refine ⟨_, by rw [run_cons, Host.apply_close (.inl rfl) hopen]; rfl, ?_⟩
    rw [← hread hentry]
    exact hmirrors.remove hsound (Table.read_erase _ _ _) rfl
  | unregisterEmpty hxid hentry hgen hrep hsurface =>
    have hzero := (hsound.entry _ _ hentry).placeholderId_eq_zero hrep
    exact ⟨host, Host.run_keep (by simp), hmirrors.keep (hgone hentry hzero) rfl⟩
  | cascade howner heffs => exact heffs ▸ hmirrors.cascade hsound howner
  | paint hentry hrep => exact ⟨host, rfl, hmirrors.keep (hkept hentry rfl) rfl⟩

end Mirrors

/-- Over a whole run: the host accepts every effect and mirrors the registry at the end. -/
theorem Mirrors.after {r : WindowRegistry} {host : Host} (hmirrors : Mirrors r host)
    (hsound : r.Sound) {ops : List Op} (hops : ∀ op ∈ ops, op.Handled) :
    ∃ last, run Host.apply host (r.effects ops) = some last ∧ Mirrors (r.after ops) last := by
  induction ops generalizing r host with
  | nil => exact ⟨host, rfl, hmirrors⟩
  | cons op ops ih =>
    obtain ⟨hop, hrest⟩ := List.forall_mem_cons.mp hops
    have hmove := r.call_move op
    obtain ⟨mid, hmid, hmirrors'⟩ := hmirrors.move hsound hop hmove
    obtain ⟨last, hlast, hend⟩ := ih hmirrors' (hsound.move hop hmove) hrest
    refine ⟨last, ?_, hend⟩
    rw [WindowRegistry.effects, run_append, hmid, Option.bind_some, hlast]

/-- The host effects balance: no effect of a run is refused, and after it the windows
still open are exactly the placeholders of the live entries. -/
theorem host_effects_balance (ops : List Op) (hops : ∀ op ∈ ops, op.Handled) :
    ∃ host, run Host.apply {} (({} : WindowRegistry).effects ops) = some host ∧
      ∀ id, id ∈ host.windows ↔ ∃ (key : Nat) (e : Entry),
        (({} : WindowRegistry).after ops).entries[key]? = some e ∧
          e.representation = .placeholder ∧ e.placeholderId = id := by
  have hempty : Mirrors {} {} :=
    ⟨by simp [WindowRegistry.placeholderIdForXid, Table.read, eq_comm], by simp⟩
  have hsound := WindowRegistry.Sound.empty.after hops
  obtain ⟨host, hrun, hmirrors⟩ := hempty.after WindowRegistry.Sound.empty hops
  refine ⟨host, hrun, fun id => ?_⟩
  rw [hmirrors.windows]
  constructor
  · rintro ⟨hid, key, hkey⟩
    obtain ⟨e, hentry⟩ := Table.exists_of_read_ne_zero _ _ (ne_of_eq_of_ne hkey hid)
    have hsame : e.placeholderId = id := (Table.read_of_some _ _ hentry).symm.trans hkey
    exact ⟨key, e, hentry, (hsound.entry key e hentry).placeholder_iff.mpr (hsame ▸ hid), hsame⟩
  · rintro ⟨key, e, hentry, hrep, rfl⟩
    exact ⟨(hsound.entry key e hentry).placeholder_iff.mp hrep, key, Table.read_of_some _ _ hentry⟩

def torndown : List Op :=
  [.registerToplevel 5 1 {}, .registerToplevel 6 1 { isPopup := true, ownerXid := 5 },
    .unregisterToplevel 5 2, .takeOrphanedPopups 5]

theorem host_effects_balance_torndown :
    ∃ host, run Host.apply {} (({} : WindowRegistry).effects torndown) = some host ∧
      host.windows = ∅ := by
  obtain ⟨host, hrun, hwindows⟩ := host_effects_balance torndown (by simp [torndown, Op.Handled])
  refine ⟨host, hrun, Finset.eq_empty_of_forall_notMem fun id hid => ?_⟩
  obtain ⟨key, e, hentry, -⟩ := (hwindows id).mp hid
  have hnone : (({} : WindowRegistry).after torndown).entries.toList = [] := by decide +kernel
  rw [← Table.mem_toList_iff, hnone] at hentry
  cases hentry

end VkRelay.Registry
