import VkRelay.Registry.Moves

/-!
The representation invariant. Every entry is filed under its own XID and has exactly
the fields its representation calls for; placeholder ids and representation epochs are
drawn from counters, so no two entries share one and none comes back.
-/

namespace VkRelay.Registry

open VkRelay.Lib

/-- The surface handles of the app's data plane are not null. -/
def Op.Handled : Op → Prop
  | .bindSurface _ surface | .unbindSurface _ surface => surface ≠ 0
  | _ => True

/-- An entry has the fields its representation calls for. -/
structure Entry.WellFormed (key : Nat) (e : Entry) : Prop where
  keyed : e.xid = key
  nonzero : key ≠ 0
  surface_iff : e.representation = .surface ↔ e.surface ≠ 0
  placeholder_iff : e.representation = .placeholder ↔ e.placeholderId ≠ 0
  registered : e.representation ≠ .surface → e.toplevelRegistered = true
  epoch : e.representationEpoch ≠ 0

namespace Entry.WellFormed

variable {key : Nat} {e : Entry}

theorem surface_eq_zero (he : e.WellFormed key) (hrep : e.representation ≠ .surface) :
    e.surface = 0 := by
  by_contra hne
  exact hrep (he.surface_iff.mpr hne)

theorem placeholderId_eq_zero (he : e.WellFormed key) (hrep : e.representation ≠ .placeholder) :
    e.placeholderId = 0 := by
  by_contra hne
  exact hrep (he.placeholder_iff.mpr hne)

theorem of_surface (hkey : e.xid = key) (hnonzero : key ≠ 0) (hrep : e.representation = .surface)
    (hsurface : e.surface ≠ 0) (hid : e.placeholderId = 0) (hepoch : e.representationEpoch ≠ 0) :
    e.WellFormed key where
  keyed := hkey
  nonzero := hnonzero
  surface_iff := by simp [hrep, hsurface]
  placeholder_iff := by simp [hrep, hid]
  registered := fun hne => absurd hrep hne
  epoch := hepoch

end Entry.WellFormed

namespace WindowRegistry

variable {r next : WindowRegistry}

structure Sound (r : WindowRegistry) : Prop where
  entry : ∀ (key : Nat) (e : Entry), r.entries[key]? = some e → e.WellFormed key
  placeholders : Drawn Entry.placeholderId r.entries r.nextPlaceholderId
  epochs : Drawn Entry.representationEpoch r.entries r.nextEpoch

namespace Sound

theorem forall_put (hsound : r.Sound) {xid : Nat} {e : Entry} (he : e.WellFormed xid) :
    ∀ (key : Nat) (value : Entry), (r.entries.insert xid e)[key]? = some value →
      value.WellFormed key := by
  intro key value hfound
  rcases Table.insert_cases hfound with ⟨rfl, rfl⟩ | hfound
  · exact he
  · exact hsound.entry key value hfound

/-- An entry keeps its epoch, and keeps its placeholder or gives it up. -/
theorem put_kept (hsound : r.Sound) {xid : Nat} {old e : Entry} (hold : r.entries[xid]? = some old)
    (he : e.WellFormed xid) (hepoch : old.representationEpoch = e.representationEpoch)
    (hid : old.placeholderId = e.placeholderId ∨ e.placeholderId = 0) : (r.put xid e).Sound where
  entry := hsound.forall_put he
  placeholders := hsound.placeholders.insert_kept (hid.imp_left fun heq => ⟨old, hold, heq⟩)
  epochs := hsound.epochs.insert_kept (.inl ⟨old, hold, hepoch⟩)

theorem put_surface (hsound : r.Sound) {xid : Nat} {e : Entry} (he : e.WellFormed xid)
    (hepoch : e.representationEpoch = r.nextEpoch + 1) (hid : e.placeholderId = 0) :
    (r.mintEpoch.put xid e).Sound where
  entry := hsound.forall_put he
  placeholders := hsound.placeholders.insert_kept (.inr hid)
  epochs := hsound.epochs.insert_next xid hepoch

theorem drop (hsound : r.Sound) (xid : Nat) : (r.drop xid).Sound where
  entry := fun key e hfound => hsound.entry key e (Table.of_erase hfound)
  placeholders := hsound.placeholders.erase xid
  epochs := hsound.epochs.erase xid

/-- The host placement counter plays no part. -/
theorem placed (hsound : r.Sound) (seq : Nat) : (r.placed seq).Sound :=
  ⟨hsound.entry, hsound.placeholders, hsound.epochs⟩

theorem empty : ({} : WindowRegistry).Sound := ⟨by simp, Drawn.empty, Drawn.empty⟩

end Sound

theorem Sound.placeholderIdForXid_eq_zero (hsound : r.Sound) {xid : Nat}
    (hrep : ((r.entries[xid]?).getD {}).representation ≠ .placeholder) :
    r.placeholderIdForXid xid = 0 := by
  cases hentry : r.entries[xid]? with
  | none => exact Table.read_of_none _ _ hentry
  | some e =>
    rw [hentry, Option.getD_some] at hrep
    exact (Table.read_of_some _ _ hentry).trans
      ((hsound.entry xid e hentry).placeholderId_eq_zero hrep)

theorem Sound.move (hsound : r.Sound) {op : Op} {effs : List RegistryEffect} (hop : op.Handled)
    (hmove : Move r op effs next) : next.Sound := by
  cases hmove with
  | idle => exact hsound
  | bindNew hxid hentry =>
    exact hsound.put_surface (.of_surface rfl hxid rfl hop rfl (Nat.succ_ne_zero _)) rfl rfl
  | bindPromote hxid hentry hrep eff seq =>
    have he := hsound.entry _ _ hentry
    apply Sound.placed
    refine hsound.put_surface ?_ rfl rfl
    exact .of_surface he.keyed hxid rfl hop rfl (Nat.succ_ne_zero _)
  | bindOver hxid hentry hrep eff seq =>
    have he := hsound.entry _ _ hentry
    have hid := he.placeholderId_eq_zero hrep
    apply Sound.placed
    refine hsound.put_surface ?_ rfl hid
    exact .of_surface he.keyed hxid rfl hop hid (Nat.succ_ne_zero _)
  | unbindKeep hxid hentry hreg =>
    have he := hsound.entry _ _ hentry
    have hid : _ = 0 := he.placeholderId_eq_zero (by simp [he.surface_iff.mpr hop])
    refine hsound.put_kept hentry ?_ rfl (.inr hid)
    exact ⟨he.keyed, hxid, by simp, by simp [hid], fun _ => hreg, he.epoch⟩
  | unbindErase | unregisterPlaceholder | unregisterEmpty => exact hsound.drop _
  | registerSurface hxid hentry hgen howner hsurface eff seq =>
    have he := hsound.entry _ _ hentry
    have hid : _ = 0 := he.placeholderId_eq_zero (by simp [he.surface_iff.mpr hsurface])
    apply Sound.placed
    refine hsound.put_kept hentry ?_ rfl (.inr hid)
    exact .of_surface rfl hxid rfl hsurface hid he.epoch
  | registerAgain hxid hentry hgen howner hsurface hended eff seq =>
    have he := hsound.entry _ _ hentry
    have hid : _ = 0 := he.placeholderId_eq_zero (by simp [he.surface_iff.mpr hsurface])
    apply Sound.placed
    refine hsound.put_surface ?_ rfl hid
    exact .of_surface rfl hxid rfl hsurface hid (Nat.succ_ne_zero _)
  | registerPlaceholder hxid hentry hgen howner hsurface hrep eff seq =>
    have he := hsound.entry _ _ hentry
    apply Sound.placed
    refine hsound.put_kept hentry ?_ rfl (.inl rfl)
    exact ⟨rfl, hxid, he.surface_iff, he.placeholder_iff, fun _ => rfl, he.epoch⟩
  | registerCreate hxid hentry hgen howner hsurface hrep eff seq =>
    refine ⟨hsound.forall_put ?_, ?_, ?_⟩
    · exact ⟨rfl, hxid, by simp [Entry.annotate, hsurface], by simp, fun _ => rfl,
        Nat.succ_ne_zero _⟩
    · exact hsound.placeholders.insert_next _ rfl
    · exact hsound.epochs.insert_next _ rfl
  | update hxid hentry hgen eff seq | visibility hxid hentry hgen eff seq =>
    have he := hsound.entry _ _ hentry
    apply Sound.placed
    refine hsound.put_kept hentry ?_ rfl (.inl rfl)
    exact ⟨he.keyed, hxid, he.surface_iff, he.placeholder_iff, he.registered, he.epoch⟩
  | unregisterSurface hxid hentry hgen hrep hsurface =>
    have he := hsound.entry _ _ hentry
    refine hsound.put_kept hentry ?_ rfl (.inl rfl)
    exact .of_surface he.keyed hxid (he.surface_iff.mpr hsurface) hsurface
      (he.placeholderId_eq_zero hrep) he.epoch
  | cascade howner =>
    exact ⟨fun key e hfound => hsound.entry key e (Table.of_filter hfound),
      hsound.placeholders.filter _, hsound.epochs.filter _⟩
  | paint hentry hrep =>
    have he := hsound.entry _ _ hentry
    refine hsound.put_kept hentry ?_ rfl (.inl rfl)
    exact ⟨he.keyed, he.nonzero, he.surface_iff, he.placeholder_iff, he.registered, he.epoch⟩

theorem Sound.after (hsound : r.Sound) {ops : List Op} (hops : ∀ op ∈ ops, op.Handled) :
    (r.after ops).Sound := by
  induction ops generalizing r with
  | nil => exact hsound
  | cons op ops ih =>
    obtain ⟨hop, hrest⟩ := List.forall_mem_cons.mp hops
    exact ih (hsound.move hop (r.call_move op)) hrest

/-! ## Ids do not come back -/

/-- The placeholder ids after a move: as before, or with the next one, or with some gone. -/
theorem placeholderIdForXid_move {op : Op} {effs : List RegistryEffect}
    (hmove : Move r op effs next) (key : Nat) :
    next.placeholderIdForXid key = r.placeholderIdForXid key ∨ next.placeholderIdForXid key = 0 ∨
        next.placeholderIdForXid key = r.nextPlaceholderId + 1 := by
  have hkept : ∀ {xid : Nat} {old : Entry} (e : Entry), r.entries[xid]? = some old →
      old.placeholderId = e.placeholderId →
      (r.put xid e).placeholderIdForXid key = r.placeholderIdForXid key := fun e hold hid =>
    congrFun (Table.read_insert_kept r.entries Entry.placeholderId hold hid) key
  have hput : ∀ {xid : Nat} (e : Entry),
      (r.put xid e).placeholderIdForXid key = r.placeholderIdForXid key ∨
        (r.put xid e).placeholderIdForXid key = e.placeholderId := by
    intro xid e
    simp only [placeholderIdForXid, put, Table.read_insert, Function.update_apply]
    split_ifs
    · exact .inr rfl
    · exact .inl rfl
  have hdrop : ∀ xid : Nat, (r.drop xid).placeholderIdForXid key = r.placeholderIdForXid key ∨
      (r.drop xid).placeholderIdForXid key = 0 := by
    intro xid
    simp only [placeholderIdForXid, drop, Table.read_erase, Function.update_apply]
    split_ifs
    · exact .inr rfl
    · exact .inl rfl
  cases hmove with
  | idle => exact .inl rfl
  | bindNew | bindPromote => exact (hput _).imp_right .inl
  | bindOver hxid hentry | unbindKeep hxid hentry | registerSurface hxid hentry
  | registerAgain hxid hentry | registerPlaceholder hxid hentry | update hxid hentry
  | visibility hxid hentry | unregisterSurface hxid hentry | paint hentry =>
    exact .inl (hkept _ hentry rfl)
  | unbindErase | unregisterPlaceholder | unregisterEmpty => exact (hdrop _).imp_right .inl
  | registerCreate => exact (hput _).imp_right .inr
  | cascade =>
    rw [placeholderIdForXid, Table.read_filter]
    split_ifs
    · exact .inl rfl
    · exact .inr (.inl rfl)

theorem nextPlaceholderId_move {op : Op} {effs : List RegistryEffect}
    (hmove : Move r op effs next) : r.nextPlaceholderId ≤ next.nextPlaceholderId := by
  cases hmove
  case registerCreate => exact Nat.le_succ _
  all_goals exact le_rfl

theorem nextPlaceholderId_after (ops : List Op) :
    r.nextPlaceholderId ≤ (r.after ops).nextPlaceholderId := by
  induction ops generalizing r with
  | nil => exact le_rfl
  | cons op ops ih => exact (nextPlaceholderId_move (r.call_move op)).trans ih

/-- A drawn id is only where it was. -/
theorem placeholderIdForXid_after {ops : List Op} {key id : Nat} (hid : id ≠ 0)
    (hdrawn : id ≤ r.nextPlaceholderId) (hafter : (r.after ops).placeholderIdForXid key = id) :
    r.placeholderIdForXid key = id := by
  induction ops generalizing r with
  | nil => exact hafter
  | cons op ops ih =>
    have hmove := r.call_move op
    have hthere := ih (hdrawn.trans (nextPlaceholderId_move hmove)) hafter
    rcases placeholderIdForXid_move hmove key with hsame | hzero | hnext
    · exact hsame ▸ hthere
    · exact absurd (hthere.symm.trans hzero) hid
    · omega

/-- After an entry has given up its placeholder, no entry gets that id again. -/
theorem Sound.placeholderIdForXid_ne (hsound : r.Sound) {middle last : List Op} {key id : Nat}
    (hid : id ≠ 0) (hlive : r.placeholderIdForXid key = id)
    (hgone : (r.after middle).placeholderIdForXid key ≠ id) (other : Nat) :
    ((r.after middle).after last).placeholderIdForXid other ≠ id := by
  intro hback
  have hdrawn : id ≤ r.nextPlaceholderId := hlive ▸ hsound.placeholders.read_le key
  have hmiddle :=
    placeholderIdForXid_after hid (hdrawn.trans (nextPlaceholderId_after middle)) hback
  have hfirst : r.placeholderIdForXid other = id := placeholderIdForXid_after hid hdrawn hmiddle
  have hsame : other = key :=
    hsound.placeholders.read_inj (hfirst.trans hlive.symm) (ne_of_eq_of_ne hfirst hid)
  exact hgone (hsame ▸ hmiddle)

end WindowRegistry

/-! ## The invariant over whole runs -/

/-- In every state of every run each entry has the fields of its representation, live ids
and epochs are pairwise distinct, and an id that was given up never comes back. -/
theorem run_representation (ops : List Op) (hops : ∀ op ∈ ops, op.Handled) :
    (∀ (key : Nat) (e : Entry), (({} : WindowRegistry).after ops).entries[key]? = some e →
      e.xid = key ∧ key ≠ 0 ∧
        (e.representation = .surface ↔ e.surface ≠ 0) ∧
        (e.representation = .placeholder ↔ e.placeholderId ≠ 0) ∧
        (e.representation = .placeholder → e.toplevelRegistered = true) ∧
        (e.representation = .none → e.toplevelRegistered = true ∧ e.surface = 0) ∧
        e.representationEpoch ≠ 0) ∧
      (∀ (key other : Nat) (e f : Entry), (({} : WindowRegistry).after ops).entries[key]? = some e →
        (({} : WindowRegistry).after ops).entries[other]? = some f → key ≠ other →
        (e.placeholderId = f.placeholderId → e.placeholderId = 0) ∧
          e.representationEpoch ≠ f.representationEpoch) ∧
      ∀ (before middle last : List Op), ops = before ++ middle ++ last → ∀ key id : Nat, id ≠ 0 →
        (({} : WindowRegistry).after before).placeholderIdForXid key = id →
        (({} : WindowRegistry).after (before ++ middle)).placeholderIdForXid key ≠ id →
        ∀ other : Nat, (({} : WindowRegistry).after ops).placeholderIdForXid other ≠ id := by
  have hsound := WindowRegistry.Sound.empty.after hops
  refine ⟨fun key e hentry => ?_, fun key other e f he hf hne => ?_, ?_⟩
  · have hwf := hsound.entry key e hentry
    refine ⟨hwf.keyed, hwf.nonzero, hwf.surface_iff, hwf.placeholder_iff, fun hrep => ?_,
      fun hrep => ?_, hwf.epoch⟩
    · exact hwf.registered (by simp [hrep])
    · have hrep' : e.representation ≠ .surface := by simp [hrep]
      exact ⟨hwf.registered hrep', hwf.surface_eq_zero hrep'⟩
  · refine ⟨fun hid => ?_, fun hepoch => ?_⟩
    · by_contra hid'
      exact hne (hsound.placeholders.inj he hf hid hid')
    · exact hne (hsound.epochs.inj he hf hepoch (hsound.entry key e he).epoch)
  · rintro before middle last rfl key id hid hlive hgone other
    have hbefore : (({} : WindowRegistry).after before).Sound :=
      WindowRegistry.Sound.empty.after fun op hop => hops op (by simp [hop])
    rw [WindowRegistry.after_append, WindowRegistry.after_append]
    rw [WindowRegistry.after_append] at hgone
    exact hbefore.placeholderIdForXid_ne hid hlive hgone other

/-- A placeholder opens, is promoted by a surface, and the window comes back. -/
def reopened : List Op :=
  [.registerToplevel 5 1 {}, .bindSurface 5 9, .unbindSurface 5 9, .registerToplevel 5 2 {}]

theorem run_representation_reopened :
    (({} : WindowRegistry).after reopened).placeholderIdForXid 5 = 2 ∧
      ∀ other : Nat, (({} : WindowRegistry).after reopened).placeholderIdForXid other ≠ 1 := by
  have hops : ∀ op ∈ reopened, op.Handled := by simp [reopened, Op.Handled]
  refine ⟨by decide +kernel, fun other => ?_⟩
  exact (run_representation reopened hops).2.2 [.registerToplevel 5 1 {}] [.bindSurface 5 9]
    [.unbindSurface 5 9, .registerToplevel 5 2 {}] rfl 5 1 (by decide) (by decide +kernel)
    (by decide +kernel) other

end VkRelay.Registry
