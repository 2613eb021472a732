import VkRelay.Icd.CapsCache
import VkRelay.Lib.Tickets

/-!
An answer from the cache of surface capabilities is the worker's latest reply, and nothing
that may have changed the answer happened since. The books of the cache follow the log of the
calls: which swapchains stand, and on which surface. An entry is dropped by every event that
touches it, because the books lead from the swapchain of the event to the surface of the entry.
The null surface is the exception: the books answer zero both for it and for a swapchain they
do not know.
-/

namespace VkRelay.Icd

open VkRelay.Lib

variable {Caps : Type}

/-! ## Claims about the log -/

/-- The swapchain was created on the surface and not destroyed since. -/
def Standing (log : List (Event Caps)) (swapchain surface : Nat) : Prop :=
  ∃ earlier later, log = earlier ++ .created swapchain surface :: later ∧
    .destroyed swapchain ∉ later

/-- Whether an event makes a reply for the device and the surface out of date. -/
def Event.Touches (log : List (Event Caps)) (physicalDevice surface : Nat) : Event Caps → Prop
  | .queried device target _ => device = physicalDevice ∧ target = surface
  | .queryFailed _ target => target = surface
  | .created _ target => target = surface
  | .createFailed target => target = surface
  | .destroyed swapchain => .created swapchain surface ∈ log
  | .signalled swapchain good => good = false ∧ .created swapchain surface ∈ log
  | _ => False

/-- The latest reply of the worker, with nothing since that touches it. -/
def Latest (log : List (Event Caps)) (physicalDevice surface : Nat) (caps : Caps) : Prop :=
  ∃ earlier later, log = earlier ++ .queried physicalDevice surface caps :: later ∧
    ∀ event ∈ later, ¬ event.Touches log physicalDevice surface

def Call.surfaces : Call Caps → List Nat
  | .destroySurface surface => [surface]
  | .createSwapchain surface _ => [surface]
  | .query _ surface _ => [surface]
  | _ => []

def Call.swapchains : Call Caps → List Nat
  | .destroySwapchain swapchain => [swapchain]
  | .acquire swapchain _ => [swapchain]
  | .present targets _ => targets
  | _ => []

abbrev CapsHistory (Caps : Type) := History (CapsCache Caps) (Event Caps)

/-- The call names nothing destroyed before, and the worker does not give a swapchain a handle
it gave before. -/
structure Call.Legal (h : CapsHistory Caps) (call : Call Caps) : Prop where
  surfaces : ∀ surface ∈ call.surfaces, .surfaceDestroyed surface ∉ h.log
  swapchains : ∀ swapchain ∈ call.swapchains, .destroyed swapchain ∉ h.log
  fresh : ∀ swapchain surface, .created swapchain surface ∈ (h.state.step call).2 →
    ∀ other, .created swapchain other ∉ h.log

def capsHistory (enabled : Bool) (calls : List (Call Caps)) : CapsHistory Caps :=
  History.of CapsCache.step { enabled } calls

/-! ## Lookups -/

theorem lookup_filter_keys {α β : Type*} [BEq α] [LawfulBEq α] (entries : List (α × β))
    (keep : α → Bool) (key : α) :
    (entries.filter fun entry => keep entry.1).lookup key =
      if keep key then entries.lookup key else none := by
  induction entries with
  | nil => simp
  | cons entry entries ih =>
    obtain ⟨found, value⟩ := entry
    by_cases hkey : key = found
    · subst hkey
      cases hkeep : keep key <;> simp [hkeep, ih]
    · have hne : (key == found) = false := beq_eq_false_iff_ne.mpr hkey
      cases hkeep : keep found <;> simp [hkeep, ih, List.lookup_cons, hne]

namespace CapsCache

variable {c : CapsCache Caps} {physicalDevice surface target swapchain : Nat} {caps : Caps}

def entry (c : CapsCache Caps) (physicalDevice surface : Nat) : Option Caps :=
  c.cache.lookup (physicalDevice, surface)

theorem entry_invalidateSurface : (c.invalidateSurface target).entry physicalDevice surface =
      if surface = target then none else c.entry physicalDevice surface := by
  rw [entry, invalidateSurface, lookup_filter_keys c.cache fun key => key.2 != target]
  by_cases hsurface : surface = target
  · simp [hsurface]
  · simp [hsurface, entry]

theorem entry_invalidateSwapchain
    (hentry : (c.invalidateSwapchain swapchain).entry physicalDevice surface = some caps) :
    c.entry physicalDevice surface = some caps ∧
      (c.surfaceOf swapchain = surface → surface = 0) := by
  rw [invalidateSwapchain] at hentry
  split at hentry
  · rename_i hknown
    rw [entry_invalidateSurface] at hentry
    split at hentry
    · cases hentry
    · rename_i hother
      exact ⟨hentry, fun hsurface => absurd hsurface.symm hother⟩
  · rename_i hzero
    exact ⟨hentry, fun hsurface => by rw [← hsurface]; exact not_not.mp hzero⟩

theorem entry_store (hon : c.enabled = true) (hlive : c.isLive target = true) {device : Nat} :
    (c.store device target caps).entry physicalDevice surface =
      if (physicalDevice, surface) = (device, target) then some caps
      else c.entry physicalDevice surface := by
  have hopen : ¬ (c.enabled = false ∨ c.isLive target = false) := by simp [hon, hlive]
  rw [store, if_neg hopen, entry, List.lookup_cons]
  by_cases hkey : (physicalDevice, surface) = (device, target)
  · simp [hkey]
  · rw [lookup_filter_keys c.cache fun key => key != (device, target)]
    simp [beq_eq_false_iff_ne.mpr hkey, hkey, entry]

theorem isLive_onSwapchainCreated (hother : surface ≠ target) :
    (c.onSwapchainCreated swapchain target).isLive surface = c.isLive surface := by
  simp only [isLive, onSwapchainCreated, invalidateSurface, Table.getElem?_insert_eq,
    if_neg (Ne.symm hother)]

theorem isLive_onSurfaceDestroyed (hother : surface ≠ target) :
    (c.onSurfaceDestroyed target).isLive surface = c.isLive surface := by
  simp only [isLive, onSurfaceDestroyed, invalidateSurface, Table.getElem?_erase_eq,
    if_neg (Ne.symm hother)]

theorem enabled_onSwapchainDestroyed : (c.onSwapchainDestroyed swapchain).enabled = c.enabled := by
  rw [onSwapchainDestroyed]
  split <;> rfl

theorem entry_onSwapchainDestroyed
    (hentry : (c.onSwapchainDestroyed swapchain).entry physicalDevice surface = some caps) :
    c.entry physicalDevice surface = some caps ∧ c.swapchainSurface[swapchain]? ≠ some surface := by
  rw [onSwapchainDestroyed] at hentry
  split at hentry
  · rename_i hunknown
    exact ⟨hentry, by simp [hunknown]⟩
  · rename_i owner howner
    rw [entry_invalidateSurface] at hentry
    split at hentry
    · cases hentry
    · rename_i hother
      exact ⟨hentry, by simpa [howner] using Ne.symm hother⟩

/-- A swapchain leaves the live set of its surface, which goes with its last one. -/
theorem live_onSwapchainDestroyed {owner : Nat}
    (howner : c.swapchainSurface[swapchain]? = some owner) :
    (c.onSwapchainDestroyed swapchain).live[surface]? = if owner = surface then
      ((c.live[owner]?).map (·.erase swapchain)).filter (· ≠ ∅) else c.live[surface]? := by
  simp only [onSwapchainDestroyed, howner, invalidateSurface]
  by_cases hsame : owner = surface
  · subst hsame
    cases hlive : c.live[owner]? with
    | none => simp [hlive]
    | some old =>
      by_cases hlast : old.erase swapchain = ∅ <;> simp [hlast, Option.filter]
  · cases c.live[owner]? with
    | none => simp [hsame]
    | some old => by_cases hlast : old.erase swapchain = ∅ <;> simp [hlast, hsame]

theorem isLive_onSwapchainDestroyed (hother : c.swapchainSurface[swapchain]? ≠ some surface) :
    (c.onSwapchainDestroyed swapchain).isLive surface = c.isLive surface := by
  cases howner : c.swapchainSurface[swapchain]? with
  | none => rw [onSwapchainDestroyed, howner]
  | some owner =>
    have hne : owner ≠ surface := by simpa [howner] using hother
    rw [isLive, live_onSwapchainDestroyed howner, if_neg hne, isLive]

/-! ## What a call does -/

structure SameBooks (c next : CapsCache Caps) : Prop where
  enabled : next.enabled = c.enabled
  swapchainSurface : next.swapchainSurface = c.swapchainSurface
  live : next.live = c.live

theorem SameBooks.refl (c : CapsCache Caps) : SameBooks c c := ⟨rfl, rfl, rfl⟩

theorem SameBooks.trans {c next last : CapsCache Caps} (hnext : SameBooks c next)
    (hlast : SameBooks next last) : SameBooks c last :=
  ⟨hlast.enabled.trans hnext.enabled, hlast.swapchainSurface.trans hnext.swapchainSurface,
    hlast.live.trans hnext.live⟩

theorem SameBooks.isLive {c next : CapsCache Caps} (hsame : SameBooks c next) (surface : Nat) :
    next.isLive surface = c.isLive surface := by
  rw [CapsCache.isLive, CapsCache.isLive, hsame.live]

theorem SameBooks.surfaceOf {c next : CapsCache Caps} (hsame : SameBooks c next)
    (swapchain : Nat) : next.surfaceOf swapchain = c.surfaceOf swapchain := by
  rw [CapsCache.surfaceOf, CapsCache.surfaceOf, hsame.swapchainSurface]

theorem sameBooks_invalidateSwapchain : SameBooks c (c.invalidateSwapchain swapchain) := by
  rw [invalidateSwapchain]
  split <;> exact ⟨rfl, rfl, rfl⟩

theorem sameBooks_store {device : Nat} : SameBooks c (c.store device target caps) := by
  rw [store]
  split <;> exact ⟨rfl, rfl, rfl⟩

def afterOutcomes (c : CapsCache Caps) (outcomes : List (Nat × Bool)) : CapsCache Caps :=
  outcomes.foldl (fun c outcome => if outcome.2 then c else c.invalidateSwapchain outcome.1) c

theorem sameBooks_afterOutcomes (outcomes : List (Nat × Bool)) :
    SameBooks c (c.afterOutcomes outcomes) := by
  refine List.foldlRecOn outcomes _ (.refl c) fun next hnext outcome _ => ?_
  split
  · exact hnext
  · exact hnext.trans sameBooks_invalidateSwapchain

theorem entry_afterOutcomes {outcomes : List (Nat × Bool)}
    (hentry : (c.afterOutcomes outcomes).entry physicalDevice surface = some caps) :
    c.entry physicalDevice surface = some caps ∧
      ∀ swapchain, (swapchain, false) ∈ outcomes → c.surfaceOf swapchain = surface →
        surface = 0 := by
  induction outcomes generalizing c with
  | nil => exact ⟨hentry, by simp⟩
  | cons outcome outcomes ih =>
    obtain ⟨first, good⟩ := outcome
    cases good with
    | true =>
      obtain ⟨hbefore, hothers⟩ := ih (c := c) hentry
      exact ⟨hbefore, fun swapchain hmem => hothers swapchain (by simpa using hmem)⟩
    | false =>
      obtain ⟨hdropped, hothers⟩ := ih (c := c.invalidateSwapchain first) hentry
      obtain ⟨hbefore, hfirst⟩ := entry_invalidateSwapchain hdropped
      refine ⟨hbefore, fun swapchain hmem => ?_⟩
      rcases List.mem_cons.mp hmem with heq | hmem
      · obtain ⟨rfl, -⟩ := Prod.mk.inj heq
        exact hfirst
      · rw [← sameBooks_invalidateSwapchain.surfaceOf]
        exact hothers swapchain hmem

/-- What a call can do to the cache, and the events it leaves. -/
inductive Turn (c : CapsCache Caps) : Call Caps → CapsCache Caps → List (Event Caps) → Prop
  | idle {call next events} (hsame : SameBooks c next) (hcache : next.cache = c.cache)
      (hevents : ∀ event ∈ events, (∃ surface, event = .surfaceCreated surface) ∨
        ∃ device surface caps, event = .served device surface caps ∧
          c.isLive surface = true ∧ c.entry device surface = some caps) :
      Turn c call next events
  | failed {call next event} {surface : Nat} (hsame : SameBooks c next)
      (hentry : ∀ device other, next.entry device other =
        if other = surface then none else c.entry device other)
      (hevent : event = .createFailed surface ∨ ∃ device, event = .queryFailed device surface) :
      Turn c call next [event]
  | replied {device surface : Nat} {reply next} {caps : Caps} (hsame : SameBooks c next)
      (hmiss : c.enabled = false ∨ c.isLive surface = false ∨ c.entry device surface = none)
      (hentry : ∀ other target, next.entry other target =
        if (other, target) = (device, surface) ∧ c.enabled = true ∧ c.isLive surface = true
        then some caps else c.entry other target) :
      Turn c (.query device surface reply) next [.queried device surface caps]
  | signalled {call} (outcomes : List (Nat × Bool))
      (hnamed : ∀ outcome ∈ outcomes, outcome.1 ∈ call.swapchains) :
      Turn c call (c.afterOutcomes outcomes)
        (outcomes.map fun outcome => .signalled outcome.1 outcome.2)
  | created {surface : Nat} {reply} (swapchain : Nat) :
      Turn c (.createSwapchain surface reply) (c.onSwapchainCreated swapchain surface)
        [.created swapchain surface]
  | destroyed {swapchain : Nat} :
      Turn c (.destroySwapchain swapchain) (c.onSwapchainDestroyed swapchain)
        [.destroyed swapchain]
  | surfaceDestroyed {surface : Nat} :
      Turn c (.destroySurface surface) (c.onSurfaceDestroyed surface)
        [.surfaceDestroyed surface]

theorem turn_createSwapchain (surface : Nat) (reply : Reply (Int × Nat)) :
    Turn c (.createSwapchain surface reply) (c.createSwapchain surface reply).1
      (c.createSwapchain surface reply).2 := by
  have hfailed : Turn c (.createSwapchain surface reply) (c.invalidateSurface surface)
      [.createFailed surface] :=
    .failed ⟨rfl, rfl, rfl⟩ (fun _ _ => entry_invalidateSurface) (.inl rfl)
  match reply with
  | .fault => exact hfailed
  | .refused => exact hfailed
  | .ok (result, swapchain) =>
    rw [createSwapchain]
    split
    · exact hfailed
    · exact .created swapchain

theorem turn_query (device surface : Nat) (reply : Reply Caps) :
    Turn c (.query device surface reply) (c.query device surface reply).1
      (c.query device surface reply).2 := by
  -- a miss, whatever its reason, asks the worker
  have hasked : ∀ looked : CapsCache Caps, SameBooks c looked → looked.cache = c.cache →
      (c.enabled = false ∨ c.isLive surface = false ∨ c.entry device surface = none) →
      c.lookup device surface = (looked, none) →
      Turn c (.query device surface reply) (c.query device surface reply).1
        (c.query device surface reply).2 := by
    intro looked hsame hcache hmiss hlookup
    have hsaved : ∀ other target, looked.entry other target = c.entry other target := by
      intro other target
      rw [entry, hcache, entry]
    rw [query, hlookup]
    cases reply with
    | fault | refused =>
      exact .failed (hsame.trans ⟨rfl, rfl, rfl⟩)
        (fun other target => by rw [entry_invalidateSurface, hsaved]) (.inr ⟨device, rfl⟩)
    | ok caps =>
      refine .replied (hsame.trans sameBooks_store) hmiss fun other target => ?_
      by_cases hopen : c.enabled = true ∧ c.isLive surface = true
      · simp only
        rw [entry_store (hsame.enabled.trans hopen.1) ((hsame.isLive surface).trans hopen.2)]
        simp [hopen, hsaved]
      · have hclosed : looked.enabled = false ∨ looked.isLive surface = false := by
          rw [hsame.enabled, hsame.isLive]
          simpa [imp_iff_not_or] using hopen
        simp only
        rw [store, if_pos hclosed, if_neg (fun h => hopen h.2), hsaved]
  by_cases hclosed : c.enabled = false ∨ c.isLive surface = false
  · refine hasked { c with misses := c.misses + 1 } ⟨rfl, rfl, rfl⟩ rfl ?_ ?_
    · exact hclosed.imp_right .inl
    · rw [lookup, if_pos hclosed]
  · cases hfound : c.entry device surface with
    | none =>
      refine hasked { c with misses := c.misses + 1 } ⟨rfl, rfl, rfl⟩ rfl (.inr (.inr hfound)) ?_
      rw [entry] at hfound
      rw [lookup, if_neg hclosed, hfound]
    | some caps =>
      have hlive : c.isLive surface = true := by simpa using (not_or.mp hclosed).2
      have hlookup : c.cache.lookup (device, surface) = some caps := hfound
      rw [query, lookup, if_neg hclosed, hlookup]
      exact .idle ⟨rfl, rfl, rfl⟩ rfl (by simp [hlive, hfound])

theorem fst_mem_of_presentOutcomes {targets : List Nat} {reply : Reply PresentResponse}
    {outcome : Nat × Bool} (hmem : outcome ∈ presentOutcomes targets reply) :
    outcome.1 ∈ targets := by
  cases reply with
  | ok r =>
    obtain ⟨⟨swapchain, i⟩, hin, rfl⟩ := List.mem_map.mp hmem
    exact List.fst_mem_of_mem_zipIdx hin
  | fault | refused =>
    obtain ⟨swapchain, hin, rfl⟩ := List.mem_map.mp hmem
    exact hin

theorem turn_step (c : CapsCache Caps) (call : Call Caps) :
    Turn c call (c.step call).1 (c.step call).2 := by
  cases call with
  | createSurface reply =>
    cases reply with
    | ok surface | fault | refused => exact .idle (.refl c) rfl (by simp [step])
  | destroySurface surface =>
    rw [step]
    split
    · exact .idle (.refl c) rfl (by simp)
    · exact .surfaceDestroyed
  | createSwapchain surface reply => exact turn_createSwapchain surface reply
  | destroySwapchain swapchain =>
    rw [step]
    split
    · exact .idle (.refl c) rfl (by simp)
    · exact .destroyed
  | query device surface reply => exact turn_query device surface reply
  | acquire swapchain reply =>
    exact .signalled [(swapchain, _)] (by simp [Call.swapchains])
  | present targets reply =>
    exact .signalled (presentOutcomes targets reply) fun _ => fst_mem_of_presentOutcomes

variable {call : Call Caps} {next : CapsCache Caps} {events : List (Event Caps)}

/-- A query is answered from the cache only with an entry of a live surface. -/
theorem Turn.entry_of_served (hturn : Turn c call next events)
    (hserved : .served physicalDevice surface caps ∈ events) :
    c.isLive surface = true ∧ c.entry physicalDevice surface = some caps := by
  cases hturn with
  | idle _ _ hevents =>
    obtain ⟨_, hevent⟩ | ⟨_, _, _, hevent, hentry⟩ := hevents _ hserved
    · cases hevent
    · cases hevent
      exact hentry
  | failed _ _ hevent =>
    rw [List.mem_singleton] at hserved
    obtain rfl | ⟨_, rfl⟩ := hevent <;> cases hserved
  | _ => simp at hserved

theorem Turn.call_of_created (hturn : Turn c call next events)
    (hcreated : .created swapchain surface ∈ events) :
    ∃ reply, call = .createSwapchain surface reply := by
  cases hturn with
  | idle _ _ hevents =>
    obtain ⟨_, hevent⟩ | ⟨_, _, _, hevent, -⟩ := hevents _ hcreated <;> cases hevent
  | failed _ _ hevent =>
    rw [List.mem_singleton] at hcreated
    obtain rfl | ⟨_, rfl⟩ := hevent <;> cases hcreated
  | created =>
    cases List.mem_singleton.mp hcreated
    exact ⟨_, rfl⟩
  | _ => simp at hcreated

end CapsCache

/-! ## Invariants -/

section Log

variable {log events : List (Event Caps)} {physicalDevice surface swapchain : Nat} {caps : Caps}

theorem Standing.append (hstanding : Standing log swapchain surface)
    (hkept : .destroyed swapchain ∉ events) : Standing (log ++ events) swapchain surface := by
  obtain ⟨earlier, later, rfl, hlater⟩ := hstanding
  refine ⟨earlier, later ++ events, by simp, ?_⟩
  simp [hlater, hkept]

theorem Standing.created_mem (hstanding : Standing log swapchain surface) :
    .created swapchain surface ∈ log := by
  obtain ⟨earlier, later, rfl, -⟩ := hstanding
  simp

/-- A reply stays the latest while nothing touches it. A swapchain that joins the surface
touches it too, so the earlier events touch no more than they did. -/
theorem Latest.append (hlatest : Latest log physicalDevice surface caps)
    (hevents : ∀ event ∈ events, ¬ event.Touches (log ++ events) physicalDevice surface) :
    Latest (log ++ events) physicalDevice surface caps := by
  have hsame : ∀ swapchain, .created swapchain surface ∈ log ++ events →
      .created swapchain surface ∈ log := by
    intro swapchain hmem
    rcases List.mem_append.mp hmem with hmem | hmem
    · exact hmem
    · exact absurd rfl (hevents _ hmem)
  obtain ⟨earlier, later, hlog, hlater⟩ := hlatest
  refine ⟨earlier, later ++ events, by simp [hlog], fun event hmem htouches => ?_⟩
  rcases List.mem_append.mp hmem with hmem | hmem
  · apply hlater event hmem
    cases event with
    | destroyed swapchain => exact hsame swapchain htouches
    | signalled swapchain good => exact ⟨htouches.1, hsame swapchain htouches.2⟩
    | _ => exact htouches
  · exact hevents event hmem htouches

end Log

/-- The books of the cache follow the log, and no swapchain presents to the null surface. -/
structure Books (c : CapsCache Caps) (log : List (Event Caps)) : Prop where
  mapped : ∀ (swapchain : Nat) surface, c.swapchainSurface[swapchain]? = some surface →
    Standing log swapchain surface
  known : ∀ swapchain surface, .created swapchain surface ∈ log → .destroyed swapchain ∉ log →
    .surfaceDestroyed surface ∉ log → c.swapchainSurface[swapchain]? = some surface
  living : ∀ (surface : Nat) swapchains, c.live[surface]? = some swapchains →
    ∀ swapchain ∈ swapchains, c.swapchainSurface[swapchain]? = some surface
  nonnull : ∀ swapchain surface, .created swapchain surface ∈ log → surface ≠ 0

/-- An entry is on a live surface that was not destroyed, and is the latest reply. -/
structure Entries (c : CapsCache Caps) (log : List (Event Caps)) : Prop where
  gone : ∀ surface, .surfaceDestroyed surface ∈ log → ∀ device, c.entry device surface = none
  kept : ∀ device surface caps, c.entry device surface = some caps →
    c.enabled = true ∧ c.isLive surface = true
  latest : ∀ device surface caps, c.entry device surface = some caps →
    Latest log device surface caps

/-- Events that say nothing of the life of a swapchain or a surface. -/
def Event.Passive : Event Caps → Prop
  | .surfaceDestroyed _ => False
  | .created _ _ => False
  | .destroyed _ => False
  | _ => True

section Steps

variable {c next : CapsCache Caps} {log events : List (Event Caps)}

theorem mem_append_of_passive {event : Event Caps} (hevents : ∀ e ∈ events, e.Passive)
    (hevent : ¬ event.Passive) : event ∈ log ++ events ↔ event ∈ log := by
  rw [List.mem_append, or_iff_left]
  exact fun hmem => hevent (hevents event hmem)

theorem Books.passive (hbooks : Books c log) (hsame : c.SameBooks next)
    (hevents : ∀ e ∈ events, e.Passive) : Books next (log ++ events) := by
  have hcreated : ∀ swapchain surface, .created swapchain surface ∈ log ++ events ↔
      .created swapchain surface ∈ log := fun _ _ => mem_append_of_passive hevents id
  constructor
  · intro swapchain surface hfound
    rw [hsame.swapchainSurface] at hfound
    exact (hbooks.mapped swapchain surface hfound).append fun hmem => hevents _ hmem
  · intro swapchain surface hmem hkept hsurface
    rw [hsame.swapchainSurface]
    exact hbooks.known swapchain surface ((hcreated _ _).mp hmem)
      (mt (List.mem_append_left _) hkept) (mt (List.mem_append_left _) hsurface)
  · rw [hsame.live, hsame.swapchainSurface]
    exact hbooks.living
  · exact fun swapchain surface hmem => hbooks.nonnull swapchain surface ((hcreated _ _).mp hmem)

theorem Books.created (hbooks : Books c log) {swapchain surface : Nat} (hnull : surface ≠ 0)
    (hfresh : ∀ other, .created swapchain other ∉ log) :
    Books (c.onSwapchainCreated swapchain surface) (log ++ [.created swapchain surface]) := by
  have hnew : (c.onSwapchainCreated swapchain surface).swapchainSurface[swapchain]? =
      some surface := (Table.getElem?_insert_eq ..).trans (if_pos rfl)
  have hstill : ∀ other target : Nat, c.swapchainSurface[other]? = some target →
      (c.onSwapchainCreated swapchain surface).swapchainSurface[other]? = some target := by
    intro other target hfound
    refine (Table.getElem?_insert_eq ..).trans ((if_neg ?_).trans hfound)
    rintro rfl
    exact hfresh target (hbooks.mapped _ _ hfound).created_mem
  constructor
  · intro other target hfound
    rcases Table.insert_cases hfound with ⟨rfl, rfl⟩ | hfound
    · exact ⟨log, [], rfl, by simp⟩
    · exact (hbooks.mapped other target hfound).append (by simp)
  · intro other target hmem hkept hsurface
    rcases List.mem_append.mp hmem with hmem | hmem
    · exact hstill other target (hbooks.known other target hmem
        (mt (List.mem_append_left _) hkept) (mt (List.mem_append_left _) hsurface))
    · cases List.mem_singleton.mp hmem
      exact hnew
  · intro target swapchains hfound other hmem
    rcases Table.insert_cases hfound with ⟨rfl, rfl⟩ | hfound
    · rcases Finset.mem_insert.mp hmem with rfl | hmem
      · exact hnew
      · rw [Std.ExtTreeMap.getD_eq_getD_getElem?] at hmem
        cases hlive : c.live[surface]? with
        | none => simp [hlive] at hmem
        | some old =>
          exact hstill other surface
            (hbooks.living surface old hlive other (by simpa [hlive] using hmem))
    · exact hstill other target (hbooks.living target swapchains hfound other hmem)
  · intro other target hmem
    rcases List.mem_append.mp hmem with hmem | hmem
    · exact hbooks.nonnull other target hmem
    · cases List.mem_singleton.mp hmem
      exact hnull

/-- A destroyed swapchain leaves the live set it is in, which is that of its surface. -/
theorem Books.living_destroyed (hbooks : Books c log) {swapchain surface other : Nat}
    {swapchains : Finset Nat}
    (hfound : (c.onSwapchainDestroyed swapchain).live[surface]? = some swapchains)
    (hmem : other ∈ swapchains) :
    c.swapchainSurface[other]? = some surface ∧ swapchain ≠ other := by
  cases howner : c.swapchainSurface[swapchain]? with
  | none =>
    rw [CapsCache.onSwapchainDestroyed, howner] at hfound
    have hknown := hbooks.living surface swapchains hfound other hmem
    exact ⟨hknown, by rintro rfl; rw [howner] at hknown; cases hknown⟩
  | some owner =>
    rw [CapsCache.live_onSwapchainDestroyed howner] at hfound
    split at hfound
    · rename_i hsurface
      obtain ⟨old, hlive, rfl⟩ := Option.map_eq_some_iff.mp (Option.filter_eq_some_iff.mp hfound).1
      obtain ⟨hother, hold⟩ := Finset.mem_erase.mp hmem
      exact ⟨hsurface ▸ hbooks.living owner old hlive other hold, Ne.symm hother⟩
    · rename_i hsurface
      have hknown := hbooks.living surface swapchains hfound other hmem
      refine ⟨hknown, ?_⟩
      rintro rfl
      exact hsurface (Option.some.inj (howner.symm.trans hknown))

theorem Books.destroyed (hbooks : Books c log) (swapchain : Nat) :
    Books (c.onSwapchainDestroyed swapchain) (log ++ [.destroyed swapchain]) := by
  have hmap : ∀ other : Nat, (c.onSwapchainDestroyed swapchain).swapchainSurface[other]? =
      if swapchain = other then none else c.swapchainSurface[other]? := by
    intro other
    rw [CapsCache.onSwapchainDestroyed]
    split
    · rename_i hnone
      by_cases heq : swapchain = other
      · rw [if_pos heq, ← heq, hnone]
      · rw [if_neg heq]
    · exact Table.getElem?_erase_eq ..
  constructor
  · intro other surface hfound
    rw [hmap] at hfound
    split at hfound
    · cases hfound
    · rename_i hother
      exact (hbooks.mapped other surface hfound).append (by simpa using Ne.symm hother)
  · intro other surface hmem hkept hsurface
    have hother : swapchain ≠ other := by
      rintro rfl
      simp at hkept
    rw [hmap, if_neg hother]
    exact hbooks.known other surface (by simpa using hmem) (mt (List.mem_append_left _) hkept)
      (mt (List.mem_append_left _) hsurface)
  · intro surface swapchains hfound other hmem
    obtain ⟨hknown, hother⟩ := hbooks.living_destroyed hfound hmem
    rwa [hmap, if_neg hother]
  · exact fun other surface hmem => hbooks.nonnull other surface (by simpa using hmem)

theorem Books.surfaceDestroyed (hbooks : Books c log) (surface : Nat) :
    Books (c.onSurfaceDestroyed surface) (log ++ [.surfaceDestroyed surface]) := by
  have hmap : ∀ other target : Nat,
      (c.onSurfaceDestroyed surface).swapchainSurface[other]? = some target ↔
        c.swapchainSurface[other]? = some target ∧ target ≠ surface := by
    intro other target
    change (c.swapchainSurface.filter fun _ owner => owner != surface)[other]? = _ ↔ _
    rw [Table.getElem?_filter_eq _ _ (· != surface), Option.filter_eq_some_iff, bne_iff_ne]
  constructor
  · intro other target hfound
    exact (hbooks.mapped other target ((hmap other target).mp hfound).1).append (by simp)
  · intro other target hmem hkept hsurface
    refine (hmap other target).mpr ⟨hbooks.known other target (by simpa using hmem)
      (mt (List.mem_append_left _) hkept) (mt (List.mem_append_left _) hsurface), ?_⟩
    rintro rfl
    simp at hsurface
  · intro target swapchains hfound other hmem
    change (c.live.erase surface)[target]? = some swapchains at hfound
    rw [Table.getElem?_erase_eq] at hfound
    split at hfound
    · cases hfound
    · rename_i hother
      exact (hmap other target).mpr
        ⟨hbooks.living target swapchains hfound other hmem, Ne.symm hother⟩
  · exact fun other target hmem => hbooks.nonnull other target (by simpa using hmem)

/-- A swapchain of a surface that has an entry leads to it. -/
theorem Books.surfaceOf_eq (hbooks : Books c log) (hentries : Entries c log)
    {device surface swapchain : Nat} {caps : Caps} (hentry : c.entry device surface = some caps)
    (hmem : .created swapchain surface ∈ log) (hkept : .destroyed swapchain ∉ log) :
    c.swapchainSurface[swapchain]? = some surface := by
  refine hbooks.known swapchain surface hmem hkept fun hgone => ?_
  rw [hentries.gone surface hgone device] at hentry
  cases hentry

theorem Entries.carried (hentries : Entries c log)
    (hgone : ∀ surface, .surfaceDestroyed surface ∈ events → ∀ device,
      next.entry device surface = none)
    (hentry : ∀ device surface caps, next.entry device surface = some caps →
      c.entry device surface = some caps ∧ next.enabled = c.enabled ∧
        next.isLive surface = c.isLive surface ∧
        ∀ event ∈ events, ¬ event.Touches (log ++ events) device surface) :
    Entries next (log ++ events) := by
  constructor
  · intro surface hmem device
    rcases List.mem_append.mp hmem with hmem | hmem
    · by_contra hsome
      obtain ⟨caps, hcaps⟩ := Option.ne_none_iff_exists'.mp hsome
      have hbefore := (hentry device surface caps hcaps).1
      rw [hentries.gone surface hmem device] at hbefore
      cases hbefore
    · exact hgone surface hmem device
  · intro device surface caps hcaps
    obtain ⟨hbefore, henabled, hlive, -⟩ := hentry device surface caps hcaps
    rw [henabled, hlive]
    exact hentries.kept device surface caps hbefore
  · intro device surface caps hcaps
    obtain ⟨hbefore, -, -, hevents⟩ := hentry device surface caps hcaps
    exact (hentries.latest device surface caps hbefore).append hevents

theorem Entries.replied (hentries : Entries c log) {device surface : Nat} {caps : Caps}
    (hsame : c.SameBooks next)
    (hmiss : c.enabled = false ∨ c.isLive surface = false ∨ c.entry device surface = none)
    (hentry : ∀ other target, next.entry other target =
      if (other, target) = (device, surface) ∧ c.enabled = true ∧ c.isLive surface = true
      then some caps else c.entry other target)
    (hthere : .surfaceDestroyed surface ∉ log) :
    Entries next (log ++ [.queried device surface caps]) := by
  -- either the entry is the new one, or it is an old one under another key
  have hcases : ∀ other target caps', next.entry other target = some caps' →
      (other = device ∧ target = surface ∧ c.enabled = true ∧ c.isLive surface = true ∧
        caps' = caps) ∨
      (c.entry other target = some caps' ∧ ¬ (device = other ∧ surface = target)) := by
    intro other target caps' hsome
    rw [hentry] at hsome
    split at hsome
    · rename_i hnew
      obtain ⟨hkey, hon, hlive⟩ := hnew
      obtain ⟨rfl, rfl⟩ := Prod.mk.inj hkey
      exact .inl ⟨rfl, rfl, hon, hlive, (Option.some.inj hsome).symm⟩
    · refine .inr ⟨hsome, ?_⟩
      rintro ⟨rfl, rfl⟩
      obtain ⟨hon, hlive⟩ := hentries.kept device surface caps' hsome
      simp [hon, hlive, hsome] at hmiss
  constructor
  · intro target hmem other
    have hbefore : .surfaceDestroyed target ∈ log := by simpa using hmem
    by_contra hsome
    obtain ⟨caps', hcaps⟩ := Option.ne_none_iff_exists'.mp hsome
    rcases hcases other target caps' hcaps with ⟨-, rfl, -⟩ | ⟨hold, -⟩
    · exact hthere hbefore
    · rw [hentries.gone target hbefore other] at hold
      cases hold
  · intro other target caps' hcaps
    rw [hsame.enabled, hsame.isLive]
    rcases hcases other target caps' hcaps with ⟨-, rfl, hon, hlive, -⟩ | ⟨hbefore, -⟩
    · exact ⟨hon, hlive⟩
    · exact hentries.kept other target caps' hbefore
  · intro other target caps' hcaps
    rcases hcases other target caps' hcaps with ⟨rfl, rfl, -, -, rfl⟩ | ⟨hbefore, hkey⟩
    · exact ⟨log, [], rfl, by simp⟩
    · exact (hentries.latest other target caps' hbefore).append
        (by simpa [Event.Touches] using hkey)

structure Tracked (h : CapsHistory Caps) : Prop where
  books : Books h.state h.log
  entries : Entries h.state h.log

theorem Tracked.turn {h : CapsHistory Caps} {call : Call Caps} (htracked : Tracked h)
    (hturn : h.state.Turn call next events)
    (hsurfaces : ∀ surface ∈ call.surfaces, .surfaceDestroyed surface ∉ h.log)
    (hswapchains : ∀ swapchain ∈ call.swapchains, .destroyed swapchain ∉ h.log)
    (hfresh : ∀ swapchain surface, .created swapchain surface ∈ events →
      (∀ other, .created swapchain other ∉ h.log) ∧ surface ≠ 0) :
    Tracked ⟨next, h.log ++ events⟩ := by
  obtain ⟨hbooks, hentries⟩ := htracked
  cases hturn with
  | idle hsame hcache hevents =>
    refine ⟨hbooks.passive hsame fun event hmem => ?_, hentries.carried ?_ ?_⟩
    · obtain ⟨surface, rfl⟩ | ⟨device, surface, caps, rfl, -⟩ := hevents event hmem <;> trivial
    · intro surface hmem
      simpa using hevents _ hmem
    · intro device surface caps hentry
      rw [CapsCache.entry, hcache] at hentry
      refine ⟨hentry, hsame.enabled, hsame.isLive surface, fun event hmem htouches => ?_⟩
      obtain ⟨surface, rfl⟩ | ⟨device, surface, caps, rfl, -⟩ := hevents event hmem <;>
        exact htouches
  | failed hsame hentry hevent =>
    refine ⟨hbooks.passive hsame fun event hmem => ?_, hentries.carried ?_ ?_⟩
    · cases List.mem_singleton.mp hmem
      obtain rfl | ⟨device, rfl⟩ := hevent <;> trivial
    · intro surface hmem
      rw [List.mem_singleton] at hmem
      obtain rfl | ⟨device, rfl⟩ := hevent <;> cases hmem
    · intro device target caps hsome
      rw [hentry] at hsome
      split at hsome
      · cases hsome
      · rename_i hother
        refine ⟨hsome, hsame.enabled, hsame.isLive target, fun event hmem htouches => ?_⟩
        cases List.mem_singleton.mp hmem
        obtain rfl | ⟨device, rfl⟩ := hevent <;> exact hother htouches.symm
  | replied hsame hmiss hentry =>
    refine ⟨hbooks.passive hsame (by simp [Event.Passive]), ?_⟩
    exact hentries.replied hsame hmiss hentry (hsurfaces _ (by simp [Call.surfaces]))
  | signalled outcomes hnamed =>
    have hsame := h.state.sameBooks_afterOutcomes outcomes
    refine ⟨hbooks.passive hsame fun event hmem => ?_, hentries.carried (by simp) ?_⟩
    · obtain ⟨outcome, -, rfl⟩ := List.mem_map.mp hmem
      trivial
    intro device surface caps hentry
    obtain ⟨hbefore, hothers⟩ := CapsCache.entry_afterOutcomes hentry
    refine ⟨hbefore, hsame.enabled, hsame.isLive surface, fun event hmem htouches => ?_⟩
    obtain ⟨⟨swapchain, good⟩, hin, rfl⟩ := List.mem_map.mp hmem
    obtain ⟨hgood, htouched⟩ := htouches
    -- The outcome names a swapchain of the surface, so the entry would be gone by now.
    have hcreated : .created swapchain surface ∈ h.log := by simpa using htouched
    have hleads := hbooks.surfaceOf_eq hentries hbefore hcreated
      (hswapchains swapchain (hnamed (swapchain, good) hin))
    refine hbooks.nonnull swapchain surface hcreated (hothers swapchain ?_ ?_)
    · rwa [← hgood]
    · rw [CapsCache.surfaceOf, Std.ExtTreeMap.getD_eq_getD_getElem?, hleads, Option.getD_some]
  | created swapchain =>
    rename_i surface reply
    obtain ⟨hnew, hnull⟩ := hfresh swapchain surface (by simp)
    refine ⟨hbooks.created hnull hnew, hentries.carried (by simp) ?_⟩
    intro device target caps hentry
    rw [CapsCache.onSwapchainCreated, CapsCache.entry_invalidateSurface] at hentry
    split at hentry
    · cases hentry
    · rename_i hother
      exact ⟨hentry, rfl, CapsCache.isLive_onSwapchainCreated hother,
        by simpa [Event.Touches] using Ne.symm hother⟩
  | destroyed =>
    rename_i swapchain
    refine ⟨hbooks.destroyed swapchain, hentries.carried (by simp) ?_⟩
    intro device surface caps hentry
    obtain ⟨hbefore, hother⟩ := CapsCache.entry_onSwapchainDestroyed hentry
    refine ⟨hbefore, CapsCache.enabled_onSwapchainDestroyed,
      CapsCache.isLive_onSwapchainDestroyed hother, ?_⟩
    have hkept := hswapchains swapchain (by simp [Call.swapchains])
    simpa [Event.Touches] using
      fun hcreated => hother (hbooks.surfaceOf_eq hentries hbefore hcreated hkept)
  | surfaceDestroyed =>
    rename_i surface
    refine ⟨hbooks.surfaceDestroyed surface, hentries.carried ?_ ?_⟩
    · intro target hmem device
      cases List.mem_singleton.mp hmem
      rw [CapsCache.onSurfaceDestroyed, CapsCache.entry_invalidateSurface, if_pos rfl]
    intro device target caps hentry
    rw [CapsCache.onSurfaceDestroyed, CapsCache.entry_invalidateSurface] at hentry
    split at hentry
    · cases hentry
    · rename_i hother
      exact ⟨hentry, rfl, CapsCache.isLive_onSurfaceDestroyed hother, by simp [Event.Touches]⟩

theorem tracked_start (enabled : Bool) : Tracked (⟨{ enabled }, []⟩ : CapsHistory Caps) := by
  constructor
  · constructor <;> simp
  · constructor <;> simp [CapsCache.entry]

end Steps

theorem standing_of_isLive {c : CapsCache Caps} {log : List (Event Caps)} (hbooks : Books c log)
    {surface : Nat} (hlive : c.isLive surface = true) :
    ∃ swapchain, Standing log swapchain surface := by
  rw [CapsCache.isLive] at hlive
  cases hfound : c.live[surface]? with
  | none => simp [hfound] at hlive
  | some swapchains =>
    obtain ⟨swapchain, hmem⟩ := Finset.nonempty_iff_ne_empty.mpr
      (by simpa [hfound] using hlive)
    exact ⟨swapchain, hbooks.mapped swapchain surface
      (hbooks.living surface swapchains hfound swapchain hmem)⟩

/-- A query answered from the cache gets the worker's latest reply for the device and the
surface, which nothing has touched since, and the surface has a swapchain. -/
theorem served_is_current {enabled : Bool} {calls : List (Call Caps)}
    (hlegal : ∀ before call after, calls = before ++ call :: after →
      call.Legal (capsHistory enabled before))
    (hnull : ∀ surface reply, .createSwapchain surface reply ∈ calls → surface ≠ 0)
    (before : List (Call Caps)) (call : Call Caps) (after : List (Call Caps))
    (hcalls : calls = before ++ call :: after) {device surface : Nat} {caps : Caps}
    (hserved : .served device surface caps ∈ ((capsHistory enabled before).state.step call).2) :
    Latest (capsHistory enabled before).log device surface caps ∧
      ∃ swapchain, Standing (capsHistory enabled before).log swapchain surface := by
  have hkept : ∀ (h : CapsHistory Caps) (call : Call Caps), Tracked h → (call.Legal h ∧
      ∀ surface reply, call = .createSwapchain surface reply → surface ≠ 0) →
      Tracked (h.next CapsCache.step call) := by
    intro h call htracked hallowed
    obtain ⟨⟨hsurfaces, hswapchains, hfresh⟩, hnonnull⟩ := hallowed
    have hturn := h.state.turn_step call
    refine htracked.turn hturn hsurfaces hswapchains fun swapchain surface hcreated => ?_
    obtain ⟨reply, hcall⟩ := hturn.call_of_created hcreated
    exact ⟨hfresh swapchain surface hcreated, hnonnull surface reply hcall⟩
  have htracked : Tracked (capsHistory enabled before) := by
    refine History.invariant_of_allowed CapsCache.step hkept (tracked_start enabled) ?_ before
      (call :: after) hcalls
    intro first call rest hsplit
    refine ⟨hlegal first call rest hsplit, ?_⟩
    rintro surface reply rfl
    exact hnull surface reply (by simp [hsplit])
  obtain ⟨hlive, hentry⟩ := (CapsCache.turn_step _ call).entry_of_served hserved
  exact ⟨htracked.entries.latest device surface caps hentry,
    standing_of_isLive htracked.books hlive⟩

/-- A surface with one swapchain is polled twice, with an acquire in between. -/
def pollRun (surface : Nat) (acquired : Int) : List (Call Nat) :=
  [.createSwapchain surface (.ok (kVkSuccess, 1)), .query 7 surface (.ok 10),
    .acquire 1 (.ok acquired), .query 7 surface (.ok 20)]

def Event.opened? : Event Caps → Option Nat
  | .created swapchain _ => some swapchain
  | _ => none

instance [DecidableEq Caps] (h : CapsHistory Caps) (call : Call Caps) :
    Decidable (call.Legal h) :=
  decidable_of_iff ((∀ surface ∈ call.surfaces, .surfaceDestroyed surface ∉ h.log) ∧
    (∀ swapchain ∈ call.swapchains, .destroyed swapchain ∉ h.log) ∧
    ∀ event ∈ (h.state.step call).2, ∀ old ∈ h.log,
      event.opened? = none ∨ event.opened? ≠ old.opened?) (by
    constructor
    · rintro ⟨hsurfaces, hswapchains, hfresh⟩
      refine ⟨hsurfaces, hswapchains, fun swapchain surface hmem other hold => ?_⟩
      simpa [Event.opened?] using hfresh _ hmem _ hold
    · rintro ⟨hsurfaces, hswapchains, hfresh⟩
      refine ⟨hsurfaces, hswapchains, fun event hmem old hold => ?_⟩
      cases event with
      | created swapchain surface =>
        cases old with
        | created other target =>
          refine .inr fun heq => hfresh swapchain surface hmem target ?_
          rwa [Option.some.inj heq]
        | _ => exact .inr nofun
      | _ => exact .inl rfl)

theorem legal_of_take {enabled : Bool} {calls : List (Call Caps)}
    (hlegal : ∀ i : Fin calls.length, calls[i].Legal (capsHistory enabled (calls.take i)))
    (before : List (Call Caps)) (call : Call Caps) (after : List (Call Caps))
    (hcalls : calls = before ++ call :: after) : call.Legal (capsHistory enabled before) := by
  subst hcalls
  simpa using hlegal ⟨before.length, by simp⟩

theorem served_is_current_pollRun :
    Latest (capsHistory true ((pollRun 3 kVkSuccess).take 3)).log 7 3 10 ∧
      ∃ swapchain, Standing (capsHistory true ((pollRun 3 kVkSuccess).take 3)).log swapchain 3 :=
  have hlegal : ∀ i : Fin (pollRun 3 kVkSuccess).length, (pollRun 3 kVkSuccess)[i].Legal
      (capsHistory true ((pollRun 3 kVkSuccess).take i)) := by decide +kernel
  served_is_current (legal_of_take hlegal) (by simp [pollRun]) _ (.query 7 3 (.ok 20)) [] rfl
    (by decide +kernel)

/-- On the null surface a suboptimal acquire drops nothing, and the next poll is answered with
the reply from before it. -/
theorem null_surface_served_stale :
    ∃ (calls : List (Call Nat)) (before after : List (Call Nat)) (call : Call Nat),
      (∀ before call after, calls = before ++ call :: after →
        call.Legal (capsHistory true before)) ∧
      calls = before ++ call :: after ∧
      .served 7 0 10 ∈ ((capsHistory true before).state.step call).2 ∧
      ¬ Latest (capsHistory true before).log 7 0 10 := by
  refine ⟨pollRun 0 1000001003, (pollRun 0 1000001003).take 3, [], .query 7 0 (.ok 20),
    legal_of_take (by decide +kernel), rfl, by decide +kernel, ?_⟩
  have hlog : (capsHistory true ((pollRun 0 1000001003).take 3)).log =
      [.created 1 0, .queried 7 0 10, .signalled 1 false] := by decide +kernel
  rw [hlog]
  rintro ⟨earlier, later, hsplit, hlater⟩
  have hlast : .signalled 1 false ∈ later := by
    simp only [List.cons_eq_append_iff, List.nil_eq_append_iff] at hsplit
    obtain ⟨rfl, h⟩ | ⟨_, rfl, ⟨rfl, h⟩ | ⟨_, rfl, ⟨rfl, h⟩ | ⟨_, rfl, -, h⟩⟩⟩ := hsplit
    all_goals simp_all
  exact hlater _ hlast ⟨rfl, by simp⟩

end VkRelay.Icd
