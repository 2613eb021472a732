import VkRelay.Lib.Folds
import VkRelay.Session.Handles
import VkRelay.Session.Leases

/-!
The books of the leases over whole runs. The counter is exact, every retired resource is
held and every retired memory is needed, whatever the requests. That a lease names a live
command buffer is another matter: freeing a command buffer gives up its leases below the
largest generation only, so a lease of that generation outlives it.
-/

namespace VkRelay.Session

open VkRelay.Lib

/-! ## What a request does to the leases -/

namespace Backend

/-- The largest generation there is; a command buffer that is freed keeps its leases of it. -/
def topGeneration : Nat := 2 ^ 64 - 1

/-- The books are kept, a lease is an old one or one of a live command buffer, and the leases of
the command buffers that are freed are given up below the largest generation. -/
structure Tended (freed : Set Nat) (s t : Backend) : Prop where
  books : t.Books
  source : ∀ key, t.Leased key → s.Leased key ∨ (t.commandBuffers[key.1]?).isSome
  gone : ∀ h : Nat, (s.commandBuffers[h]?).isSome → (t.commandBuffers[h]? = none ↔ h ∈ freed)
  released : ∀ key, s.Leased key → key.1 ∈ freed → (t.Leased key ↔ topGeneration ≤ key.2)

/-- Every lease is one of a live command buffer. -/
def LeasesLive (s : Backend) : Prop :=
  ∀ key, s.Leased key → (s.commandBuffers[key.1]?).isSome

/-- Leases stay those of live command buffers exactly when no command buffer is freed that holds
one of the largest generation. -/
theorem Tended.live_iff {freed : Set Nat} {s t : Backend} (htended : Tended freed s t)
    (hlive : s.LeasesLive) :
    t.LeasesLive ↔ ∀ key, s.Leased key → topGeneration ≤ key.2 → key.1 ∉ freed := by
  constructor
  · intro hnext key hkey htop hfreed
    have hsome := hnext key ((htended.released key hkey hfreed).mpr htop)
    rw [(htended.gone key.1 (hlive key hkey)).mpr hfreed] at hsome
    cases hsome
  · intro hkept key hkey
    by_contra hgone
    rw [Option.not_isSome_iff_eq_none] at hgone
    have hold : s.Leased key := (htended.source key hkey).resolve_right (by simp [hgone])
    have hfreed := (htended.gone key.1 (hlive key hold)).mp hgone
    exact hkept key hold ((htended.released key hold hfreed).mp hkey) hfreed

theorem SameLeases.leased {s t : Backend} (hsame : SameLeases s t) (key : LeaseKey) :
    t.Leased key ↔ s.Leased key := by
  rw [Leased, Leased, hsame.images, hsame.buffers]

theorem SameLeases.books {s t : Backend} (hsame : SameLeases s t) (hbooks : s.Books) : t.Books := by
  have hretained : t.retainedByResource = s.retainedByResource := by
    funext memory
    rw [retainedByResource, hsame.images, hsame.buffers]
    rfl
  refine ⟨?_, hsame.images ▸ hbooks.images, hsame.buffers ▸ hbooks.buffers, ?_⟩
  · rw [hsame.edges, hbooks.edges, leaseCount, leaseCount, hsame.images, hsame.buffers]
  · intro memory hmemory
    rw [hretained]
    exact hbooks.memories memory (hsame.memories ▸ hmemory)

/-- No command buffer goes, and the leases there are were there before or are those of live
command buffers. -/
theorem tended_of_kept {s t : Backend} (hbooks : t.Books)
    (hkept : ∀ h : Nat, (s.commandBuffers[h]?).isSome → (t.commandBuffers[h]?).isSome)
    (hsource : ∀ key, t.Leased key → s.Leased key ∨ (t.commandBuffers[key.1]?).isSome) :
    Tended ∅ s t where
  books := hbooks
  source := hsource
  gone h hsome := iff_of_false (Option.isSome_iff_ne_none.mp (hkept h hsome)) (Set.notMem_empty h)
  released _ _ hfreed := absurd hfreed (Set.notMem_empty _)

theorem tended_of_quiet {s t : Backend} (hbooks : s.Books) (hquiet : Quiet s t) :
    Tended ∅ s t :=
  tended_of_kept (hquiet.books hbooks) hquiet.kept
    fun key hkey => .inl ((hquiet.leased key).mp hkey)

theorem Tended.quiet {s t u : Backend} (htended : Tended ∅ s t) (hquiet : Quiet t u) :
    Tended ∅ s u := by
  refine tended_of_kept (hquiet.books htended.books) (fun h hsome => hquiet.kept h ?_)
    fun key hkey => (htended.source key ((hquiet.leased key).mp hkey)).imp_right (hquiet.kept key.1)
  exact Option.isSome_iff_ne_none.mpr fun hgone =>
    Set.notMem_empty h ((htended.gone h hsome).mp hgone)

/-! ### Freeing command buffers -/

variable {s : Backend}

theorem freeCommandBuffer_spec (hbooks : s.Books) (h : Nat) : (s.freeCommandBuffer h).Books ∧
      (∀ key, (s.freeCommandBuffer h).Leased key ↔
        s.Leased key ∧ ¬(key.1 = h ∧ key.2 < topGeneration)) ∧
      (s.freeCommandBuffer h).commandBuffers = s.commandBuffers.erase h := by
  obtain ⟨hlast, hleased⟩ := releases_spec hbooks h topGeneration
  have hsame : SameLeases (s.releaseRecordingLeasesForCommandBuffer h) (s.freeCommandBuffer h) :=
    ⟨rfl, rfl, rfl, rfl⟩
  refine ⟨hsame.books hlast, fun key => (hsame.leased key).trans (hleased key), ?_⟩
  have hcbs := (s.sameButLeases_releases h topGeneration).commandBuffers
  exact congrArg (·.erase h) hcbs

/-- Command buffers freed one after the other, by steps that differ in other tables. -/
theorem foldl_free {f : Backend → Nat → Backend}
    (hfree : ∀ t h, SameLeases (t.freeCommandBuffer h) (f t h) ∧
      (f t h).commandBuffers = (t.freeCommandBuffer h).commandBuffers)
    (handles : List Nat) {s : Backend} (hbooks : s.Books) :
    (handles.foldl f s).Books ∧ (∀ key, (handles.foldl f s).Leased key ↔
        s.Leased key ∧ ¬(key.1 ∈ handles ∧ key.2 < topGeneration)) ∧
      ∀ h : Nat, (handles.foldl f s).commandBuffers[h]? =
        if h ∈ handles then none else s.commandBuffers[h]? := by
  induction handles generalizing s with
  | nil => exact ⟨hbooks, fun key => by simp, fun h => by simp⟩
  | cons first handles ih =>
    obtain ⟨hnext, hleased, hcbs⟩ := freeCommandBuffer_spec hbooks first
    obtain ⟨hsame, hsameCbs⟩ := hfree s first
    obtain ⟨hlast, hlater, hlaterCbs⟩ := ih (hsame.books hnext)
    refine ⟨hlast, fun key => ?_, fun h => ?_⟩
    · rw [List.foldl_cons, hlater, hsame.leased, hleased, List.mem_cons]
      tauto
    · rw [List.foldl_cons, hlaterCbs, hsameCbs, hcbs, Table.getElem?_erase_eq]
      by_cases hfirst : first = h
      · simp [hfirst]
      · have hne : (h = first) = False := eq_false (Ne.symm hfirst)
        simp only [List.mem_cons, hne, false_or, if_neg hfirst]

theorem tended_of_freed {s t : Backend} {handles : List Nat} (hbooks : t.Books)
    (hleased : ∀ key, t.Leased key ↔ s.Leased key ∧ ¬(key.1 ∈ handles ∧ key.2 < topGeneration))
    (hcbs : ∀ h : Nat, t.commandBuffers[h]? =
      if h ∈ handles then none else s.commandBuffers[h]?) : Tended { h | h ∈ handles } s t where
  books := hbooks
  source key hkey := .inl ((hleased key).mp hkey).1
  gone h hsome := by
    rw [hcbs]
    split
    next hfreed => exact iff_of_true rfl hfreed
    next hkept => exact iff_of_false (Option.isSome_iff_ne_none.mp hsome) hkept
  released key hkey hfreed := by
    rw [hleased]
    constructor
    · rintro ⟨-, hnot⟩
      exact Nat.le_of_not_lt fun hbelow => hnot ⟨hfreed, hbelow⟩
    · exact fun htop => ⟨hkey, fun hbelow => Nat.not_lt.mpr htop hbelow.2⟩

/-- The command buffers that a request takes away: those of a pool that goes, and those of a list
that names command buffers of its pool, each of them once. -/
def frees (s : Backend) : Op → Set Nat
  | .destroyCommandPool pool => { h | ∃ p, s.pools[pool]? = some p ∧ h ∈ p.buffers }
  | .freeCommandBuffers pool handles =>
    { h | h ∈ handles ∧ (s.pools[pool]?).isSome ∧ handles.Nodup ∧
      ∀ other ∈ handles, ∃ cb, s.commandBuffers[other]? = some cb ∧ cb.pool = pool }
  | _ => ∅

theorem checkFreed_eq_ok {pool : Nat} {seen handles : List Nat} :
    s.checkFreed pool seen handles = .ok () ↔ handles.Nodup ∧ (∀ h ∈ handles, h ∉ seen) ∧
      ∀ h ∈ handles, ∃ cb, s.commandBuffers[h]? = some cb ∧ cb.pool = pool := by
  induction handles generalizing seen with
  | nil => simp [checkFreed]
  | cons first handles ih =>
    simp only [checkFreed, accept_rules, ih, List.nodup_cons, List.mem_cons, not_or,
      forall_eq_or_imp]
    constructor
    · rintro ⟨cb, hcb, -, hseen, hnodup, hfresh, hcbs⟩
      exact ⟨⟨fun hin => (hfresh first hin).1 rfl, hnodup⟩,
        ⟨hseen, fun h hin => (hfresh h hin).2⟩, ⟨cb, hcb⟩, hcbs⟩
    · rintro ⟨⟨hfirst, hnodup⟩, ⟨hseen, hfresh⟩, ⟨cb, hcb⟩, hcbs⟩
      refine ⟨cb, hcb, (), hseen, hnodup, fun h hin => ⟨?_, hfresh h hin⟩, hcbs⟩
      rintro rfl
      exact hfirst hin

theorem tended_destroyCommandPool (hbooks : s.Books) (h : Nat) :
    Tended (s.frees (.destroyCommandPool h)) s (settle s id (s.destroyCommandPool h)).1 := by
  unfold destroyCommandPool find
  cases hpool : s.pools[h]? with
  | none =>
    have hnone : s.frees (.destroyCommandPool h) = ∅ := by simp [frees, hpool]
    rw [hnone]
    exact tended_of_quiet hbooks (.refl s)
  | some pool =>
    obtain ⟨hlast, hleased, hcbs⟩ := foldl_free (fun t h => ⟨⟨rfl, rfl, rfl, rfl⟩, rfl⟩)
      pool.buffers hbooks
    have hsame : SameLeases (pool.buffers.foldl freeCommandBuffer s)
        ((pool.buffers.foldl freeCommandBuffer s).discard .pool pool.device h) :=
      ⟨rfl, rfl, rfl, rfl⟩
    have hfrees : s.frees (.destroyCommandPool h) = { h | h ∈ pool.buffers } := by
      simp [frees, hpool]
    rw [hfrees]
    exact tended_of_freed (hsame.books hlast)
      (fun key => (hsame.leased key).trans (hleased key)) hcbs

theorem tended_freeCommandBuffers (hbooks : s.Books) (pool : Nat) (handles : List Nat) :
    Tended (s.frees (.freeCommandBuffers pool handles)) s
      (settle s id (s.freeCommandBuffers pool handles)).1 := by
  cases hresult : s.freeCommandBuffers pool handles with
  | error reason =>
    have hnone : s.frees (.freeCommandBuffers pool handles) = ∅ := by
      refine Set.eq_empty_of_forall_notMem fun h => ?_
      rintro ⟨hin, hpool, hnodup, hcbs⟩
      obtain ⟨p, hp⟩ := Option.isSome_iff_exists.mp hpool
      have hchecked : s.checkFreed pool [] handles = .ok () :=
        checkFreed_eq_ok.mpr ⟨hnodup, by simp, hcbs⟩
      have hsome : handles ≠ [] := List.ne_nil_of_mem hin
      simp [freeCommandBuffers, find_eq_ok.mpr hp, rejectIf, hsome, hchecked, bind, Except.bind,
        pure, Except.pure] at hresult
    rw [hnone]
    exact tended_of_quiet hbooks (.refl s)
  | ok next =>
    simp only [freeCommandBuffers, accept_rules] at hresult
    obtain ⟨p, hp, _, -, _, hchecked, rfl⟩ := hresult
    obtain ⟨hnodup, -, hall⟩ := checkFreed_eq_ok.mp hchecked
    have hfrees : s.frees (.freeCommandBuffers pool handles) = { h | h ∈ handles } := by
      ext h
      exact and_iff_left ⟨by rw [hp]; rfl, hnodup, hall⟩
    obtain ⟨hlast, hleased, hcbs⟩ := foldl_free (f := fun t h =>
      { t.freeCommandBuffer h with
        pools := (t.freeCommandBuffer h).pools.modify pool fun p =>
          { p with buffers := p.buffers.erase h } })
      (fun t h => ⟨⟨rfl, rfl, rfl, rfl⟩, rfl⟩) handles hbooks
    rw [hfrees]
    exact tended_of_freed hlast hleased hcbs

/-! ### Recordings -/

theorem tended_supersedeOlder (hbooks : s.Books) (req : RecordCommandBufferRequest)
    (cb : CmdBuffer) : Tended ∅ s (s.supersedeOlder req cb) := by
  unfold supersedeOlder
  split
  · obtain ⟨hlast, hleased⟩ := releases_spec hbooks req.commandBuffer req.recordingGeneration
    have hsame : SameLeases
        (s.releaseRecordingLeasesForCommandBuffer req.commandBuffer req.recordingGeneration)
        (s.supersede req.commandBuffer req.recordingGeneration) := ⟨rfl, rfl, rfl, rfl⟩
    refine tended_of_kept (hsame.books hlast) (fun h hsome => ?_)
      fun key hkey => .inl ((hleased key).mp ((hsame.leased key).mp hkey)).1
    rwa [supersede, (s.sameButLeases_releases _ _).commandBuffers, Table.isSome_modify]
  · exact tended_of_quiet hbooks (.refl s)

theorem tended_recordCommandBuffer (hbooks : s.Books) (req : RecordCommandBufferRequest) :
    Tended ∅ s (s.recordCommandBuffer req).1 := by
  unfold recordCommandBuffer
  split
  · exact tended_of_quiet hbooks (.refl s)
  · rename_i cb hcb
    split
    · exact tended_of_quiet hbooks (.refl s)
    · have htended := tended_supersedeOlder hbooks req cb
      split
      · exact htended
      · refine htended.quiet ⟨⟨rfl, rfl, rfl, rfl⟩, fun h hsome => ?_, steady_commandBuffers _ _⟩
        rwa [storeRecording, Table.isSome_modify]

theorem retireRecording_spec (hbooks : s.Books) (key : LeaseKey) : (s.retireRecording key).Books ∧
      (∀ other, (s.retireRecording key).Leased other → s.Leased other) ∧
      ∀ h : Nat, (s.commandBuffers[h]?).isSome →
        ((s.retireRecording key).commandBuffers[h]?).isSome := by
  have hsame : SameLeases (s.releaseRecordingLease key) (s.retireRecording key) :=
    ⟨rfl, rfl, rfl, rfl⟩
  refine ⟨hsame.books (hbooks.release key), fun other hother => ?_, fun h hsome => ?_⟩
  · exact ((leased_release_iff hbooks).mp ((hsame.leased other).mp hother)).1
  · rwa [retireRecording, (s.sameButLeases_releaseRecordingLease key).commandBuffers,
      Table.isSome_modify]

theorem tended_retireCommandBufferRecordings (hbooks : s.Books) (recordings : List LeaseKey) :
    Yields (s.retireCommandBufferRecordings recordings) (Tended ∅ s) := by
  have hfold : ∀ (keys : List LeaseKey) (t : Backend), t.Books →
      (∀ other, t.Leased other → s.Leased other) →
      (∀ h : Nat, (s.commandBuffers[h]?).isSome → (t.commandBuffers[h]?).isSome) →
      Tended ∅ s (keys.foldl retireRecording t) := by
    intro keys
    induction keys with
    | nil =>
      intro t ht hleased hkept
      exact tended_of_kept ht hkept fun key hkey => .inl (hleased key hkey)
    | cons key keys ih =>
      intro t ht hleased hkept
      obtain ⟨hnext, hnextLeased, hnextKept⟩ := retireRecording_spec ht key
      exact ih _ hnext (fun other hother => hleased other (hnextLeased other hother))
        fun h hsome => hnextKept h (hkept h hsome)
  exact .bind fun _ => .bind fun _ => .ok (hfold _ s hbooks (fun _ => id) fun _ => id)

/-! ### Memory and leased destroys -/

theorem tended_freeMemory (hbooks : s.Books) (hnull : s.memoryObjects[0]? = none) (h : Nat) :
    Tended ∅ s (s.freeMemory h).1 := by
  rcases s.freeMemory_cases h with ⟨_, _, heq⟩ | ⟨memory, hmemory, hretained, -, heq⟩ |
    ⟨freed, hfreed, heq⟩
  · rw [heq]
    exact tended_of_quiet hbooks (.other le_rfl rfl)
  · have hnonzero : h ≠ 0 := by
      rintro rfl
      rw [hnull] at hmemory
      cases hmemory
    rw [heq]
    refine tended_of_kept ⟨hbooks.edges, hbooks.images, hbooks.buffers, ?_⟩ (fun _ => id)
      fun key hkey => .inl hkey
    intro other hother
    rcases Finset.mem_insert.mp hother with rfl | hother
    · exact ⟨hnonzero, hretained⟩
    · exact hbooks.memories other hother
  · have hquiet := s.quiet_destroyDeviceLeaf h .memory freed hfreed
    have hsame : SameLeases s { freed with memoryObjects := s.memoryObjects.erase h } :=
      ⟨hquiet.images, hquiet.buffers, hquiet.memories, hquiet.edges⟩
    rw [heq]
    exact tended_of_kept (hsame.books hbooks) hquiet.kept
      fun key hkey => .inl ((hsame.leased key).mp hkey)

theorem checkLeases_eq_ok {device : Nat} {leases : List LeaseKey} {name : String}
    (hok : s.checkLeases device leases name = .ok ()) :
    leases ≠ [] ∧ leases.Nodup ∧ ∀ lease ∈ leases, (s.commandBuffers[lease.1]?).isSome := by
  simp only [checkLeases, accept_rules, not_not, not_or] at hok
  obtain ⟨-, ⟨hnonempty, -⟩, -, hall, hnodup⟩ := hok
  refine ⟨by simpa using hnonempty, hnodup, fun lease hlease => ?_⟩
  obtain ⟨cb, ⟨hcb, -⟩, -⟩ := hall lease hlease
  rw [hcb]
  rfl

/-- A new entry hides none of the table. -/
theorem exists_insert {α : Type} {table : Table α} {h : Nat} (hnew : table[h]? = none) (item : α)
    {P : α → Prop} (hsome : ∃ (other : Nat) (x : α), table[other]? = some x ∧ P x) :
    ∃ (other : Nat) (x : α), (table.insert h item)[other]? = some x ∧ P x := by
  obtain ⟨other, x, hx, hP⟩ := hsome
  refine ⟨other, x, ?_, hP⟩
  rw [Table.getElem?_insert_eq, if_neg]
  · exact hx
  · rintro rfl
    rw [hnew] at hx
    cases hx

theorem Books.retireBuffer {s t : Backend} (hbooks : s.Books) {h : Nat} {r : RetiredBuffer}
    (hnew : s.retiredBuffers[h]? = none) (hheld : r.leases ≠ []) (hnodup : r.leases.Nodup)
    (himages : t.retiredImages = s.retiredImages)
    (hbuffers : t.retiredBuffers = s.retiredBuffers.insert h r)
    (hmemories : t.retiredMemories = s.retiredMemories)
    (hedges : t.recordingResourceLeaseEdges =
      s.recordingResourceLeaseEdges + r.leases.length) : t.Books := by
  refine ⟨?_, himages ▸ hbooks.images, hbuffers ▸ hbooks.buffers.insert hheld hnodup h, ?_⟩
  · have hcount : bufferLeases.count (s.retiredBuffers.insert h r) =
        r.leases.length + bufferLeases.count s.retiredBuffers := LeaseField.count_insert hnew r
    rw [hedges, hbooks.edges, leaseCount, leaseCount, himages, hbuffers, hcount]
    omega
  · intro memory hmemory
    obtain ⟨hnonzero, hretained⟩ := hbooks.memories memory (hmemories ▸ hmemory)
    refine ⟨hnonzero, ?_⟩
    rw [retainedByResource_iff] at hretained ⊢
    rw [himages, hbuffers]
    exact hretained.imp_right (exists_insert hnew r)

theorem Books.retireImage {s t : Backend} (hbooks : s.Books) {h : Nat} {r : RetiredImage}
    (hnew : s.retiredImages[h]? = none) (hheld : r.leases ≠ []) (hnodup : r.leases.Nodup)
    (himages : t.retiredImages = s.retiredImages.insert h r)
    (hbuffers : t.retiredBuffers = s.retiredBuffers)
    (hmemories : t.retiredMemories = s.retiredMemories)
    (hedges : t.recordingResourceLeaseEdges =
      s.recordingResourceLeaseEdges + r.leases.length) : t.Books := by
  refine ⟨?_, himages ▸ hbooks.images.insert hheld hnodup h, hbuffers ▸ hbooks.buffers, ?_⟩
  · have hcount : imageLeases.count (s.retiredImages.insert h r) =
        r.leases.length + imageLeases.count s.retiredImages := LeaseField.count_insert hnew r
    rw [hedges, hbooks.edges, leaseCount, leaseCount, himages, hbuffers, hcount]
    omega
  · intro memory hmemory
    obtain ⟨hnonzero, hretained⟩ := hbooks.memories memory (hmemories ▸ hmemory)
    refine ⟨hnonzero, ?_⟩
    rw [retainedByResource_iff] at hretained ⊢
    rw [himages, hbuffers]
    exact hretained.imp_left (exists_insert hnew r)

theorem tended_destroyBufferLeased (hbooks : s.Books) (hapart : s.Apart)
    (req : LeasedDestroyRequest) : Tended ∅ s (s.destroyBufferLeased req).1 := by
  rcases s.destroyBufferLeased_cases req with ⟨_, _, heq⟩ | ⟨buffer, hbuffer, hchecked, -, heq⟩
  · rw [heq]
    exact tended_of_quiet hbooks (.other le_rfl rfl)
  · obtain ⟨hheld, hnodup, hlive⟩ := checkLeases_eq_ok hchecked
    have hquiet := s.quiet_consulted req.handle req.leases
    rw [heq]
    refine tended_of_kept (hbooks.retireBuffer (hapart.buffer_not_retired hbuffer).2 hheld
      hnodup hquiet.images rfl hquiet.memories rfl) hquiet.kept ?_
    rintro key (himage | hretired)
    · exact .inl (.inl (hquiet.images ▸ himage))
    · rcases LeaseField.Held.of_insert hretired with hold | hnew
      · exact .inl (.inr hold)
      · exact .inr (hquiet.kept key.1 (hlive key hnew))

theorem tended_destroyImageLeased (hbooks : s.Books) (hapart : s.Apart)
    (req : LeasedDestroyRequest) : Tended ∅ s (s.destroyImageLeased req).1 := by
  rcases s.destroyImageLeased_cases req with ⟨_, _, heq⟩ | ⟨image, himage, hchecked, -, heq⟩
  · rw [heq]
    exact tended_of_quiet hbooks (.other le_rfl rfl)
  · obtain ⟨hheld, hnodup, hlive⟩ := checkLeases_eq_ok hchecked
    have hquiet := s.quiet_invalidate req.handle req.leases
    rw [heq]
    refine tended_of_kept (hbooks.retireImage (hapart.image_not_retired himage).1 hheld
      hnodup rfl rfl rfl rfl) hquiet.kept ?_
    rintro key (hretired | hbuffer)
    · rcases LeaseField.Held.of_insert hretired with hold | hnew
      · exact .inl (.inl hold)
      · exact .inr (hquiet.kept key.1 (hlive key hnew))
    · exact .inl (.inr hbuffer)

end Backend

theorem tended_perform {s : Backend} (hbooks : s.Books) (hnull : s.memoryObjects[0]? = none)
    (hapart : s.Apart) (op : Op) : Backend.Tended (s.frees op) s (perform s op).1 := by
  cases op with
  | destroyCommandPool h => exact Backend.tended_destroyCommandPool hbooks h
  | freeCommandBuffers pool handles => exact Backend.tended_freeCommandBuffers hbooks pool handles
  | freeMemory h => exact Backend.tended_freeMemory hbooks hnull h
  | destroyBufferLeased req => exact Backend.tended_destroyBufferLeased hbooks hapart req
  | destroyImageLeased req => exact Backend.tended_destroyImageLeased hbooks hapart req
  | recordCommandBuffer req => exact Backend.tended_recordCommandBuffer hbooks req
  | retireCommandBufferRecordings recordings =>
    change Backend.Tended ∅ s (settle s id (s.retireCommandBufferRecordings recordings)).1
    cases hresult : s.retireCommandBufferRecordings recordings with
    | error => exact Backend.tended_of_quiet hbooks (.refl s)
    | ok next => exact Backend.tended_retireCommandBufferRecordings hbooks recordings next hresult
  | _ => exact Backend.tended_of_quiet hbooks (quiet_perform s _ rfl)

/-! ## Runs -/

namespace Backend

/-- The whole of the bookkeeping. A retired memory stays a memory object, so the handles that
must not be live are those of images and buffers. -/
structure LeaseBook (s : Backend) : Prop where
  edges : s.recordingResourceLeaseEdges = s.leaseCount
  imagesHeld : ∀ (h : Nat) (r : RetiredImage), s.retiredImages[h]? = some r → r.leases ≠ []
  buffersHeld : ∀ (h : Nat) (r : RetiredBuffer), s.retiredBuffers[h]? = some r → r.leases ≠ []
  live : s.LeasesLive
  apart : ∀ h : Nat, (s.images[h]?).isSome ∨ (s.buffers[h]?).isSome →
    s.retiredImages[h]? = none ∧ s.retiredBuffers[h]? = none
  memories : ∀ memory ∈ s.retiredMemories, s.retainedByResource memory = true
  idle : (∀ h : Nat, s.commandBuffers[h]? = none) →
    (∀ h : Nat, s.retiredImages[h]? = none) ∧ (∀ h : Nat, s.retiredBuffers[h]? = none) ∧
      s.retiredMemories = ∅ ∧ s.recordingResourceLeaseEdges = 0

structure Kept (s : Backend) : Prop where
  fresh : 0 < s.nextHandle
  null : s.memoryObjects[0]? = none
  apart : s.Apart
  books : s.Books

theorem kept_empty (haveDevice : Bool) : Backend.Kept { haveDevice } where
  fresh := Nat.one_pos
  null := by simp
  apart := apart_empty haveDevice
  books := ⟨rfl, .empty, .empty, fun memory hmemory => by simp at hmemory⟩

theorem Kept.perform {s : Backend} (hs : s.Kept) (op : Op) :
    (VkRelay.Session.perform s op).1.Kept where
  fresh := hs.fresh.trans_le (steady_perform s op).next
  null := (steady_perform s op).null hs.fresh hs.null
  apart := (steady_perform s op).apart hs.apart
  books := (tended_perform hs.books hs.null hs.apart op).books

/-- Without command buffers nobody holds anything. -/
theorem Kept.leaseBook_iff {s : Backend} (hs : s.Kept) : s.LeaseBook ↔ s.LeasesLive := by
  refine ⟨LeaseBook.live, fun hlive => ⟨hs.books.edges, hs.books.images.held,
    hs.books.buffers.held, hlive, ?_, fun memory hmemory => (hs.books.memories memory hmemory).2,
    fun hnone => ?_⟩⟩
  · rintro h (himage | hbuffer)
    · obtain ⟨image, himage⟩ := Option.isSome_iff_exists.mp himage
      exact hs.apart.image_not_retired himage
    · obtain ⟨buffer, hbuffer⟩ := Option.isSome_iff_exists.mp hbuffer
      exact hs.apart.buffer_not_retired hbuffer
  · have hunleased : ∀ key, ¬s.Leased key := by
      intro key hkey
      have hsome := hlive key hkey
      rw [hnone] at hsome
      cases hsome
    have himages : s.retiredImages = ∅ :=
      hs.books.images.eq_empty fun key hkey => hunleased key (.inl hkey)
    have hbuffers : s.retiredBuffers = ∅ :=
      hs.books.buffers.eq_empty fun key hkey => hunleased key (.inr hkey)
    refine ⟨fun h => by simp [himages], fun h => by simp [hbuffers], ?_, ?_⟩
    · apply Finset.eq_empty_of_forall_notMem
      intro memory hmemory
      have hretained := (hs.books.memories memory hmemory).2
      simp [retainedByResource_iff, himages, hbuffers] at hretained
    · rw [hs.books.edges, leaseCount, himages, hbuffers, LeaseField.count_empty,
        LeaseField.count_empty]

end Backend

/-- The request frees no command buffer that holds a lease of the largest generation. -/
def KeepsTopLeases (s : Backend) (op : Op) : Prop :=
  ∀ key, s.Leased key → Backend.topGeneration ≤ key.2 → key.1 ∉ s.frees op

/-- The bookkeeping is right in every state of a run exactly when the run frees no command buffer
that holds a lease of the largest generation. -/
theorem lease_book_kept_iff (haveDevice : Bool) (ops : List Op) :
    (∀ before after, ops = before ++ after → (performAll { haveDevice } before).LeaseBook) ↔
      AlongFold (fun t op => (perform t op).1) KeepsTopLeases { haveDevice } ops := by
  have hstep : ∀ (s : Backend) (op : Op), s.Kept ∧ s.LeaseBook →
      ((perform s op).1.Kept ∧ (perform s op).1.LeaseBook ↔ KeepsTopLeases s op) := by
    rintro s op ⟨hs, hbook⟩
    have hnext := hs.perform op
    rw [and_iff_right hnext, hnext.leaseBook_iff]
    exact (tended_perform hs.books hs.null hs.apart op).live_iff hbook.live
  have hempty : Backend.Kept { haveDevice } ∧ Backend.LeaseBook { haveDevice } := by
    refine ⟨Backend.kept_empty haveDevice, (Backend.kept_empty haveDevice).leaseBook_iff.mpr ?_⟩
    rintro key (himage | hbuffer)
    · exact absurd himage (LeaseField.not_held_empty key)
    · exact absurd hbuffer (LeaseField.not_held_empty key)
  rw [← invariant_along_iff hstep hempty ops]
  have hkept : ∀ before : List Op, (performAll { haveDevice } before).Kept := fun before =>
    List.foldlRecOn before _ (Backend.kept_empty haveDevice) fun _ hs op _ => hs.perform op
  exact ⟨fun hall before after hsplit => ⟨hkept before, hall before after hsplit⟩,
    fun hall before after hsplit => (hall before after hsplit).2⟩

/-- A buffer is leased to the largest generation of the command buffer 6, which is then freed. -/
def freedUnderLease : Backend :=
  performAll {} (setUp {} ++ [
    .createBuffer { device := 3, size := 4, usage := 1, sharingMode := 0 },
    .destroyBufferLeased { handle := 7, leases := [(6, 2 ^ 64 - 1)] },
    .freeCommandBuffers 5 [6]])

theorem freed_command_buffer_keeps_lease :
    ¬(freedUnderLease.LeaseBook) ∧ freedUnderLease.commandBuffers[6]? = none ∧
      freedUnderLease.retiredBuffers.keys = [7] ∧
      freedUnderLease.recordingResourceLeaseEdges = 1 := by
  have hfreed : freedUnderLease.commandBuffers[6]? = none := by decide
  refine ⟨fun hbook => ?_, hfreed, by decide, by decide⟩
  have hleases : (freedUnderLease.retiredBuffers[7]?).map RetiredBuffer.leases =
      some [(6, 2 ^ 64 - 1)] := by
    decide
  obtain ⟨r, hr, hrleases⟩ := Option.map_eq_some_iff.mp hleases
  have hleased : freedUnderLease.Leased (6, 2 ^ 64 - 1) :=
    .inr ⟨7, r, hr, by simp [bufferLeases, hrleases]⟩
  have hlive := hbook.live _ hleased
  rw [hfreed] at hlive
  cases hlive

end VkRelay.Session
