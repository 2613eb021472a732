import VkRelay.Session.LeaseBook

/-!
What a record request leaves alone. For the time of the pass the source enters the retired
resources that the recording holds leases on in the live tables, and takes them out again on
every way out. As no handle is both live and retired this leaves the live tables as they were,
and the handler does what `Backend.recordCommandBuffer` says.
-/

namespace VkRelay.Session

open VkRelay.Lib

namespace Backend

def exposedImages (s : Backend) (commandBuffer generation : Nat) : List (Nat × RetiredImage) :=
  if generation = 0 then []
  else s.retiredImages.toList.filter fun entry => (commandBuffer, generation) ∈ entry.2.leases

def exposedBuffers (s : Backend) (commandBuffer generation : Nat) : List (Nat × RetiredBuffer) :=
  if generation = 0 then []
  else s.retiredBuffers.toList.filter fun entry => (commandBuffer, generation) ∈ entry.2.leases

def hideRetired (s : Backend) (images : List (Nat × RetiredImage))
    (buffers : List (Nat × RetiredBuffer)) : Backend :=
  { s with
    images := images.foldl (fun t entry => t.erase entry.1) s.images
    buffers := buffers.foldl (fun t entry => t.erase entry.1) s.buffers }

/-- The record request with the live tables as they are in the course of it. -/
def recordInPlace (s : Backend) (req : RecordCommandBufferRequest) :
    Backend × Except String Unit :=
  match s.commandBuffers[req.commandBuffer]? with
  | none => (s, .error "unknown command buffer handle")
  | some cb =>
    if req.recordingGeneration ≠ 0 ∧ req.recordingGeneration < cb.recordingGeneration then
      (s, .error "recording generation is stale")
    else
      let superseded := s.supersedeOlder req cb
      let images := superseded.exposedImages req.commandBuffer req.recordingGeneration
      let buffers := superseded.exposedBuffers req.commandBuffer req.recordingGeneration
      let exposed := superseded.expose req.commandBuffer req.recordingGeneration
      match exposed.validateStream cb.device req.commands with
      | .error reason => (exposed.hideRetired images buffers, .error reason)
      | .ok r => ((exposed.storeRecording req r).hideRetired images buffers, .ok ())

variable {s : Backend}

theorem Apart.images_free (hapart : s.Apart) {h : Nat} {r : RetiredImage}
    (hretired : s.retiredImages[h]? = some r) : s.images[h]? = none := by
  cases himage : s.images[h]? with
  | none => rfl
  | some image => exact absurd (hretired.symm.trans (hapart.image_not_retired himage).1) (by simp)

theorem Apart.buffers_free (hapart : s.Apart) {h : Nat} {r : RetiredBuffer}
    (hretired : s.retiredBuffers[h]? = some r) : s.buffers[h]? = none := by
  cases hbuffer : s.buffers[h]? with
  | none => rfl
  | some buffer =>
    exact absurd (hretired.symm.trans (hapart.buffer_not_retired hbuffer).2) (by simp)

/-- What is exposed and hidden again was not there. -/
theorem hideRetired_expose (hapart : s.Apart) (commandBuffer generation : Nat) :
    (s.expose commandBuffer generation).hideRetired (s.exposedImages commandBuffer generation)
      (s.exposedBuffers commandBuffer generation) = s := by
  unfold expose exposedImages exposedBuffers
  by_cases hzero : generation = 0
  · simp only [if_pos hzero]
    rfl
  · simp only [if_neg hzero, hideRetired, exposeImages, exposeBuffers]
    have himages := Table.foldl_erase_insertIfNew RetiredImage.image
      (s.retiredImages.toList.filter fun entry => (commandBuffer, generation) ∈ entry.2.leases)
      s.images fun entry hentry => hapart.images_free
        ((Table.mem_toList_iff _ _ _).mp (List.mem_filter.mp hentry).1)
    have hbuffers := Table.foldl_erase_insertIfNew RetiredBuffer.buffer
      (s.retiredBuffers.toList.filter fun entry => (commandBuffer, generation) ∈ entry.2.leases)
      s.buffers fun entry hentry => hapart.buffers_free
        ((Table.mem_toList_iff _ _ _).mp (List.mem_filter.mp hentry).1)
    simp only [List.foldl_filter, decide_eq_true_eq] at himages hbuffers ⊢
    rw [himages, hbuffers]

/-- Where no handle is both live and retired, the tables the pass works in leave no trace. -/
theorem recordInPlace_eq (hapart : s.Apart) (req : RecordCommandBufferRequest) :
    s.recordInPlace req = s.recordCommandBuffer req := by
  unfold recordInPlace recordCommandBuffer
  cases hcb : s.commandBuffers[req.commandBuffer]? with
  | none => rfl
  | some cb =>
    have hsuperseded : (s.supersedeOlder req cb).Apart :=
      (loose_steady.supersedeOlder s req cb).apart hapart
    have hhidden := hideRetired_expose hsuperseded req.commandBuffer req.recordingGeneration
    dsimp only [passTables]
    by_cases hstale : req.recordingGeneration ≠ 0 ∧ req.recordingGeneration < cb.recordingGeneration
    · rw [if_pos hstale, if_pos hstale]
    · rw [if_neg hstale, if_neg hstale]
      cases ((s.supersedeOlder req cb).expose req.commandBuffer
        req.recordingGeneration).validateStream cb.device req.commands with
      | error reason => exact congrArg (·, Except.error reason) hhidden
      -- storing the recording touches none of the tables that are hidden
      | ok r => exact congrArg (fun t : Backend => (t.storeRecording req r, Except.ok ())) hhidden

def Newer (s : Backend) (req : RecordCommandBufferRequest) : Prop :=
  ∃ cb : CmdBuffer, s.commandBuffers[req.commandBuffer]? = some cb ∧
    cb.recordingGeneration < req.recordingGeneration

/-- What a record request leaves as it was: the live resources, everything that recordings are
made with, the other command buffers, and the leases but those of older generations of the
command buffer. -/
structure OnlyRecords (req : RecordCommandBufferRequest) (s t : Backend) : Prop where
  images : t.images = s.images
  buffers : t.buffers = s.buffers
  descriptorSets : t.descriptorSets = s.descriptorSets
  pipelines : t.pipelines = s.pipelines
  swapchains : t.swapchains = s.swapchains
  others : ∀ h : Nat, h ≠ req.commandBuffer → t.commandBuffers[h]? = s.commandBuffers[h]?
  leases : ∀ resource key, t.Holds resource key ↔ s.Holds resource key ∧
    ¬(s.Newer req ∧ key.1 = req.commandBuffer ∧ key.2 < req.recordingGeneration)

theorem onlyRecords_refl {req : RecordCommandBufferRequest} (hold : ¬s.Newer req) :
    OnlyRecords req s s :=
  ⟨rfl, rfl, rfl, rfl, rfl, fun _ _ => rfl, fun _ _ => by simp [hold]⟩

theorem onlyRecords_supersedeOlder (hbooks : s.Books) {req : RecordCommandBufferRequest}
    {cb : CmdBuffer} (hcb : s.commandBuffers[req.commandBuffer]? = some cb) :
    OnlyRecords req s (s.supersedeOlder req cb) := by
  unfold supersedeOlder
  split
  next hnewer =>
    have hnew : s.Newer req := ⟨cb, hcb, hnewer.2⟩
    obtain ⟨-, hheld⟩ := holds_releases hbooks req.commandBuffer req.recordingGeneration
    have hleases : ∀ resource key,
        (s.supersede req.commandBuffer req.recordingGeneration).Holds resource key ↔
          s.Holds resource key ∧
            ¬(s.Newer req ∧ key.1 = req.commandBuffer ∧ key.2 < req.recordingGeneration) := by
      intro resource key
      rw [and_iff_right hnew, ← hheld]
      cases resource <;> rfl
    obtain ⟨_, _, _, _, _, _, _, hsame⟩ :=
      s.sameButLeases_releases req.commandBuffer req.recordingGeneration
    rw [supersede, hsame] at hleases ⊢
    refine ⟨rfl, rfl, rfl, rfl, rfl, fun h hne => ?_, hleases⟩
    rw [Table.getElem?_modify_eq, if_neg (Ne.symm hne)]
  next hnot =>
    refine onlyRecords_refl ?_
    rintro ⟨other, hother, hnewer⟩
    rw [hcb] at hother
    cases hother
    exact hnot ⟨by omega, hnewer⟩

/-- A recording touches its command buffer only. A request that is refused and is for no newer
generation does not even touch that. -/
theorem recording_touches_only_its_command_buffer {s : Backend} (hreach : Reachable s)
    (req : RecordCommandBufferRequest) :
    OnlyRecords req s (s.recordInPlace req).1 ∧
      ((s.recordInPlace req).2 ≠ .ok () → ¬s.Newer req →
        (s.recordInPlace req).1.commandBuffers[req.commandBuffer]? =
          s.commandBuffers[req.commandBuffer]?) := by
  have hkept : s.Kept := hreach.invariant kept_empty fun _ op hs => hs.perform op
  rw [recordInPlace_eq hkept.apart]
  unfold recordCommandBuffer
  split
  next hnone =>
    refine ⟨onlyRecords_refl ?_, fun _ _ => rfl⟩
    rintro ⟨cb, hcb, -⟩
    rw [hnone] at hcb
    cases hcb
  next cb hcb =>
    have hrecords := onlyRecords_supersedeOlder hkept.books hcb
    split
    next hstale =>
      refine ⟨onlyRecords_refl ?_, fun _ _ => rfl⟩
      rintro ⟨other, hother, hnewer⟩
      rw [hcb] at hother
      cases hother
      omega
    next =>
      split
      next =>
        refine ⟨hrecords, fun _ hold => ?_⟩
        have hsame : s.supersedeOlder req cb = s :=
          if_neg fun hnewer => hold ⟨cb, hcb, hnewer.2⟩
        rw [hsame]
      next r _ =>
        refine ⟨⟨hrecords.images, hrecords.buffers, hrecords.descriptorSets, hrecords.pipelines,
          hrecords.swapchains, fun h hne => ?_, fun resource key => ?_⟩, fun hrefused => ?_⟩
        · rw [storeRecording, Table.getElem?_modify_eq, if_neg (Ne.symm hne)]
          exact hrecords.others h hne
        · rw [← hrecords.leases]
          cases resource <;> rfl
        · exact absurd rfl hrefused

/-- A buffer is retired under a lease of the first generation, and the command buffer is recorded
in the second. -/
theorem recording_touches_only_its_command_buffer_leased :
    let s := performAll {} (setUp {} ++
      [.createBuffer { device := 3, size := 4, usage := 1, sharingMode := 0 },
        .recordCommandBuffer { commandBuffer := 6, recordingGeneration := 1 },
        .destroyBufferLeased { handle := 7, leases := [(6, 1)] }])
    Reachable s ∧ s.Newer { commandBuffer := 6, recordingGeneration := 2 } ∧
      s.Holds (.buffer 7) (6, 1) ∧
      ¬(s.recordInPlace { commandBuffer := 6, recordingGeneration := 2 }).1.Holds (.buffer 7)
        (6, 1) := by
  intro s
  have hreach : Reachable s := reachable_performAll _
  have hnewer : s.Newer { commandBuffer := 6, recordingGeneration := 2 } := by
    have hgeneration : (s.commandBuffers[6]?).map (·.recordingGeneration) = some 1 := by
      decide +kernel
    obtain ⟨cb, hcb, hone⟩ := Option.map_eq_some_iff.mp hgeneration
    exact ⟨cb, hcb, by rw [hone]; decide⟩
  have hheld : s.Holds (.buffer 7) (6, 1) := by
    have hleases : (s.retiredBuffers[7]?).map RetiredBuffer.leases = some [(6, 1)] := by
      decide +kernel
    obtain ⟨r, hr, hrleases⟩ := Option.map_eq_some_iff.mp hleases
    exact ⟨r, hr, by simp [bufferLeases, hrleases]⟩
  refine ⟨hreach, hnewer, hheld, fun hstill => ?_⟩
  exact ((recording_touches_only_its_command_buffer hreach _).1.leases _ _ |>.mp hstill).2
    ⟨hnewer, rfl, by decide⟩

end Backend

end VkRelay.Session
