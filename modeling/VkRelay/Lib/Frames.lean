import Mathlib

/-!
Frames read from a stream that arrives in arbitrary pieces. A receiver keeps the
bytes it has not used yet; it looks at the front of them, and either takes a frame
off, or gives up, or reads another piece. If the front of a buffer is decided by
the first bytes of the stream alone, what the receiver returns depends only on the
stream and not on where the reads cut it.
-/

namespace VkRelay.Lib

variable {β π ε : Type*}

inductive Front (β π ε : Type*) where
  | needMore
  | frame (payload : π) (rest : List β)
  | broken (reason : ε)

inductive Received (π ε : Type*) where
  | frame (payload : π)
  | closed
  | truncated
  | broken (reason : ε)

/-- The bytes in hand and the reads to come. An empty read is the end of the stream. -/
structure Intake (β : Type*) where
  buffer : List β := []
  reads : List (List β) := []

namespace Intake

def stream (i : Intake β) : List β := i.buffer ++ i.reads.flatten

/-- No read comes back empty before the end. -/
def Flowing (i : Intake β) : Prop := ∀ chunk ∈ i.reads, chunk ≠ []

end Intake

def atEnd (buffer : List β) : Received π ε :=
  if buffer.isEmpty then .closed else .truncated

def receive (front : List β → Front β π ε) (buffer : List β) :
    List (List β) → Received π ε × Intake β
  | [] =>
    match front buffer with
    | .frame payload rest => (.frame payload, ⟨rest, []⟩)
    | .broken reason => (.broken reason, ⟨buffer, []⟩)
    | .needMore => (atEnd buffer, ⟨buffer, []⟩)
  | chunk :: reads =>
    match front buffer with
    | .frame payload rest => (.frame payload, ⟨rest, chunk :: reads⟩)
    | .broken reason => (.broken reason, ⟨buffer, chunk :: reads⟩)
    | .needMore =>
      if chunk.isEmpty then (atEnd buffer, ⟨buffer, reads⟩)
      else receive front (buffer ++ chunk) reads

def receiveTimes (front : List β → Front β π ε) :
    Nat → Intake β → List (Received π ε) × Intake β
  | 0, i => ([], i)
  | n + 1, i =>
    let (first, i) := receive front i.buffer i.reads
    let (others, i) := receiveTimes front n i
    (first :: others, i)

/-- The first bytes settle what the front of any buffer that starts with them is,
and no shorter buffer settles anything. -/
structure Decides (front : List β → Front β π ε) (word : List β)
    (verdict : List β → Front β π ε) : Prop where
  whole : ∀ rest, front (word ++ rest) = verdict rest
  part : ∀ seen missing, word = seen ++ missing → missing ≠ [] → front seen = .needMore

section Receive

variable {front : List β → Front β π ε} {verdict : List β → Front β π ε} {word tail : List β}

/-- Reading on while the word is incomplete changes nothing; it stops with the word
in hand. -/
theorem receive_decided (hword : Decides front word verdict) (reads : List (List β))
    (buffer : List β) (hflowing : Intake.Flowing ⟨buffer, reads⟩)
    (hstream : Intake.stream ⟨buffer, reads⟩ = word ++ tail) :
    ∃ (seen : List β) (later : List (List β)), Intake.Flowing ⟨word ++ seen, later⟩ ∧
      seen ++ later.flatten = tail ∧
      receive front buffer reads = receive front (word ++ seen) later := by
  induction reads generalizing buffer with
  | nil =>
    refine ⟨tail, [], by simp [Intake.Flowing], by simp, ?_⟩
    rw [← hstream]
    simp [Intake.stream]
  | cons chunk reads ih =>
    rcases List.append_eq_append_iff.mp hstream with
      ⟨missing, hmissing, hrest⟩ | ⟨seen, hseen, hrest⟩
    · by_cases hempty : missing = []
      · subst hempty
        refine ⟨[], chunk :: reads, hflowing, by simpa using hrest, ?_⟩
        rw [hmissing, List.append_nil, List.append_nil]
      · have hchunk : chunk ≠ [] := hflowing chunk List.mem_cons_self
        have hmore := hword.part buffer missing hmissing hempty
        have hstep : receive front buffer (chunk :: reads) =
            receive front (buffer ++ chunk) reads := by
          simp [receive, hmore, hchunk]
        rw [hstep]
        refine ih (buffer ++ chunk) (fun c hc => hflowing c (List.mem_cons_of_mem _ hc)) ?_
        rw [← hstream]
        simp [Intake.stream]
    · have hbuffer : buffer = word ++ seen := hseen
      exact ⟨seen, chunk :: reads, hflowing, hrest.symm, by rw [hbuffer]⟩

/-- A complete frame is taken off, whatever the reads, and the rest of the stream is
left. -/
theorem receive_frame {payload : π} (hword : Decides front word (.frame payload))
    {i : Intake β} (hflowing : i.Flowing) (hstream : i.stream = word ++ tail) :
    ∃ next : Intake β, receive front i.buffer i.reads = (.frame payload, next) ∧
      next.Flowing ∧ next.stream = tail := by
  obtain ⟨seen, later, hlater, htail, hreceive⟩ :=
    receive_decided hword i.reads i.buffer hflowing hstream
  refine ⟨⟨seen, later⟩, ?_, hlater, htail⟩
  rw [hreceive]
  cases later <;> simp [receive, hword.whole seen]

/-- A word that cannot start a frame is reported as soon as it is in hand. -/
theorem receive_broken {reason : ε} (hword : Decides front word fun _ => .broken reason)
    {i : Intake β} (hflowing : i.Flowing) (hstream : i.stream = word ++ tail) :
    (receive front i.buffer i.reads).1 = .broken reason := by
  obtain ⟨seen, later, -, -, hreceive⟩ :=
    receive_decided hword i.reads i.buffer hflowing hstream
  rw [hreceive]
  cases later <;> simp [receive, hword.whole seen]

/-- A stream that ends inside a word ends the receiver. -/
theorem receive_part (hword : Decides front word verdict) (reads : List (List β))
    (buffer : List β) (hflowing : Intake.Flowing ⟨buffer, reads⟩) {missing : List β}
    (hmissing : word = Intake.stream ⟨buffer, reads⟩ ++ missing) (hne : missing ≠ []) :
    receive front buffer reads =
      (atEnd (Intake.stream ⟨buffer, reads⟩), ⟨Intake.stream ⟨buffer, reads⟩, []⟩) := by
  induction reads generalizing buffer with
  | nil =>
    simp only [Intake.stream, List.flatten_nil, List.append_nil] at hmissing ⊢
    simp [receive, hword.part buffer missing hmissing hne]
  | cons chunk reads ih =>
    have hchunk : chunk ≠ [] := hflowing chunk List.mem_cons_self
    have hmore : front buffer = .needMore := by
      refine hword.part buffer (chunk ++ reads.flatten ++ missing) ?_ (by simp [hchunk])
      rw [hmissing]
      simp [Intake.stream]
    have hsame : Intake.stream ⟨buffer, chunk :: reads⟩ =
        Intake.stream ⟨buffer ++ chunk, reads⟩ := by
      simp [Intake.stream]
    rw [hsame] at hmissing ⊢
    rw [← ih (buffer ++ chunk) (fun c hc => hflowing c (List.mem_cons_of_mem _ hc)) hmissing]
    simp [receive, hmore, hchunk]

end Receive

section Runs

variable {front : List β → Front β π ε} {encode : π → List β}

theorem receiveTimes_add (first others : Nat) (i : Intake β) :
    receiveTimes front (first + others) i = ((receiveTimes front first i).1 ++
          (receiveTimes front others (receiveTimes front first i).2).1,
        (receiveTimes front others (receiveTimes front first i).2).2) := by
  induction first generalizing i with
  | zero => simp [receiveTimes]
  | succ first ih =>
    rw [Nat.succ_add]
    simp only [receiveTimes, ih, List.cons_append]

/-- Complete frames are received in order, and what follows them in the stream is
left. -/
theorem receiveTimes_frames (payloads : List π)
    (hframes : ∀ p ∈ payloads, Decides front (encode p) (.frame p)) {i : Intake β}
    (hflowing : i.Flowing) {tail : List β} (hstream : i.stream = payloads.flatMap encode ++ tail) :
    ∃ next : Intake β, receiveTimes front payloads.length i = (payloads.map .frame, next) ∧
      next.Flowing ∧ next.stream = tail := by
  induction payloads generalizing i with
  | nil => exact ⟨i, rfl, hflowing, hstream⟩
  | cons p rest ih =>
    rw [List.flatMap_cons, List.append_assoc] at hstream
    obtain ⟨between, hfirst, hbetween, hleft⟩ :=
      receive_frame (hframes p List.mem_cons_self) hflowing hstream
    obtain ⟨next, hothers, hnext, htail⟩ :=
      ih (fun q hq => hframes q (List.mem_cons_of_mem _ hq)) hbetween hleft
    refine ⟨next, ?_, hnext, htail⟩
    simp [receiveTimes, hfirst, hothers]

/-- An exhausted stream is a clean end, call after call. -/
theorem receiveTimes_closed (hempty : front [] = .needMore) (n : Nat) {i : Intake β}
    (hflowing : i.Flowing) (hstream : i.stream = []) :
    (receiveTimes front n i).1 = List.replicate n .closed := by
  obtain ⟨buffer, reads⟩ := i
  obtain ⟨rfl, hflatten⟩ := List.append_eq_nil_iff.mp hstream
  have hreads : reads = [] := by
    cases reads with
    | nil => rfl
    | cons chunk reads =>
      have hchunk := hflowing chunk List.mem_cons_self
      simp_all
  subst hreads
  have hclosed : receive front [] [] = (.closed, (⟨[], []⟩ : Intake β)) := by
    simp [receive, hempty, atEnd]
  induction n with
  | zero => rfl
  | succ n ih =>
    simp only [receiveTimes, hclosed, List.replicate_succ]
    rw [ih]

end Runs

end VkRelay.Lib
