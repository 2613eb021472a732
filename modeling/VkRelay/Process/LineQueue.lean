import VkRelay.Wire.Json

/-!
The line buffer between the thread that reads a child's output and the owner of the
child. Every call holds the mutex, so a run is a list of calls. A pop gives no line
where the queue is empty: its wait has timed out, or the end of file has been reached.
-/

namespace VkRelay.Process

open VkRelay.Json

def lineFeed : UInt8 := 0x0a
def carriageReturn : UInt8 := 0x0d

structure LineQueue where
  lines : List Bytes := []
  partialLine : Bytes := []
  eof : Bool := false

def chomp (line : Bytes) : Bytes :=
  if line.getLast? = some carriageReturn then line.dropLast else line

namespace LineQueue

def endLine (q : LineQueue) : LineQueue :=
  { q with lines := q.lines ++ [chomp q.partialLine], partialLine := [] }

def pushByte (q : LineQueue) (c : UInt8) : LineQueue :=
  if c = lineFeed then q.endLine else { q with partialLine := q.partialLine ++ [c] }

def pushBytes (q : LineQueue) (data : Bytes) : LineQueue := data.foldl pushByte q

def markEof (q : LineQueue) : LineQueue :=
  { (if q.partialLine ≠ [] then q.endLine else q) with eof := true }

def popLine (q : LineQueue) : Option Bytes × LineQueue :=
  match q.lines with
  | [] => (none, q)
  | line :: lines => (some line, { q with lines })

end LineQueue

inductive Call where
  | pushBytes (data : Bytes)
  | popLine

structure Reader where
  queue : LineQueue := {}
  popped : List Bytes := []

namespace Reader

def call (s : Reader) : Call → Reader
  | .pushBytes data => { s with queue := s.queue.pushBytes data }
  | .popLine => ⟨s.queue.popLine.2, s.popped ++ s.queue.popLine.1.toList⟩

/-- The calls up to the end of file, the mark of it, and `n` pops. -/
def readToEnd (calls : List Call) (n : Nat) : Reader :=
  let ended := calls.foldl call {}
  (List.replicate n Call.popLine).foldl call { ended with queue := ended.queue.markEof }

end Reader

def stream (calls : List Call) : Bytes :=
  calls.flatMap fun
    | .pushBytes data => data
    | .popLine => []

/-- The lines among the pieces of a text: every piece that a line feed ends, and the rest
where there is one. -/
def linesOf (pieces : List Bytes) : List Bytes :=
  (pieces.dropLast ++ (pieces.getLast?.filter (· ≠ [])).toList).map chomp

theorem linesOf_cons (piece : Bytes) {pieces : List Bytes} (hmore : pieces ≠ []) :
    linesOf (piece :: pieces) = chomp piece :: linesOf pieces := by
  obtain ⟨next, rest, rfl⟩ := List.exists_cons_of_ne_nil hmore
  simp [linesOf]

namespace LineQueue

variable (front : List Bytes) (q : LineQueue)

/-- At the end of file the queue holds, behind the lines it had, those of the partial line
and the bytes pushed since. -/
theorem lines_markEof_pushBytes (data : Bytes) (hopen : lineFeed ∉ q.partialLine) :
    (q.pushBytes data).markEof.lines =
      q.lines ++ linesOf ((q.partialLine ++ data).splitOn lineFeed) := by
  induction data generalizing q with
  | nil =>
    rw [List.append_nil, List.splitOn_eq_singleton hopen]
    by_cases hempty : q.partialLine = [] <;>
      simp [pushBytes, markEof, endLine, linesOf, hempty, Option.filter]
  | cons c data ih =>
    by_cases hc : c = lineFeed
    · subst hc
      have hpush : q.pushBytes (lineFeed :: data) = q.endLine.pushBytes data := by
        simp [pushBytes, pushByte]
      rw [hpush, ih _ (by simp [endLine]), List.splitOn_append_cons_self_of_not_mem hopen,
        linesOf_cons _ (List.splitOn_ne_nil _ _)]
      simp [endLine]
    · have hpush : q.pushBytes (c :: data) =
          { q with partialLine := q.partialLine ++ [c] : LineQueue }.pushBytes data := by
        simp [pushBytes, pushByte, hc]
      rw [hpush, ih _ (by simpa using ⟨hopen, Ne.symm hc⟩), List.append_assoc]
      rfl

def behind (front : List Bytes) (q : LineQueue) : LineQueue := { q with lines := front ++ q.lines }

theorem behind_pushBytes (data : Bytes) :
    (q.behind front).pushBytes data = (q.pushBytes data).behind front := by
  induction data generalizing q with
  | nil => rfl
  | cons c data ih =>
    have hpush : (q.behind front).pushByte c = (q.pushByte c).behind front := by
      simp only [pushByte]
      split_ifs <;> simp [behind, endLine]
    rw [pushBytes, List.foldl_cons, hpush]
    exact ih (q.pushByte c)

theorem behind_markEof : (q.behind front).markEof = q.markEof.behind front := by
  by_cases hempty : q.partialLine = [] <;> simp [markEof, behind, endLine, hempty]

theorem behind_popLine : q.popLine.2.behind (front ++ q.popLine.1.toList) = q.behind front := by
  cases hlines : q.lines <;> simp [popLine, behind, hlines]

theorem popLine_eq_none_iff : q.popLine.1 = none ↔ q.lines = [] := by
  cases hlines : q.lines <;> simp [popLine, hlines]

end LineQueue

namespace Reader

/-- The queue as it would be had nothing been popped. -/
def whole (s : Reader) : LineQueue := s.queue.behind s.popped

variable (s : Reader)

theorem whole_call (c : Call) : (s.call c).whole = s.whole.pushBytes (stream [c]) := by
  cases c with
  | pushBytes data => simpa [call, whole, stream] using (s.queue.behind_pushBytes _ data).symm
  | popLine => exact s.queue.behind_popLine s.popped

variable (calls : List Call)

theorem whole_calls : (calls.foldl call s).whole = s.whole.pushBytes (stream calls) := by
  induction calls generalizing s with
  | nil => rfl
  | cons c calls ih =>
    have hstream : stream (c :: calls) = stream [c] ++ stream calls := by simp [stream]
    rw [List.foldl_cons, ih, whole_call, hstream, LineQueue.pushBytes, LineQueue.pushBytes,
      LineQueue.pushBytes, List.foldl_append]

theorem readToEnd_lines (n : Nat) : (readToEnd calls n).popped ++ (readToEnd calls n).queue.lines =
      linesOf ((stream calls).splitOn lineFeed) := by
  have hpops : stream (List.replicate n Call.popLine) = [] := by simp [stream]
  have hwhole := whole_calls { calls.foldl call {} with
    queue := (calls.foldl call {}).queue.markEof } (List.replicate n Call.popLine)
  rw [hpops] at hwhole
  calc (readToEnd calls n).popped ++ (readToEnd calls n).queue.lines
      = (calls.foldl call {}).whole.markEof.lines := by
        rw [whole, LineQueue.behind_markEof]
        exact congrArg LineQueue.lines hwhole
    _ = (({} : LineQueue).pushBytes (stream calls)).markEof.lines := by
        rw [whole_calls]
        rfl
    _ = linesOf ((stream calls).splitOn lineFeed) :=
        LineQueue.lines_markEof_pushBytes {} _ (by simp)

theorem length_lines_pops (n : Nat) :
    ((List.replicate n Call.popLine).foldl call s).queue.lines.length =
      s.queue.lines.length - n := by
  induction n generalizing s with
  | zero => rfl
  | succ n ih =>
    rw [List.replicate_succ, List.foldl_cons, ih]
    cases hlines : s.queue.lines <;> simp [call, LineQueue.popLine, hlines]

/-- However the bytes are pushed and whenever lines are popped: the lines popped are always
the first ones of the text's, they are all of them exactly when a pop finds no more, and
enough pops get there. -/
theorem lines_popped_exactly (calls : List Call) :
    (∀ n, (readToEnd calls n).popped <+: linesOf ((stream calls).splitOn lineFeed) ∧
      ((readToEnd calls n).queue.popLine.1 = none ↔
        (readToEnd calls n).popped = linesOf ((stream calls).splitOn lineFeed))) ∧
      ∃ n, (readToEnd calls n).queue.popLine.1 = none := by
  refine ⟨fun n => ?_, ?_⟩
  · rw [← readToEnd_lines calls n, LineQueue.popLine_eq_none_iff]
    exact ⟨List.prefix_append _ _, List.self_eq_append_right.symm⟩
  · refine ⟨(calls.foldl call {}).queue.markEof.lines.length, ?_⟩
    rw [LineQueue.popLine_eq_none_iff, ← List.length_eq_zero_iff, readToEnd, length_lines_pops,
      Nat.sub_self]

end Reader

end VkRelay.Process
