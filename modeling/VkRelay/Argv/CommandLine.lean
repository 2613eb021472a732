import VkRelay.Wire.Json

/-!
Windows command lines. `buildCommandLine` quotes and joins the arguments of a program;
`splitCommandLine` is the standard splitter that the child applies to the result.
-/

namespace VkRelay.Argv

open VkRelay.Json

def quote : UInt8 := 0x22
def backslash : UInt8 := 0x5c
def blanks : List UInt8 := [0x20, 0x09]

/-! ## Building -/

/-- The loop over an argument; `n` backslashes have been read and not yet written. -/
def quoteLoop : Nat → Bytes → Bytes
  | n, [] => List.replicate (n * 2) backslash
  | n, c :: rest =>
    if c = backslash then quoteLoop (n + 1) rest
    else if c = quote then List.replicate (n * 2 + 1) backslash ++ quote :: quoteLoop 0 rest
    else List.replicate n backslash ++ c :: quoteLoop 0 rest

/-- The bytes that make an argument need quotes: blanks, line feed, vertical tab, quote. -/
def specials : List UInt8 := blanks ++ [0x0a, 0x0b, quote]

def quoteArgument (arg : Bytes) : Bytes :=
  if arg ≠ [] ∧ ∀ c ∈ arg, c ∉ specials then arg
  else quote :: (quoteLoop 0 arg ++ [quote])

def buildCommandLine : List Bytes → Bytes
  | [] => []
  | first :: rest => quoteArgument first ++ rest.flatMap fun arg => 0x20 :: quoteArgument arg

/-! ## Splitting -/

/-- The state of the splitter: the arguments read, the one being read, and the backslashes
whose meaning is open. -/
structure Splitter where
  done : List Bytes := []
  token : Option Bytes := none
  slashes : Nat := 0
  quoted : Bool := false

namespace Splitter

def put (s : Splitter) (bytes : Bytes) : Splitter :=
  { s with token := some (s.token.getD [] ++ bytes), slashes := 0 }

/-- Backslashes that no quote follows are literal. -/
def flush (s : Splitter) : Splitter :=
  if s.slashes = 0 then s else s.put (List.replicate s.slashes backslash)

def close (s : Splitter) : Splitter := { s with done := s.done ++ s.token.toList, token := none }

def step (s : Splitter) (c : UInt8) : Splitter :=
  if c = backslash then { s with slashes := s.slashes + 1 }
  else if c = quote then
    let halved := s.put (List.replicate (s.slashes / 2) backslash)
    if s.slashes % 2 = 1 then halved.put [quote] else { halved with quoted := !s.quoted }
  else if s.quoted = false ∧ c ∈ blanks then s.flush.close
  else s.flush.put [c]

def finish (s : Splitter) : List Bytes := s.flush.close.done

end Splitter

def splitArguments (text : Bytes) : List Bytes := (text.foldl Splitter.step {}).finish

/-- The program name has no escapes. The line ends at the first NUL. -/
def splitCommandLine (line : Bytes) : List Bytes :=
  let text := line.takeWhile (· ≠ 0)
  if text.head? = some quote then
    let rest := text.tail
    rest.takeWhile (· ≠ quote) :: splitArguments (rest.dropWhile (· ≠ quote)).tail
  else text.takeWhile (· ∉ blanks) :: splitArguments (text.dropWhile (· ∉ blanks))

/-! ## One argument -/

namespace Splitter

variable {done : List Bytes} {arg t : Bytes} {token : Option Bytes} {n : Nat}

theorem foldl_slashes (s : Splitter) (n : Nat) :
    (List.replicate n backslash).foldl step s = { s with slashes := s.slashes + n } := by
  induction n generalizing s with
  | zero => rfl
  | succ n ih =>
    rw [List.replicate_succ, List.foldl_cons, ih]
    simp only [step, if_true]
    rw [Nat.add_assoc, Nat.add_comm 1]

/-- The text of a quoted argument up to its closing quote. -/
theorem foldl_quoteLoop (arg : Bytes) (n : Nat) (t : Bytes) :
    (quoteLoop n arg ++ [quote]).foldl step ⟨done, some t, 0, true⟩ =
      ⟨done, some (t ++ List.replicate n backslash ++ arg), 0, false⟩ := by
  induction arg generalizing n t with
  | nil =>
    rw [quoteLoop, List.foldl_append, foldl_slashes]
    simp [step, put, quote, backslash]
  | cons c rest ih =>
    rw [quoteLoop]
    split_ifs with hslash hquote
    · rw [ih, hslash, List.replicate_succ']
      simp
    · rw [List.append_assoc, List.cons_append, List.foldl_append, foldl_slashes, List.foldl_cons]
      have hstep : step ⟨done, some t, 0 + (n * 2 + 1), true⟩ quote =
          ⟨done, some (t ++ List.replicate n backslash ++ [quote]), 0, true⟩ := by
        have hhalf : (n * 2 + 1) / 2 = n := by omega
        simp [step, put, quote, backslash, hhalf]
      rw [hstep, ih, hquote]
      simp
    · rw [List.append_assoc, List.cons_append, List.foldl_append, foldl_slashes, List.foldl_cons]
      have hstep : step ⟨done, some t, 0 + n, true⟩ c =
          ⟨done, some (t ++ List.replicate n backslash ++ [c]), 0, true⟩ := by
        rcases Nat.eq_zero_or_pos n with rfl | hn
        · simp [step, flush, put, hslash, hquote]
        · simp [step, flush, put, hslash, hquote, hn.ne']
      rw [hstep, ih]
      simp

/-- The text of an argument without quotes. -/
theorem flush_foldl_plain (hplain : ∀ c ∈ arg, c ∉ specials)
    (hsome : token.isSome ∨ n ≠ 0 ∨ arg ≠ []) :
    (arg.foldl step ⟨done, token, n, false⟩).flush =
      ⟨done, some (token.getD [] ++ List.replicate n backslash ++ arg), 0, false⟩ := by
  induction arg generalizing n token with
  | nil =>
    rcases Nat.eq_zero_or_pos n with rfl | hn
    · obtain ⟨t, rfl⟩ := Option.isSome_iff_exists.mp (by simpa using hsome)
      simp [flush]
    · simp [flush, put, hn.ne']
  | cons c rest ih =>
    obtain ⟨hc, hrest⟩ := List.forall_mem_cons.mp hplain
    rw [List.foldl_cons]
    by_cases hslash : c = backslash
    · have hstep : step ⟨done, token, n, false⟩ c = ⟨done, token, n + 1, false⟩ := if_pos hslash
      rw [hstep, ih hrest (.inr (.inl n.succ_ne_zero)), hslash, List.replicate_succ']
      simp
    · have hquote : c ≠ quote := by
        rintro rfl
        exact hc (by decide)
      have hblank : c ∉ blanks := fun hmem => hc (List.mem_append_left _ hmem)
      have hstep : step ⟨done, token, n, false⟩ c =
          ⟨done, some (token.getD [] ++ List.replicate n backslash ++ [c]), 0, false⟩ := by
        rcases Nat.eq_zero_or_pos n with rfl | hn
        · simp [step, flush, put, hslash, hquote, hblank]
        · simp [step, flush, put, hslash, hquote, hblank, hn.ne']
      rw [hstep, ih hrest (.inl rfl)]
      simp

theorem flush_foldl_quoteArgument (arg : Bytes) (done : List Bytes) :
    ((quoteArgument arg).foldl step { done }).flush = ⟨done, some arg, 0, false⟩ := by
  unfold quoteArgument
  split_ifs with hplain
  · rw [flush_foldl_plain hplain.2 (.inr (.inr hplain.1))]
    simp
  · have hopen : step { done } quote = ⟨done, some [], 0, true⟩ := by
      simp [step, put, quote, backslash]
    rw [List.foldl_cons, hopen, foldl_quoteLoop]
    simp [flush]

theorem quoted_flush (s : Splitter) : s.flush.quoted = s.quoted := by
  unfold flush
  split <;> rfl

/-- A blank outside quotes ends the argument before it. -/
theorem step_space {s : Splitter} (hquoted : s.quoted = false) :
    s.step 0x20 = { done := s.finish } := by
  have hflush : s.flush.slashes = 0 := by
    unfold flush
    split
    · assumption
    · rfl
  have hstep : s.step 0x20 = s.flush.close := by
    simp [step, quote, backslash, blanks, hquoted]
  rw [hstep, close, finish, close, hflush, quoted_flush, hquoted]

theorem finish_foldl (args : List Bytes) {s : Splitter} (hquoted : s.quoted = false) :
    ((args.flatMap fun arg => 0x20 :: quoteArgument arg).foldl step s).finish =
      s.finish ++ args := by
  induction args generalizing s with
  | nil => simp
  | cons arg args ih =>
    have hread := flush_foldl_quoteArgument arg s.finish
    rw [List.flatMap_cons, List.foldl_append, List.foldl_cons, step_space hquoted]
    generalize (quoteArgument arg).foldl step { done := s.finish } = read at hread
    rw [ih (by rw [← quoted_flush, hread]), finish, hread]
    simp [close]

end Splitter

theorem splitArguments_eq (args : List Bytes) :
    splitArguments (args.flatMap fun arg => 0x20 :: quoteArgument arg) = args :=
  Splitter.finish_foldl args rfl

/-! ## The program name -/

theorem quoteLoop_program {program : Bytes} (hquote : quote ∉ program)
    (hlast : program.getLast? ≠ some backslash) {n : Nat} (hn : program = [] → n = 0) :
    quoteLoop n program = List.replicate n backslash ++ program := by
  induction program generalizing n with
  | nil => simp [quoteLoop, hn]
  | cons c rest ih =>
    rw [List.mem_cons, not_or] at hquote
    obtain ⟨hc, hrest⟩ := hquote
    have hlater : rest.getLast? ≠ some backslash := by
      cases rest with
      | nil => simp
      | cons d rest => simpa using hlast
    rw [quoteLoop, if_neg (Ne.symm hc)]
    split_ifs with hslash
    · rw [ih hrest hlater ?_, hslash, List.replicate_succ']
      · simp
      · rintro rfl
        exact absurd (by rw [hslash]; rfl) hlast
    · rw [ih hrest hlater fun _ => rfl]
      simp

theorem zero_notMem_quoteLoop {arg : Bytes} (hnul : 0 ∉ arg) (n : Nat) : 0 ∉ quoteLoop n arg := by
  have hslashes : ∀ n, (0 : UInt8) ∉ List.replicate n backslash := by
    simp [List.mem_replicate, backslash]
  induction arg generalizing n with
  | nil => exact hslashes _
  | cons c rest ih =>
    rw [List.mem_cons, not_or] at hnul
    obtain ⟨hc, hrest⟩ := hnul
    rw [quoteLoop]
    split_ifs
    · exact ih hrest _
    · simp only [List.mem_append, List.mem_cons, hslashes, ih hrest, or_false, false_or]
      decide
    · simp [hslashes, hc, ih hrest]

theorem zero_notMem_quoteArgument {arg : Bytes} (hnul : 0 ∉ arg) : 0 ∉ quoteArgument arg := by
  unfold quoteArgument
  split_ifs
  · exact hnul
  · simp only [List.mem_cons, List.mem_append, zero_notMem_quoteLoop hnul, List.not_mem_nil]
    decide

theorem takeWhile_buildCommandLine {argv : List Bytes} (hnul : ∀ arg ∈ argv, 0 ∉ arg) :
    (buildCommandLine argv).takeWhile (· ≠ 0) = buildCommandLine argv := by
  rw [List.takeWhile_eq_self_iff]
  intro c hc
  cases argv with
  | nil => cases hc
  | cons program args =>
    obtain ⟨hprogram, hargs⟩ := List.forall_mem_cons.mp hnul
    simp only [buildCommandLine, List.mem_append, List.mem_flatMap, List.mem_cons] at hc
    rw [decide_eq_true_eq]
    rintro rfl
    rcases hc with hc | ⟨arg, harg, hc | hc⟩
    · exact zero_notMem_quoteArgument hprogram hc
    · cases hc
    · exact zero_notMem_quoteArgument (hargs arg harg) hc

/-- Splitting the command line gives back the arguments it was built from. -/
theorem splitCommandLine_buildCommandLine (program : Bytes) (args : List Bytes)
    (hnul : ∀ arg ∈ program :: args, 0 ∉ arg) (hquote : quote ∉ program)
    (hlast : program.getLast? ≠ some backslash) :
    splitCommandLine (buildCommandLine (program :: args)) = program :: args := by
  rw [splitCommandLine, takeWhile_buildCommandLine hnul, buildCommandLine]
  have hargs := splitArguments_eq args
  generalize htail : (args.flatMap fun arg => 0x20 :: quoteArgument arg) = tail at hargs
  rw [quoteArgument]
  by_cases hplain : program ≠ [] ∧ ∀ c ∈ program, c ∉ specials
  · -- a bare name runs to the first blank
    rw [if_pos hplain]
    have hhead : (program ++ tail).head? ≠ some quote := by
      obtain ⟨c, rest, rfl⟩ := List.exists_cons_of_ne_nil hplain.1
      rintro heq
      exact hquote (by simpa using Or.inl (Option.some.inj heq).symm)
    have hname : ∀ c ∈ program, decide (c ∉ blanks) = true := fun c hc =>
      decide_eq_true fun hmem => hplain.2 c hc (List.mem_append_left _ hmem)
    have hblank : tail.takeWhile (· ∉ blanks) = [] ∧ tail.dropWhile (· ∉ blanks) = tail := by
      cases args with
      | nil => simp [← htail]
      | cons arg args => simp [← htail, blanks]
    dsimp only
    rw [if_neg hhead, List.takeWhile_append_of_pos hname, List.dropWhile_append_of_pos hname,
      hblank.1, hblank.2, hargs, List.append_nil]
  · -- a quoted name runs to its closing quote
    have hname : ∀ c ∈ program, decide (c ≠ quote) = true := fun c hc =>
      decide_eq_true fun heq => hquote (heq ▸ hc)
    rw [if_neg hplain, quoteLoop_program hquote hlast fun _ => rfl]
    have hopen : (quote :: (List.replicate 0 backslash ++ program ++ [quote]) ++ tail) =
        quote :: (program ++ quote :: tail) := by
      simp
    rw [hopen, List.head?_cons, if_pos rfl, List.tail_cons]
    dsimp only
    rw [List.takeWhile_append_of_pos hname, List.dropWhile_append_of_pos hname]
    simp [hargs]

theorem splitCommandLine_buildCommandLine_spaced :
    splitCommandLine (buildCommandLine [ascii "a b\\c", [], ascii "x\\\"y\\", ascii "d e\\"]) =
      [ascii "a b\\c", [], ascii "x\\\"y\\", ascii "d e\\"] :=
  splitCommandLine_buildCommandLine (ascii "a b\\c") [[], ascii "x\\\"y\\", ascii "d e\\"]
    (by decide +kernel) (by decide +kernel) (by decide +kernel)

end VkRelay.Argv
