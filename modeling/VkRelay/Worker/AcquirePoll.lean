import Mathlib.Data.List.Range
import Mathlib.Data.UInt

/-!
The acquire poll. One acquire of the guest becomes a run of short host calls, so that the
pump thread can be interrupted. The run is cut after a number of turns; a turn calls each of
the three callbacks once at most.
-/

namespace VkRelay.Worker

structure AcquirePollOutcome where
  result : Int32 := 0
  aborted : Bool := false
deriving DecidableEq

/-- The guest's infinite wait, `kInfiniteTimeout`. -/
def infiniteTimeout : UInt64 := 0xFFFFFFFFFFFFFFFF

/-- The arguments of a poll; the callbacks are what they answer, call after call. -/
structure AcquirePoll where
  guestTimeout : UInt64
  quantum : UInt64
  timeoutResult : Int32
  tryAcquire : Nat → Int32
  isAborting : Nat → Bool
  nowNs : Nat → UInt64

structure HostCall where
  wait : UInt64
  result : Int32
deriving DecidableEq

namespace AcquirePoll

variable (p : AcquirePoll)

/-- The clock of turn `i` against the start; the start is the first reading. -/
def elapsed (i : Nat) : UInt64 := p.nowNs (i + 1) - p.nowNs 0

def hostTimeout (i : Nat) : UInt64 :=
  if p.guestTimeout = infiniteTimeout then p.quantum
  else
    let remaining := p.guestTimeout - p.elapsed i
    if remaining < p.quantum then remaining else p.quantum

def hostCall (i : Nat) : HostCall := ⟨p.hostTimeout i, p.tryAcquire i⟩

/-- The guest has a budget and it is spent. -/
def Spent (i : Nat) : Prop := p.guestTimeout ≠ infiniteTimeout ∧ p.guestTimeout ≤ p.elapsed i

instance (i : Nat) : Decidable (p.Spent i) := inferInstanceAs (Decidable (_ ∧ _))

/-- One turn of the loop: the host call it makes, and the outcome if it returns. -/
def turn (i : Nat) : Option HostCall × Option AcquirePollOutcome :=
  if p.isAborting i then (none, some { aborted := true })
  else if p.Spent i then (none, some { result := p.timeoutResult })
  else if p.tryAcquire i ≠ p.timeoutResult then
    (some (p.hostCall i), some { result := p.tryAcquire i })
  else (some (p.hostCall i), none)

/-- The host calls of the first turns, and the outcome once the loop has returned. -/
def loop : Nat → List HostCall × Option AcquirePollOutcome
  | 0 => ([], none)
  | n + 1 =>
    match loop n with
    | (calls, some out) => (calls, some out)
    | (calls, none) => (calls ++ (p.turn n).1.toList, (p.turn n).2)

def pollAcquire (n : Nat) : List HostCall × Option AcquirePollOutcome :=
  if p.guestTimeout = 0 then ([⟨0, p.tryAcquire 0⟩], some { result := p.tryAcquire 0 })
  else p.loop n

/-! ## Turns -/

def Calls (i : Nat) : Prop := p.isAborting i = false ∧ ¬ p.Spent i

/-- The host times out, so the loop goes on. -/
def GoesOn (i : Nat) : Prop := p.Calls i ∧ p.tryAcquire i = p.timeoutResult

variable {p} {n i : Nat}

theorem turn_of_goesOn (hon : p.GoesOn i) : p.turn i = (some (p.hostCall i), none) := by
  simp [turn, hon.1.1, hon.1.2, hon.2]

theorem turn_cases {out : AcquirePollOutcome} (hout : (p.turn i).2 = some out) :
    (p.isAborting i = true ∧ (p.turn i).1 = none ∧ out = { aborted := true }) ∨
    (p.Spent i ∧ (p.turn i).1 = none ∧ out = { result := p.timeoutResult }) ∨
    (p.Calls i ∧ p.tryAcquire i ≠ p.timeoutResult ∧ (p.turn i).1 = some (p.hostCall i) ∧
      out = { result := p.tryAcquire i }) := by
  unfold turn at hout ⊢
  split_ifs at hout ⊢ with habort hspent hresult
  · exact .inl ⟨habort, rfl, (Option.some.inj hout).symm⟩
  · exact .inr (.inl ⟨hspent, rfl, (Option.some.inj hout).symm⟩)
  · exact .inr (.inr ⟨⟨by simpa using habort, hspent⟩, hresult, rfl, (Option.some.inj hout).symm⟩)

theorem goesOn_of_none (hnone : (p.turn i).2 = none) : p.GoesOn i := by
  unfold turn at hnone
  split_ifs at hnone with habort hspent hresult
  exact ⟨⟨by simpa using habort, hspent⟩, not_not.mp hresult⟩

/-- The loop after `n` turns: all of them went on, or it has returned in one of them. -/
theorem loop_cases (p : AcquirePoll) (n : Nat) :
    ((∀ j < n, p.GoesOn j) ∧ p.loop n = ((List.range n).map p.hostCall, none)) ∨
    ∃ m < n, (∀ j < m, p.GoesOn j) ∧ ∃ out, (p.turn m).2 = some out ∧
      p.loop n = ((List.range m).map p.hostCall ++ (p.turn m).1.toList, some out) := by
  induction n with
  | zero => exact .inl ⟨nofun, rfl⟩
  | succ n ih =>
    obtain ⟨hon, heq⟩ | ⟨m, hm, hon, out, hout, heq⟩ := ih
    · cases hturn : (p.turn n).2 with
      | none =>
        have hlast := goesOn_of_none hturn
        refine .inl ⟨fun j hj => ?_, ?_⟩
        · rcases Nat.lt_succ_iff_lt_or_eq.mp hj with hj | rfl
          · exact hon j hj
          · exact hlast
        · simp [loop, heq, turn_of_goesOn hlast, List.range_succ]
      | some out =>
        refine .inr ⟨n, Nat.lt_succ_self n, hon, out, hturn, ?_⟩
        simp [loop, heq, hturn]
    · refine .inr ⟨m, hm.trans (Nat.lt_succ_self n), hon, out, hout, ?_⟩
      simp [loop, heq]

/-- A host call of the loop is that of its turn. One that did not time out is the last, and its
result is returned. -/
theorem call_of_loop {call : HostCall} (hcall : (p.loop n).1[i]? = some call) :
    call = p.hostCall i ∧ p.Calls i ∧ (p.tryAcquire i ≠ p.timeoutResult →
      (p.loop n).1.length = i + 1 ∧ (p.loop n).2 = some { result := p.tryAcquire i }) := by
  have hearly : ∀ {m}, (∀ j < m, p.GoesOn j) → ((List.range m).map p.hostCall)[i]? = some call →
      call = p.hostCall i ∧ p.GoesOn i := by
    intro m hon hfound
    obtain ⟨hi, rfl⟩ := List.getElem?_eq_some_iff.mp hfound
    exact ⟨by simp, hon i (by simpa using hi)⟩
  obtain ⟨hon, heq⟩ | ⟨m, hm, hon, out, hout, heq⟩ := p.loop_cases n
  · rw [heq] at hcall
    obtain ⟨rfl, hgoes⟩ := hearly hon hcall
    exact ⟨rfl, hgoes.1, fun hne => absurd hgoes.2 hne⟩
  · rw [heq, List.getElem?_append] at hcall
    split at hcall
    · obtain ⟨rfl, hgoes⟩ := hearly hon hcall
      exact ⟨rfl, hgoes.1, fun hne => absurd hgoes.2 hne⟩
    · rename_i hi
      obtain ⟨-, hnone, -⟩ | ⟨-, hnone, -⟩ | ⟨hcalls, -, hsome, rfl⟩ := turn_cases hout
      · simp [hnone] at hcall
      · simp [hnone] at hcall
      · obtain ⟨hlast, rfl⟩ : i = m ∧ p.hostCall m = call := by
          rw [hsome, List.length_map, List.length_range] at hcall
          obtain ⟨hlt, rfl⟩ := List.getElem?_eq_some_iff.mp hcall
          simp at hi hlt
          exact ⟨by omega, by simp⟩
        subst hlast
        exact ⟨rfl, hcalls, fun _ => ⟨by simp [heq, hsome], by rw [heq]⟩⟩

/-- The loop is aborted in the first turn whose check answers true, if it gets there. -/
theorem aborted_loop_iff : (∃ out, (p.loop n).2 = some out ∧ out.aborted = true) ↔
      ∃ m < n, p.isAborting m = true ∧ ∀ j < m, p.tryAcquire j = p.timeoutResult ∧ ¬ p.Spent j := by
  constructor
  · rintro ⟨out, hout, haborted⟩
    obtain ⟨-, heq⟩ | ⟨m, hm, hon, last, hlast, heq⟩ := p.loop_cases n
    · rw [heq] at hout
      cases hout
    · rw [heq] at hout
      cases hout
      obtain ⟨habort, -⟩ | ⟨-, -, rfl⟩ | ⟨-, -, -, rfl⟩ := turn_cases hlast
      · exact ⟨m, hm, habort, fun j hj => ⟨(hon j hj).2, (hon j hj).1.2⟩⟩
      · cases haborted
      · cases haborted
  · rintro ⟨m, hm, habort, hbefore⟩
    obtain ⟨hall, -⟩ | ⟨l, hl, hlon, out, hout, heq⟩ := p.loop_cases n
    · exact absurd habort (by simp [(hall m hm).1.1])
    refine ⟨out, by rw [heq], ?_⟩
    -- the turn that ended the loop is not after the abort, and no turn before it ends
    have hle : l ≤ m := by
      by_contra hlt
      exact absurd habort (by simp [(hlon m (not_le.mp hlt)).1.1])
    obtain ⟨-, -, rfl⟩ | ⟨hspent, -⟩ | ⟨hcalls, hne, -⟩ := turn_cases hout
    · rfl
    · rcases hle.lt_or_eq with hlt | rfl
      · exact absurd hspent (hbefore l hlt).2
      · simp [turn, habort] at hout
        exact hout ▸ rfl
    · rcases hle.lt_or_eq with hlt | rfl
      · exact absurd (hbefore l hlt).1 hne
      · exact absurd habort (by simp [hcalls.1])

/-! ## Time -/

variable (p) in
def Forward : Prop := ∀ i j, i ≤ j → p.nowNs i ≤ p.nowNs j

variable (p) in
/-- How far the clock of turn `i` has advanced. -/
def advanced (i : Nat) : Nat := (p.nowNs (i + 1)).toNat - (p.nowNs 0).toNat

theorem toNat_elapsed (hclock : p.Forward) (i : Nat) : (p.elapsed i).toNat = p.advanced i :=
  UInt64.toNat_sub_of_le _ _ (hclock 0 (i + 1) (Nat.zero_le _))

theorem not_spent_iff (hclock : p.Forward) :
    ¬ p.Spent i ↔ (p.guestTimeout ≠ infiniteTimeout → p.advanced i < p.guestTimeout.toNat) := by
  rw [Spent, not_and, UInt64.le_iff_toNat_le, toNat_elapsed hclock, not_le]

theorem hostTimeout_le (p : AcquirePoll) (i : Nat) : p.hostTimeout i ≤ p.quantum := by
  unfold hostTimeout
  dsimp only
  split_ifs with hinfinite hless
  · exact UInt64.le_refl _
  · exact UInt64.le_of_lt hless
  · exact UInt64.le_refl _

/-- A call within a budget waits for some of what is left of it. -/
theorem hostTimeout_within (hquantum : 0 < p.quantum) (hclock : p.Forward)
    (hfinite : p.guestTimeout ≠ infiniteTimeout) (hcalls : p.Calls i) :
    0 < p.hostTimeout i ∧ p.advanced i + (p.hostTimeout i).toNat ≤ p.guestTimeout.toNat := by
  have hleft := (not_spent_iff hclock).mp hcalls.2 hfinite
  have hremaining : (p.guestTimeout - p.elapsed i).toNat = p.guestTimeout.toNat - p.advanced i := by
    rw [UInt64.toNat_sub_of_le _ _ ?_, toNat_elapsed hclock]
    rw [UInt64.le_iff_toNat_le, toNat_elapsed hclock]
    exact hleft.le
  rw [UInt64.lt_iff_toNat_lt] at hquantum ⊢
  rw [hostTimeout, if_neg hfinite]
  dsimp only
  split_ifs with hless
  · rw [hremaining, UInt64.toNat_zero]
    omega
  · rw [UInt64.not_lt, UInt64.le_iff_toNat_le, hremaining] at hless
    omega

/-- The loop returns when every turn that goes on takes time off the budget. -/
theorem exists_not_goesOn (hquantum : 0 < p.quantum) (hclock : p.Forward)
    (hfinite : p.guestTimeout ≠ infiniteTimeout)
    (hadvance : ∀ i, (∀ j ≤ i, p.GoesOn j) →
      p.advanced i + (p.hostTimeout i).toNat ≤ p.advanced (i + 1)) : ∃ m, ¬ p.GoesOn m := by
  by_contra! hon
  -- every turn costs a nanosecond at least
  have hspend : ∀ i, i ≤ p.advanced i := by
    intro i
    induction i with
    | zero => exact Nat.zero_le _
    | succ i ih =>
      have hwait := (hostTimeout_within hquantum hclock hfinite (hon i).1).1
      have hstep := hadvance i fun j _ => hon j
      rw [UInt64.lt_iff_toNat_lt, UInt64.toNat_zero] at hwait
      omega
  have hleft := (not_spent_iff hclock).mp (hon p.guestTimeout.toNat).1.2 hfinite
  exact absurd (hspend _) (not_le.mpr hleft)

/-! ## The contract -/

/-- The guest's timeout is honoured, over every number of turns. -/
structure HonoursTimeout (p : AcquirePoll) : Prop where
  probe : p.guestTimeout = 0 → ∀ n,
    p.pollAcquire n = ([⟨0, p.tryAcquire 0⟩], some { result := p.tryAcquire 0 })
  waits : p.guestTimeout ≠ 0 → ∀ (n i : Nat) (call : HostCall),
    (p.pollAcquire n).1[i]? = some call → call.wait ≤ p.quantum ∧
      (p.guestTimeout ≠ infiniteTimeout →
        0 < call.wait ∧ p.advanced i + call.wait.toNat ≤ p.guestTimeout.toNat)
  terminal : ∀ (n i : Nat) (call : HostCall), (p.pollAcquire n).1[i]? = some call →
    call.result = p.tryAcquire i ∧ (call.result ≠ p.timeoutResult →
      (p.pollAcquire n).1.length = i + 1 ∧ (p.pollAcquire n).2 = some { result := call.result })
  timeout : p.guestTimeout ≠ 0 → ∀ n, (p.pollAcquire n).2 = some { result := p.timeoutResult } →
    p.guestTimeout ≠ infiniteTimeout ∧
      p.guestTimeout.toNat ≤ p.advanced (p.pollAcquire n).1.length
  aborted : ∀ n, (∃ out, (p.pollAcquire n).2 = some out ∧ out.aborted = true) ↔
    p.guestTimeout ≠ 0 ∧ ∃ m < n, p.isAborting m = true ∧ ∀ j < m,
      p.tryAcquire j = p.timeoutResult ∧
        (p.guestTimeout ≠ infiniteTimeout → p.advanced j < p.guestTimeout.toNat)
  ends : p.guestTimeout ≠ infiniteTimeout →
    (∀ (n i : Nat) (call : HostCall), (p.pollAcquire n).1[i]? = some call →
      call.result = p.timeoutResult →
        (p.nowNs (i + 1)).toNat + call.wait.toNat ≤ (p.nowNs (i + 2)).toNat) →
    ∃ m out, ∀ n, m ≤ n → (p.pollAcquire n).2 = some out

theorem pollAcquire_zero (hguest : p.guestTimeout = 0) :
    p.pollAcquire n = ([⟨0, p.tryAcquire 0⟩], some { result := p.tryAcquire 0 }) :=
  if_pos hguest

theorem pollAcquire_of_ne (hguest : p.guestTimeout ≠ 0) : p.pollAcquire n = p.loop n :=
  if_neg hguest

theorem loop_settled {m : Nat} {out : AcquirePollOutcome} (hout : (p.loop m).2 = some out)
    (hn : m ≤ n) : (p.loop n).2 = some out := by
  induction n, hn using Nat.le_induction with
  | base => exact hout
  | succ n hn ih =>
    rw [loop]
    generalize p.loop n = state at ih
    obtain ⟨calls, result⟩ := state
    cases ih
    rfl

theorem ends_of_advance (hquantum : 0 < p.quantum) (hclock : p.Forward)
    (hfinite : p.guestTimeout ≠ infiniteTimeout)
    (hadvance : ∀ (n i : Nat) (call : HostCall), (p.loop n).1[i]? = some call →
      call.result = p.timeoutResult →
        (p.nowNs (i + 1)).toNat + call.wait.toNat ≤ (p.nowNs (i + 2)).toNat) :
    ∃ m out, ∀ n, m ≤ n → (p.loop n).2 = some out := by
  obtain ⟨m, hm⟩ : ∃ m, ¬ p.GoesOn m := by
    refine exists_not_goesOn hquantum hclock hfinite fun i hon => ?_
    have hcall : (p.loop (i + 1)).1[i]? = some (p.hostCall i) := by
      obtain ⟨-, heq⟩ | ⟨l, hl, -, out, hout, -⟩ := p.loop_cases (i + 1)
      · simp [heq]
      · rw [turn_of_goesOn (hon l (Nat.lt_succ_iff.mp hl))] at hout
        cases hout
    have hstep : _ ≤ (p.nowNs (i + 1 + 1)).toNat := hadvance (i + 1) i _ hcall (hon i le_rfl).2
    have hstart := UInt64.le_iff_toNat_le.mp (hclock 0 (i + 1) (Nat.zero_le _))
    dsimp only [advanced, hostCall] at hstep ⊢
    omega
  obtain ⟨hall, -⟩ | ⟨l, hl, -, out, -, heq⟩ := p.loop_cases (m + 1)
  · exact absurd (hall m (Nat.lt_succ_self m)) hm
  · exact ⟨m + 1, out, fun n hn => loop_settled (by rw [heq]) hn⟩

end AcquirePoll

/-- The poll honours every timeout of the guest, whatever the host and the session do. -/
theorem pollAcquire_honours_timeout (p : AcquirePoll) (hquantum : 0 < p.quantum)
    (hclock : p.Forward) : p.HonoursTimeout := by
  by_cases hguest : p.guestTimeout = 0
  · refine ⟨fun _ n => p.pollAcquire_zero hguest, fun hne => absurd hguest hne, ?_,
      fun hne => absurd hguest hne, ?_, fun _ _ => ⟨0, { result := p.tryAcquire 0 }, ?_⟩⟩
    · intro n i call hcall
      rw [p.pollAcquire_zero hguest] at hcall ⊢
      obtain ⟨hi, rfl⟩ := List.getElem?_eq_some_iff.mp hcall
      obtain rfl : i = 0 := by simpa using hi
      exact ⟨rfl, fun _ => ⟨rfl, rfl⟩⟩
    · intro n
      simp [p.pollAcquire_zero hguest, hguest]
    · intro n _
      rw [p.pollAcquire_zero hguest]
  · have hloop : ∀ n, p.pollAcquire n = p.loop n := fun n => p.pollAcquire_of_ne hguest
    refine ⟨fun hzero => absurd hzero hguest, fun _ n i call hcall => ?_, fun n i call hcall => ?_,
      fun _ n hout => ?_, fun n => ?_, fun hfinite hadvance => ?_⟩
    · obtain ⟨rfl, hcalls, -⟩ := p.call_of_loop (hloop n ▸ hcall)
      exact ⟨p.hostTimeout_le i, fun hfinite =>
        p.hostTimeout_within hquantum hclock hfinite hcalls⟩
    · obtain ⟨rfl, -, hlast⟩ := p.call_of_loop (hloop n ▸ hcall)
      rw [hloop]
      exact ⟨rfl, hlast⟩
    · rw [hloop] at hout ⊢
      obtain ⟨-, heq⟩ | ⟨m, hm, hon, last, hlast, heq⟩ := p.loop_cases n
      · rw [heq] at hout
        cases hout
      rw [heq] at hout ⊢
      cases hout
      obtain ⟨-, -, hcontra⟩ | ⟨hspent, hnone, -⟩ | ⟨-, hne, -, hcontra⟩ := p.turn_cases hlast
      · cases congrArg AcquirePollOutcome.aborted hcontra
      · rw [hnone, ← p.toNat_elapsed hclock, ← UInt64.le_iff_toNat_le]
        exact ⟨hspent.1, by simpa using hspent.2⟩
      · exact absurd (congrArg AcquirePollOutcome.result hcontra).symm hne
    · rw [hloop, p.aborted_loop_iff, and_iff_right hguest]
      simp only [p.not_spent_iff hclock]
    · simp only [hloop] at hadvance ⊢
      exact p.ends_of_advance hquantum hclock hfinite hadvance

/-- A host that times out twice under a budget of five, with a quantum of three. -/
def slowHost : AcquirePoll where
  guestTimeout := 5
  quantum := 3
  timeoutResult := 2
  tryAcquire _ := 2
  isAborting _ := false
  nowNs i := if i < 2 then 10 else if i < 3 then 13 else 15

theorem pollAcquire_honours_timeout_slowHost :
    slowHost.pollAcquire 4 = ([⟨3, 2⟩, ⟨2, 2⟩], some { result := 2 }) ∧
      slowHost.HonoursTimeout := by
  refine ⟨by decide +kernel, pollAcquire_honours_timeout slowHost (by decide) fun i j hij => ?_⟩
  simp only [slowHost]
  split_ifs <;> first | decide | omega

end VkRelay.Worker
