import VkRelay.Lib.Codec
import VkRelay.Wire.Envelope

/-!
The scalar and vector writers of the binary record body and its reader. Every
scalar is eight little-endian bytes; strings and vectors carry their length in
front, and a length that does not fit what is left of the body fails before
anything is read. A failed read fails the whole decode, so the reader's `fail`
flag is the `none` of a parser.
-/

namespace VkRelay.Wire

open VkRelay.Lib VkRelay.Json

/-- A double as the wire carries it: its bits. -/
@[ext]
structure Double where
  bits : UInt64
deriving DecidableEq, Repr

namespace Record

section Writers

def putU64 (v : UInt64) : Bytes := (List.range 8).map fun i => UInt8.ofNat (v.toNat / 256 ^ i)

def putI64 (v : Int64) : Bytes := putU64 v.toUInt64

def putF64 (v : Double) : Bytes := putU64 v.bits

/-- The `size()` of a string or a vector. -/
def putSize (n : Nat) : Bytes := putU64 (UInt64.ofNat n)

def putStr (s : Bytes) : Bytes := putSize s.length ++ s

def putVec {α : Type} (put : α → Bytes) (v : List α) : Bytes := putSize v.length ++ v.flatMap put

def putVecU64 : List UInt64 → Bytes := putVec putU64

@[simp] theorem length_putU64 (v : UInt64) : (putU64 v).length = 8 := by simp [putU64]

@[simp] theorem length_putI64 (v : Int64) : (putI64 v).length = 8 := length_putU64 _

@[simp] theorem length_putF64 (v : Double) : (putF64 v).length = 8 := length_putU64 _

@[simp] theorem length_putSize (n : Nat) : (putSize n).length = 8 := length_putU64 _

end Writers

section Readers

abbrev Reader (α : Type) := Parser UInt8 α

def getU64 : Reader UInt64 := fun body =>
  if body.length < 8 then none
  else some (UInt64.ofNat ((body.take 8).foldr (fun c v => c.toNat + 256 * v) 0), body.drop 8)

def getI64 : Reader Int64 := UInt64.toInt64 <$> getU64

def getF64 : Reader Double := Double.mk <$> getU64

/-- `n > remaining() / unit` fails. -/
def guardCount (n unit : Nat) : Reader Unit := fun body =>
  if n > body.length / unit then none else some ((), body)

def take (n : Nat) : Reader Bytes := fun body =>
  if n > body.length then none else some (body.take n, body.drop n)

def getStr : Reader Bytes := do
  let n ← getU64
  take n.toNat

/-- A length-prefixed vector of eight-byte items. -/
def getVec {α : Type} (item : Reader α) : Reader (List α) := do
  let n ← getU64
  guardCount n.toNat 8
  item.times n.toNat

def getVecU64 : Reader (List UInt64) := getVec getU64

end Readers

section Frames

theorem framed_u64 (v : UInt64) : Framed (putU64 v) getU64 (some v) where
  whole rest := by
    have hlong : ¬ (putU64 v ++ rest).length < 8 := by simp
    have htake : (putU64 v ++ rest).take 8 = putU64 v := by
      rw [List.take_left' (length_putU64 v)]
    have hdrop : (putU64 v ++ rest).drop 8 = rest := by
      rw [List.drop_left' (length_putU64 v)]
    have hvalue : (putU64 v).foldr (fun c value => c.toNat + 256 * value) 0 = v.toNat := by
      have hlt := v.toNat_lt
      simp only [putU64, List.range, List.range.loop, List.map_cons, List.map_nil,
        List.foldr_cons, List.foldr_nil, UInt8.toNat_ofNat']
      omega
    simp only [StateT.run, getU64, hlong, if_false, htake, hdrop, hvalue, UInt64.ofNat_toNat,
      Option.map_some]
  part seen missing hword hmissing := by
    have hlength := congrArg List.length hword
    have hpos := List.length_pos_of_ne_nil hmissing
    simp only [length_putU64, List.length_append] at hlength
    have hshort : seen.length < 8 := by omega
    simp [StateT.run, getU64, hshort]

theorem framed_i64 (v : Int64) : Framed (putI64 v) getI64 (some v) := by
  have hword := (framed_u64 v.toUInt64).map UInt64.toInt64
  rw [Option.map_some, Int64.toInt64_toUInt64] at hword
  exact hword

theorem framed_f64 (v : Double) : Framed (putF64 v) getF64 (some v) :=
  (framed_u64 v.bits).map Double.mk

theorem framed_take (s : Bytes) : Framed s (take s.length) (some s) where
  whole rest := by
    simp [StateT.run, take]
  part seen missing hword hmissing := by
    have hlength := congrArg List.length hword
    have hpos := List.length_pos_of_ne_nil hmissing
    rw [List.length_append] at hlength
    have hshort : s.length > seen.length := by omega
    simp [StateT.run, take, hshort]

theorem framed_str {s : Bytes} (hsize : s.length < 2 ^ 64) : Framed (putStr s) getStr (some s) := by
  refine (framed_u64 _).seq ?_
  rw [UInt64.toNat_ofNat_of_lt' hsize]
  exact framed_take s

theorem guardCount_eq (n : Nat) {unit : Nat} (hunit : 0 < unit) :
    guardCount n unit = Parser.need (n * unit) := by
  funext body
  have hiff : n > body.length / unit ↔ body.length < n * unit := Nat.div_lt_iff_lt_mul hunit
  simp only [guardCount, Parser.need, hiff]

theorem length_flatMap_ge {δ : Type} {put : δ → Bytes} {unit : Nat} (v : List δ)
    (hlength : ∀ x ∈ v, unit ≤ (put x).length) : v.length * unit ≤ (v.flatMap put).length := by
  have hsum := List.card_nsmul_le_sum (v.map fun x => (put x).length) unit (by simpa using hlength)
  rwa [List.length_map, smul_eq_mul, ← List.length_flatMap] at hsum

theorem framed_counted {α δ : Type} {item : Reader α} {put : δ → Bytes} {verdict : δ → Option α}
    {unit : Nat} (hunit : 0 < unit) (v : List δ) (hlength : ∀ x ∈ v, unit ≤ (put x).length)
    (hitems : ∀ x ∈ v, Framed (put x) item (verdict x)) :
    Framed (v.flatMap put) (do guardCount v.length unit; item.times v.length) (v.mapM verdict) := by
  rw [guardCount_eq _ hunit]
  exact Framed.need (length_flatMap_ge v hlength) (framed_times v hitems)

theorem mapM_some {α : Type} (v : List α) : v.mapM some = some v := by
  induction v with
  | nil => rfl
  | cons x rest ih => simp [ih]

theorem mapM_ite {α γ : Type} (p : α → Prop) [DecidablePred p] (f : α → γ) (v : List α) :
    (v.mapM fun x => if p x then some (f x) else none) =
      if ∀ x ∈ v, p x then some (v.map f) else none := by
  induction v with
  | nil => rfl
  | cons x rest ih =>
    rw [List.mapM_cons, ih]
    by_cases hx : p x
    · by_cases hrest : ∀ y ∈ rest, p y
      · rw [if_pos hx, if_pos hrest, if_pos (List.forall_mem_cons.mpr ⟨hx, hrest⟩)]
        rfl
      · rw [if_pos hx, if_neg hrest, if_neg fun h => hrest (List.forall_mem_cons.mp h).2]
        rfl
    · rw [if_neg hx, if_neg fun h => hx (List.forall_mem_cons.mp h).1]
      rfl

theorem framed_vec {α : Type} {item : Reader α} {put : α → Bytes}
    (hput : ∀ x, (put x).length = 8 ∧ Framed (put x) item (some x)) {v : List α}
    (hsize : v.length < 2 ^ 64) : Framed (putVec put v) (getVec item) (some v) := by
  refine (framed_u64 _).seq ?_
  rw [UInt64.toNat_ofNat_of_lt' hsize, ← mapM_some v]
  exact framed_counted (by decide) v (fun x _ => (hput x).1.ge) fun x _ => (hput x).2

theorem framed_vecU64 {v : List UInt64} (hsize : v.length < 2 ^ 64) :
    Framed (putVecU64 v) getVecU64 (some v) :=
  framed_vec (fun x => ⟨length_putU64 x, framed_u64 x⟩) hsize

end Frames

section Taken

theorem takes_u64 : Takes 8 getU64 := by
  intro input a rest hrun
  simp only [StateT.run, getU64] at hrun
  split_ifs at hrun with hshort
  cases hrun
  have hlength : (input.take 8).length = 8 := by
    rw [List.length_take]
    omega
  refine ⟨input.take 8, (List.take_append_drop 8 input).symm, hlength.ge, fun other => ?_⟩
  have hlong : ¬ (input.take 8 ++ other).length < 8 := by
    rw [List.length_append]
    omega
  simp only [StateT.run, getU64, hlong, if_false, List.take_left' hlength, List.drop_left' hlength]

theorem takes_i64 : Takes 8 getI64 := takes_u64.map _

theorem takes_f64 : Takes 8 getF64 := takes_u64.map _

theorem takes_take (n : Nat) : Takes 0 (take n) := by
  intro input a rest hrun
  simp only [StateT.run, take] at hrun
  split_ifs at hrun with hshort
  cases hrun
  have hlength : (input.take n).length = n := by
    rw [List.length_take]
    omega
  refine ⟨input.take n, (List.take_append_drop n input).symm, Nat.zero_le _, fun other => ?_⟩
  have hlong : ¬ n > (input.take n ++ other).length := by
    rw [List.length_append]
    omega
  simp only [StateT.run, take, hlong, if_false, List.take_left' hlength, List.drop_left' hlength]

theorem takes_str : Takes 8 getStr := takes_u64.bind fun n => takes_take n.toNat

theorem takes_counted {α : Type} {item : Reader α} {unit : Nat} (hunit : 0 < unit)
    (hitem : Takes unit item) (n : Nat) : Takes 0 (do guardCount n unit; item.times n) := by
  rw [guardCount_eq n hunit]
  exact ((hitem.times n).need le_rfl).weaken (Nat.zero_le _)

theorem takes_vec {α : Type} {item : Reader α} (hitem : Takes 8 item) : Takes 8 (getVec item) :=
  takes_u64.bind fun n => takes_counted (by decide) hitem n.toNat

end Taken

end Record

end VkRelay.Wire
