import Mathlib

/-!
Half-open spans of integers, and the position of an interval that is clamped into one.
The clamped interval meets a third span under a condition on the interval before it was
clamped.
-/

namespace VkRelay.Lib

/-- The integers from `low` up to, but not including, `high`. -/
structure Span where
  low : Int
  high : Int
deriving DecidableEq, Repr

namespace Span

/-- Two spans that are not empty have an integer in common. -/
def Meets (a b : Span) : Prop := a.low < b.high ∧ b.low < a.high

instance (a b : Span) : Decidable (a.Meets b) := inferInstanceAs (Decidable (_ ∧ _))

theorem meets_iff_exists {a b : Span} (ha : a.low < a.high) (hb : b.low < b.high) :
    a.Meets b ↔ ∃ n, (a.low ≤ n ∧ n < a.high) ∧ b.low ≤ n ∧ n < b.high := by
  constructor
  · rintro ⟨hab, hba⟩
    refine ⟨max a.low b.low, ⟨le_max_left _ _, ?_⟩, le_max_right _ _, ?_⟩
    · exact max_lt ha hba
    · exact max_lt hab hb
  · rintro ⟨n, ⟨hlow, hhigh⟩, hlow', hhigh'⟩
    exact ⟨hlow.trans_lt hhigh', hlow'.trans_lt hhigh⟩

def Within (a b : Span) : Prop := b.low ≤ a.low ∧ a.high ≤ b.high

theorem Meets.mono {a b c : Span} (hmeets : a.Meets b) (hwithin : b.Within c) : a.Meets c :=
  ⟨hmeets.1.trans_le hwithin.2, hwithin.1.trans_lt hmeets.2⟩

/-- Where an interval starts after it is moved into the span; one that does not fit starts at
the span's low end. -/
def clamp (s : Span) (origin size : Int) : Int := max s.low (min origin (s.high - size))

/-- The span and the target have a part in common, and on either side of the target the interval
reaches it, or the span has too little room there for the interval. -/
def Reaches (s : Span) (origin size : Int) (target : Span) : Prop :=
  s.Meets target ∧ (origin < target.high ∨ s.high - target.high < size) ∧
    (target.low < origin + size ∨ target.low - s.low < size)

variable {s target : Span} {origin size : Int}

/-- The clamped interval, where it fits into the span or the target lies in the span. -/
theorem clamp_meets_iff (htarget : target.low < target.high)
    (hfits : size ≤ s.high - s.low ∨ target.Within s) :
    Meets ⟨s.clamp origin size, s.clamp origin size + size⟩ target ↔
      s.Reaches origin size target := by
  unfold Meets clamp Reaches Meets
  dsimp only
  rcases hfits with hfits | ⟨hlow, hhigh⟩
  · omega
  · omega

/-- An interval that fits into the span meets whatever holds the span. -/
theorem reaches_of_fits (hpos : 0 < size) (hsize : size ≤ s.high - s.low)
    (hwithin : s.Within target) : s.Reaches origin size target := by
  obtain ⟨hlow, hhigh⟩ := hwithin
  unfold Reaches Meets
  omega

/-- An interval that meets a part of the span still does after clamping. -/
theorem reaches_of_meets (hpos : target.low < target.high) (hwithin : target.Within s)
    (hmeets : Meets ⟨origin, origin + size⟩ target) : s.Reaches origin size target := by
  obtain ⟨hlow, hhigh⟩ := hwithin
  obtain ⟨hleft, hright⟩ := hmeets
  dsimp only at hleft hright
  unfold Reaches Meets
  omega

end Span

end VkRelay.Lib
