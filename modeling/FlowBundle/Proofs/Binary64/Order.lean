import Mathlib.Algebra.Order.Field.Basic
import Mathlib.Algebra.Order.Ring.Rat
import FlowBundle.Binary64.Basic
/-!
# Comparing with a bound

A finite number is a ratio (`value?`), the infinities are below and above all ratios, and what is no number is neither
below nor above any.  The two tests that a delay is put to say just that (`isAtMost_iff`, `isNonneg_iff`), so what passes
both is a ratio within the bounds (`within_iff`).
-/
namespace FlowBundle
namespace Binary64

def magnitude (units : Nat) : ℚ := units / unitsPerOne

/-- **The ratio that a number is**, if it is finite. -/
def value? : Binary64 → Option ℚ
  | .finite negative s e _ => some (if negative then -magnitude (s * 2 ^ e) else magnitude (s * 2 ^ e))
  | _ => none

/-- No greater than a ratio. -/
def AtMost (bound : ℚ) (x : Binary64) : Prop := x = .infinite true ∨ ∃ q, x.value? = some q ∧ q ≤ bound

/-- No less than a ratio. -/
def AtLeast (bound : ℚ) (x : Binary64) : Prop := x = .infinite false ∨ ∃ q, x.value? = some q ∧ bound ≤ q

theorem unitsPerOne_pos : 0 < (unitsPerOne : ℚ) := by
  have hpos : 0 < unitsPerOne := by decide +kernel
  exact Nat.cast_pos.2 hpos

theorem magnitude_nonneg (units : Nat) : 0 ≤ magnitude units :=
  div_nonneg (Nat.cast_nonneg units) (le_of_lt unitsPerOne_pos)

theorem magnitude_le_iff {units bound : Nat} : magnitude units ≤ bound ↔ units ≤ bound * unitsPerOne := by
  rw [magnitude, div_le_iff₀ unitsPerOne_pos, ← Nat.cast_mul, Nat.cast_le]

theorem magnitude_eq_zero_iff {s e : Nat} : magnitude (s * 2 ^ e) = 0 ↔ s = 0 := by
  have hunits : (unitsPerOne : ℚ) ≠ 0 := ne_of_gt unitsPerOne_pos
  have hpow : 2 ^ e ≠ 0 := Nat.ne_of_gt (Nat.two_pow_pos e)
  rw [magnitude, div_eq_zero_iff, or_iff_left hunits, Nat.cast_eq_zero, Nat.mul_eq_zero, or_iff_left hpow]

theorem isAtMost_iff {x : Binary64} {bound : Nat} : x.isAtMost bound = true ↔ x.AtMost bound := by
  cases x with
  | nan => simp [isAtMost, AtMost, value?]
  | infinite negative => simp [isAtMost, AtMost, value?]
  | finite negative s e h =>
    cases negative with
    | false => simp [isAtMost, AtMost, value?, magnitude_le_iff]
    | true =>
      have hle : -magnitude (s * 2 ^ e) ≤ bound :=
        le_trans (neg_nonpos.2 (magnitude_nonneg _)) (Nat.cast_nonneg bound)
      simp [isAtMost, AtMost, value?, hle]

theorem isNonneg_iff {x : Binary64} : x.isNonneg = true ↔ x.AtLeast 0 := by
  cases x with
  | nan => simp [isNonneg, AtLeast, value?]
  | infinite negative => simp [isNonneg, AtLeast, value?]
  | finite negative s e h =>
    cases negative with
    | false => simp [isNonneg, AtLeast, value?, magnitude_nonneg]
    | true =>
      have hzero : magnitude (s * 2 ^ e) ≤ 0 ↔ s = 0 := by
        rw [le_antisymm_iff.symm.trans magnitude_eq_zero_iff |>.symm, iff_self_and]
        exact fun _ => magnitude_nonneg _
      simp [isNonneg, AtLeast, value?, hzero]

/-- **What is neither below zero nor above a bound is a ratio**: no infinity is both, and what is no number is neither. -/
theorem within_iff {x : Binary64} {bound : ℚ} : x.AtLeast 0 ∧ x.AtMost bound ↔
    ∃ q, x.value? = some q ∧ 0 ≤ q ∧ q ≤ bound := by
  constructor
  · rintro ⟨rfl | ⟨q, hq, hle⟩, h⟩
    · simp [AtMost, value?] at h
    · rcases h with rfl | ⟨q', hq', hge⟩
      · cases hq
      · cases hq.symm.trans hq'
        exact ⟨q, hq, hle, hge⟩
  · rintro ⟨q, hq, hle, hge⟩
    exact ⟨.inr ⟨q, hq, hle⟩, .inr ⟨q, hq, hge⟩⟩

end Binary64
end FlowBundle
