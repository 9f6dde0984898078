import FlowBundle.Power
/-!
# Double precision numbers

A finite number is a sign and a natural number of units, the unit being the least positive number,
2⁻¹⁰⁷⁴.  That natural number is a significand below 2⁵³ times a power of two, and the pair is
canonical, so two numbers are equal exactly when their parts are.  Zero keeps its sign.

Everything is exact arithmetic on natural numbers: a ratio is rounded once, to the nearest number,
a tie to the even significand.
-/
namespace FlowBundle

/-- **One pair for each number of units**: the significand has its full 53 bits, or the exponent is
the least one. -/
def Canonical (significand exponent : Nat) : Prop :=
  significand < 2 ^ (53 : Nat) ∧ exponent ≤ 2045 ∧ (2 ^ (52 : Nat) ≤ significand ∨ exponent = 0)

instance (s e : Nat) : Decidable (Canonical s e) :=
  inferInstanceAs (Decidable (_ ∧ _ ∧ (_ ∨ _)))

inductive Binary64 where
  | nan
  | infinite (negative : Bool)
  | finite (negative : Bool) (significand exponent : Nat) (canonical : Canonical significand exponent)
  deriving DecidableEq

namespace Binary64

def unitsPerOne : Nat := 2 ^ (1074 : Nat)

def zero (negative : Bool) : Binary64 := .finite negative 0 0 (by decide)

def roundHalfEven (num den : Nat) : Nat :=
  let q := num / den
  let r := num % den
  if 2 * r < den then q else if den < 2 * r then q + 1 else q + q % 2

/-- A rounded significand may have reached 2⁵³, and an exponent may be past the greatest one. -/
def ofParts (negative : Bool) (s e : Nat) : Binary64 :=
  if h : Canonical s e then .finite negative s e h
  else if h : s = 2 ^ (53 : Nat) ∧ Canonical (2 ^ (52 : Nat)) (e + 1) then
    .finite negative (2 ^ (52 : Nat)) (e + 1) h.2
  else .infinite negative

/-- **The number nearest to a ratio.** -/
def ofRatio (negative : Bool) (num den : Nat) : Binary64 :=
  let units := num * unitsPerOne
  let e := Nat.log2 (units / den) - 52
  ofParts negative (roundHalfEven units (den * 2 ^ e)) e

def ofInt (i : Int) : Binary64 := ofRatio (decide (i < 0)) i.natAbs 1

/-- **The number nearest to `digits` times a power of ten.**  An exponent so great or so small that
the answer is settled without the digits is not expanded. -/
def ofDecimal (negative : Bool) (digits : Nat) (exponent : Int) : Binary64 :=
  if digits = 0 then zero negative
  else if 400 < exponent then .infinite negative
  else if exponent + (Nat.log2 digits : Int) + 1 < -400 then zero negative
  else if 0 ≤ exponent then ofRatio negative (digits * 10 ^ exponent.toNat) 1
  else ofRatio negative digits (10 ^ (-exponent).toNat)

def isZero : Binary64 → Bool
  | .finite _ s _ _ => s == 0
  | _ => false

/-- At least zero, as numbers are compared: a negative zero is, and no comparison holds of `nan`. -/
def isNonneg : Binary64 → Bool
  | .nan => false
  | .infinite negative => !negative
  | .finite negative s _ _ => !negative || s == 0

def isAtMost (bound : Nat) : Binary64 → Bool
  | .nan => false
  | .infinite negative => negative
  | .finite negative s e _ => negative || decide (s * 2 ^ e ≤ bound * unitsPerOne)

theorem isAtMost_zero (negative : Bool) (bound : Nat) : (zero negative).isAtMost bound = true := by
  rw [zero, isAtMost, Nat.zero_mul, Bool.or_eq_true]
  exact .inr (decide_eq_true (Nat.zero_le _))

def toInt? : Binary64 → Option Int
  | .finite negative s e _ =>
    if s * 2 ^ e % unitsPerOne = 0 then
      let n : Int := (s * 2 ^ e / unitsPerOne : Nat)
      some (if negative then -n else n)
    else none
  | _ => none

end Binary64
end FlowBundle
