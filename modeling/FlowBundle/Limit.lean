/-!
# Limits

Stores are bounded, and a bound that is too small for the store to do its work is refused when the
store is made.
-/
namespace FlowBundle

structure TooSmall where
  name : String
  least : Nat
  deriving DecidableEq, Repr

namespace TooSmall

def message (t : TooSmall) : String := t.name ++ " must be >= " ++ toString t.least

theorem le_toNat {least : Nat} {n : Int} (h : (least : Int) ≤ n) : least ≤ n.toNat := by omega

/-- **A limit that is at least `least`**, with the proof of it. -/
def check (name : String) (least : Nat) (given : Int) : Except TooSmall { n : Nat // least ≤ n } :=
  if h : (least : Int) ≤ given then .ok ⟨given.toNat, le_toNat h⟩ else .error ⟨name, least⟩

end TooSmall
end FlowBundle
