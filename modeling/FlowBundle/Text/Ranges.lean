/-!
# Character ranges

A class of characters is given as a table: the first and the last code point of each run, in
increasing order.  Membership is one pass over the table, so a class can be read off its table and
no other.  Unless a table says otherwise it is that of version 14 of the character database.
-/
namespace FlowBundle
namespace Text

/-- **The code point lies in one of the runs**, both ends included. -/
def codeInRanges (ranges : List (Nat × Nat)) (n : Nat) : Bool :=
  ranges.any fun r => decide (r.1 ≤ n) && decide (n ≤ r.2)

def inRanges (ranges : List (Nat × Nat)) (c : Char) : Bool := codeInRanges ranges c.toNat

end Text
end FlowBundle
