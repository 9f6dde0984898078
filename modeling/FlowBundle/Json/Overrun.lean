import FlowBundle.Json.Printer
/-!
# What cannot be written

Two things keep a text from being made of a value: an integer of too many digits, and values that lie
too deep in one another.  Either is met while the text is made, so of several ones the first in the
order of the text counts.
-/
namespace FlowBundle
namespace Json

inductive Overrun where
  | longInteger
  | tooDeep
  deriving DecidableEq, Repr

def Overrun.message (doing : String) : Overrun → String
  | .longInteger =>
    "Exceeds the limit (" ++ toString maxDigits ++ " digits) for integer string conversion; " ++
      "use sys.set_int_max_str_digits() to increase the limit"
  | .tooDeep => "maximum recursion depth exceeded while " ++ doing

mutual
/-- **What keeps a value from being written**, with room for so many lists and objects in one another.
An empty one takes no room. -/
def Value.overrun? : Nat → Value → Option Overrun
  | _, .int n => if maxDigits < (Nat.toDigits 10 n.natAbs).length then some .longInteger else none
  | 0, .arr (_ :: _) | 0, .obj (_ :: _) => some .tooDeep
  | room + 1, .arr (v :: vs) => (v.overrun? room).or (overrunItems? room vs)
  | room + 1, .obj ((_, v) :: ms) => (v.overrun? room).or (overrunMembers? room ms)
  | _, _ => none

def overrunItems? (room : Nat) : List Value → Option Overrun
  | [] => none
  | v :: vs => (v.overrun? room).or (overrunItems? room vs)

def overrunMembers? (room : Nat) : List (String × Value) → Option Overrun
  | [] => none
  | (_, v) :: ms => (v.overrun? room).or (overrunMembers? room ms)
end

/-- **Nothing keeps the value from being written.** -/
def Value.Fits (room : Nat) (v : Value) : Prop := v.overrun? room = none

instance (room : Nat) (v : Value) : Decidable (v.Fits room) := inferInstanceAs (Decidable (v.overrun? room = none))

end Json
end FlowBundle
