import FlowBundle.Text.Utf8
/-!
# Texts in units of two and four bytes

The bytes of a unit come in either order.  A unit of four bytes is a character.  A unit of two bytes
is a character or one half of a pair, which stands for a character beyond the first 65536; a half on
its own stands for no character and is read as the replacement character.
-/
namespace FlowBundle
namespace Wide

inductive Order where
  | highFirst
  | lowFirst
  deriving DecidableEq, Repr

/-- Two parts of a unit, each of them below `base`, as one number. -/
def Order.join (order : Order) (base a b : Nat) : Nat :=
  match order with
  | .highFirst => a * base + b
  | .lowFirst => b * base + a

/-- The members of a list joined two by two, if none is left over. -/
def joinPairs? (join : Nat → Nat → Nat) : List Nat → Option (List Nat)
  | [] => some []
  | [_] => none
  | a :: b :: rest => (joinPairs? join rest).map (join a b :: ·)

def units16? (order : Order) (bytes : Bytes) : Option (List Nat) :=
  joinPairs? (order.join 0x100) (bytes.map (·.toNat))

def units32? (order : Order) (bytes : Bytes) : Option (List Nat) :=
  (units16? order bytes).bind (joinPairs? (order.join 0x10000))

/-! ## Halves of pairs -/

def isHighHalf (n : Nat) : Bool := decide (0xD800 ≤ n) && decide (n < 0xDC00)

def isLowHalf (n : Nat) : Bool := decide (0xDC00 ≤ n) && decide (n < 0xE000)

def charOfPair (high low : Nat) : Char := Char.ofNat (0x10000 + (high - 0xD800) * 0x400 + (low - 0xDC00))

def charOfCode (n : Nat) : Char := if isHighHalf n || isLowHalf n then Utf8.replacement else Char.ofNat n

def charsOfUnits : List Nat → List Char
  | [] => []
  | [n] => [charOfCode n]
  | n :: m :: rest =>
    if isHighHalf n && isLowHalf m then charOfPair n m :: charsOfUnits rest
    else charOfCode n :: charsOfUnits (m :: rest)

/-! ## Texts -/

/-- **The text in units of two bytes.** -/
def decode16? (order : Order) (bytes : Bytes) : Option String :=
  (units16? order bytes).map fun units => String.ofList (charsOfUnits units)

/-- **The text in units of four bytes**, each of which has to be the code of a character. -/
def decode32? (order : Order) (bytes : Bytes) : Option String :=
  match units32? order bytes with
  | none => none
  | some units =>
    if units.all (· < 0x110000) then some (String.ofList (units.map charOfCode)) else none

end Wide
end FlowBundle
