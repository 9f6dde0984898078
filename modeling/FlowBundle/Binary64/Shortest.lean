import FlowBundle.Binary64.Basic
/-!
# The text of a number

A number is written with the fewest decimal digits that read back as the same number, and of those
with the nearest to it.  For one digit, two digits, and so on to seventeen, the two neighbours of
the number on that decimal grid are read back; the first grid with a hit wins, and of two hits the
nearer, or, if they are equally near, the even one.

The digits stand in a positional text if the point falls after at most sixteen of them and after
at most three leading zeros, else before an exponent of at least two digits.
-/
namespace FlowBundle
namespace Binary64

/-- `digits` times ten to the power `exponent`. -/
structure Decimal where
  digits : Nat
  exponent : Int
  deriving DecidableEq, Repr

def digitCount (n : Nat) : Nat := (Nat.toDigits 10 n).length

/-- The place of the decimal point: the power of ten that is just above `num / den`. -/
def pointOf (num den : Nat) : Int :=
  if den ≤ num then (digitCount (num / den) : Int) else 1 - (digitCount ((den - 1) / num) : Int)

/-- The lower of two neighbours is the better one: it is nearer, or as near and even.  `rest` of
`whole` is the part of the step from the one to the other that the number has gone. -/
def prefersLow (low rest whole : Nat) : Bool :=
  decide (2 * rest < whole) || (decide (2 * rest = whole) && decide (low % 2 = 0))

/-- The better of the two neighbours on a grid, if one reads back. -/
def onGrid (x : Binary64) (num den : Nat) (exponent : Int) : Option Decimal :=
  let n := num * 10 ^ (-exponent).toNat
  let d := den * 10 ^ exponent.toNat
  let low := n / d
  let lowHits := decide (ofDecimal false low exponent = x)
  let highHits := decide (ofDecimal false (low + 1) exponent = x)
  if lowHits && (!highHits || prefersLow low (n % d) d) then some ⟨low, exponent⟩
  else if highHits then some ⟨low + 1, exponent⟩
  else none

def exact (num : Nat) : Decimal := ⟨num * 5 ^ (1074 : Nat), -1074⟩

/-- **The shortest decimal of a positive number**, given as its units. -/
def shortest (x : Binary64) (num : Nat) : Decimal :=
  let point := pointOf num unitsPerOne
  ((List.range 17).findSome? fun k => onGrid x num unitsPerOne (point - (k + 1 : Nat))).getD (exact num)

/-- The digits without the zeros at their end, and the place of the point. -/
def Decimal.parts (d : Decimal) : List Char × Int :=
  let ds := Nat.toDigits 10 d.digits
  ((ds.reverse.dropWhile (· == '0')).reverse, d.exponent + (ds.length : Int))

def positional (ds : List Char) (point : Int) : List Char :=
  if point ≤ 0 then '0' :: '.' :: (List.replicate (-point).toNat '0' ++ ds)
  else
    let p := point.toNat
    if ds.length ≤ p then ds ++ List.replicate (p - ds.length) '0' ++ ['.', '0']
    else ds.take p ++ '.' :: ds.drop p

def scientific (ds : List Char) (point : Int) : List Char :=
  let e := point - 1
  let magnitude := Nat.toDigits 10 e.natAbs
  ds.take 1 ++ (if ds.length ≤ 1 then [] else '.' :: ds.drop 1) ++
    ['e', if e < 0 then '-' else '+'] ++ (if magnitude.length < 2 then '0' :: magnitude else magnitude)

/-- How the values that are no finite numbers are spelt. -/
structure Spelling where
  nan : String
  infinity : String

def text (spelling : Spelling) : Binary64 → List Char
  | .nan => spelling.nan.toList
  | .infinite negative => (if negative then ['-'] else []) ++ spelling.infinity.toList
  | .finite negative s e h =>
    (if negative then ['-'] else []) ++
      (if s = 0 then ['0', '.', '0']
      else
        let (ds, point) := (shortest (.finite false s e h) (s * 2 ^ e)).parts
        if -4 < point ∧ point ≤ 16 then positional ds point else scientific ds point)

end Binary64
end FlowBundle
