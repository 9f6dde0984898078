import FlowBundle.Binary64.Basic
import FlowBundle.Text.Digit
/-!
# Numbers that come as texts

The grammar of a number: a sign, digits with a point and an exponent, or the name of an infinity or
of no number.  `readFloat?` and `readInteger` read a number in digits of any script, with white space
around it and single underscores between two digits.
-/
namespace FlowBundle
namespace NumberText

def takeSign : List Char → Bool × List Char
  | '-' :: rest => (true, rest)
  | '+' :: rest => (false, rest)
  | s => (false, s)

def natOf (digits : List Char) : Nat := Nat.ofDigitChars 10 digits 0

def signed (negative : Bool) (n : Nat) : Int := if negative then -(n : Int) else n

/-- **The text without its underscores**, each of which must stand between two digits. -/
def ungroup (afterDigit : Bool) : List Char → Option (List Char)
  | [] => some []
  | c :: rest =>
    if c = '_' then
      if afterDigit && rest.head?.any Char.isDigit then ungroup false rest else none
    else (ungroup c.isDigit rest).map (c :: ·)

def exponent? : List Char → Option Int
  | [] => some 0
  | c :: rest =>
    if c = 'e' ∨ c = 'E' then
      let (negative, digits) := takeSign rest
      if digits ≠ [] ∧ digits.all Char.isDigit then some (signed negative (natOf digits)) else none
    else none

/-- Digits, point, digits and exponent; there must be a digit on one side of the point. -/
def decimal? (negative : Bool) (s : List Char) : Option Binary64 :=
  let whole := s.takeWhile Char.isDigit
  let rest := s.dropWhile Char.isDigit
  let pointed := rest.head? == some '.'
  let fraction := if pointed then rest.tail.takeWhile Char.isDigit else []
  let rest := if pointed then rest.tail.dropWhile Char.isDigit else rest
  if whole = [] ∧ fraction = [] then none
  else (exponent? rest).map fun e =>
    Binary64.ofDecimal negative (natOf (whole ++ fraction)) (e - fraction.length)

/-- **A number with nothing around it.** -/
def float? (s : List Char) : Option Binary64 :=
  let (negative, rest) := takeSign s
  match String.ofList (rest.map Char.toLower) with
  | "inf" => some (.infinite negative)
  | "infinity" => some (.infinite negative)
  | "nan" => some .nan
  | _ => decimal? negative rest

def isPlainSpace (c : Char) : Bool := Text.isSpace c && decide (c.toNat < 0x80)

def maxDigits : Nat := 4300

/-- **A number with white space around it**, in digits of any script. -/
def readFloat? (s : String) : Option Binary64 :=
  (ungroup false (Text.trimChars isPlainSpace (s.toList.map Text.plainDigit))).bind float?

inductive IntegerReading where
  | integer (n : Int)
  | tooLong (digits : Nat)
  | unreadable

/-- **An integer with white space around it**, in digits of any script.  Whether it is too long is
seen before what follows it. -/
def readInteger (s : String) : IntegerReading :=
  let (negative, rest) := takeSign ((s.toList.map Text.plainDigit).dropWhile isPlainSpace)
  let inNumber (c : Char) : Bool := c.isDigit || c == '_'
  match ungroup false (rest.takeWhile inNumber) with
  | none => .unreadable
  | some [] => .unreadable
  | some digits =>
    if maxDigits < digits.length then .tooLong digits.length
    else if (rest.dropWhile inNumber).all isPlainSpace then .integer (signed negative (natOf digits))
    else .unreadable

end NumberText
end FlowBundle
