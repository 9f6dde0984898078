import FlowBundle.Settings.NumberText
import FlowBundle.Text.Blank
import FlowBundle.Text.Split
/-!
# Numbers of options that come as texts

An option is read more leniently than its plain form.  An integer is first read as it stands, and only
then can it be too long.  If it is no plain integer it is tidied: white space and a plus sign go, then
zeros at the front, behind a minus sign if there is one, then a point with zeros at the end, and then
underscores, and what is left has to be a plain integer.  A float is read without the white space
around it, or as it stands without its underscores.
-/
namespace FlowBundle
namespace OptionText

open NumberText (IntegerReading signed natOf maxDigits)

/-- **The text without its underscores**, if it has some, none of them at an end and no two side by side. -/
def joined? (s : List Char) : Option (List Char) :=
  let pieces := Text.split '_' s
  if 1 < pieces.length ∧ pieces.all (!·.isEmpty) then some pieces.flatten else none

/-- **A plain integer**: digits, the first of them no zero unless it is the only one, and perhaps a minus
sign.  Whether it is too long is seen before what follows it. -/
def plainInteger (s : List Char) : IntegerReading :=
  let negative := s.head? == some '-'
  let rest := if negative then s.tail else s
  let digits := rest.takeWhile Char.isDigit
  if digits.head? = some '0' then if rest = ['0'] then .integer 0 else .unreadable
  else if digits = [] then .unreadable
  else if maxDigits < digits.length then .tooLong digits.length
  else if rest = digits then .integer (signed negative (natOf digits))
  else .unreadable

/-- The text after a plus sign, which no minus sign may follow. -/
def withoutPlus? : List Char → Option (List Char)
  | '+' :: '-' :: _ => none
  | '+' :: rest => some rest
  | s => some s

def beginsInteger (c : Char) : Bool := c.isDigit || c == '-'

/-- **The text without the zeros at its front**, underscores among them counting as zeros.  The last one
stays if a point follows or nothing does. -/
def withoutZeros? (s : List Char) : Option (List Char) :=
  let isFiller (c : Char) : Bool := c == '0' || c == '_'
  match s.head?, (s.takeWhile isFiller).getLast?, s.dropWhile isFiller with
  | some '0', some last, [] => some [last]
  | some '0', some last, '.' :: rest => some (last :: '.' :: rest)
  | some '0', _, c :: rest => if beginsInteger c then some (c :: rest) else none
  | some c, _, _ => if beginsInteger c then some s else none
  | none, _, _ => none

/-- The text without the zeros at the front of its digits. -/
def shortened? : List Char → Option (List Char)
  | '-' :: rest => (withoutZeros? rest).map ('-' :: ·)
  | s => withoutZeros? s

/-- The text without a point at which nothing but zeros follow, and at least one of them. -/
def withoutZeroFraction (s : List Char) : List Char :=
  let fraction := (s.dropWhile (· != '.')).tail
  if fraction ≠ [] ∧ fraction.all (· == '0') then s.takeWhile (· != '.') else s

def tidied? (s : List Char) : Option (List Char) := do
  let unsigned ← withoutPlus? (Text.trimChars Text.isSpace s)
  let short ← shortened? unsigned
  let whole := withoutZeroFraction short
  return (joined? whole).getD whole

/-- **An integer.** -/
def readInteger (s : String) : IntegerReading :=
  match plainInteger s.toList with
  | .unreadable =>
    match (tidied? s.toList).map plainInteger with
    | some (.integer n) => .integer n
    | _ => .unreadable
  | reading => reading

/-- **A float.** -/
def readFloat? (s : String) : Option Binary64 :=
  match NumberText.float? (Text.trimChars Text.isSpace s.toList) with
  | some x => some x
  | none => (joined? s.toList).bind NumberText.float?

end OptionText
end FlowBundle
