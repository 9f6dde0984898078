import FlowBundle.Host.CodePoint
import FlowBundle.Text.Composition
import FlowBundle.Text.Cursive
import FlowBundle.Text.Direction
import FlowBundle.Text.Quoted
import FlowBundle.Text.Script
/-!
# Labels of host names

A label is what stands between two dots of a host name, as a list of code points.  It is checked in
this order: it is composed, its hyphens are not where they have a meaning, it does not begin with a
mark, each of its code points may stand where it stands, and its directions of writing go together.
-/
namespace FlowBundle
namespace Host

open Text (Direction Cursive)

namespace Label

inductive DirectionFault where
  | unknown (position : Nat)
  | start
  | strange (position : Nat) (rightward : Bool)
  | digits
  | ending
  deriving DecidableEq, Repr

/-- What is wrong with a label.  Positions are counted from one. -/
inductive Problem where
  | empty
  | notComposed
  | reservedHyphens
  | outerHyphen
  | initialMark
  | joiner (code position : Nat)
  | misplaced (code position : Nat)
  | disallowed (code position : Nat)
  | direction (fault : DirectionFault)
  deriving DecidableEq, Repr

/-! ## Texts of code points -/

/-- A code point between quotes; one that is no character is written by its number. -/
def quotedCode (mark : Char) (n : Nat) : List Char :=
  if n.isValidChar then Text.quotedChar mark (Char.ofNat n) else '\\' :: 'u' :: Text.hexText 4 n

def quoted (label : List Nat) : String :=
  let mark := Text.quoteMark (label.map Char.ofNat)
  String.ofList (mark :: (label.flatMap (quotedCode mark) ++ [mark]))

def codeName (n : Nat) : String :=
  let width := if n < 0x10000 then 4 else if n < 0x100000 then 5 else 6
  "U+" ++ String.ofList ((Text.hexText width n).map Char.toUpper)

/-! ## Hyphens -/

def hyphen : Nat := 0x2D

def hyphenProblem? (label : List Nat) : Option Problem :=
  if (label.drop 2).take 2 = [hyphen, hyphen] then some .reservedHyphens
  else if label.head? = some hyphen ∨ label.getLast? = some hyphen then some .outerHyphen
  else none

/-! ## Code points that need a context

`before` is what stands in front of the code point, the nearest first, and `after` what stands
behind it. -/

def nonJoiner : Nat := 0x200C

def joiner : Nat := 0x200D

/-- The class of the marks that take the vowel from a consonant. -/
def vowelKiller : Nat := 9

/-- The first code point that is joined to others or not, on a way that leaves out those that the
letters around them do not see. -/
def nearest (way : List Nat) : Cursive :=
  ((way.map Text.cursiveOf).find? (· != .transparent)).getD .none

/-- A joiner stands behind a mark that takes a vowel away.  What keeps letters apart may also stand
between two letters that would be joined. -/
def joinerFits (before : List Nat) (code : Nat) (after : List Nat) : Bool :=
  match before with
  | [] => false
  | previous :: _ =>
    Text.markClass previous == vowelKiller ||
      (code == nonJoiner && (Text.markClass previous != 0 || Text.directionOf previous != .unknown) &&
        [Cursive.left, .both].contains (nearest before) && [Cursive.right, .both].contains (nearest after))

def arabicDigits : List (Nat × Nat) := [(0x660, 0x669)]

def easternDigits : List (Nat × Nat) := [(0x6F0, 0x6F9)]

def contextFits? (label before : List Nat) (code : Nat) (after : List Nat) : Option Bool :=
  if code = 0xB7 then some (before.head? == some 'l'.toNat && after.head? == some 'l'.toNat)
  else if code = 0x375 then some (after.head?.any (Text.codeInRanges Text.greekRanges))
  else if code = 0x5F3 ∨ code = 0x5F4 then some (before.head?.any (Text.codeInRanges Text.hebrewRanges))
  else if code = 0x30FB then some (label.any fun n => n != 0x30FB && Text.codeInRanges Text.japaneseRanges n)
  else if Text.codeInRanges arabicDigits code then some (!label.any (Text.codeInRanges easternDigits))
  else if Text.codeInRanges easternDigits code then some (!label.any (Text.codeInRanges arabicDigits))
  else none

def codeProblem? (label before : List Nat) (code : Nat) (after : List Nat) : Option Problem :=
  let position := before.length + 1
  if isLabelCode code then none
  else if code = nonJoiner ∨ code = joiner then
    if joinerFits before code after then none else some (.joiner code position)
  else match contextFits? label before code after with
    | some true => none
    | some false => some (.misplaced code position)
    | none => some (.disallowed code position)

def codesProblem? (label : List Nat) : List Nat → List Nat → Option Problem
  | _, [] => none
  | before, code :: after =>
    (codeProblem? label before code after).or (codesProblem? label (code :: before) after)

/-! ## Directions -/

/-- A direction that makes a label one that is written from right to left somewhere. -/
def turns (d : Direction) : Bool := [Direction.rightToLeft, .arabic, .arabicNumber].contains d

/-- A label in which `rightward` letters set the direction may hold this one. -/
def allowed (rightward : Bool) (d : Direction) : Bool :=
  if rightward then !turns d else d != .leftToRight

def closes (rightward : Bool) (d : Direction) : Bool :=
  d == .europeanNumber || (if rightward then d == .leftToRight else turns d)

def isNumber (d : Direction) : Bool := d == .europeanNumber || d == .arabicNumber

/-- A pass over the directions of a label from a position on; `number` is the kind of its digits so
far. -/
def passFault? (rightward : Bool) (number : Option Direction) (position : Nat) :
    List Direction → Option DirectionFault
  | [] => none
  | d :: rest =>
    if !allowed rightward d then some (.strange position rightward)
    else if !rightward && isNumber d && number.any (· != d) then some .digits
    else passFault? rightward (if isNumber d then some d else number) (position + 1) rest

def opens (d : Direction) : Bool := d == .leftToRight || d == .rightToLeft || d == .arabic

def turnFault? (ds : List Direction) : Option DirectionFault :=
  let start := ds.headD .neutral
  if opens start then
    let rightward := start == .leftToRight
    match passFault? rightward none 1 ds with
    | some fault => some fault
    | none => if (ds.reverse.find? (· != .mark)).any (closes rightward) then none else some .ending
  else some .start

def directionFault? (label : List Nat) : Option DirectionFault :=
  let ds := label.map Text.directionOf
  if ds.contains .unknown then some (.unknown (ds.idxOf .unknown + 1))
  else if ds.any turns then turnFault? ds
  else none

/-! ## The whole label -/

/-- **What is wrong with a label**, if anything is. -/
def problem? (label : List Nat) : Option Problem :=
  if label = [] then some .empty
  else if !Text.isComposed label then some .notComposed
  else match hyphenProblem? label with
    | some problem => some problem
    | none =>
      if label.head?.any Text.isMark then some .initialMark
      else (codesProblem? label [] label).or ((directionFault? label).map .direction)

def DirectionFault.message (label : List Nat) : DirectionFault → String
  | .unknown position => "Unknown directionality in label " ++ quoted label ++ " at position " ++ toString position
  | .start => "First codepoint in label " ++ quoted label ++ " must be directionality L, R or AL"
  | .strange position rightward =>
    "Invalid direction for codepoint at position " ++ toString position ++ " in a " ++
      (if rightward then "left-to-right" else "right-to-left") ++ " label"
  | .digits => "Can not mix numeral types in a right-to-left label"
  | .ending => "Label ends with illegal codepoint directionality"

def Problem.message (label : List Nat) : Problem → String
  | .empty => "Empty Label"
  | .notComposed => "Label must be in Normalization Form C"
  | .reservedHyphens => "Label has disallowed hyphens in 3rd and 4th position"
  | .outerHyphen => "Label must not start or end with a hyphen"
  | .initialMark => "Label begins with an illegal combining character"
  | .joiner code position =>
    "Unknown codepoint adjacent to joiner " ++ codeName code ++ " at position " ++ toString position ++ " in " ++
      quoted label
  | .misplaced code position =>
    "Codepoint " ++ codeName code ++ " not allowed at position " ++ toString position ++ " in " ++ quoted label
  | .disallowed code position =>
    "Codepoint " ++ codeName code ++ " at position " ++ toString position ++ " of " ++ quoted label ++
      " not allowed"
  | .direction fault => fault.message label

end Label
end Host
end FlowBundle
