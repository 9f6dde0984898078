import FlowBundle.Host.Label
import FlowBundle.Host.Punycode
import FlowBundle.Text.Split
/-!
# Host names

A host name is labels between dots; a dot at its end is left alone.  A label with a character that is
not plain is carried in plain ones: a mark at its front, and its code points in Punycode.  `encode?`
brings a name into the form in which it is carried.  A name that is carried is shown label by label,
and a label with the mark that cannot be read is shown as it is; `fault?` says why a name cannot be
shown at all.
-/
namespace FlowBundle
namespace Host

inductive NameFault where
  | tooLong
  | label (text : List Nat) (problem : Label.Problem)

def NameFault.message : NameFault → String
  | .tooLong => "Domain too long"
  | .label text problem => problem.message text

namespace Name

/-! ## Parts -/

def isDot (c : Char) : Bool := ['.', Char.ofNat 0x3002, Char.ofNat 0xFF0E, Char.ofNat 0xFF61].contains c

/-- The labels of a name, and whether a dot stands at its end. -/
def labels (name : List Char) : List (List Char) × Bool :=
  let parts := Text.split '.' (name.map fun c => if isDot c then '.' else c)
  if 1 < parts.length ∧ parts.getLast? = some [] then (parts.dropLast, true) else (parts, false)

def joined {α : Type} (dot : α) (labels : List (List α)) (atEnd : Bool) : List α :=
  List.intercalate [dot] (if atEnd then labels ++ [[]] else labels)

/-- A name has at most so many characters, and one more with a dot at its end. -/
def maxLength : Nat := 253

def maxLabelLength : Nat := 63

def mark : List Char := ['x', 'n', '-', '-']

def isPlain (c : Char) : Bool := decide (c.toNat < 0x80)

/-! ## Reading -/

def lowerCase (label : List Char) : List Char := label.map Char.toLower

def isMarked (label : List Char) : Bool := mark.isPrefixOf (lowerCase (label.take mark.length))

def holdsMark : List Char → Bool
  | [] => false
  | c :: rest => mark.isPrefixOf (c :: rest) || holdsMark rest

def isSound (label : List Nat) : Bool := (Label.problem? label).isNone

/-- The code points of a label behind its mark, which has a hyphen neither at its front nor at its end. -/
def unmarked? (content : List Char) : Option (List Nat) :=
  if content.head? = some '-' ∨ content.getLast? = some '-' then none
  else (Punycode.decode? (lowerCase content)).filter isSound

def isSoundCarried (label : List Char) : Bool :=
  if isMarked label then (unmarked? (label.drop mark.length)).isSome
  else isSound ((lowerCase label).map Char.toNat)

def labelFault? (label : List Char) : Option NameFault :=
  if isMarked label then none
  else
    let codes := (if label.all isPlain then lowerCase label else label).map Char.toNat
    (Label.problem? codes).map (.label codes)

/-- **Why a name that is carried cannot be shown**, if it cannot. -/
def fault? (name : List Char) : Option NameFault :=
  if maxLength + 1 < name.length then some .tooLong else (labels name).1.findSome? labelFault?

/-! ## Writing -/

def encodeLabel? (label : List Char) : Option (List Char) :=
  let codes := label.map Char.toNat
  let carried := if label.all isPlain then label else mark ++ Punycode.encode codes
  let sound := if label.all isPlain then isSoundCarried label else isSound codes
  if sound ∧ carried.length ≤ maxLabelLength then some carried else none

/-- **The name as it is carried.** -/
def encode? (name : String) : Option String :=
  let cs := name.toList
  if maxLength + 1 < cs.length then none
  else
    let (parts, atEnd) := labels cs
    (parts.mapM encodeLabel?).bind fun parts =>
      let carried := joined '.' parts atEnd
      if carried.length ≤ maxLength + (if atEnd then 1 else 0) then some (String.ofList carried) else none

end Name
end Host
end FlowBundle
