import FlowBundle.Json.Display
import FlowBundle.Violation
/-!
# Messages

A message is what one of the two speakers said.  Its content is a text, or a list of parts, each of
them a text or an object.  What a content is read from is a value of any kind; a value that is no
content has a report on both forms.
-/
namespace FlowBundle
namespace Chat

open Json (Value Members)

inductive Speaker where
  | human
  | assistant
  deriving DecidableEq, Repr

def Speaker.recordName : Speaker → String
  | .human => "HumanMessage"
  | .assistant => "AIMessage"

inductive Part where
  | text (s : String)
  | object (members : Members)

def Part.toValue : Part → Value
  | .text s => .str s
  | .object ms => .obj ms

inductive Content where
  | text (s : String)
  | parts (ps : List Part)

def Content.toValue : Content → Value
  | .text s => .str s
  | .parts ps => .arr (ps.map Part.toValue)

def Content.plainText (c : Content) : String := c.toValue.plainText

structure Message where
  speaker : Speaker
  content : Content

/-! ## Reading a content -/

def partsName : String := "list[union[str,dict[any,any]]]"

def Part.ofValue (i : Nat) : Value → Checked Part
  | .str s => .ok (.text s)
  | .obj ms => .ok (.object ms)
  | v =>
    let place := ["content", partsName, toString i]
    .error [⟨place ++ ["str"], .text, v⟩, ⟨place ++ ["dict[any,any]"], .object, v⟩]

/-- **The content that a value stands for.** -/
def Content.ofValue (v : Value) : Checked Content :=
  match v with
  | .str s => .ok (.text s)
  | .arr items =>
    match Checked.all Part.ofValue 0 items with
    | .ok ps => .ok (.parts ps)
    | .error vs => .error (⟨["content", "str"], .text, v⟩ :: vs)
  | v => .error [⟨["content", "str"], .text, v⟩, ⟨["content", partsName], .list, v⟩]

theorem Part.ofValue_toValue (i : Nat) (p : Part) : Part.ofValue i p.toValue = .ok p := by
  cases p <;> rfl

/-- **A content is read back from its value.** -/
theorem Content.ofValue_toValue (c : Content) : Content.ofValue c.toValue = .ok c := by
  cases c with
  | text s => rfl
  | parts ps => rw [toValue, ofValue, Checked.all_map 0 ps fun p _ i => Part.ofValue_toValue i p]

structure BadContent where
  speaker : Speaker
  violations : List Violation

def BadContent.message (b : BadContent) : String := Violation.report b.speaker.recordName b.violations

/-- A message that is offered: its content may be any value. -/
structure Draft where
  speaker : Speaker
  content : Value

def Draft.accept (d : Draft) : Except BadContent Message :=
  match Content.ofValue d.content with
  | .ok content => .ok ⟨d.speaker, content⟩
  | .error vs => .error ⟨d.speaker, vs⟩

/-- **The messages up to the first draft that is refused**, and the refusal, if there is one. -/
def Draft.acceptAll : List Draft → List Message × Option BadContent
  | [] => ([], none)
  | d :: ds =>
    match d.accept with
    | .ok m => (m :: (acceptAll ds).1, (acceptAll ds).2)
    | .error bad => ([], some bad)

end Chat
end FlowBundle
