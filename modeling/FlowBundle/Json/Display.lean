import FlowBundle.Json.Printer
/-!
# The plain text of a value

How a value of a node reads inside running text: a text stands for itself, and everything else is
spelt as a literal, with the texts inside it quoted.
-/
namespace FlowBundle
namespace Json

def plainSpelling : Binary64.Spelling := ⟨"nan", "inf"⟩

mutual
/-- **The literal of a value**: what names it in a message. -/
def literal : Value → List Char
  | .null => "None".toList
  | .bool true => "True".toList
  | .bool false => "False".toList
  | .int n => writeInt n
  | .float x => x.text plainSpelling
  | .str s => (Text.quoted s).toList
  | .arr [] => ['[', ']']
  | .arr (v :: vs) => '[' :: (literal v ++ literalItems vs ++ [']'])
  | .obj [] => ['{', '}']
  | .obj ((k, v) :: ms) =>
    '{' :: ((Text.quoted k).toList ++ [':', ' '] ++ literal v ++ literalMembers ms ++ ['}'])

def literalItems : List Value → List Char
  | [] => []
  | v :: vs => [',', ' '] ++ literal v ++ literalItems vs

def literalMembers : List (String × Value) → List Char
  | [] => []
  | (k, v) :: ms => [',', ' '] ++ ((Text.quoted k).toList ++ [':', ' '] ++ literal v) ++ literalMembers ms
end

def Value.literalText (v : Value) : String := String.ofList (literal v)

/-- **The plain text of a value.** -/
def Value.plainText : Value → String
  | .str s => s
  | v => v.literalText

def Value.givenText (v : Value) : String := if v.isGiven then v.plainText else ""

end Json
end FlowBundle
