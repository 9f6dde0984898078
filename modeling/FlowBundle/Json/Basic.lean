import FlowBundle.Binary64.Shortest
import FlowBundle.Table
import FlowBundle.Text.Utf8
/-!
# JSON values

A value as it was received.  Integers have any size and are not floats; an object keeps the order of
its members, because that order shows in whatever is written from it.
-/
namespace FlowBundle
namespace Json

inductive Value where
  | null
  | bool (b : Bool)
  | int (n : Int)
  | float (x : Binary64)
  | str (s : String)
  | arr (items : List Value)
  | obj (members : List (String × Value))

instance : Inhabited Value := ⟨.null⟩

abbrev Members := List (String × Value)

namespace Members

def get? (ms : Members) (key : String) : Option Value := List.lookup key ms

def has (ms : Members) (key : String) : Bool := (ms.get? key).isSome

def put (ms : Members) (key : String) (value : Value) : Members := Table.put key value ms

def without (keys : List String) (ms : Members) : Members := ms.filter fun m => !keys.contains m.1

end Members

/-- An integer of more digits is neither read nor written. -/
def maxDigits : Nat := 4300

/-- **How many lists and objects may lie in one another**, when a text is read and when one is
written. -/
structure Limits where
  reading : Nat := 993
  writing : Nat := 989

def Value.kind : Value → String
  | .null => "NoneType"
  | .bool _ => "bool"
  | .int _ => "int"
  | .float _ => "float"
  | .str _ => "str"
  | .arr _ => "list"
  | .obj _ => "dict"

/-- **Whether the value counts as given**: zero, the empty text, list and object, `false` and `null`
do not. -/
def Value.isGiven : Value → Bool
  | .null => false
  | .bool b => b
  | .int n => n != 0
  | .float x => !x.isZero
  | .str s => s != ""
  | .arr items => !items.isEmpty
  | .obj members => !members.isEmpty

end Json
end FlowBundle
