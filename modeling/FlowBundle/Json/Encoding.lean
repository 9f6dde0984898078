import FlowBundle.Text.Wide
/-!
# The encoding of a JSON text

A JSON text begins with a character below U+0080.  So the zeros among its first bytes show how many
bytes a unit has and in which order they come.
-/
namespace FlowBundle
namespace Json

inductive Encoding where
  | bytes
  | units16 (order : Wide.Order)
  | units32 (order : Wide.Order)
  deriving DecidableEq, Repr

/-- **The encoding that the first bytes show.** -/
def Encoding.ofBytes : Bytes → Encoding
  | a :: b :: c :: d :: _ =>
    if a = 0 then if b = 0 then .units32 .highFirst else .units16 .highFirst
    else if b = 0 then if c = 0 ∧ d = 0 then .units32 .lowFirst else .units16 .lowFirst
    else .bytes
  | [a, b] =>
    if a = 0 then .units16 .highFirst
    else if b = 0 then .units16 .lowFirst
    else .bytes
  | _ => .bytes

def Encoding.decode? (e : Encoding) (bytes : Bytes) : Option String :=
  match e with
  | .bytes => (Utf8.decode bytes).toOption
  | .units16 order => Wide.decode16? order bytes
  | .units32 order => Wide.decode32? order bytes

/-- **The JSON text that some bytes hold**, in the encoding that they show. -/
def textOfBytes? (bytes : Bytes) : Option String := (Encoding.ofBytes bytes).decode? bytes

end Json
end FlowBundle
