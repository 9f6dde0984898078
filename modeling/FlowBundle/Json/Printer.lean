import FlowBundle.Json.Basic
/-!
# JSON text

A value is written on one line, or with an indent: then every item and member has a line of its own.
A text is written with the short escapes where there are any, and a control character by its code;
in the `ascii` style every character from U+007F on is written by its code too, those beyond
U+FFFF as a pair.
-/
namespace FlowBundle
namespace Json

/-- The layout: no indent means one line, an indent of zero or less means lines without spaces. -/
structure Style where
  indent : Option Int := none
  ascii : Bool := false

def Style.breakAt (st : Style) (depth : Nat) : List Char :=
  match st.indent with
  | none => []
  | some width => '\n' :: List.replicate (width.toNat * depth) ' '

def Style.separator (st : Style) (depth : Nat) : List Char :=
  match st.indent with
  | none => [',', ' ']
  | some _ => ',' :: st.breakAt depth

def spelling : Binary64.Spelling := ⟨"NaN", "Infinity"⟩

def codeEscape (n : Nat) : List Char := '\\' :: 'u' :: Text.hexText 4 n

def escapedChar (ascii : Bool) (c : Char) : List Char :=
  if c = '"' then ['\\', '"']
  else if c = '\\' then ['\\', '\\']
  else if c = '\n' then ['\\', 'n']
  else if c = '\r' then ['\\', 'r']
  else if c = '\t' then ['\\', 't']
  else if c = '\x08' then ['\\', 'b']
  else if c = '\x0c' then ['\\', 'f']
  else if c.toNat < 0x20 then codeEscape c.toNat
  else if ascii && decide (0x7F ≤ c.toNat) then
    if c.toNat < 0x10000 then codeEscape c.toNat
    else
      let n := c.toNat - 0x10000
      codeEscape (0xD800 + n / 0x400) ++ codeEscape (0xDC00 + n % 0x400)
  else [c]

def writeString (ascii : Bool) (s : String) : List Char :=
  '"' :: (s.toList.flatMap (escapedChar ascii) ++ ['"'])

def writeInt (n : Int) : List Char :=
  (if n < 0 then ['-'] else []) ++ Nat.toDigits 10 n.natAbs

mutual
def write (st : Style) (depth : Nat) : Value → List Char
  | .null => ['n', 'u', 'l', 'l']
  | .bool true => ['t', 'r', 'u', 'e']
  | .bool false => ['f', 'a', 'l', 's', 'e']
  | .int n => writeInt n
  | .float x => x.text spelling
  | .str s => writeString st.ascii s
  | .arr [] => ['[', ']']
  | .arr (v :: vs) =>
    '[' :: (st.breakAt (depth + 1) ++ write st (depth + 1) v ++ writeItems st (depth + 1) vs ++
      st.breakAt depth ++ [']'])
  | .obj [] => ['{', '}']
  | .obj ((k, v) :: ms) =>
    '{' :: (st.breakAt (depth + 1) ++ (writeString st.ascii k ++ [':', ' '] ++ write st (depth + 1) v) ++
      writeMembers st (depth + 1) ms ++ st.breakAt depth ++ ['}'])

/-- The items after the first, each behind its separator. -/
def writeItems (st : Style) (depth : Nat) : List Value → List Char
  | [] => []
  | v :: vs => st.separator depth ++ write st depth v ++ writeItems st depth vs

def writeMembers (st : Style) (depth : Nat) : List (String × Value) → List Char
  | [] => []
  | (k, v) :: ms =>
    st.separator depth ++ (writeString st.ascii k ++ [':', ' '] ++ write st depth v) ++ writeMembers st depth ms
end

/-- **The JSON text of a value.** -/
def Value.text (v : Value) (st : Style) : String := String.ofList (write st 0 v)

end Json
end FlowBundle
