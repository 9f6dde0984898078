import FlowBundle.Text.Hex
import FlowBundle.Text.Utf8
/-!
# Escapes in addresses

An address is written in plain characters, and in some of its parts not in all of them.  Every other
character is escaped byte by byte: a percent sign and two hexadecimal digits.
-/
namespace FlowBundle
namespace Text

/-- The characters that need no escape in any part of an address. -/
def isUnreserved (c : Char) : Bool := c.isAlphanum || ['-', '.', '_', '~'].contains c

def escapeByte (b : UInt8) : List Char := '%' :: (hexText 2 b.toNat).map Char.toUpper

/-- **The text with all but the safe characters escaped.** -/
def escape (isSafe : Char → Bool) (s : List Char) : List Char :=
  s.flatMap fun c => if isSafe c then [c] else (Utf8.encodeChar c).flatMap escapeByte

/-- The bytes that a text with escapes stands for.  A percent sign that begins no escape stands for
itself. -/
def unescape : List Char → Bytes
  | '%' :: a :: b :: rest =>
    match hexValue? a, hexValue? b with
    | some high, some low => (high * 16 + low).toUInt8 :: unescape rest
    | _, _ => 0x25 :: unescape (a :: b :: rest)
  | c :: rest => Utf8.encodeChar c ++ unescape rest
  | [] => []

def unescaped (s : List Char) : List Char := (Utf8.decodeRepaired (unescape s)).toList

end Text
end FlowBundle
