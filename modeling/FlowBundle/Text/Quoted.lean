import FlowBundle.Text.Printable
/-!
# Quoted text

A text as it stands inside a message or inside the text of a list: between apostrophes, or between
double quotes if it holds an apostrophe and no double quote.  The mark and the backslash are
escaped, line feed, carriage return and tab have letters, and every other unprintable character is
written by its code point with two, four or eight hexadecimal digits.
-/
namespace FlowBundle
namespace Text

def apostrophe : Char := '\x27'

def doubleQuote : Char := '\x22'

/-- The code point in exactly `width` hexadecimal digits, lower case. -/
def hexText : Nat → Nat → List Char
  | 0, _ => []
  | width + 1, n => hexText width (n / 16) ++ [Nat.digitChar (n % 16)]

/-- A character by its code point, in the shortest of the three widths. -/
def codeEscape (c : Char) : List Char :=
  if c.toNat < 0x100 then '\\' :: 'x' :: hexText 2 c.toNat
  else if c.toNat < 0x10000 then '\\' :: 'u' :: hexText 4 c.toNat
  else '\\' :: 'U' :: hexText 8 c.toNat

def quoteMark (cs : List Char) : Char :=
  if cs.contains apostrophe && !cs.contains doubleQuote then doubleQuote else apostrophe

def quotedChar (mark c : Char) : List Char :=
  if c = '\\' ∨ c = mark then ['\\', c]
  else if c = '\n' then ['\\', 'n']
  else if c = '\r' then ['\\', 'r']
  else if c = '\t' then ['\\', 't']
  else if isPrintable c then [c]
  else codeEscape c

def quoted (s : String) : String :=
  let mark := quoteMark s.toList
  String.ofList (mark :: (s.toList.flatMap (quotedChar mark) ++ [mark]))

end Text
end FlowBundle
