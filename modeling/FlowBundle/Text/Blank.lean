import FlowBundle.Text.Ranges
/-!
# Blank characters

Two classes of white space.  `isBlank` is the one that texts of a workflow and of the environment
are stripped of: the property White_Space with the four information separators.  `isSpace` leaves
those four out; it is what may stand around a number that comes as a text.
-/
namespace FlowBundle
namespace Text

def blankRanges : List (Nat × Nat) :=
  [(0x09, 0x0D), (0x1C, 0x20), (0x85, 0x85), (0xA0, 0xA0), (0x1680, 0x1680), (0x2000, 0x200A),
   (0x2028, 0x2029), (0x202F, 0x202F), (0x205F, 0x205F), (0x3000, 0x3000)]

def isBlank (c : Char) : Bool := inRanges blankRanges c

/-- White space without the information separators U+001C to U+001F. -/
def isSpace (c : Char) : Bool :=
  isBlank c && !(decide (0x1C ≤ c.toNat) && decide (c.toNat ≤ 0x1F))

/-- **Both ends cleared** of the characters of a class. -/
def trimChars (p : Char → Bool) (cs : List Char) : List Char :=
  ((cs.dropWhile p).reverse.dropWhile p).reverse

def strip (s : String) : String := String.ofList (trimChars isBlank s.toList)

def allBlank (s : String) : Bool := s.toList.all isBlank

end Text
end FlowBundle
