/-!
# Lines

Line ends of a text that comes from a file, and the line and column of a place in a text.
-/
namespace FlowBundle
namespace Text

/-- **Every line end becomes a line feed**: the pair of carriage return and line feed, and the lone
carriage return. -/
def unifyLineEnds : List Char → List Char
  | '\r' :: '\n' :: rest => '\n' :: unifyLineEnds rest
  | '\r' :: rest => '\n' :: unifyLineEnds rest
  | c :: rest => c :: unifyLineEnds rest
  | [] => []

/-- Line and column of the character at an index, both counted from one. -/
def lineColumn (cs : List Char) (index : Nat) : Nat × Nat :=
  ((cs.take index).count '\n' + 1, ((cs.take index).reverse.takeWhile (· != '\n')).length + 1)

def unlines (lines : List String) : String := String.join (lines.map (· ++ "\n"))

end Text
end FlowBundle
