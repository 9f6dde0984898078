import FlowBundle.Text.Quoted
/-!
# Plain text

Headers are written in the first 128 characters only.  A text with other characters in it is refused
at the first of them, together with those that follow it at once.
-/
namespace FlowBundle
namespace Ascii

def isPlain (c : Char) : Bool := decide (c.toNat < 0x80)

/-- The first characters that cannot be written: the index of the first one, and all in a row. -/
structure Fault where
  first : Nat
  run : List Char

def fault? (s : String) : Option Fault :=
  let rest := s.toList.dropWhile isPlain
  if rest = [] then none
  else some ⟨(s.toList.takeWhile isPlain).length, rest.takeWhile fun c => !isPlain c⟩

def Fault.message (f : Fault) : String :=
  "'ascii' codec can't encode " ++
    (match f.run with
    | [c] => "character '" ++ String.ofList (Text.codeEscape c) ++ "' in position " ++ toString f.first
    | run =>
      "characters in position " ++ toString f.first ++ "-" ++ toString (f.first + run.length - 1)) ++
    ": ordinal not in range(128)"

end Ascii
end FlowBundle
