import FlowBundle.Json.Basic
import FlowBundle.Text.Hex
import FlowBundle.Text.Lines
import FlowBundle.Text.Wide
/-!
# Reading JSON text

Each reading function takes what is left of the text and returns a value with a shorter rest, so the
rest is the measure by which reading ends.  A place in the text is counted from its end: it is the
length of what is left there, and only the answer to the caller turns it into an index, a line and a
column.

Beyond the standard, the names of the three special numbers are read, a number with a point or an
exponent is a float whatever its value, a later member replaces an earlier one of the same name, and
half a surrogate pair is read as the replacement character.

Lists and objects lie in one another, and there is room for so many of them.  Every bracket takes some
of the room, and where none is left, reading stops.
-/
namespace FlowBundle
namespace Json

open Wide (isHighHalf isLowHalf charOfPair charOfCode)

inductive Problem where
  | value
  | comma
  | colon
  | memberName
  | moreText
  | escape
  | codeEscape
  | control
  | unterminated
  | byteOrderMark
  deriving DecidableEq, Repr

def Problem.text : Problem → String
  | .value => "Expecting value"
  | .comma => "Expecting ',' delimiter"
  | .colon => "Expecting ':' delimiter"
  | .memberName => "Expecting property name enclosed in double quotes"
  | .moreText => "Extra data"
  | .escape => "Invalid \\escape"
  | .codeEscape => "Invalid \\uXXXX escape"
  | .control => "Invalid control character at"
  | .unterminated => "Unterminated string starting at"
  | .byteOrderMark => "Unexpected UTF-8 BOM (decode using utf-8-sig)"

/-- What a bracket opens. -/
inductive Container where
  | array
  | object
  deriving DecidableEq, Repr

def Container.text : Container → String
  | .array => "JSON array"
  | .object => "JSON object"

/-- Why reading stopped: a problem where so many characters are left, an integer of more digits than
are read, or a bracket for which there is no room. -/
inductive Stop where
  | fault (problem : Problem) (left : Nat)
  | longInteger (digits : Nat)
  | tooDeep (container : Container)

/-- A value read off the front of a text of at most so many characters, and what is left. -/
structure Parsed (α : Type) (size : Nat) where
  value : α
  rest : List Char
  shorter : rest.length < size

def isLayout (c : Char) : Bool := c == ' ' || c == '\n' || c == '\t' || c == '\r'

def skipLayout (s : List Char) : List Char := s.dropWhile isLayout

theorem length_skipLayout_le (s : List Char) : (skipLayout s).length ≤ s.length :=
  (List.dropWhile_sublist isLayout).length_le

/-! ## Texts -/

def hexValue4? (a b c d : Char) : Option Nat := do
  let a ← Text.hexValue? a
  let b ← Text.hexValue? b
  let c ← Text.hexValue? c
  let d ← Text.hexValue? d
  return ((a * 16 + b) * 16 + c) * 16 + d

def shortEscape? (c : Char) : Option Char :=
  if c = '"' ∨ c = '\\' ∨ c = '/' then some c
  else if c = 'b' then some '\x08'
  else if c = 'f' then some '\x0c'
  else if c = 'n' then some '\n'
  else if c = 'r' then some '\r'
  else if c = 't' then some '\t'
  else none

/-- **The rest of a text after its opening quote**, with the characters read so far, last one first.
A code escape counts only if something follows its four digits; the second half of a pair counts
only if something follows it too. -/
def readString (opening : Nat) (done s : List Char) : Except Stop (List Char × List Char) :=
  match s with
  | [] => .error (.fault .unterminated opening)
  | '"' :: rest => .ok (done.reverse, rest)
  | '\\' :: 'u' :: a :: b :: c :: d :: e :: rest =>
    match hexValue4? a b c d with
    | none => .error (.fault .codeEscape (rest.length + 6))
    | some n =>
      if isHighHalf n then
        match e, rest with
        | '\\', 'u' :: f :: g :: h :: i :: j :: rest =>
          match hexValue4? f g h i with
          | none => .error (.fault .codeEscape (rest.length + 6))
          | some m =>
            if isLowHalf m then readString opening (charOfPair n m :: done) (j :: rest)
            else readString opening (charOfCode n :: done) ('\\' :: 'u' :: f :: g :: h :: i :: j :: rest)
        | e, rest => readString opening (charOfCode n :: done) (e :: rest)
      else readString opening (charOfCode n :: done) (e :: rest)
  | '\\' :: 'u' :: rest => .error (.fault .codeEscape (rest.length + 1))
  | '\\' :: c :: rest =>
    match shortEscape? c with
    | none => .error (.fault .escape (rest.length + 2))
    | some x => readString opening (x :: done) rest
  | ['\\'] => .error (.fault .unterminated opening)
  | c :: rest =>
    if c.toNat < 0x20 then .error (.fault .control (rest.length + 1))
    else readString opening (c :: done) rest
termination_by s.length

theorem length_readString {opening : Nat} {done s cs rest : List Char}
    (h : readString opening done s = .ok (cs, rest)) : rest.length < s.length := by
  fun_induction readString opening done s with
  | case1 | case3 | case4 | case9 | case10 | case12 | case13 => cases h
  | case2 =>
    cases h
    exact Nat.lt_succ_self _
  | case5 | case6 | case7 | case8 | case11 | case14 =>
    rename_i ih
    have := ih h
    simp only [List.length_cons] at this ⊢
    omega

/-! ## Numbers -/

structure Numeral where
  negative : Bool
  whole : List Char
  fraction : List Char
  exponent : Option Int

def natOf (digits : List Char) : Nat := Nat.ofDigitChars 10 digits 0

/-- A numeral without point and exponent is an integer, every other one a float. -/
def Numeral.value (n : Numeral) : Except Stop Value :=
  match n.fraction, n.exponent with
  | [], none =>
    if maxDigits < n.whole.length then .error (.longInteger n.whole.length)
    else .ok (.int (if n.negative then -(natOf n.whole : Int) else natOf n.whole))
  | fraction, exponent =>
    .ok (.float (Binary64.ofDecimal n.negative (natOf (n.whole ++ fraction))
      (exponent.getD 0 - (fraction.length : Int))))

/-- The digits after a point, which is taken only if one follows it. -/
def readFraction : List Char → List Char × List Char
  | '.' :: rest => if rest.takeWhile Char.isDigit = [] then ([], '.' :: rest)
      else (rest.takeWhile Char.isDigit, rest.dropWhile Char.isDigit)
  | s => ([], s)

def readExponentDigits (negative : Bool) (s : List Char) : Option (Int × List Char) :=
  if s.takeWhile Char.isDigit = [] then none
  else
    let n : Int := natOf (s.takeWhile Char.isDigit)
    some (if negative then -n else n, s.dropWhile Char.isDigit)

/-- The exponent, which is taken only if it has a digit. -/
def readExponent : List Char → Option (Int × List Char)
  | e :: '-' :: rest => if e = 'e' ∨ e = 'E' then readExponentDigits true rest else none
  | e :: '+' :: rest => if e = 'e' ∨ e = 'E' then readExponentDigits false rest else none
  | e :: rest => if e = 'e' ∨ e = 'E' then readExponentDigits false rest else none
  | [] => none

/-- The digits before the point: a zero stands alone. -/
def readWhole : List Char → List Char × List Char
  | '0' :: rest => (['0'], rest)
  | s => (s.takeWhile Char.isDigit, s.dropWhile Char.isDigit)

def readUnsigned (negative : Bool) (s : List Char) : Option (Numeral × List Char) :=
  let (whole, rest) := readWhole s
  if whole = [] then none
  else
    let (fraction, rest) := readFraction rest
    match readExponent rest with
    | some (exponent, rest) => some (⟨negative, whole, fraction, some exponent⟩, rest)
    | none => some (⟨negative, whole, fraction, none⟩, rest)

def readNumeral : List Char → Option (Numeral × List Char)
  | '-' :: rest => readUnsigned true rest
  | s => readUnsigned false s

theorem length_readExponentDigits {negative : Bool} {s rest : List Char} {n : Int}
    (h : readExponentDigits negative s = some (n, rest)) : rest.length ≤ s.length := by
  unfold readExponentDigits at h
  split at h
  · cases h
  · cases h
    exact (List.dropWhile_sublist _).length_le

theorem length_readExponent {s rest : List Char} {n : Int} (h : readExponent s = some (n, rest)) :
    rest.length ≤ s.length := by
  unfold readExponent at h
  split at h <;> (try split at h) <;>
    first
    | exact Nat.le_trans (length_readExponentDigits h) (by rw [List.length_cons, List.length_cons]; omega)
    | exact Nat.le_trans (length_readExponentDigits h) (by rw [List.length_cons]; omega)
    | cases h

theorem length_readFraction (s : List Char) : (readFraction s).2.length ≤ s.length := by
  unfold readFraction
  split
  · split
    · simp
    · exact Nat.le_trans (List.dropWhile_sublist _).length_le (by simp)
  · simp

theorem length_readWhole (s : List Char) (h : (readWhole s).1 ≠ []) : (readWhole s).2.length < s.length := by
  unfold readWhole at h ⊢
  split
  · simp
  · rename_i hs
    have hlen := congrArg List.length (List.takeWhile_append_dropWhile (p := Char.isDigit) (l := s))
    have hpos : 0 < (s.takeWhile Char.isDigit).length := List.length_pos_iff.2 (by split at h <;> simp_all)
    rw [List.length_append] at hlen
    show (s.dropWhile Char.isDigit).length < s.length
    omega

theorem length_readUnsigned {negative : Bool} {s rest : List Char} {n : Numeral}
    (h : readUnsigned negative s = some (n, rest)) : rest.length < s.length := by
  unfold readUnsigned at h
  simp only at h
  split at h
  · cases h
  · rename_i hw
    have h1 := length_readWhole s hw
    have h2 := length_readFraction (readWhole s).2
    split at h
    · rename_i hx
      cases h
      have := length_readExponent hx
      omega
    · cases h
      omega

theorem length_readNumeral {s rest : List Char} {n : Numeral} (h : readNumeral s = some (n, rest)) :
    rest.length < s.length := by
  unfold readNumeral at h
  split at h
  · have := length_readUnsigned h
    simp
    omega
  · exact length_readUnsigned h

def readNumber (s : List Char) : Except Stop (Parsed Value s.length) :=
  match h : readNumeral s with
  | none => .error (.fault .value s.length)
  | some (n, rest) => n.value.map fun v => ⟨v, rest, length_readNumeral h⟩

/-! ## Values -/

mutual
/-- **The value at the front of a text**, with room for so many lists and objects in one another. -/
def readValue (room : Nat) (s : List Char) : Except Stop (Parsed Value s.length) :=
  match s with
  | '"' :: body =>
    match h : readString (body.length + 1) [] body with
    | .error e => .error e
    | .ok (cs, rest) => .ok ⟨.str (String.ofList cs), rest, Nat.lt_succ_of_lt (length_readString h)⟩
  | '{' :: rest =>
    match room with
    | 0 => .error (.tooDeep .object)
    | room + 1 =>
      match h : skipLayout rest with
      | '}' :: rest' =>
        .ok ⟨.obj [], rest', by have := length_skipLayout_le rest; rw [h] at this; simp at this ⊢; omega⟩
      | inner =>
        (readMembers room [] inner).map fun p =>
          ⟨.obj p.value, p.rest, by
            have := length_skipLayout_le rest; have := p.shorter; rw [h] at *; simp; omega⟩
  | '[' :: rest =>
    match room with
    | 0 => .error (.tooDeep .array)
    | room + 1 =>
      match h : skipLayout rest with
      | ']' :: rest' =>
        .ok ⟨.arr [], rest', by have := length_skipLayout_le rest; rw [h] at this; simp at this ⊢; omega⟩
      | inner =>
        (readItems room [] inner).map fun p =>
          ⟨.arr p.value, p.rest, by
            have := length_skipLayout_le rest; have := p.shorter; rw [h] at *; simp; omega⟩
  | 'n' :: 'u' :: 'l' :: 'l' :: rest => .ok ⟨.null, rest, by simp; omega⟩
  | 't' :: 'r' :: 'u' :: 'e' :: rest => .ok ⟨.bool true, rest, by simp; omega⟩
  | 'f' :: 'a' :: 'l' :: 's' :: 'e' :: rest => .ok ⟨.bool false, rest, by simp; omega⟩
  | 'N' :: 'a' :: 'N' :: rest => .ok ⟨.float .nan, rest, by simp; omega⟩
  | 'I' :: 'n' :: 'f' :: 'i' :: 'n' :: 'i' :: 't' :: 'y' :: rest =>
    .ok ⟨.float (.infinite false), rest, by simp; omega⟩
  | '-' :: 'I' :: 'n' :: 'f' :: 'i' :: 'n' :: 'i' :: 't' :: 'y' :: rest =>
    .ok ⟨.float (.infinite true), rest, by simp; omega⟩
  | s => readNumber s
termination_by (s.length, 0)
decreasing_by
  all_goals
    have hle := length_skipLayout_le rest
    rw [h] at hle
    exact Prod.Lex.left _ _ (Nat.lt_succ_of_le hle)

/-- The items of a list from one of them on, with those before it, last one first. -/
def readItems (room : Nat) (done : List Value) (s : List Char) : Except Stop (Parsed (List Value) s.length) :=
  match readValue room s with
  | .error e => .error e
  | .ok ⟨v, after, h⟩ =>
    match h' : skipLayout after with
    | ']' :: rest =>
      .ok ⟨(v :: done).reverse, rest, by
        have := length_skipLayout_le after; rw [h'] at this; simp at this; omega⟩
    | ',' :: rest =>
      (readItems room (v :: done) (skipLayout rest)).map fun p =>
        ⟨p.value, p.rest, by
          have := length_skipLayout_le after; have := length_skipLayout_le rest; have := p.shorter
          rw [h'] at *; simp at *; omega⟩
    | rest => .error (.fault .comma rest.length)
termination_by (s.length, 1)
decreasing_by
  · omega
  · have h1 := length_skipLayout_le after
    have h2 := length_skipLayout_le rest
    rw [h'] at h1
    simp at h1
    omega

def readMembers (room : Nat) (done : Members) (s : List Char) : Except Stop (Parsed Members s.length) :=
  match s with
  | '"' :: afterQuote =>
    match hs : readString (afterQuote.length + 1) [] afterQuote with
    | .error e => .error e
    | .ok (key, afterKey) =>
      have hk := length_readString hs
      match hc : skipLayout afterKey with
      | ':' :: afterColon =>
        match readValue room (skipLayout afterColon) with
        | .error e => .error e
        | .ok ⟨v, after, hv⟩ =>
          match h' : skipLayout after with
          | '}' :: rest =>
            .ok ⟨done.put (String.ofList key) v, rest, by
              have h1 := length_skipLayout_le afterKey
              have h2 := length_skipLayout_le afterColon
              have h3 := length_skipLayout_le after
              rw [hc] at h1; rw [h'] at h3; simp at h1 h3 ⊢; omega⟩
          | ',' :: rest =>
            (readMembers room (done.put (String.ofList key) v) (skipLayout rest)).map fun p =>
              ⟨p.value, p.rest, by
                have h1 := length_skipLayout_le afterKey
                have h2 := length_skipLayout_le afterColon
                have h3 := length_skipLayout_le after
                have h4 := length_skipLayout_le rest
                have h5 := p.shorter
                rw [hc] at h1; rw [h'] at h3; simp at h1 h3 ⊢; omega⟩
          | rest => .error (.fault .comma rest.length)
      | rest => .error (.fault .colon rest.length)
  | s => .error (.fault .memberName s.length)
termination_by (s.length, 1)
decreasing_by
  · have h1 := length_skipLayout_le afterKey
    have h2 := length_skipLayout_le afterColon
    rw [hc] at h1
    simp at h1
    simp only [List.length_cons]
    omega
  · have h1 := length_skipLayout_le afterKey
    have h2 := length_skipLayout_le afterColon
    have h3 := length_skipLayout_le after
    have h4 := length_skipLayout_le rest
    rw [hc] at h1
    rw [h'] at h3
    simp at h1 h3
    simp only [List.length_cons]
    omega
end

/-! ## Texts as a whole -/

inductive ReadError where
  | fault (problem : Problem) (index line column : Nat)
  | longInteger (digits : Nat)
  | tooDeep (container : Container)
  deriving DecidableEq, Repr

def ReadError.message : ReadError → String
  | .fault problem index line column =>
    problem.text ++ ": line " ++ toString line ++ " column " ++ toString column ++
      " (char " ++ toString index ++ ")"
  | .longInteger digits =>
    "Exceeds the limit (" ++ toString maxDigits ++ " digits) for integer string conversion: value has " ++
      toString digits ++ " digits; use sys.set_int_max_str_digits() to increase the limit"
  | .tooDeep container =>
    "maximum recursion depth exceeded while decoding a " ++ container.text ++ " from a unicode string"

def faultAt (text : List Char) (problem : Problem) (left : Nat) : ReadError :=
  let index := text.length - left
  .fault problem index (Text.lineColumn text index).1 (Text.lineColumn text index).2

def Stop.toReadError (text : List Char) : Stop → ReadError
  | .fault problem left => faultAt text problem left
  | .longInteger digits => .longInteger digits
  | .tooDeep container => .tooDeep container

def readChars (room : Nat) (text : List Char) : Except ReadError Value :=
  match readValue room (skipLayout text) with
  | .error stop => .error (stop.toReadError text)
  | .ok p =>
    match skipLayout p.rest with
    | [] => .ok p.value
    | rest => .error (faultAt text .moreText rest.length)

/-- **The value of a JSON text**, read with so much room.  A byte order mark is refused. -/
def readWithin (room : Nat) (text : String) : Except ReadError Value :=
  match text.toList with
  | '\ufeff' :: rest => .error (faultAt ('\ufeff' :: rest) .byteOrderMark (rest.length + 1))
  | cs => readChars room cs

/-- **The value of a JSON text**, read with all the room that it can take. -/
def read (text : String) : Except ReadError Value := readWithin text.length text

def readMarked (room : Nat) (text : String) : Except ReadError Value :=
  match text.toList with
  | '\ufeff' :: rest => readChars room rest
  | cs => readChars room cs

end Json
end FlowBundle
