import FlowBundle.Json.Display
/-!
# Blueprints

A blueprint is the body of a file with the names of its slots and fragments.  A slot takes the plain
text of a value; a fragment takes one of its variants, named by a choice.  A body is cut, once and
in the only possible way, into plain characters and tokens, a token being a name of small letters
and underscores between braces.  Every token whose name is a slot or a fragment is replaced, a
fragment before a slot of the same name; all else stays as written.  What is put in is never cut
again.
-/
namespace FlowBundle

open Json (Value)

structure Fragment where
  choice : String
  variants : List (String × String)

structure Blueprint where
  path : String
  body : String
  slots : List String := []
  fragments : List (String × Fragment) := []

inductive Piece where
  | plain (c : Char)
  | token (name : String)
  deriving DecidableEq, Repr

namespace Piece

def isNameChar (c : Char) : Bool := ('a' ≤ c && c ≤ 'z') || c == '_'

/-- The pieces of an open brace and what followed it, which turned out to be no token. -/
def loose : Option (List Char) → List Piece
  | none => []
  | some name => .plain '{' :: name.reverse.map .plain

/-- **The pieces of a body.**  In hand are the name characters since an open brace that may begin a
token, last one first. -/
def cut (hand : Option (List Char)) : List Char → List Piece
  | [] => loose hand
  | c :: cs =>
    match hand with
    | none => if c = '{' then cut (some []) cs else .plain c :: cut none cs
    | some name =>
      if isNameChar c then cut (some (c :: name)) cs
      else if c = '}' ∧ name ≠ [] then .token (String.ofList name.reverse) :: cut none cs
      else loose (some name) ++ (if c = '{' then cut (some []) cs else .plain c :: cut none cs)

def source : Piece → List Char
  | .plain c => [c]
  | .token name => '{' :: (name.toList ++ ['}'])

def fill (replacement? : String → Option String) : Piece → List Char
  | .plain c => [c]
  | .token name =>
    match replacement? name with
    | some text => text.toList
    | none => source (.token name)

end Piece

namespace Blueprint

inductive Fault where
  | noValue (path slot : String)
  | noVariant (path choice : String) (selected : Value)
  | unusableChoice (selected : Value)

def Fault.message : Fault → String
  | .noValue path slot => path ++ ": no value for slot '" ++ slot ++ "'."
  | .noVariant path choice selected =>
    path ++ ": no '" ++ choice ++ "' variant named " ++ selected.literalText ++ "."
  | .unusableChoice selected => "unhashable type: '" ++ selected.kind ++ "'"

def slotText (path : String) (values : Json.Members) (slot : String) : Except Fault (String × String) :=
  match values.get? slot with
  | some v => .ok (slot, v.plainText)
  | none => .error (.noValue path slot)

/-- The variant that a choice selects: only a text can name one, and a list or an object cannot be
asked for at all. -/
def variantText (path : String) (choices : Json.Members) (entry : String × Fragment) :
    Except Fault (String × String) :=
  match (choices.get? entry.2.choice).getD .null with
  | .str name =>
    match entry.2.variants.lookup name with
    | some text => .ok (entry.1, text)
    | none => .error (.noVariant path entry.2.choice (.str name))
  | .arr items => .error (.unusableChoice (.arr items))
  | .obj members => .error (.unusableChoice (.obj members))
  | selected => .error (.noVariant path entry.2.choice selected)

/-- The texts of the tokens: the slots are looked at in order, then the fragments, and the first one
that has no text is at fault. -/
def replacements (b : Blueprint) (values choices : Json.Members) : Except Fault (List (String × String)) :=
  match b.slots.mapM (slotText b.path values) with
  | .error fault => .error fault
  | .ok slots =>
    match b.fragments.mapM (variantText b.path choices) with
    | .error fault => .error fault
    | .ok fragments => .ok (fragments ++ slots)

def pieces (b : Blueprint) : List Piece := Piece.cut none b.body.toList

/-- **The file that a blueprint makes of values and choices.** -/
def render (b : Blueprint) (values choices : Json.Members) : Except Fault String :=
  (b.replacements values choices).map fun rs =>
    String.ofList (b.pieces.flatMap (Piece.fill fun name => List.lookup name rs))

end Blueprint

def Piece.handSource : Option (List Char) → List Char
  | none => []
  | some name => '{' :: name.reverse

theorem Piece.flatMap_source_plain : ∀ cs : List Char, (cs.map Piece.plain).flatMap Piece.source = cs
  | [] => rfl
  | c :: cs => by simp [source, Piece.flatMap_source_plain cs]

theorem Piece.flatMap_source_loose : ∀ hand : Option (List Char),
    (Piece.loose hand).flatMap Piece.source = Piece.handSource hand
  | none => rfl
  | some name => by
    rw [loose, List.flatMap_cons, Piece.flatMap_source_plain]
    rfl

/-- **Cutting loses nothing**: put together again, the pieces are the body. -/
theorem Piece.flatMap_source_cut : ∀ (cs : List Char) (hand : Option (List Char)),
    (Piece.cut hand cs).flatMap Piece.source = Piece.handSource hand ++ cs
  | [], hand => by rw [cut, Piece.flatMap_source_loose, List.append_nil]
  | c :: cs, none => by
    by_cases h : c = '{'
    · simp [cut, h, Piece.flatMap_source_cut cs, handSource]
    · simp [cut, h, source, Piece.flatMap_source_cut cs, handSource]
  | c :: cs, some name => by
    by_cases h1 : isNameChar c = true
    · simp [cut, h1, Piece.flatMap_source_cut cs, handSource]
    · by_cases h2 : c = '}' ∧ name ≠ []
      · obtain ⟨rfl, hn⟩ := h2
        have hb : isNameChar '}' = false := by decide
        simp [cut, hb, hn, source, Piece.flatMap_source_cut cs, handSource]
      · by_cases h3 : c = '{'
        · subst h3
          have hb : isNameChar '{' = false := by decide
          simp [cut, hb, Piece.flatMap_source_cut cs, Piece.flatMap_source_loose, handSource]
        · simp [cut, h1, h2, h3, source, Piece.flatMap_source_cut cs, Piece.flatMap_source_loose, handSource]

end FlowBundle
