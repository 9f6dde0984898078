/-!
# Splitting

A text cut at every occurrence of one character.  There is always one piece more than there are
occurrences, so a text that ends in the character has an empty last piece, and the empty text is one
empty piece.
-/
namespace FlowBundle
namespace Text

def splitStep (sep c : Char) (pieces : List (List Char)) : List (List Char) :=
  if c = sep then [] :: pieces
  else match pieces with
    | [] => [[c]]
    | piece :: rest => (c :: piece) :: rest

def split (sep : Char) (cs : List Char) : List (List Char) := cs.foldr (splitStep sep) [[]]

theorem length_split (sep : Char) (cs : List Char) : (split sep cs).length = cs.count sep + 1 := by
  induction cs with
  | nil => rfl
  | cons c cs ih =>
    have h : split sep (c :: cs) = splitStep sep c (split sep cs) := rfl
    rw [h, List.count_cons]
    unfold splitStep
    by_cases hc : c = sep
    · simp [hc, ih]
    · simp only [hc, if_false, beq_false_of_ne hc, Bool.false_eq_true, Nat.add_zero, ← ih]
      cases hs : split sep cs with
      | nil => rw [hs] at ih; simp at ih
      | cons p ps => simp

end Text
end FlowBundle
