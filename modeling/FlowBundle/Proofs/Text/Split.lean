import FlowBundle.Text.Split
/-!
# Pieces between separators

A split is that of the library (`split_eq_splitOn`), so the pieces joined with the separator are the text again.  With
the separator put behind each of them they are it, too, but for the last one (`flatMap_split`), and they are what stands
between two separators that follow each other (`mem_split_iff`).
-/
namespace FlowBundle
namespace Text

variable {sep : Char}

theorem split_cons_self (cs : List Char) : split sep (sep :: cs) = [] :: split sep cs := if_pos rfl

theorem split_ne_nil (sep : Char) (cs : List Char) : split sep cs ≠ [] := by
  rw [← List.length_pos_iff, length_split]
  exact Nat.succ_pos _

/-- A character that is no separator belongs to the first piece of what follows it. -/
theorem split_cons_of_ne {c : Char} (h : c ≠ sep) (cs : List Char) :
    ∃ piece rest, split sep cs = piece :: rest ∧ split sep (c :: cs) = (c :: piece) :: rest := by
  obtain ⟨piece, rest, hsplit⟩ := List.exists_cons_of_ne_nil (split_ne_nil sep cs)
  refine ⟨piece, rest, hsplit, ?_⟩
  show splitStep sep c (split sep cs) = _
  rw [hsplit]
  exact if_neg h

/-- The split is that of the library. -/
theorem split_eq_splitOn : ∀ cs : List Char, split sep cs = cs.splitOn sep
  | [] => by simp [split]
  | c :: cs => by
    have ih := split_eq_splitOn cs
    rw [List.splitOn_cons_eq_if_modifyHead, ← ih]
    by_cases hc : c = sep
    · simp [hc, split_cons_self]
    · obtain ⟨piece, rest, hsplit, heq⟩ := split_cons_of_ne hc cs
      simp [hc, heq, hsplit]

/-- **A separator splits the text** into what is before it and what is behind it. -/
theorem split_append_cons (cs cs' : List Char) : split sep (cs ++ sep :: cs') = split sep cs ++ split sep cs' := by
  simp only [split_eq_splitOn, List.splitOn_append_cons_self]

theorem split_of_not_mem {cs : List Char} (h : sep ∉ cs) : split sep cs = [cs] := by
  rw [split_eq_splitOn, List.splitOn_eq_singleton h]

theorem intercalate_split (cs : List Char) : [sep].intercalate (split sep cs) = cs := by
  rw [split_eq_splitOn, List.intercalate_splitOn]

/-- **Pieces without separators are what their text is split into.** -/
theorem split_intercalate {pieces : List (List Char)} (hne : pieces ≠ []) (h : ∀ piece ∈ pieces, sep ∉ piece) :
    split sep ([sep].intercalate pieces) = pieces := by
  rw [split_eq_splitOn, List.splitOn_intercalate sep h hne]

/-- **Splitting loses nothing.** -/
theorem flatMap_split : ∀ cs : List Char, (split sep cs).flatMap (· ++ [sep]) = cs ++ [sep]
  | [] => rfl
  | c :: cs => by
    have ih := flatMap_split cs
    by_cases hc : c = sep
    · rw [hc, split_cons_self, List.flatMap_cons, ih]
      rfl
    · obtain ⟨piece, rest, hsplit, heq⟩ := split_cons_of_ne hc cs
      rw [hsplit, List.flatMap_cons] at ih
      rw [heq, List.flatMap_cons, List.cons_append, List.cons_append, ih, List.cons_append]

theorem not_mem_of_mem_split : ∀ {cs piece : List Char}, piece ∈ split sep cs → sep ∉ piece
  | [], piece, h => by
    obtain rfl : piece = [] := List.mem_singleton.1 h
    exact List.not_mem_nil
  | c :: cs, piece, h => by
    by_cases hc : c = sep
    · rw [hc, split_cons_self] at h
      rcases List.mem_cons.1 h with rfl | h
      · exact List.not_mem_nil
      · exact not_mem_of_mem_split h
    · obtain ⟨first, rest, hsplit, heq⟩ := split_cons_of_ne hc cs
      rw [heq] at h
      rcases List.mem_cons.1 h with rfl | h
      · have hfirst : first ∈ split sep cs := hsplit ▸ List.mem_cons_self
        rw [List.mem_cons, not_or]
        exact ⟨Ne.symm hc, not_mem_of_mem_split hfirst⟩
      · have hrest : piece ∈ split sep cs := hsplit ▸ List.mem_cons_of_mem first h
        exact not_mem_of_mem_split hrest

/-- What is before a piece ends in a separator, if one is put in front of it. -/
theorem exists_cons_flatMap_eq_concat (sep : Char) : ∀ pieces : List (List Char),
    ∃ before, sep :: pieces.flatMap (· ++ [sep]) = before ++ [sep]
  | [] => ⟨[], rfl⟩
  | piece :: rest => by
    obtain ⟨before, hbefore⟩ := exists_cons_flatMap_eq_concat sep rest
    refine ⟨sep :: piece ++ before, ?_⟩
    rw [List.flatMap_cons, List.append_assoc, List.singleton_append, hbefore, List.cons_append, List.cons_append,
      List.append_assoc]

/-- **The pieces are what stands between separators**, if one more is put at each end of the text. -/
theorem mem_split_iff {cs piece : List Char} :
    piece ∈ split sep cs ↔ sep ∉ piece ∧ (sep :: piece ++ [sep]) <:+: (sep :: cs ++ [sep]) := by
  constructor
  · intro h
    obtain ⟨earlier, later, hsplit⟩ := List.append_of_mem h
    obtain ⟨before, hbefore⟩ := exists_cons_flatMap_eq_concat sep earlier
    refine ⟨not_mem_of_mem_split h, before, later.flatMap (· ++ [sep]), ?_⟩
    have hcs : (split sep cs).flatMap (· ++ [sep]) = cs ++ [sep] := flatMap_split cs
    rw [hsplit, List.flatMap_append, List.flatMap_cons] at hcs
    show _ = sep :: (cs ++ [sep])
    rw [← hcs, ← List.cons_append, hbefore]
    simp
  · rintro ⟨hpiece, before, after, h⟩
    -- The separators around the piece are those of the text, except for the two that were put at its ends.
    have hlast : ∀ front, front ++ piece ++ sep :: after = cs ++ [sep] →
        (after = [] ∧ cs = front ++ piece) ∨ ∃ rest, cs = front ++ piece ++ sep :: rest := by
      intro front hfront
      rcases List.eq_nil_or_concat after with rfl | ⟨rest, c, rfl⟩
      · exact .inl ⟨rfl, (List.append_inj_left' hfront rfl).symm⟩
      · rw [List.concat_eq_append, ← List.cons_append, ← List.append_assoc] at hfront
        exact .inr ⟨rest, (List.append_inj_left' hfront rfl).symm⟩
    have hmem : ∀ rest, piece ∈ split sep (piece ++ sep :: rest) := fun rest => by
      rw [split_append_cons, split_of_not_mem hpiece]
      exact List.mem_append_left _ List.mem_cons_self
    have hself : piece ∈ split sep piece := by
      rw [split_of_not_mem hpiece]
      exact List.mem_cons_self
    cases before with
    | nil =>
      have hcs : [] ++ piece ++ sep :: after = cs ++ [sep] := by simpa using h
      rcases hlast [] hcs with ⟨-, rfl⟩ | ⟨rest, rfl⟩
      · exact hself
      · exact hmem rest
    | cons c before =>
      have hcs : (before ++ [sep]) ++ piece ++ sep :: after = cs ++ [sep] := by
        simpa using (List.cons.inj h).2
      rcases hlast (before ++ [sep]) hcs with ⟨-, rfl⟩ | ⟨rest, rfl⟩
      · rw [List.append_assoc, List.singleton_append, split_append_cons]
        exact List.mem_append_right _ hself
      · rw [List.append_assoc, List.append_assoc, List.singleton_append, split_append_cons]
        exact List.mem_append_right _ (hmem rest)

end Text
end FlowBundle
