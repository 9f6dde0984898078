import Mathlib.Data.List.DropRight
import FlowBundle.Text.Blank
/-!
# Texts with their ends cleared

Clearing the ends of a text takes from both of them what is of a class, and stops at the first character that is not
(`exists_trimChars`, `cleanEnds_trimChars`).  It is known by that: a text with nothing of the class at its ends comes out
whole, whatever of the class was put around it (`trimChars_around`).
-/
namespace FlowBundle
namespace Text

variable {p : Char → Bool}

/-- **Nothing of a class stands at an end.** -/
structure CleanEnds (p : Char → Bool) (cs : List Char) : Prop where
  first : ∀ c ∈ cs.head?, p c = false
  last : ∀ c ∈ cs.getLast?, p c = false

theorem CleanEnds.exists_of_ne_nil {cs : List Char} (h : CleanEnds p cs) (hne : cs ≠ []) : ∃ c ∈ cs, p c = false := by
  obtain ⟨c, rest, rfl⟩ := List.exists_cons_of_ne_nil hne
  exact ⟨c, List.mem_cons_self, h.first c rfl⟩

theorem trimChars_eq (p : Char → Bool) (cs : List Char) : trimChars p cs = (cs.dropWhile p).rdropWhile p := rfl

theorem trimChars_eq_nil_iff {cs : List Char} : trimChars p cs = [] ↔ ∀ c ∈ cs, p c = true := by
  rw [trimChars_eq, List.rdropWhile_eq_nil_iff]
  constructor
  · intro h
    have hall : (cs.takeWhile p ++ cs.dropWhile p).all p = true := by
      rw [List.all_append, List.all_takeWhile, Bool.true_and]
      exact List.all_eq_true.2 h
    rw [List.takeWhile_append_dropWhile] at hall
    exact List.all_eq_true.1 hall
  · intro h c hc
    exact h c ((List.dropWhile_suffix p).subset hc)

/-- **What is taken away is of the class.** -/
theorem exists_trimChars (p : Char → Bool) (cs : List Char) : ∃ before after,
    cs = before ++ trimChars p cs ++ after ∧ (∀ c ∈ before, p c = true) ∧ ∀ c ∈ after, p c = true := by
  refine ⟨cs.takeWhile p, (cs.dropWhile p).rtakeWhile p, ?_, fun c hc => List.mem_takeWhile_imp hc,
    fun c hc => List.mem_rtakeWhile_imp hc⟩
  rw [trimChars_eq, List.append_assoc, List.rdropWhile_append_rtakeWhile, List.takeWhile_append_dropWhile]

/-- **What is left has nothing of the class at its ends.** -/
theorem cleanEnds_trimChars (p : Char → Bool) (cs : List Char) : CleanEnds p (trimChars p cs) where
  first := by
    intro c hc
    -- What is left begins as the text does after its front was cleared.
    obtain ⟨rest, hrest⟩ := List.rdropWhile_prefix p (cs.dropWhile p)
    rw [trimChars_eq] at hc
    have hhead : (cs.dropWhile p).head? = some c := by
      rw [← hrest, List.head?_append, hc]
      rfl
    have hnot := List.head?_dropWhile_not p cs
    rw [hhead] at hnot
    exact hnot
  last := by
    intro c hc
    rw [trimChars_eq] at hc
    obtain ⟨front, hfront⟩ := List.getLast?_eq_some_iff.1 hc
    have hne : (cs.dropWhile p).rdropWhile p ≠ [] := by
      rw [hfront]
      exact List.append_ne_nil_of_right_ne_nil front (List.cons_ne_nil c [])
    have hlast := List.rdropWhile_last_not p _ hne
    rw [List.getLast_eq_iff_getLast?_eq_some hne |>.2 hc] at hlast
    exact Bool.eq_false_iff.2 hlast

/-- **A text with clean ends is what is left of it**, with anything of the class around it. -/
theorem trimChars_around {before cs after : List Char} (h : CleanEnds p cs) (hbefore : ∀ c ∈ before, p c = true)
    (hafter : ∀ c ∈ after, p c = true) : trimChars p (before ++ cs ++ after) = cs := by
  cases cs with
  | nil =>
    rw [List.append_nil, trimChars_eq_nil_iff]
    intro c hc
    exact (List.mem_append.1 hc).elim (hbefore c) (hafter c)
  | cons c cs =>
    have hfirst : p c = false := h.first c rfl
    have hfront : (before ++ (c :: cs) ++ after).dropWhile p = c :: cs ++ after := by
      rw [List.append_assoc, List.dropWhile_append_of_pos hbefore, List.cons_append,
        List.dropWhile_cons_of_neg (by rw [hfirst]; exact Bool.false_ne_true)]
    obtain ⟨front, d, hd⟩ := List.eq_nil_or_concat (c :: cs) |>.resolve_left (List.cons_ne_nil c cs)
    rw [List.concat_eq_append] at hd
    have hlast : p d = false := h.last d (by rw [hd, List.getLast?_concat]; rfl)
    rw [trimChars_eq, hfront, hd, List.rdropWhile, List.reverse_append, List.dropWhile_append_of_pos
      (fun a ha => hafter a (List.mem_reverse.1 ha)), List.reverse_append, List.reverse_singleton, List.singleton_append,
      List.dropWhile_cons_of_neg (by rw [hlast]; exact Bool.false_ne_true), List.reverse_cons, List.reverse_reverse]

end Text
end FlowBundle
