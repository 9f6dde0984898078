import FlowBundle.Text.Lines
/-!
# Lines put together

A text of lines is the first line with its end, and then the text of the others (`unlines_cons`); no other character
gets in than those of the lines and their ends (`mem_unlines_iff`).

Texts that are put together have the line ends of both, unless a carriage return and a line feed meet and become one
(`lineEnds_append`).  So the line ends of a text of lines are counted line by line (`lineEnds_unlines`): each line has its
own, and one more for each line that it opens (`opened_eq_zero_iff`).
-/
namespace FlowBundle
namespace Text

theorem unlines_cons (line : String) (lines : List String) :
    unlines (line :: lines) = line ++ ("\n" ++ unlines lines) := by
  rw [unlines, List.map_cons, String.join_cons, String.append_assoc]
  rfl

theorem unlines_append (lines more : List String) : unlines (lines ++ more) = unlines lines ++ unlines more := by
  rw [unlines, List.map_append, String.join_append]
  rfl

theorem mem_unlines_iff {c : Char} (hc : c ≠ '\n') : ∀ {lines : List String},
    c ∈ (unlines lines).toList ↔ ∃ line ∈ lines, c ∈ line.toList
  | [] => by simp [unlines]
  | line :: lines => by
    rw [unlines_cons, String.toList_append, String.toList_append, List.mem_append, List.mem_append, mem_unlines_iff hc]
    simp [hc]

/-! ## Counting lines -/

/-- **How many lines of a text are ended**, by a line feed, a carriage return, or both as a pair. -/
def lineEnds (s : String) : Nat := (unifyLineEnds s.toList).count '\n'

/-- How many lines a text opens if the end of its line is behind it. -/
def opened (s : String) : Nat := lineEnds (s ++ "\n") - 1

/-- How many lines are opened in lines. -/
def openedIn : List String → Nat
  | [] => 0
  | line :: lines => opened line + openedIn lines

def IsOneLine (s : String) : Prop := '\n' ∉ s.toList ∧ '\r' ∉ s.toList

instance (s : String) : Decidable (IsOneLine s) := inferInstanceAs (Decidable ('\n' ∉ s.toList ∧ '\r' ∉ s.toList))

theorem unifyLineEnds_return {cs : List Char} (h : cs.head? ≠ some '\n') :
    unifyLineEnds ('\r' :: cs) = '\n' :: unifyLineEnds cs := by
  cases cs with
  | nil => rfl
  | cons c cs =>
    have hc : c ≠ '\n' := by simpa using h
    rw [unifyLineEnds]
    intro rest heq
    exact hc (List.cons.inj heq).1

theorem unifyLineEnds_cons {c : Char} (h : c ≠ '\r') (cs : List Char) :
    unifyLineEnds (c :: cs) = c :: unifyLineEnds cs := by
  rw [unifyLineEnds]
  · exact fun _ heq => absurd heq h
  · exact h

/-- **Two texts keep their line ends** when they are put together, unless a pair comes to be between them. -/
theorem unifyLineEnds_append {cs cs' : List Char} (h : cs.getLast? = some '\r' → cs'.head? ≠ some '\n') :
    unifyLineEnds (cs ++ cs') = unifyLineEnds cs ++ unifyLineEnds cs' := by
  fun_induction unifyLineEnds cs with
  | case1 rest ih =>
    have hih := ih fun hlast => h (by simp [List.getLast?_cons, hlast])
    simp [unifyLineEnds, hih]
  | case2 rest hrest ih =>
    have hih := ih fun hlast => h (by simp [List.getLast?_cons, hlast])
    have hnext : (rest ++ cs').head? ≠ some '\n' := by
      cases rest with
      | nil => exact h rfl
      | cons c rest =>
        intro hc
        obtain rfl : c = '\n' := by simpa using hc
        exact hrest rest rfl
    rw [List.cons_append, unifyLineEnds_return hnext, hih, List.cons_append]
  | case3 c rest _ hc ih =>
    have hih := ih fun hlast => h (by simp [List.getLast?_cons, hlast])
    rw [List.cons_append, unifyLineEnds_cons hc, hih, List.cons_append]
  | case4 => rfl

theorem lineEnds_append {s t : String} (h : s.toList.getLast? = some '\r' → t.toList.head? ≠ some '\n') :
    lineEnds (s ++ t) = lineEnds s + lineEnds t := by
  unfold lineEnds
  rw [String.toList_append, unifyLineEnds_append h, List.count_append]

theorem newline_mem_unifyLineEnds_iff {cs : List Char} : '\n' ∈ unifyLineEnds cs ↔ '\n' ∈ cs ∨ '\r' ∈ cs := by
  fun_induction unifyLineEnds cs with
  | case1 rest ih => simp
  | case2 rest _ ih => simp
  | case3 c rest _ hc ih =>
    have hne : '\r' ≠ c := fun heq => hc heq.symm
    simp [ih, hne, or_assoc]
  | case4 => simp

theorem lineEnds_eq_zero_iff {s : String} : lineEnds s = 0 ↔ IsOneLine s := by
  rw [lineEnds, List.count_eq_zero, newline_mem_unifyLineEnds_iff, not_or, IsOneLine]

/-- A text with its line end is as many lines as it opens, and one. -/
theorem lineEnds_line (s : String) : lineEnds (s ++ "\n") = opened s + 1 := by
  have hpos : 0 < lineEnds (s ++ "\n") := by
    rw [Nat.pos_iff_ne_zero, ne_eq, lineEnds_eq_zero_iff]
    exact fun h => h.1 (by simp)
  unfold opened
  omega

theorem lineEnds_unlines : ∀ lines : List String, lineEnds (unlines lines) = lines.length + openedIn lines
  | [] => rfl
  | line :: lines => by
    have hline : lineEnds (line ++ "\n" ++ unlines lines) = lineEnds (line ++ "\n") + lineEnds (unlines lines) :=
      lineEnds_append (by simp)
    rw [unlines_cons, ← String.append_assoc, hline, lineEnds_line, lineEnds_unlines lines, openedIn, List.length_cons]
    omega

theorem openedIn_append : ∀ lines more : List String, openedIn (lines ++ more) = openedIn lines + openedIn more
  | [], more => by rw [List.nil_append, openedIn, Nat.zero_add]
  | line :: lines, more => by
    rw [List.cons_append, openedIn, openedIn, openedIn_append lines more, Nat.add_assoc]

theorem opened_of_getLast?_ne {s : String} (h : s.toList.getLast? ≠ some '\r') : opened s = lineEnds s := by
  have hone : lineEnds (s ++ "\n") = lineEnds s + 1 := lineEnds_append fun hlast => absurd hlast h
  rw [opened, hone, Nat.add_sub_cancel]

theorem opened_append_return (s : String) : opened (s ++ "\r") = lineEnds s := by
  have hpair : lineEnds (s ++ "\r\n") = lineEnds s + 1 := lineEnds_append (by simp)
  rw [opened, String.append_assoc]
  exact congrArg (· - 1) hpair

/-- **A text opens no line** if it is one line, or would be without a carriage return at its end, which goes with the end
of the line. -/
theorem opened_eq_zero_iff {s : String} : opened s = 0 ↔ ∃ t, IsOneLine t ∧ (s = t ∨ s = t ++ "\r") := by
  constructor
  · intro h
    by_cases hlast : s.toList.getLast? = some '\r'
    · obtain ⟨front, hfront⟩ := List.getLast?_eq_some_iff.1 hlast
      have hs : s = String.ofList front ++ "\r" := by
        rw [← String.toList_inj, hfront]
        simp
      rw [hs, opened_append_return, lineEnds_eq_zero_iff] at h
      exact ⟨_, h, .inr hs⟩
    · rw [opened_of_getLast?_ne hlast, lineEnds_eq_zero_iff] at h
      exact ⟨s, h, .inl rfl⟩
  · rintro ⟨t, ht, rfl | rfl⟩
    · rw [opened_of_getLast?_ne fun hlast => ht.2 (List.mem_of_getLast? hlast), lineEnds_eq_zero_iff]
      exact ht
    · rw [opened_append_return, lineEnds_eq_zero_iff]
      exact ht

theorem opened_of_isOneLine {s : String} (h : IsOneLine s) : opened s = 0 := opened_eq_zero_iff.2 ⟨s, h, .inl rfl⟩

section
variable {before s after : String} (hbefore : IsOneLine before)
include hbefore

/-- What is in front of a text on its line makes no difference. -/
theorem opened_behind : opened (before ++ s) = opened s := by
  have happend : lineEnds (before ++ (s ++ "\n")) = lineEnds before + lineEnds (s ++ "\n") :=
    lineEnds_append fun hlast => absurd (List.mem_of_getLast? hlast) hbefore.2
  rw [opened, String.append_assoc, happend, lineEnds_eq_zero_iff.2 hbefore, Nat.zero_add, opened]

/-- With something behind it on its line, a text opens a line at each of its ends. -/
theorem opened_between (hafter : IsOneLine after) (hne : after ≠ "") : opened (before ++ (s ++ after)) = lineEnds s := by
  have hlast : (s ++ after).toList.getLast? ≠ some '\r' := by
    intro hlast
    rw [String.toList_append, List.getLast?_append] at hlast
    cases hafterLast : after.toList.getLast? with
    | none => exact hne (String.toList_eq_nil_iff.1 (List.getLast?_eq_none_iff.1 hafterLast))
    | some c =>
      rw [hafterLast] at hlast
      cases hlast
      exact hafter.2 (List.mem_of_getLast? hafterLast)
  have happend : lineEnds (s ++ after) = lineEnds s + lineEnds after :=
    lineEnds_append fun _ hhead => hafter.1 (List.mem_of_head? hhead)
  rw [opened_behind hbefore, opened_of_getLast?_ne hlast, happend, lineEnds_eq_zero_iff.2 hafter, Nat.add_zero]

end

end Text
end FlowBundle
