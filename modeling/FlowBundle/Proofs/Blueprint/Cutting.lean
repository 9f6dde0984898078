import FlowBundle.Blueprint.Basic
/-!
# The only cutting of a body

A body is cut into plain characters and tokens so that no token is left spelt in plain characters, and there is only one
way to do it (`isCutting_iff`): a scan from the left, which takes a token wherever one is spelt (`cut_token`) and one
plain character wherever none is (`cut_plain`).
-/
namespace FlowBundle
namespace Piece

/-- **A name that a token can have**: one or more small letters and underscores. -/
def IsTokenName (name : String) : Prop := name ≠ "" ∧ ∀ c ∈ name.toList, ('a' ≤ c ∧ c ≤ 'z') ∨ c = '_'

/-- **A text cut into its pieces**: they are the text, and what is plain in it spells no token. -/
structure IsCutting (cs : List Char) (ps : List Piece) : Prop where
  source_eq : ps.flatMap source = cs
  isTokenName : ∀ name, .token name ∈ ps → IsTokenName name
  unspelt : ∀ name, IsTokenName name → ¬ (source (.token name)).map plain <:+: ps

theorem isNameChar_iff {c : Char} : isNameChar c = true ↔ ('a' ≤ c ∧ c ≤ 'z') ∨ c = '_' := by
  simp [isNameChar]

theorem IsTokenName.all {name : String} (h : IsTokenName name) : ∀ c ∈ name.toList, isNameChar c = true :=
  fun c hc => isNameChar_iff.2 (h.2 c hc)

theorem IsTokenName.toList_ne_nil {name : String} (h : IsTokenName name) : name.toList ≠ [] :=
  fun hnil => h.1 (String.toList_eq_nil_iff.1 hnil)

/-! ## The scan -/

theorem cut_none_cons (c : Char) (cs : List Char) :
    cut none (c :: cs) = if c = '{' then cut (some []) cs else .plain c :: cut none cs := by
  rw [cut]

theorem cut_some_cons (hand : List Char) (c : Char) (cs : List Char) :
    cut (some hand) (c :: cs) =
      if isNameChar c then cut (some (c :: hand)) cs
      else if c = '}' ∧ hand ≠ [] then .token (String.ofList hand.reverse) :: cut none cs
      else loose (some hand) ++ cut none (c :: cs) := by
  rw [cut_none_cons, cut]

/-- With name characters in hand, more of them and a closing brace make a token. -/
theorem cut_some_close {rest : List Char} : ∀ {more hand : List Char}, (∀ c ∈ more, isNameChar c = true) →
    hand.reverse ++ more ≠ [] →
    cut (some hand) (more ++ '}' :: rest) = .token (String.ofList (hand.reverse ++ more)) :: cut none rest
  | [], hand, _, hne => by
    have hbrace : isNameChar '}' = false := by decide
    have hhand : hand ≠ [] := fun hnil => hne (by rw [hnil]; rfl)
    rw [List.nil_append, List.append_nil, cut_some_cons, hbrace, if_neg Bool.false_ne_true, if_pos ⟨rfl, hhand⟩]
  | c :: more, hand, hmore, _ => by
    rw [List.cons_append, cut_some_cons, if_pos (hmore c List.mem_cons_self)]
    have hne : (c :: hand).reverse ++ more ≠ [] := by simp
    rw [cut_some_close (fun d hd => hmore d (List.mem_cons_of_mem c hd)) hne, List.reverse_cons, List.append_assoc,
      List.singleton_append]

/-- **A token that is spelt is taken.** -/
theorem cut_token {name : String} (h : IsTokenName name) (rest : List Char) :
    cut none (source (.token name) ++ rest) = .token name :: cut none rest := by
  have hclose : cut (some []) (name.toList ++ '}' :: rest) =
      .token (String.ofList ([] ++ name.toList)) :: cut none rest := cut_some_close h.all h.toList_ne_nil
  rw [List.nil_append, String.ofList_toList] at hclose
  rw [source, List.cons_append, List.append_assoc, List.singleton_append, cut_none_cons, if_pos rfl, hclose]

/-- **Text without an open brace is plain.** -/
theorem cut_append_of_not_mem (rest : List Char) : ∀ {cs : List Char}, '{' ∉ cs →
    cut none (cs ++ rest) = cs.map plain ++ cut none rest
  | [], _ => rfl
  | c :: cs, h => by
    obtain ⟨hc, hcs⟩ := not_or.1 (mt List.mem_cons.2 h)
    rw [List.cons_append, cut_none_cons, if_neg (Ne.symm hc), cut_append_of_not_mem rest hcs, List.map_cons,
      List.cons_append]

/-- With name characters in hand that do not become a token, all of them are plain. -/
theorem cut_some_open : ∀ {cs hand : List Char},
    (∀ more rest, cs = more ++ '}' :: rest → (∀ c ∈ more, isNameChar c = true) → hand.reverse ++ more = []) →
    cut (some hand) cs = loose (some hand) ++ cut none cs
  | [], hand, _ => by
    rw [cut, cut, loose, List.append_nil]
  | c :: cs, hand, hopen => by
    rw [cut_some_cons]
    by_cases hname : isNameChar c = true
    · have hplain : c ≠ '{' := fun heq => by rw [heq] at hname; revert hname; decide
      have hrest : cut (some (c :: hand)) cs = _ := cut_some_open fun more rest hcs hmore => by
        have hnil := hopen (c :: more) rest (by rw [hcs]; rfl) fun d hd => by
          rcases List.mem_cons.1 hd with rfl | hd
          · exact hname
          · exact hmore d hd
        simp at hnil
      rw [if_pos hname, hrest, cut_none_cons, if_neg hplain]
      simp [loose]
    · have hclose : ¬ (c = '}' ∧ hand ≠ []) := by
        rintro ⟨rfl, hhand⟩
        have hnil := hopen [] cs rfl fun d hd => absurd hd List.not_mem_nil
        simp [hhand] at hnil
      rw [if_neg hname, if_neg hclose]

/-- **A character that begins no token is plain.** -/
theorem cut_plain {c : Char} {cs : List Char}
    (h : ∀ name rest, IsTokenName name → c :: cs ≠ source (.token name) ++ rest) :
    cut none (c :: cs) = .plain c :: cut none cs := by
  rw [cut_none_cons]
  by_cases hc : c = '{'
  · subst hc
    rw [if_pos rfl]
    refine cut_some_open fun more rest hcs hmore => ?_
    rw [List.reverse_nil, List.nil_append]
    refine Classical.byContradiction fun hne => ?_
    have hname : IsTokenName (String.ofList more) := by
      refine ⟨fun hnil => hne ?_, fun d hd => ?_⟩
      · rw [← String.toList_ofList (l := more), hnil]
        rfl
      · rw [String.toList_ofList] at hd
        exact isNameChar_iff.1 (hmore d hd)
    refine h _ rest hname ?_
    rw [source, String.toList_ofList, hcs]
    simp
  · rw [if_neg hc]

/-! ## Cuttings -/

theorem isCutting_nil : IsCutting [] [] :=
  ⟨rfl, fun _ h => (nomatch h), fun _ _ h => by simpa [source] using List.infix_nil.1 h⟩

theorem IsCutting.cons_token {name : String} (hname : IsTokenName name) {cs : List Char} {ps : List Piece}
    (h : IsCutting cs ps) : IsCutting (source (.token name) ++ cs) (.token name :: ps) := by
  refine ⟨by rw [List.flatMap_cons, h.source_eq], fun other hmem => ?_, fun other hother hinfix => ?_⟩
  · rcases List.mem_cons.1 hmem with heq | hmem
    · cases heq
      exact hname
    · exact h.isTokenName other hmem
  · rcases List.infix_cons_iff.1 hinfix with hfront | hinfix
    · simp [source] at hfront
    · exact h.unspelt other hother hinfix

theorem IsCutting.cons_plain {c : Char} {cs : List Char} {ps : List Piece} (h : IsCutting cs ps)
    (hplain : ∀ name rest, IsTokenName name → c :: cs ≠ source (.token name) ++ rest) :
    IsCutting (c :: cs) (.plain c :: ps) := by
  refine ⟨by rw [List.flatMap_cons, h.source_eq]; rfl, fun name hmem => ?_, fun name hname hinfix => ?_⟩
  · rcases List.mem_cons.1 hmem with heq | hmem
    · cases heq
    · exact h.isTokenName name hmem
  · rcases List.infix_cons_iff.1 hinfix with ⟨rest, hrest⟩ | hinfix
    · refine hplain name (rest.flatMap source) hname ?_
      have hsource := congrArg (List.flatMap source) hrest
      rw [List.flatMap_append, flatMap_source_plain, List.flatMap_cons, h.source_eq] at hsource
      exact hsource.symm
    · exact h.unspelt name hname hinfix

theorem isCutting_cut (cs : List Char) : IsCutting cs (cut none cs) := by
  match cs with
  | [] => exact isCutting_nil
  | c :: cs =>
    by_cases htoken : ∃ name rest, IsTokenName name ∧ c :: cs = source (.token name) ++ rest
    · obtain ⟨name, rest, hname, heq⟩ := htoken
      have hshorter : rest.length < cs.length + 1 := by
        have hlength := congrArg List.length heq
        simp [source] at hlength
        omega
      rw [heq, cut_token hname]
      exact (isCutting_cut rest).cons_token hname
    · have hplain : ∀ name rest, IsTokenName name → c :: cs ≠ source (.token name) ++ rest :=
        fun name rest hname heq => htoken ⟨name, rest, hname, heq⟩
      rw [cut_plain hplain]
      exact (isCutting_cut cs).cons_plain hplain
termination_by cs.length

theorem IsCutting.tail {p : Piece} {ps : List Piece} {cs : List Char} (h : IsCutting cs (p :: ps)) :
    IsCutting (ps.flatMap source) ps :=
  ⟨rfl, fun name hmem => h.isTokenName name (List.mem_cons_of_mem p hmem),
    fun name hname hinfix => h.unspelt name hname (List.infix_cons hinfix)⟩

/-- Pieces whose texts spell a name and a closing brace in front are plain that far: a token begins with the other
brace. -/
theorem map_plain_begins : ∀ {more rest : List Char} {ps : List Piece}, (∀ c ∈ more, c ≠ '{') →
    ps.flatMap source = more ++ rest → (more.map plain) <+: ps
  | [], _, _, _, _ => List.nil_prefix
  | c :: more, rest, ps, hmore, h => by
    match ps with
    | [] => cases h
    | .token name :: ps =>
      have hc : '{' = c := (List.cons.inj h).1
      exact absurd hc.symm (hmore c List.mem_cons_self)
    | .plain d :: ps =>
      obtain ⟨rfl, hrest⟩ := List.cons.inj h
      rw [List.map_cons]
      exact List.prefix_cons_inj _ |>.2 (map_plain_begins (fun e he => hmore e (List.mem_cons_of_mem _ he)) hrest)

theorem eq_cut_of_isCutting : ∀ {ps : List Piece} {cs : List Char}, IsCutting cs ps → ps = cut none cs
  | [], cs, h => by
    obtain rfl : [] = cs := h.source_eq
    rfl
  | .token name :: ps, cs, h => by
    have hps := eq_cut_of_isCutting h.tail
    have hname := h.isTokenName name List.mem_cons_self
    rw [← h.source_eq, List.flatMap_cons, cut_token hname, ← hps]
  | .plain c :: ps, cs, h => by
    have hps := eq_cut_of_isCutting h.tail
    rw [← h.source_eq, List.flatMap_cons]
    show _ = cut none (c :: ps.flatMap source)
    have hplain : ∀ name rest, IsTokenName name → c :: ps.flatMap source ≠ source (.token name) ++ rest := by
      intro name rest hname heq
      refine h.unspelt name hname (List.IsPrefix.isInfix ?_)
      have hcons : '{' :: (name.toList ++ ['}'] ++ rest) = c :: ps.flatMap source := heq.symm
      obtain ⟨rfl, hsource⟩ := List.cons.inj hcons
      rw [source, List.map_cons]
      refine (List.prefix_cons_inj _).2 (map_plain_begins (fun d hd => ?_) hsource.symm)
      rcases List.mem_append.1 hd with hd | hd
      · intro hbrace
        have hnot : isNameChar '{' = false := by decide
        rw [← hbrace, hname.all d hd] at hnot
        cases hnot
      · rw [List.mem_singleton.1 hd]
        decide
    rw [cut_plain hplain, ← hps]

/-- **There is one cutting of every text.** -/
theorem isCutting_iff {cs : List Char} {ps : List Piece} : IsCutting cs ps ↔ ps = cut none cs :=
  ⟨eq_cut_of_isCutting, fun h => h ▸ isCutting_cut cs⟩

end Piece
end FlowBundle
