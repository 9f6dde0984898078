import Mathlib.Data.List.Forall2
import FlowBundle.Proofs.Table
import FlowBundle.Proofs.Workflow.ReadBack
/-!
# A workflow handed back

A workflow is handed back as the graph that was received: in the workflow, in each node and in each edge the members are
the same up to their order, and no value is changed (`SameGraph`).  There is one exception.  A handle of an edge that was
received under its second spelling alone comes back under the first one.  So what comes back is the graph with these
handles spelt first (`sameGraph_respelt`), and it is the graph as received if and only if every edge that has the second
spelling of a handle has the first one too (`sameGraph_iff`).
-/
namespace FlowBundle

open Json (Value Members)

/-! ## Members picked out -/

/-- The members of some keys, in the order of the keys. -/
def picked (known : List String) (ms : Members) : Members := known.flatMap fun key => received key (ms.get? key)

theorem without_nil (ms : Members) : ms.without [] = ms := List.filter_eq_self.2 fun _ _ => rfl

theorem without_without (ms : Members) (some more : List String) :
    Members.without more (ms.without some) = ms.without (some ++ more) := by
  rw [Members.without, Members.without, Members.without, List.filter_filter]
  refine List.filter_congr fun m _ => ?_
  rw [List.contains_eq_mem, List.contains_eq_mem, List.contains_eq_mem]
  by_cases h : m.1 ∈ some <;> simp [h]

theorem without_congr {ms : Members} {known known' : List String} (h : ∀ key, key ∈ known ↔ key ∈ known') :
    ms.without known = ms.without known' := by
  refine List.filter_congr fun m _ => ?_
  rw [List.contains_eq_mem, List.contains_eq_mem, decide_eq_decide.2 (h m.1)]

theorem get?_without_of_ne {key other : String} (hne : other ≠ key) : ∀ ms : Members,
    Members.get? (ms.without [key]) other = ms.get? other
  | [] => rfl
  | (k, v) :: ms => by
    have ih : List.lookup other (ms.filter fun m => !([key].contains m.1)) = List.lookup other ms :=
      get?_without_of_ne hne ms
    rw [Members.get?, Members.get?, Members.without]
    by_cases hk : k = key
    · subst hk
      rw [List.filter_cons_of_neg (by simp), ih, List.lookup_cons, beq_false_of_ne hne]
    · rw [List.filter_cons_of_pos (by simp [hk]), List.lookup_cons, List.lookup_cons, ih]

theorem perm_received_without {key : String} : ∀ {ms : Members}, (Table.keys ms).Nodup →
    ms.Perm (received key (ms.get? key) ++ ms.without [key])
  | [], _ => .refl []
  | (k, v) :: ms, hnodup => by
    obtain ⟨hnew, hnodup⟩ := List.nodup_cons.1 hnodup
    rw [Members.get?, Members.without, List.lookup_cons]
    by_cases hk : k = key
    · subst hk
      have hrest : ms.filter (fun m => !([k].contains m.1)) = ms := by
        refine List.filter_eq_self.2 fun m hm => ?_
        have hne : m.1 ≠ k := fun heq => hnew (List.mem_map.2 ⟨m, hm, heq⟩)
        simp [hne]
      rw [BEq.rfl, List.filter_cons_of_neg (by simp), hrest]
      exact .refl _
    · rw [beq_false_of_ne (Ne.symm hk), List.filter_cons_of_pos (by simp [hk])]
      exact ((perm_received_without hnodup).cons (k, v)).trans List.perm_middle.symm

/-- **Picking members out only reorders them.** -/
theorem perm_picked : ∀ (known : List String) (ms : Members), known.Nodup → (Table.keys ms).Nodup →
    ms.Perm (picked known ms ++ ms.without known)
  | [], ms, _, _ => by
    rw [without_nil]
    exact .refl ms
  | key :: known, ms, hknown, hnodup => by
    obtain ⟨hnew, hknown⟩ := List.nodup_cons.1 hknown
    have hrest : (Table.keys (ms.without [key])).Nodup := hnodup.sublist (List.filter_sublist.map _)
    have hpicked : picked known (ms.without [key]) = picked known ms := by
      refine List.flatMap_congr fun k hk => ?_
      have hne : k ≠ key := fun heq => hnew (heq ▸ hk)
      rw [get?_without_of_ne hne]
    have ih := perm_picked known (ms.without [key]) hknown hrest
    rw [hpicked, without_without, List.singleton_append] at ih
    rw [picked, List.flatMap_cons, List.append_assoc]
    exact (perm_received_without hnodup).trans (ih.append_left _)

/-! ## Handles spelt first -/

namespace Edge

def renamed (key other : String) (m : String × Value) : String × Value := if m.1 = other then (key, m.2) else m

/-- The members with a handle under its first spelling. -/
def respell (key other : String) (ms : Members) : Members := if ms.has key then ms else ms.map (renamed key other)

theorem renamed_of_ne {key other : String} {m : String × Value} (h : m.1 ≠ other) : renamed key other m = m := if_neg h

theorem renamed_self (key other : String) (v : Value) : renamed key other (other, v) = (key, v) := if_pos rfl

theorem has_iff {ms : Members} {key : String} : ms.has key = true ↔ key ∈ Table.keys ms := Table.isSome_lookup_iff

section

variable {key other : String} (ms : Members)

theorem respell_of_has {ms : Members} (h : ms.has key = true) : respell key other ms = ms := if_pos h

theorem respell_of_not_has {ms : Members} (h : ¬ ms.has key = true) :
    respell key other ms = ms.map (renamed key other) := if_neg h

theorem get?_renamed_of_ne {k : String} (hkey : k ≠ key) (hother : k ≠ other) : ∀ ms : Members,
    Members.get? (ms.map (renamed key other)) k = ms.get? k
  | [] => rfl
  | (k', v) :: ms => by
    have ih := get?_renamed_of_ne hkey hother ms
    rw [Members.get?, Members.get?] at ih ⊢
    by_cases h : k' = other
    · subst h
      rw [List.map_cons, renamed_self, List.lookup_cons, List.lookup_cons, beq_false_of_ne hkey, beq_false_of_ne hother, ih]
    · rw [List.map_cons, renamed_of_ne h, List.lookup_cons, List.lookup_cons, ih]

theorem get?_renamed_self : ∀ {ms : Members}, key ∉ Table.keys ms →
    Members.get? (ms.map (renamed key other)) key = ms.get? other
  | [], _ => rfl
  | (k, v) :: ms, hnew => by
    obtain ⟨hne, hnew⟩ := not_or.1 (mt List.mem_cons.2 hnew)
    have ih := get?_renamed_self hnew
    rw [Members.get?, Members.get?] at ih ⊢
    by_cases h : k = other
    · subst h
      rw [List.map_cons, renamed_self, List.lookup_cons, List.lookup_cons, BEq.rfl, BEq.rfl]
    · rw [List.map_cons, renamed_of_ne h, List.lookup_cons, List.lookup_cons, beq_false_of_ne hne,
        beq_false_of_ne (Ne.symm h), ih]

theorem get?_respell_of_ne {k : String} (hkey : k ≠ key) (hother : k ≠ other) :
    Members.get? (respell key other ms) k = ms.get? k := by
  by_cases h : ms.has key = true
  · rw [respell_of_has h]
  · rw [respell_of_not_has h]
    exact get?_renamed_of_ne hkey hother ms

theorem get?_respell_self : Members.get? (respell key other ms) key = (handleOf key other ms).1 := by
  unfold handleOf
  by_cases h : ms.has key = true
  · rw [respell_of_has h, if_pos h]
  · rw [respell_of_not_has h, if_neg h]
    exact get?_renamed_self (mt has_iff.2 h)

theorem keys_respell_of_not_has {ms : Members} (h : ¬ ms.has key = true) :
    Table.keys (respell key other ms) = (Table.keys ms).map fun k => if k = other then key else k := by
  rw [respell_of_not_has h, Table.keys, Table.keys, List.map_map, List.map_map]
  refine List.map_congr_left fun m _ => ?_
  rw [Function.comp_apply, Function.comp_apply, renamed]
  split <;> rfl

theorem nodup_keys_respell {ms : Members} (hnodup : (Table.keys ms).Nodup) :
    (Table.keys (respell key other ms)).Nodup := by
  by_cases h : ms.has key = true
  · rw [respell_of_has h]
    exact hnodup
  · rw [keys_respell_of_not_has h]
    have hnew : ∀ k ∈ Table.keys ms, k ≠ key := fun k hk hkey => h (has_iff.2 (hkey ▸ hk))
    refine List.pairwise_map.2 (hnodup.imp_of_mem fun {k k'} hk hk' hne => ?_)
    by_cases hko : k = other
    · have hko' : k' ≠ other := fun heq => hne (hko.trans heq.symm)
      rw [if_pos hko, if_neg hko']
      exact (hnew k' hk').symm
    · rw [if_neg hko]
      split
      · exact hnew k hk
      · exact hne

/-- Where the second spelling of a handle is left, the first one is there too. -/
theorem has_of_has_respell (hne : other ≠ key) (h : Members.has (respell key other ms) other = true) :
    Members.has (respell key other ms) key = true := by
  by_cases hhas : ms.has key = true
  · rwa [respell_of_has hhas]
  · rw [has_iff, keys_respell_of_not_has hhas, List.mem_map] at h
    obtain ⟨k, -, hk⟩ := h
    split at hk
    · exact absurd hk.symm hne
    · exact absurd hk ‹_›

theorem respell_of_imp {ms : Members} (h : ms.has other = true → ms.has key = true) : respell key other ms = ms := by
  by_cases hhas : ms.has key = true
  · exact respell_of_has hhas
  · rw [respell_of_not_has hhas]
    refine (List.map_congr_left fun m hm => ?_).trans (List.map_id ms)
    have hne : m.1 ≠ other := fun heq => hhas (h (has_iff.2 (List.mem_map.2 ⟨m, hm, heq⟩)))
    exact renamed_of_ne hne

theorem without_renamed {known : List String} (hkey : key ∈ known) : ∀ ms : Members,
    Members.without known (ms.map (renamed key other)) = ms.without (known ++ [key, other])
  | [] => rfl
  | (k, v) :: ms => by
    have ih := without_renamed hkey ms
    rw [Members.without, Members.without] at ih ⊢
    by_cases h : k = other
    · subst h
      rw [List.map_cons, renamed_self, List.filter_cons_of_neg (by simp [hkey]), List.filter_cons_of_neg (by simp), ih]
    · rw [List.map_cons, renamed_of_ne h]
      by_cases hknown : k ∈ known
      · rw [List.filter_cons_of_neg (by simp [hknown]), List.filter_cons_of_neg (by simp [hknown]), ih]
      · have hne : k ≠ key := fun heq => hknown (heq ▸ hkey)
        rw [List.filter_cons_of_pos (by simp [hknown]), List.filter_cons_of_pos (by simp [hknown, h, hne]), ih]

/-- **What is left of an edge beside its fields** is the same, once its handle is spelt first. -/
theorem without_respell {known : List String} (hkey : key ∈ known) :
    Members.without known (respell key other ms) = ms.without (known ++ (handleOf key other ms).2) := by
  unfold handleOf
  by_cases h : ms.has key = true
  · rw [respell_of_has h, if_pos h]
    refine without_congr fun k => ?_
    rw [List.mem_append, List.mem_singleton]
    exact (or_iff_left_of_imp fun heq => heq ▸ hkey).symm
  · rw [respell_of_not_has h, if_neg h]
    exact without_renamed hkey ms

end

/-- **The members of an edge with its handles spelt first.** -/
def respelt (ms : Members) : Members :=
  respell "sourceHandle" "source_handle" (respell "targetHandle" "target_handle" ms)

/-- The second spelling of a handle is there beside the first one only. -/
structure SpeltFirst (ms : Members) : Prop where
  source : ms.has "source_handle" = true → ms.has "sourceHandle" = true
  target : ms.has "target_handle" = true → ms.has "targetHandle" = true

theorem respelt_of_speltFirst {ms : Members} (h : SpeltFirst ms) : respelt ms = ms := by
  rw [respelt, respell_of_imp h.target, respell_of_imp h.source]

theorem speltFirst_respelt (ms : Members) : SpeltFirst (respelt ms) := by
  refine ⟨has_of_has_respell _ (by decide), fun h => ?_⟩
  rw [respelt, Members.has, get?_respell_of_ne _ (by decide) (by decide)] at h ⊢
  exact has_of_has_respell ms (by decide) h

theorem SpeltFirst.perm {ms ms' : Members} (h : SpeltFirst ms) (hperm : ms.Perm ms') : SpeltFirst ms' := by
  have hhas : ∀ key, ms'.has key = true ↔ ms.has key = true := fun key => by
    rw [has_iff, has_iff]
    exact (hperm.map Prod.fst).mem_iff.symm
  exact ⟨by rw [hhas, hhas]; exact h.source, by rw [hhas, hhas]; exact h.target⟩

/-- One handle is read the same, however the other one is spelt. -/
theorem handleOf_respell {key other key' other' : String} (ms : Members) (hkey : key ≠ key' ∧ key ≠ other')
    (hother : other ≠ key' ∧ other ≠ other') :
    handleOf key other (respell key' other' ms) = handleOf key other ms := by
  rw [handleOf, Members.has, get?_respell_of_ne ms hkey.1 hkey.2, get?_respell_of_ne ms hother.1 hother.2]
  rfl

theorem picked_respelt (ms : Members) : picked keys (respelt ms) = (ofMembers ms).fields := by
  have hplain : ∀ key ∈ ["id", "source", "target"], Members.get? (respelt ms) key = ms.get? key := by
    intro key hkey
    simp only [List.mem_cons, List.not_mem_nil, or_false] at hkey
    rcases hkey with rfl | rfl | rfl <;>
      rw [respelt, get?_respell_of_ne _ (by decide) (by decide), get?_respell_of_ne _ (by decide) (by decide)]
  have hsource : Members.get? (respelt ms) "sourceHandle" = (ofMembers ms).sourceHandle := by
    rw [respelt, get?_respell_self, handleOf_respell ms (by decide) (by decide)]
    rfl
  have htarget : Members.get? (respelt ms) "targetHandle" = (ofMembers ms).targetHandle := by
    rw [respelt, get?_respell_of_ne _ (by decide) (by decide), get?_respell_self]
    rfl
  simp only [picked, keys, List.flatMap_cons, List.flatMap_nil, hplain "id" (by decide), hplain "source" (by decide),
    hplain "target" (by decide), hsource, htarget, fields, List.append_assoc, List.append_nil]
  rfl

theorem without_respelt (ms : Members) : (respelt ms).without keys = (ofMembers ms).extra := by
  have hextra : (ofMembers ms).extra = ms.without (["id", "source", "target"] ++
    (handleOf "sourceHandle" "source_handle" ms).2 ++ (handleOf "targetHandle" "target_handle" ms).2) := rfl
  have hsource := key_mem_handleOf "sourceHandle" "source_handle" ms
  have htarget := key_mem_handleOf "targetHandle" "target_handle" ms
  rw [respelt, without_respell _ (by decide), handleOf_respell ms (by decide) (by decide),
    without_respell ms (List.mem_append_left _ (by decide)), hextra]
  refine without_congr fun key => ?_
  simp only [keys, List.mem_append, List.mem_cons, List.not_mem_nil, or_false]
  constructor
  · rintro (((h | h | h | rfl | rfl) | h) | h) <;> simp only [*, true_or, or_true]
  · rintro (((h | h | h) | h) | h) <;> simp only [h, true_or, or_true]

/-- **An edge is handed back with its handles spelt first**, and otherwise with the members received. -/
theorem perm_respelt {ms : Members} (hnodup : (Table.keys ms).Nodup) :
    (respelt ms).Perm ((ofMembers ms).fields ++ (ofMembers ms).extra) := by
  have hnodup' : (Table.keys (respelt ms)).Nodup := nodup_keys_respell (nodup_keys_respell hnodup)
  have hperm := perm_picked keys (respelt ms) (by decide) hnodup'
  rwa [picked_respelt, without_respelt] at hperm

theorem perm_iff {ms : Members} (hnodup : (Table.keys ms).Nodup) :
    ms.Perm ((ofMembers ms).fields ++ (ofMembers ms).extra) ↔ SpeltFirst ms := by
  have hperm := perm_respelt hnodup
  constructor
  · exact fun h => (speltFirst_respelt ms).perm (hperm.trans h.symm)
  · intro h
    rwa [respelt_of_speltFirst h] at hperm

end Edge

theorem Node.IsFrom.perm {n : Node} {ms : Members} (h : n.IsFrom ms) (hnodup : (Table.keys ms).Nodup) :
    ms.Perm (n.fields ++ n.extra) := by
  have hpicked : picked Node.keys ms = n.fields := by
    simp only [picked, Node.keys, List.flatMap_cons, List.flatMap_nil, h.id_eq, h.type_eq, h.data_eq, Node.fields,
      List.append_assoc, List.append_nil]
    rfl
  have hperm := perm_picked Node.keys ms (by decide) hnodup
  rwa [hpicked, h.extra_eq] at hperm

/-! ## Graphs -/

/-- Objects with the same members, in any order. -/
inductive Reordered : Value → Value → Prop
  | obj {ms ms' : Members} (h : ms.Perm ms') : Reordered (.obj ms) (.obj ms')

inductive ReorderedItems : Value → Value → Prop
  | arr {items items' : List Value} (h : List.Forall₂ Reordered items items') : ReorderedItems (.arr items) (.arr items')

/-- Members of a workflow with the same key: nodes and edges may have their own members in another order, any other
value is the same. -/
inductive SameMember : String × Value → String × Value → Prop
  | records {key : String} {v v' : Value} (hkey : key ∈ Workflow.keys) (h : ReorderedItems v v') :
      SameMember (key, v) (key, v')
  | other {key : String} {v : Value} (hkey : key ∉ Workflow.keys) : SameMember (key, v) (key, v)

/-- **The same graph**: the workflow, its nodes and its edges have the same members, each of them in any order. -/
inductive SameGraph : Value → Value → Prop
  | obj {ms front ms' : Members} (horder : ms.Perm front) (h : List.Forall₂ SameMember front ms') :
      SameGraph (.obj ms) (.obj ms')

theorem exists_of_mem_forall₂ {α β : Type} {r : α → β → Prop} {a : α} : ∀ {as : List α} {bs : List β},
    List.Forall₂ r as bs → a ∈ as → ∃ b ∈ bs, r a b
  | _ :: _, b :: _, .cons hfirst hrest, hmem => by
    rcases List.mem_cons.1 hmem with rfl | hmem
    · exact ⟨b, List.mem_cons_self, hfirst⟩
    · obtain ⟨b', hb', hr⟩ := exists_of_mem_forall₂ hrest hmem
      exact ⟨b', List.mem_cons_of_mem b hb', hr⟩

namespace Workflow

def respeltEdge : Value → Value
  | .obj ms => .obj (Edge.respelt ms)
  | v => v

def respeltEdges : Value → Value
  | .arr items => .arr (items.map respeltEdge)
  | v => v

def respeltMember (m : String × Value) : String × Value := if m.1 = "edges" then (m.1, respeltEdges m.2) else m

/-- **A graph with the handles of its edges spelt first.** -/
def respelt : Value → Value
  | .obj ms => .obj (ms.map respeltMember)
  | v => v

/-- Every edge of the graph has its handles spelt first. -/
def SpeltFirst (payload : Value) : Prop :=
  ∀ ms : Members, payload = .obj ms → ∀ items, ms.get? "edges" = some (.arr items) →
    ∀ ems, Value.obj ems ∈ items → Edge.SpeltFirst ems

/-! ### What a workflow is made of, item by item -/

theorem forall₂_of_all {α β : Type} {check : Nat → α → Checked β} : ∀ {i : Nat} {as : List α} {bs : List β},
    Checked.all check i as = .ok bs → List.Forall₂ (fun a b => ∃ j, check j a = .ok b) as bs
  | _, [], _, h => by
    cases h
    exact .nil
  | i, a :: as, _, h => by
    obtain ⟨p, hp, rfl⟩ := Checked.map_eq_ok h
    obtain ⟨hfirst, hrest⟩ := Checked.both_eq_ok hp
    exact .cons ⟨i, hfirst⟩ (forall₂_of_all hrest)

theorem forall₂_of_listOf {α : Type} {check : List String → Value → Checked α} {key : String} {v : Value} {as : List α}
    (h : listOf check key v = .ok as) :
    ∃ items, v = .arr items ∧ List.Forall₂ (fun item a => ∃ place, check place item = .ok a) items as := by
  cases v with
  | arr items => exact ⟨items, rfl, (forall₂_of_all h).imp fun item a ⟨j, hj⟩ => ⟨_, hj⟩⟩
  | null | bool | int | float | str | obj => cases h

/-- **What a workflow is made of**, item by item. -/
structure IsMadeOf (w : Workflow) (ms : Members) (nodes : List Value) (edges : Option (List Value)) : Prop where
  nodes_eq : ms.get? "nodes" = some (.arr nodes)
  nodes_from : List.Forall₂ (fun item n => ∃ nms, item = Value.obj nms ∧ Node.IsFrom n nms) nodes w.nodes
  edges_eq : ms.get? "edges" = edges.map .arr
  edges_from : Option.Rel (List.Forall₂ fun item e => ∃ ems, item = Value.obj ems ∧ Edge.ofMembers ems = e) edges w.edges
  extra_eq : ms.without keys = w.extra

theorem isMadeOf_of_ofPayload {payload : Value} {w : Workflow} (h : ofPayload payload = .ok w) :
    ∃ ms nodes edges, payload = .obj ms ∧ w.IsMadeOf ms nodes edges := by
  obtain ⟨ms, nodes, rfl, hget, hmade⟩ := exists_ofMembers_of_ofPayload h
  obtain ⟨⟨ns, es⟩, hp, rfl⟩ := Checked.map_eq_ok hmade
  obtain ⟨hns, hes⟩ := Checked.both_eq_ok hp
  obtain ⟨items, rfl, hitems⟩ := forall₂_of_listOf hns
  have hnodes := hitems.imp fun item n ⟨_, h⟩ => Node.ofPayload_eq_ok.1 h
  unfold edgesOf at hes
  cases hedges : ms.get? "edges" with
  | none =>
    rw [hedges] at hes
    cases hes
    exact ⟨ms, items, none, rfl, hget, hnodes, hedges, .none, rfl⟩
  | some v =>
    rw [hedges] at hes
    obtain ⟨es', hlist, rfl⟩ := Checked.map_eq_ok hes
    obtain ⟨edges, rfl, hfrom⟩ := forall₂_of_listOf hlist
    exact ⟨ms, items, some edges, rfl, hget, hnodes, hedges,
      .some (hfrom.imp fun item e ⟨_, h⟩ => Edge.ofPayload_eq_ok.1 h), rfl⟩

/-! ### What it is handed back as -/

theorem reordered_edges {items : List Value} {es : List Edge}
    (hnodup : ∀ ems, Value.obj ems ∈ items → (Table.keys ems).Nodup)
    (hfrom : List.Forall₂ (fun item e => ∃ ems, item = Value.obj ems ∧ Edge.ofMembers ems = e) items es) :
    List.Forall₂ Reordered (items.map respeltEdge) (es.map Edge.toPayload) := by
  rw [List.forall₂_map_left_iff, List.forall₂_map_right_iff]
  have hitems : ∀ item ∈ items, ∀ ems, item = Value.obj ems → (Table.keys ems).Nodup :=
    fun _ hitem ems heq => hnodup ems (heq ▸ hitem)
  refine ((List.forall₂_and_left _ _).2 ⟨hitems, hfrom⟩).imp ?_
  rintro _ _ ⟨hitem, ems, rfl, rfl⟩
  exact .obj (Edge.perm_respelt (hitem ems rfl))

theorem sameMember_edges {edges : Option (List Value)} {es : Option (List Edge)}
    (hnodup : ∀ items, edges = some items → ∀ ems, Value.obj ems ∈ items → (Table.keys ems).Nodup)
    (hfrom : Option.Rel (List.Forall₂ fun item e => ∃ ems, item = Value.obj ems ∧ Edge.ofMembers ems = e) edges es) :
    List.Forall₂ SameMember ((received "edges" (edges.map .arr)).map respeltMember)
      (received "edges" (es.map fun es => .arr (es.map Edge.toPayload))) := by
  cases hfrom with
  | none => exact .nil
  | some hfrom =>
    have hkey : "edges" ∈ keys := by decide
    exact .cons (.records hkey (.arr (reordered_edges (hnodup _ rfl) hfrom))) .nil

theorem edges_of_mem_fields {w : Workflow} {v : Value} (h : ("edges", v) ∈ w.fields) :
    ∃ es, w.edges = some es ∧ v = .arr (es.map Edge.toPayload) := by
  rcases List.mem_append.1 h with h | h
  · simp at h
  · cases hes : w.edges with
    | none =>
      rw [hes] at h
      cases h
    | some es =>
      rw [hes] at h
      exact ⟨es, rfl, (Prod.mk.inj (List.mem_singleton.1 h)).2⟩

theorem respeltMember_of_ne {m : String × Value} (h : m.1 ≠ "edges") : respeltMember m = m := if_neg h

section

variable {w : Workflow} {ms : Members} {nodes : List Value} {edges : Option (List Value)}
  (h : w.IsMadeOf ms nodes edges) (hms : ms.Readable)
include h

theorem IsMadeOf.not_mem_keys_of_mem_extra : ∀ m ∈ w.extra, m.1 ∉ keys := fun _ hm hkey =>
  Members.not_mem_keys_without hkey (h.extra_eq.symm ▸ List.mem_map_of_mem hm)

include hms

theorem IsMadeOf.reordered_nodes : List.Forall₂ Reordered nodes (w.nodes.map Node.toPayload) := by
  have hreadable : ∀ item ∈ nodes, item.Readable := by
    cases hms.get? h.nodes_eq with
    | arr hitems => exact hitems
  refine List.forall₂_map_right_iff.2 (((List.forall₂_and_left _ _).2 ⟨hreadable, h.nodes_from⟩).imp ?_)
  rintro _ n ⟨hitem, nms, rfl, hfrom⟩
  exact .obj (hfrom.perm (Members.readable_of_obj hitem).nodup)

theorem IsMadeOf.nodup_edge (items : List Value) (hedges : edges = some items) :
    ∀ ems, Value.obj ems ∈ items → (Table.keys ems).Nodup := by
  intro ems hmem
  have hget := h.edges_eq
  rw [hedges] at hget
  exact (readable_item hms hget hmem).nodup

/-- **A workflow is handed back as the graph with its handles spelt first.** -/
theorem IsMadeOf.sameGraph_respelt : SameGraph (respelt (.obj ms)) w.toPayload := by
  have hpicked : picked keys ms = [("nodes", .arr nodes)] ++ received "edges" (edges.map .arr) := by
    simp only [picked, keys, List.flatMap_cons, List.flatMap_nil, h.nodes_eq, h.edges_eq, List.append_nil]
    rfl
  have hperm := perm_picked keys ms (by decide) hms.nodup
  rw [hpicked, h.extra_eq] at hperm
  have hnodes : SameMember ("nodes", .arr nodes) ("nodes", .arr (w.nodes.map Node.toPayload)) :=
    .records (by decide) (.arr (h.reordered_nodes hms))
  have hextra : List.Forall₂ SameMember (w.extra.map respeltMember) w.extra := by
    refine List.forall₂_map_left_iff.2 (List.forall₂_same.2 fun m hm => ?_)
    have hkey := h.not_mem_keys_of_mem_extra m hm
    have hne : m.1 ≠ "edges" := fun heq => hkey (heq ▸ by decide)
    rw [respeltMember_of_ne hne]
    exact .other hkey
  refine .obj (hperm.map respeltMember) ?_
  rw [List.map_append, List.map_append]
  exact List.rel_append (List.rel_append (.cons hnodes .nil) (sameMember_edges (h.nodup_edge hms) h.edges_from)) hextra

/-- **Where a handle is respelt, it is not the same graph.** -/
theorem IsMadeOf.speltFirst_of_sameGraph (hsame : SameGraph (.obj ms) w.toPayload) : SpeltFirst (.obj ms) := by
  rintro _ ⟨rfl⟩ items hget ems hmem
  have hedge : "edges" ∈ keys := by decide
  rw [toPayload_eq] at hsame
  obtain ⟨horder, hmembers⟩ := hsame
  -- The edges received stand for a member handed back, and no unknown one: its key is that of the edges.
  obtain ⟨m, hm, hmember⟩ := exists_of_mem_forall₂ hmembers (horder.subset (Members.mem_of_get? hget))
  obtain ⟨es, hes, hitems⟩ : ∃ es, w.edges = some es ∧ List.Forall₂ Reordered items (es.map Edge.toPayload) := by
    cases hmember with
    | other hkey => exact absurd hedge hkey
    | records _ hitems =>
      have hfields := (List.mem_append.1 hm).resolve_right fun hextra => h.not_mem_keys_of_mem_extra _ hextra hedge
      obtain ⟨es, hes, rfl⟩ := edges_of_mem_fields hfields
      cases hitems with
      | arr hitems => exact ⟨es, hes, hitems⟩
  have hedges : edges = some items := by
    have heq := h.edges_eq.symm.trans hget
    obtain ⟨items', hsome, hitems'⟩ := Option.map_eq_some_iff.1 heq
    rw [hsome, Value.arr.inj hitems']
  have hfrom := h.edges_from
  rw [hedges, hes] at hfrom
  obtain ⟨hfrom⟩ := hfrom
  obtain ⟨e, -, ⟨ems', hobj, rfl⟩, hreordered⟩ := exists_of_mem_forall₂
    ((List.forall₂_map_right_iff.1 hitems).mp (fun _ _ hr hfrom => And.intro hfrom hr) hfrom) hmem
  cases hobj
  obtain ⟨hperm⟩ := hreordered
  exact (Edge.perm_iff (h.nodup_edge hms items hedges ems hmem)).1 hperm

end

theorem respelt_of_speltFirst {ms : Members} (hnodup : (Table.keys ms).Nodup) (h : SpeltFirst (.obj ms)) :
    respelt (.obj ms) = .obj ms := by
  have hmembers : ∀ m ∈ ms, respeltMember m = m := by
    rintro ⟨key, v⟩ hm
    by_cases hkey : key = "edges"
    · subst hkey
      have hget : ms.get? "edges" = some v :=
        Table.lookup_of_sublist (List.singleton_sublist.2 hm) hnodup (by simp)
      cases v with
      | arr items =>
        have hitems : ∀ item ∈ items, respeltEdge item = item := by
          intro item hitem
          cases item with
          | obj ems => exact congrArg Value.obj (Edge.respelt_of_speltFirst (h ms rfl items hget ems hitem))
          | null | bool | int | float | str | arr => rfl
        exact congrArg (fun vs => ("edges", Value.arr vs)) ((List.map_congr_left hitems).trans (List.map_id items))
      | null | bool | int | float | str | obj => rfl
    · exact respeltMember_of_ne hkey
  exact congrArg Value.obj ((List.map_congr_left hmembers).trans (List.map_id ms))

theorem sameGraph_respelt {payload : Value} (hpayload : payload.Readable) {w : Workflow}
    (h : ofPayload payload = .ok w) : SameGraph (respelt payload) w.toPayload := by
  obtain ⟨ms, nodes, edges, rfl, hmade⟩ := isMadeOf_of_ofPayload h
  exact hmade.sameGraph_respelt (Members.readable_of_obj hpayload)

/-- **A workflow is handed back as the graph received** if and only if its handles are spelt first. -/
theorem sameGraph_iff {payload : Value} (hpayload : payload.Readable) {w : Workflow} (h : ofPayload payload = .ok w) :
    SameGraph payload w.toPayload ↔ SpeltFirst payload := by
  obtain ⟨ms, nodes, edges, rfl, hmade⟩ := isMadeOf_of_ofPayload h
  have hms := Members.readable_of_obj hpayload
  refine ⟨hmade.speltFirst_of_sameGraph hms, fun hspelt => ?_⟩
  have hsame := hmade.sameGraph_respelt hms
  rwa [respelt_of_speltFirst hms.nodup hspelt] at hsame

end Workflow
end FlowBundle
