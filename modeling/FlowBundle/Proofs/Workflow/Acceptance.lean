import FlowBundle.Proofs.Violation
import FlowBundle.Workflow.Payload
/-!
# What is taken for a workflow

A value is taken for a workflow if it has the shape of one (`IsWorkflow`), and nothing is asked beyond that.  Otherwise
the answer says why: the value is no object, it has no nodes, or there is a full report of all that is wrong
(`ofPayload_accepts_or_reports`).

What is wrong is a relation between spots and violations (`Wrong`), which knows nothing of checks and their order.  A
report is full if it has these violations, each once, in the order of their spots (`Reports`).  Checks are put together
from smaller ones, and full reports with them: those of two checks one after the other (`Reports.append`), and those of
the items of a list (`reports_all`).
-/
namespace FlowBundle

open Json (Value Members)

/-! ## Spots and reports -/

namespace Workflow

/-- Where something can be wrong in a workflow. -/
inductive Spot where
  | nodes
  | node (i : Nat)
  | type (i : Nat)
  | data (i : Nat)
  | edges
  | edge (i : Nat)

namespace Spot

def place : Spot → List String
  | .nodes => ["nodes"]
  | .node i => ["nodes", toString i]
  | .type i => ["nodes", toString i, "type"]
  | .data i => ["nodes", toString i, "data"]
  | .edges => ["edges"]
  | .edge i => ["edges", toString i]

/-- **The order of a report**, as numbers compared one after the other: nodes before edges, by index, and in a node the
type before the data. -/
def rank : Spot → List Nat
  | .nodes => [0]
  | .node i => [0, i]
  | .type i => [0, i, 0]
  | .data i => [0, i, 1]
  | .edges => [1]
  | .edge i => [1, i]

end Spot

/-- **A full report** of what is wrong: each violation with its spot, once, and nothing else, in the order of the
spots. -/
def Reports (wrong : Spot → Violation → Prop) (vs : List Violation) : Prop :=
  ∃ entries : List (Spot × Violation), vs = entries.map (·.2) ∧
    entries.Pairwise (fun a b => a.1.rank < b.1.rank) ∧ ∀ s v, (s, v) ∈ entries ↔ wrong s v

section

variable {wrong wrong' : Spot → Violation → Prop} {vs vs' : List Violation}

theorem reports_nil (h : ∀ s v, ¬ wrong s v) : Reports wrong [] :=
  ⟨[], rfl, .nil, fun s v => ⟨fun hmem => (nomatch hmem), fun hw => absurd hw (h s v)⟩⟩

theorem reports_singleton (spot : Spot) {violation : Violation}
    (h : ∀ s v, wrong s v ↔ s = spot ∧ v = violation) : Reports wrong [violation] :=
  ⟨[(spot, violation)], rfl, List.pairwise_singleton _ _, fun s v => by
    rw [List.mem_singleton, Prod.mk.injEq, h]⟩

theorem Reports.congr (h : Reports wrong vs) (heq : ∀ s v, wrong' s v ↔ wrong s v) : Reports wrong' vs := by
  obtain ⟨entries, hvs, hsorted, hmem⟩ := h
  exact ⟨entries, hvs, hsorted, fun s v => (hmem s v).trans (heq s v).symm⟩

theorem Reports.eq_nil_iff (h : Reports wrong vs) : vs = [] ↔ ∀ s v, ¬ wrong s v := by
  obtain ⟨entries, rfl, -, hmem⟩ := h
  rw [List.map_eq_nil_iff, List.eq_nil_iff_forall_not_mem]
  exact ⟨fun hnone s v hw => hnone (s, v) ((hmem s v).2 hw), fun hnone e he => hnone e.1 e.2 ((hmem e.1 e.2).1 he)⟩

/-- **Reports one after the other** are a report of both, if the first one is all in front. -/
theorem Reports.append (h : Reports wrong vs) (h' : Reports wrong' vs')
    (hfront : ∀ s v s' v', wrong s v → wrong' s' v' → s.rank < s'.rank) :
    Reports (fun s v => wrong s v ∨ wrong' s v) (vs ++ vs') := by
  obtain ⟨entries, rfl, hsorted, hmem⟩ := h
  obtain ⟨entries', rfl, hsorted', hmem'⟩ := h'
  refine ⟨entries ++ entries', List.map_append.symm, List.pairwise_append.2 ⟨hsorted, hsorted', ?_⟩, fun s v => ?_⟩
  · exact fun e he e' he' => hfront e.1 e.2 e'.1 e'.2 ((hmem _ _).1 he) ((hmem' _ _).1 he')
  · rw [List.mem_append, hmem, hmem']

end

/-- **The reports on the items of a list** are a report on the list. -/
theorem reports_all {α β : Type} {check : Nat → α → Checked β} {wrong : Nat → α → Spot → Violation → Prop}
    (heach : ∀ i a, Reports (wrong i a) (check i a).violations)
    (horder : ∀ i j a b s v s' v', i < j → wrong i a s v → wrong j b s' v' → s.rank < s'.rank) :
    ∀ (i : Nat) (as : List α),
      Reports (fun s v => ∃ j a, as[j]? = some a ∧ wrong (i + j) a s v) (Checked.all check i as).violations
  | i, [] => reports_nil fun s v ⟨j, a, hget, _⟩ => by simp at hget
  | i, a :: as => by
    rw [Checked.all, Checked.violations_map, Checked.violations_both]
    refine ((heach i a).append (reports_all heach horder (i + 1) as) ?_).congr fun s v => ⟨?_, ?_⟩
    · rintro s v s' v' hw ⟨j, b, -, hw'⟩
      exact horder i (i + 1 + j) a b s v s' v' (by omega) hw hw'
    · -- What is at `j` in the rest of the list is at `j + 1` in the list, and was checked under `i + 1 + j`.
      rintro ⟨j, b, hget, hw⟩
      cases j with
      | zero =>
        obtain rfl : a = b := by simpa using hget
        exact .inl hw
      | succ j => exact .inr ⟨j, b, by simpa using hget, by rwa [Nat.add_right_comm]⟩
    · rintro (hw | ⟨j, b, hget, hw⟩)
      · exact ⟨0, a, rfl, hw⟩
      · exact ⟨j + 1, b, by simpa using hget, by rwa [← Nat.add_assoc, Nat.add_right_comm]⟩

/-! ## The shape of a workflow -/

def IsObject (v : Value) : Prop := ∃ ms, v = .obj ms

def IsText (v : Value) : Prop := ∃ s, v = .str s

def IsList (v : Value) : Prop := ∃ items, v = .arr items

inductive IsListOf (shape : Value → Prop) : Value → Prop
  | arr {items : List Value} (h : ∀ item ∈ items, shape item) : IsListOf shape (.arr items)

/-- **The shape of a node**: an object with a text for a type and, if there are any, an object for data. -/
inductive IsNode : Value → Prop
  | obj {ms : Members} {type : Value} (hget : ms.get? "type" = some type) (htype : IsText type)
      (hdata : ∀ data, ms.get? "data" = some data → IsObject data) : IsNode (.obj ms)

/-- **The shape of a workflow**: an object with a list of nodes and, if there are any, a list of objects for edges. -/
inductive IsWorkflow : Value → Prop
  | obj {ms : Members} {nodes : Value} (hget : ms.get? "nodes" = some nodes) (hnodes : IsListOf IsNode nodes)
      (hedges : ∀ edges, ms.get? "edges" = some edges → IsListOf IsObject edges) : IsWorkflow (.obj ms)

/-! ## What is wrong -/

/-- **What is wrong with a value at a spot**, if it has not the shape that is asked for there. -/
inductive Misshapen (spot : Spot) (rule : Rule) (shape : Value → Prop) (value : Value) : Spot → Violation → Prop
  | intro (h : ¬ shape value) : Misshapen spot rule shape value spot ⟨spot.place, rule, value⟩

/-- What is wrong with a value that may be left out. -/
def OptionWrong (wrong : Value → Spot → Violation → Prop) (found : Option Value) (s : Spot) (v : Violation) : Prop :=
  ∃ value, found = some value ∧ wrong value s v

/-- What is wrong with a list at a spot: that it is none, or what is wrong with its items. -/
inductive ListWrong (spot : Spot) (itemWrong : Nat → Value → Spot → Violation → Prop) : Value → Spot → Violation → Prop
  | noList {value : Value} {s : Spot} {v : Violation} (h : Misshapen spot .list IsList value s v) :
      ListWrong spot itemWrong value s v
  | item {items : List Value} {i : Nat} {item : Value} {s : Spot} {v : Violation} (hget : items[i]? = some item)
      (h : itemWrong i item s v) : ListWrong spot itemWrong (.arr items) s v

inductive TypeWrong (i : Nat) (ms : Members) : Spot → Violation → Prop
  | missing (h : ms.get? "type" = none) : TypeWrong i ms (.type i) ⟨(Spot.type i).place, .required, .obj ms⟩
  | noText {s : Spot} {v : Violation} (h : OptionWrong (Misshapen (.type i) .text IsText) (ms.get? "type") s v) :
      TypeWrong i ms s v

/-- **What is wrong with a node**, the one at index `i`. -/
inductive NodeWrong (i : Nat) : Value → Spot → Violation → Prop
  | noObject {node : Value} {s : Spot} {v : Violation}
      (h : Misshapen (.node i) (.record "WorkflowNode") IsObject node s v) : NodeWrong i node s v
  | type {ms : Members} {s : Spot} {v : Violation} (h : TypeWrong i ms s v) : NodeWrong i (.obj ms) s v
  | data {ms : Members} {s : Spot} {v : Violation}
      (h : OptionWrong (Misshapen (.data i) .object IsObject) (ms.get? "data") s v) : NodeWrong i (.obj ms) s v

def EdgeWrong (i : Nat) : Value → Spot → Violation → Prop := Misshapen (.edge i) (.record "WorkflowEdge") IsObject

/-- **All that is wrong with the members of a workflow**, which has nodes of some sort. -/
inductive Wrong (ms : Members) : Spot → Violation → Prop
  | nodes {s : Spot} {v : Violation} (h : OptionWrong (ListWrong .nodes NodeWrong) (ms.get? "nodes") s v) : Wrong ms s v
  | edges {s : Spot} {v : Violation} (h : OptionWrong (ListWrong .edges EdgeWrong) (ms.get? "edges") s v) : Wrong ms s v

/-! ### Nothing is wrong with what has the shape -/

section

variable {spot : Spot} {rule : Rule} {shape : Value → Prop} {value : Value}
  {wrong : Value → Spot → Violation → Prop} {itemWrong : Nat → Value → Spot → Violation → Prop}

theorem not_misshapen_iff : (∀ s v, ¬ Misshapen spot rule shape value s v) ↔ shape value :=
  ⟨fun h => Classical.not_not.1 fun hno => h _ _ (.intro hno), fun h _ _ ⟨hno⟩ => hno h⟩

theorem not_optionWrong_iff (hvalue : ∀ value, (∀ s v, ¬ wrong value s v) ↔ shape value) {found : Option Value} :
    (∀ s v, ¬ OptionWrong wrong found s v) ↔ ∀ value, found = some value → shape value := by
  constructor
  · exact fun h value hfound => (hvalue value).1 fun s v hw => h s v ⟨value, hfound, hw⟩
  · exact fun h s v ⟨value, hfound, hw⟩ => (hvalue value).2 (h value hfound) s v hw

theorem not_listWrong_iff (hitem : ∀ i item, (∀ s v, ¬ itemWrong i item s v) ↔ shape item) :
    (∀ s v, ¬ ListWrong spot itemWrong value s v) ↔ IsListOf shape value := by
  constructor
  · intro h
    obtain ⟨items, rfl⟩ := not_misshapen_iff.1 fun s v hw => h s v (.noList hw)
    refine .arr fun item hmem => ?_
    obtain ⟨i, hget⟩ := List.mem_iff_getElem?.1 hmem
    exact (hitem i item).1 fun s v hw => h s v (.item hget hw)
  · rintro ⟨hitems⟩ s v hw
    cases hw with
    | noList h => exact not_misshapen_iff.2 ⟨_, rfl⟩ s v h
    | item hget h => exact (hitem _ _).2 (hitems _ (List.mem_iff_getElem?.2 ⟨_, hget⟩)) s v h

end

theorem not_nodeWrong_iff (i : Nat) (node : Value) : (∀ s v, ¬ NodeWrong i node s v) ↔ IsNode node := by
  constructor
  · intro h
    obtain ⟨ms, rfl⟩ := not_misshapen_iff.1 fun s v hw => h s v (.noObject hw)
    have htype := (not_optionWrong_iff fun _ => not_misshapen_iff).1 fun s v hw => h s v (.type (.noText hw))
    have hdata := (not_optionWrong_iff fun _ => not_misshapen_iff).1 fun s v hw => h s v (.data hw)
    cases hget : Members.get? ms "type" with
    | none => exact absurd (.type (.missing hget)) (h _ _)
    | some type => exact .obj hget (htype type hget) hdata
  · rintro ⟨hget, htype, hdata⟩ s v hw
    cases hw with
    | noObject h => exact not_misshapen_iff.2 ⟨_, rfl⟩ s v h
    | type h =>
      rcases h with hnone | ⟨type, hget', h⟩
      · cases hget.symm.trans hnone
      · obtain rfl := Option.some.inj (hget.symm.trans hget')
        exact not_misshapen_iff.2 htype s v h
    | data h => exact (not_optionWrong_iff fun _ => not_misshapen_iff).2 hdata s v h

/-- **An object with nodes is a workflow if nothing is wrong with it.** -/
theorem not_wrong_iff {ms : Members} {nodes : Value} (hget : ms.get? "nodes" = some nodes) :
    (∀ s v, ¬ Wrong ms s v) ↔ IsWorkflow (.obj ms) := by
  have hnodes : (∀ s v, ¬ OptionWrong (ListWrong .nodes NodeWrong) (ms.get? "nodes") s v) ↔
      ∀ nodes, ms.get? "nodes" = some nodes → IsListOf IsNode nodes :=
    not_optionWrong_iff fun _ => not_listWrong_iff not_nodeWrong_iff
  have hedges : (∀ s v, ¬ OptionWrong (ListWrong .edges EdgeWrong) (ms.get? "edges") s v) ↔
      ∀ edges, ms.get? "edges" = some edges → IsListOf IsObject edges :=
    not_optionWrong_iff fun _ => not_listWrong_iff fun _ _ => not_misshapen_iff
  constructor
  · exact fun h => .obj hget (hnodes.1 (fun s v hw => h s v (.nodes hw)) nodes hget)
      (hedges.1 fun s v hw => h s v (.edges hw))
  · rintro ⟨hget', hlist, hlist'⟩ s v hw
    cases hw with
    | nodes h => exact hnodes.2 (fun _ hsome => Option.some.inj (hget'.symm.trans hsome) ▸ hlist) s v h
    | edges h => exact hedges.2 hlist' s v h

/-! ### Where it is wrong -/

section

variable {i : Nat} {s : Spot} {v : Violation}

theorem Misshapen.spot_eq {spot : Spot} {rule : Rule} {shape : Value → Prop} {value : Value}
    (h : Misshapen spot rule shape value s v) : s = spot := by
  cases h
  rfl

theorem TypeWrong.rank_eq {ms : Members} (h : TypeWrong i ms s v) : s.rank = [0, i, 0] := by
  rcases h with _ | ⟨type, -, h⟩
  · rfl
  · rw [h.spot_eq, Spot.rank]

theorem NodeWrong.rank_eq {node : Value} (h : NodeWrong i node s v) : ∃ rest, s.rank = 0 :: i :: rest := by
  cases h with
  | noObject h => exact ⟨[], by rw [h.spot_eq, Spot.rank]⟩
  | type h => exact ⟨[0], h.rank_eq⟩
  | data h =>
    obtain ⟨data, -, h⟩ := h
    exact ⟨[1], by rw [h.spot_eq, Spot.rank]⟩

theorem EdgeWrong.rank_eq {edge : Value} (h : EdgeWrong i edge s v) : ∃ rest, s.rank = 1 :: i :: rest :=
  ⟨[], by rw [Misshapen.spot_eq h, Spot.rank]⟩

theorem ListWrong.rank_eq {spot : Spot} {part : Nat} {itemWrong : Nat → Value → Spot → Violation → Prop}
    (hspot : spot.rank = [part]) (hrank : ∀ {i item s v}, itemWrong i item s v → ∃ rest, s.rank = part :: i :: rest)
    {value : Value} (h : ListWrong spot itemWrong value s v) : ∃ rest, s.rank = part :: rest := by
  cases h with
  | noList h => exact ⟨[], h.spot_eq ▸ hspot⟩
  | item _ h =>
    obtain ⟨rest, hs⟩ := hrank h
    exact ⟨_, hs⟩

end

/-! ## The report of a check -/

section

variable {spot : Spot} {rule : Rule} {shape : Value → Prop} {value : Value} {vs : List Violation}
  {wrong : Value → Spot → Violation → Prop}

theorem reports_of_shape (h : shape value) : Reports (Misshapen spot rule shape value) [] :=
  reports_nil (not_misshapen_iff.2 h)

theorem reports_of_not_shape (h : ¬ shape value) :
    Reports (Misshapen spot rule shape value) [⟨spot.place, rule, value⟩] := by
  refine reports_singleton spot fun s v => ⟨fun ⟨_⟩ => ⟨rfl, rfl⟩, ?_⟩
  rintro ⟨rfl, rfl⟩
  exact .intro h

theorem reports_none : Reports (OptionWrong wrong none) [] := reports_nil fun _ _ ⟨_, hnone, _⟩ => nomatch hnone

theorem Reports.some (h : Reports (wrong value) vs) : Reports (OptionWrong wrong (some value)) vs :=
  h.congr fun _ _ => ⟨fun ⟨_, hsome, hw⟩ => Option.some.inj hsome ▸ hw, fun hw => ⟨value, rfl, hw⟩⟩

end

theorem reports_typeOf (i : Nat) (ms : Members) :
    Reports (TypeWrong i ms) (Node.typeOf ["nodes", toString i] ms).violations := by
  unfold Node.typeOf
  cases hget : ms.get? "type" with
  | none =>
    refine reports_singleton (.type i) fun s v => ⟨?_, ?_⟩
    · rintro (h | ⟨_, hget', -⟩)
      · exact ⟨rfl, rfl⟩
      · cases hget.symm.trans hget'
    · rintro ⟨rfl, rfl⟩
      exact .missing hget
  | some type =>
    have hwrong : ∀ s v, TypeWrong i ms s v ↔ Misshapen (.type i) .text IsText type s v := by
      refine fun s v => ⟨?_, fun h => .noText ⟨type, hget, h⟩⟩
      rintro (hnone | ⟨_, hget', h⟩)
      · cases hget.symm.trans hnone
      · exact Option.some.inj (hget'.symm.trans hget) ▸ h
    cases type with
    | str text => exact (reports_of_shape ⟨text, rfl⟩).congr hwrong
    | null | bool | int | float | arr | obj => exact (reports_of_not_shape fun ⟨_, h⟩ => nomatch h).congr hwrong

theorem reports_dataOf (i : Nat) (ms : Members) :
    Reports (OptionWrong (Misshapen (.data i) .object IsObject) (ms.get? "data"))
      (Node.dataOf ["nodes", toString i] ms).violations := by
  unfold Node.dataOf
  cases ms.get? "data" with
  | none => exact reports_none
  | some data =>
    cases data with
    | obj members => exact (reports_of_shape ⟨members, rfl⟩).some
    | null | bool | int | float | str | arr => exact (reports_of_not_shape fun ⟨_, h⟩ => nomatch h).some

theorem reports_node (i : Nat) (node : Value) :
    Reports (NodeWrong i node) (Node.ofPayload ["nodes", toString i] node).violations := by
  have hno : ¬ IsObject node → Reports (NodeWrong i node) [⟨["nodes", toString i], .record "WorkflowNode", node⟩] := by
    refine fun hnode => (reports_of_not_shape hnode).congr fun s v => ⟨fun hw => ?_, NodeWrong.noObject⟩
    cases hw with
    | noObject h => exact h
    | type _ | data _ => exact absurd ⟨_, rfl⟩ hnode
  cases node with
  | obj ms =>
    rw [Node.ofPayload, Checked.violations_map, Checked.violations_both]
    refine ((reports_typeOf i ms).append (reports_dataOf i ms) ?_).congr fun s v => ⟨fun hw => ?_, ?_⟩
    · rintro s v s' v' hw ⟨_, -, hw'⟩
      rw [hw.rank_eq, hw'.spot_eq]
      simp [Spot.rank, List.cons_lt_cons_iff]
    · cases hw with
      | noObject h => exact absurd h (not_misshapen_iff.2 ⟨ms, rfl⟩ s v)
      | type h => exact .inl h
      | data h => exact .inr h
    · rintro (h | h)
      · exact .type h
      · exact .data h
  | null | bool | int | float | str | arr => exact hno fun ⟨_, h⟩ => nomatch h

theorem reports_edge (i : Nat) (edge : Value) :
    Reports (EdgeWrong i edge) (Edge.ofPayload ["edges", toString i] edge).violations := by
  cases edge with
  | obj ms => exact reports_of_shape ⟨ms, rfl⟩
  | null | bool | int | float | str | arr => exact reports_of_not_shape fun ⟨_, h⟩ => nomatch h

/-- The report on a list, in the order of its items. -/
theorem reports_listOf {α : Type} {check : List String → Value → Checked α} {key : String} {part : Nat}
    {itemWrong : Nat → Value → Spot → Violation → Prop} (spot : Spot) (hplace : spot.place = [key])
    (heach : ∀ i item, Reports (itemWrong i item) (check [key, toString i] item).violations)
    (hrank : ∀ {i item s v}, itemWrong i item s v → ∃ rest, s.rank = part :: i :: rest) (value : Value) :
    Reports (ListWrong spot itemWrong value) (listOf check key value).violations := by
  have hno : ¬ IsList value → Reports (ListWrong spot itemWrong value) [⟨[key], .list, value⟩] := by
    rw [← hplace]
    refine fun hvalue => (reports_of_not_shape hvalue).congr fun s v => ⟨fun hw => ?_, .noList⟩
    cases hw with
    | noList h => exact h
    | item _ _ => exact absurd ⟨_, rfl⟩ hvalue
  cases value with
  | arr items =>
    refine (reports_all heach ?_ 0 items).congr fun s v => ⟨fun hw => ?_, ?_⟩
    · intro i j a b s v s' v' hlt hw hw'
      obtain ⟨rest, hs⟩ := hrank hw
      obtain ⟨rest', hs'⟩ := hrank hw'
      rw [hs, hs']
      simp [List.cons_lt_cons_iff, hlt]
    · cases hw with
      | noList h => exact absurd h (not_misshapen_iff.2 ⟨items, rfl⟩ s v)
      | item hget h => exact ⟨_, _, hget, by rwa [Nat.zero_add]⟩
    · rintro ⟨i, item, hget, hw⟩
      exact .item hget (by rwa [Nat.zero_add] at hw)
  | null | bool | int | float | str | obj => exact hno fun ⟨_, h⟩ => nomatch h

theorem reports_edgesOf (ms : Members) :
    Reports (OptionWrong (ListWrong .edges EdgeWrong) (ms.get? "edges")) (edgesOf ms).violations := by
  unfold edgesOf
  cases ms.get? "edges" with
  | none => exact reports_none
  | some edges =>
    show Reports _ (Checked.violations ((listOf Edge.ofPayload "edges" edges).map some))
    rw [Checked.violations_map]
    exact (reports_listOf .edges rfl reports_edge EdgeWrong.rank_eq edges).some

theorem reports_ofMembers {nodes : Value} {ms : Members} (hget : ms.get? "nodes" = some nodes) :
    Reports (Wrong ms) (ofMembers nodes ms).violations := by
  have hnodes : Reports (OptionWrong (ListWrong .nodes NodeWrong) (ms.get? "nodes"))
      (listOf Node.ofPayload "nodes" nodes).violations := by
    rw [hget]
    exact (reports_listOf .nodes rfl reports_node NodeWrong.rank_eq nodes).some
  rw [ofMembers, Checked.violations_map, Checked.violations_both]
  refine (hnodes.append (reports_edgesOf ms) ?_).congr fun s v => ⟨fun hw => ?_, ?_⟩
  · rintro s v s' v' ⟨_, -, hw⟩ ⟨_, -, hw'⟩
    obtain ⟨rest, hs⟩ := hw.rank_eq rfl NodeWrong.rank_eq
    obtain ⟨rest', hs'⟩ := hw'.rank_eq rfl EdgeWrong.rank_eq
    rw [hs, hs']
    simp [List.cons_lt_cons_iff]
  · cases hw with
    | nodes h => exact .inl h
    | edges h => exact .inr h
  · rintro (h | h)
    · exact .nodes h
    · exact .edges h

/-! ## A check that fails says why -/

theorem explains_node (place : List String) (node : Value) : (Node.ofPayload place node).Explains := by
  cases node with
  | obj ms =>
    have htype : (Node.typeOf place ms).Explains := by
      unfold Node.typeOf
      split <;> exact fun heq => nomatch heq
    have hdata : (Node.dataOf place ms).Explains := by
      unfold Node.dataOf
      split <;> exact fun heq => nomatch heq
    exact (htype.both hdata).map _
  | null | bool | int | float | str | arr => exact fun heq => nomatch heq

theorem explains_edge (place : List String) (edge : Value) : (Edge.ofPayload place edge).Explains := by
  cases edge <;> exact fun heq => nomatch heq

theorem explains_listOf {α : Type} {check : List String → Value → Checked α}
    (h : ∀ place item, (check place item).Explains) (key : String) (value : Value) :
    (listOf check key value).Explains := by
  cases value with
  | arr items => exact Checked.explains_all (fun i item => h _ item) 0 items
  | null | bool | int | float | str | obj => exact fun heq => nomatch heq

theorem explains_ofMembers (nodes : Value) (ms : Members) : (ofMembers nodes ms).Explains := by
  have hedges : (edgesOf ms).Explains := by
    unfold edgesOf
    split
    · exact (explains_listOf explains_edge "edges" _).map some
    · exact fun heq => nomatch heq
  exact ((explains_listOf explains_node "nodes" nodes).both hedges).map _

/-! ## Acceptance -/

theorem not_isWorkflow_of_no_nodes {ms : Members} (h : ms.get? "nodes" = none) : ¬ IsWorkflow (.obj ms) := by
  rintro ⟨hget, -, -⟩
  cases h.symm.trans hget

/-- With nodes of some sort, an object is a workflow, or there is a full report on it. -/
theorem ofPayload_of_nodes {ms : Members} {nodes : Value} (hget : ms.get? "nodes" = some nodes) :
    ((∃ w, ofPayload (.obj ms) = .ok w) ↔ IsWorkflow (.obj ms)) ∧
    (¬ IsWorkflow (.obj ms) →
      ∃ vs, ofPayload (.obj ms) = .error (.violations vs) ∧ vs ≠ [] ∧ Reports (Wrong ms) vs) := by
  have hreport := reports_ofMembers hget
  have hempty := hreport.eq_nil_iff.trans (not_wrong_iff hget)
  have hpayload : ofPayload (.obj ms) = (ofMembers nodes ms).mapError .violations := by
    rw [ofPayload]
    simp only [hget]
  constructor
  · rw [hpayload, ← hempty, ← (explains_ofMembers nodes ms).isOk_iff]
    cases ofMembers nodes ms with
    | ok w => exact ⟨fun _ => ⟨w, rfl⟩, fun _ => ⟨w, rfl⟩⟩
    | error vs => exact ⟨fun ⟨_, h⟩ => (nomatch h), fun ⟨_, h⟩ => (nomatch h)⟩
  · intro hno
    have hne := mt hempty.1 hno
    refine ⟨_, ?_, hne, hreport⟩
    rw [hpayload, Checked.eq_error_of_violations_ne_nil hne]
    rfl

/-- **A value is taken for a workflow if it has the shape of one, or it is said why not.**  What is no object, and an
object without nodes, is refused as such; any other object gets a full report of what is wrong with it. -/
theorem ofPayload_accepts_or_reports (payload : Value) :
    ((∃ w, ofPayload payload = .ok w) ↔ IsWorkflow payload) ∧
    (¬ IsObject payload → ofPayload payload = .error (.notObject payload)) ∧
    ∀ ms : Members, payload = .obj ms →
      (ms.get? "nodes" = none → ofPayload payload = .error .noNodes) ∧
      (ms.get? "nodes" ≠ none → ¬ IsWorkflow payload →
        ∃ vs, ofPayload payload = .error (.violations vs) ∧ vs ≠ [] ∧ Reports (Wrong ms) vs) := by
  cases payload with
  | obj ms =>
    cases hget : Members.get? ms "nodes" with
    | none =>
      have hrefused : ofPayload (.obj ms) = .error .noNodes := by
        rw [ofPayload]
        simp only [hget]
      refine ⟨⟨?_, fun h => absurd h (not_isWorkflow_of_no_nodes hget)⟩, fun h => absurd ⟨ms, rfl⟩ h, ?_⟩
      · rintro ⟨w, hw⟩
        cases hrefused.symm.trans hw
      · rintro _ ⟨rfl⟩
        exact ⟨fun _ => hrefused, fun h => absurd hget h⟩
    | some nodes =>
      obtain ⟨haccepts, hreports⟩ := ofPayload_of_nodes hget
      refine ⟨haccepts, fun h => absurd ⟨ms, rfl⟩ h, ?_⟩
      rintro _ ⟨rfl⟩
      exact ⟨fun hnone => (nomatch hget.symm.trans hnone), fun _ => hreports⟩
  | null | bool | int | float | str | arr =>
    refine ⟨⟨?_, ?_⟩, fun _ => rfl, fun _ h => nomatch h⟩
    · rintro ⟨_, h⟩
      cases h
    · rintro ⟨⟩

/-- Both faults of a node, a null where edges may be left out, and the order in which all are reported. -/
example : ofPayload (.obj [("edges", .null), ("nodes", .arr [.obj [("data", .int 0)], .null])]) =
    .error (.violations [⟨["nodes", "0", "type"], .required, .obj [("data", .int 0)]⟩,
      ⟨["nodes", "0", "data"], .object, .int 0⟩, ⟨["nodes", "1"], .record "WorkflowNode", .null⟩,
      ⟨["edges"], .list, .null⟩]) := by rfl

end Workflow
end FlowBundle
