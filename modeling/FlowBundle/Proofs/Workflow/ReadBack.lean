import FlowBundle.Proofs.Json.Members
import FlowBundle.Proofs.Json.ReadBack
import FlowBundle.Proofs.Violation
import FlowBundle.Workflow.Payload
/-!
# A workflow reads back

A workflow that was taken from a value is given back as a value with the known fields in front and the unknown keys
behind, and this value is taken for the same workflow (`ofPayload_toPayload`).  What makes it so is that the unknown
keys are none of the known ones.  The handles of an edge need one thing more: if a handle is missing, its second spelling
is no unknown key either, or it would be taken for the handle (`Edge.Sorted`).
-/
namespace FlowBundle

open Json (Value Members)

/-! ## Fields that were received -/

theorem keys_received (key : String) (o : Option Value) : (Table.keys (received key o)).Sublist [key] := by
  cases o with
  | none => exact List.nil_sublist [key]
  | some v => exact List.Sublist.refl [key]

theorem readable_received {o : Option Value} (key : String) (h : ∀ v, o = some v → v.Readable) :
    ∀ m ∈ received key o, m.2.Readable := by
  intro m hm
  cases o with
  | none => cases hm
  | some v =>
    obtain rfl := List.mem_singleton.1 hm
    exact h v rfl

theorem get?_received_self (key : String) (o : Option Value) {rest : Members} (h : rest.get? key = none) :
    Members.get? (received key o ++ rest) key = o := by
  rw [Members.get?, List.lookup_append]
  cases o with
  | none => exact h
  | some v => simp [received]

theorem get?_received_of_ne {key other : String} (hne : other ≠ key) (o : Option Value) (rest : Members) :
    Members.get? (received key o ++ rest) other = rest.get? other := by
  rw [Members.get?, List.lookup_append]
  cases o with
  | none => rfl
  | some v => rw [received, List.lookup_cons, beq_false_of_ne hne]; rfl

theorem readable_record {known : List String} (hknown : known.Nodup) {fields extra : Members}
    (hkeys : (Table.keys fields).Sublist known) (hfields : ∀ m ∈ fields, m.2.Readable) (hextra : extra.Readable)
    (hapart : ∀ key ∈ known, key ∉ Table.keys extra) : Members.Readable (fields ++ extra) :=
  Members.Readable.append ⟨hknown.sublist hkeys, hfields⟩ hextra fun key hkey => hapart key (hkeys.subset hkey)

/-! ## Nodes -/

namespace Node

def fields (n : Node) : Members :=
  received "id" n.id ++ [("type", .str n.type)] ++ received "data" (n.data.map .obj)

theorem toPayload_eq (n : Node) : n.toPayload = .obj (n.fields ++ n.extra) := rfl

theorem keys_fields (n : Node) : (Table.keys n.fields).Sublist keys := by
  rw [fields, Table.keys, List.map_append, List.map_append]
  exact ((keys_received "id" n.id).append (List.Sublist.refl ["type"])).append (keys_received "data" _)

/-- **What a node is read from.** -/
structure IsFrom (n : Node) (ms : Members) : Prop where
  id_eq : ms.get? "id" = n.id
  type_eq : ms.get? "type" = some (.str n.type)
  data_eq : ms.get? "data" = n.data.map .obj
  extra_eq : ms.without keys = n.extra

theorem ofPayload_eq_ok {place : List String} {v : Value} {n : Node} :
    ofPayload place v = .ok n ↔ ∃ ms, v = .obj ms ∧ n.IsFrom ms := by
  constructor
  · intro h
    cases v with
    | obj ms =>
      obtain ⟨⟨type, data⟩, hp, rfl⟩ := Checked.map_eq_ok h
      obtain ⟨htype, hdata⟩ := Checked.both_eq_ok hp
      refine ⟨ms, rfl, rfl, ?_, ?_, rfl⟩
      · unfold typeOf at htype
        split at htype
        · rename_i hget
          cases htype
          exact hget
        · cases htype
        · cases htype
      · unfold dataOf at hdata
        split at hdata
        · rename_i hget
          cases hdata
          exact hget
        · cases hdata
        · rename_i hget
          cases hdata
          exact hget
    | null | bool | int | float | str | arr => cases h
  · rintro ⟨ms, rfl, hid, htype, hdata, hextra⟩
    have htypeOf : typeOf place ms = .ok n.type := by rw [typeOf, htype]
    have hdataOf : dataOf place ms = .ok n.data := by
      rw [dataOf, hdata]
      cases n.data <;> rfl
    rw [ofPayload, htypeOf, hdataOf, hid, hextra]
    rfl

section
variable {n : Node} {ms : Members} (h : n.IsFrom ms)
include h

theorem IsFrom.extra_free : ∀ key ∈ keys, key ∉ Table.keys n.extra := by
  intro key hkey
  rw [← h.extra_eq]
  exact Members.not_mem_keys_without hkey

theorem IsFrom.readable (hms : ms.Readable) : n.toPayload.Readable := by
  refine (readable_record (by decide) n.keys_fields ?_ (h.extra_eq ▸ hms.without keys) h.extra_free).obj
  intro m hm
  rcases List.mem_append.1 hm with hm | hm
  · rcases List.mem_append.1 hm with hm | hm
    · exact readable_received "id" (fun v hv => hms.get? (h.id_eq.trans hv)) m hm
    · obtain rfl := List.mem_singleton.1 hm
      exact .str n.type
  · exact readable_received "data" (fun v hv => hms.get? (h.data_eq.trans hv)) m hm

/-- **A node is given back as members that it can be read from.** -/
theorem IsFrom.again : n.IsFrom (n.fields ++ n.extra) := by
  have hid : n.extra.get? "id" = none := Members.get?_of_not_mem (h.extra_free "id" (by decide))
  have hdata : n.extra.get? "data" = none := Members.get?_of_not_mem (h.extra_free "data" (by decide))
  refine ⟨?_, ?_, ?_, Members.without_append (fun key hkey => n.keys_fields.subset hkey) h.extra_free⟩
  · rw [fields, List.append_assoc, List.append_assoc]
    refine get?_received_self "id" n.id ?_
    exact (get?_received_of_ne (by decide) (some (.str n.type)) _).trans
      ((get?_received_of_ne (by decide) (n.data.map .obj) n.extra).trans hid)
  · rw [fields, List.append_assoc, List.append_assoc, get?_received_of_ne (by decide)]
    rfl
  · rw [fields, List.append_assoc, List.append_assoc, get?_received_of_ne (by decide)]
    exact (get?_received_of_ne (by decide) (some (.str n.type)) _).trans
      (get?_received_self "data" (n.data.map .obj) hdata)

end

end Node

/-! ## Edges -/

namespace Edge

def keys : List String := ["id", "source", "target", "sourceHandle", "targetHandle"]

def fields (e : Edge) : Members :=
  received "id" e.id ++ received "source" e.source ++ received "target" e.target ++
    received "sourceHandle" e.sourceHandle ++ received "targetHandle" e.targetHandle

theorem keys_fields (e : Edge) : (Table.keys e.fields).Sublist keys := by
  rw [fields, Table.keys, List.map_append, List.map_append, List.map_append, List.map_append]
  exact ((((keys_received "id" e.id).append (keys_received "source" e.source)).append
    (keys_received "target" e.target)).append (keys_received "sourceHandle" e.sourceHandle)).append
    (keys_received "targetHandle" e.targetHandle)

theorem ofPayload_eq_ok {place : List String} {v : Value} {e : Edge} :
    ofPayload place v = .ok e ↔ ∃ ms, v = .obj ms ∧ ofMembers ms = e := by
  constructor
  · intro h
    cases v with
    | obj ms =>
      cases h
      exact ⟨ms, rfl, rfl⟩
    | null | bool | int | float | str | arr => cases h
  · rintro ⟨ms, rfl, rfl⟩
    rfl

/-- **The unknown keys of an edge** are none of the known ones, and none that would be taken for a missing handle. -/
structure Sorted (e : Edge) : Prop where
  extra_free : ∀ key ∈ keys, key ∉ Table.keys e.extra
  source_free : e.sourceHandle = none → "source_handle" ∉ Table.keys e.extra
  target_free : e.targetHandle = none → "target_handle" ∉ Table.keys e.extra

/-! ### Handles -/

theorem key_mem_handleOf (key other : String) (ms : Members) : key ∈ (handleOf key other ms).2 := by
  unfold handleOf
  split <;> exact List.mem_cons_self

/-- A handle that is missing is missing under both spellings. -/
theorem other_mem_handleOf {key other : String} {ms : Members} (h : (handleOf key other ms).1 = none) :
    other ∈ (handleOf key other ms).2 := by
  unfold handleOf at h ⊢
  split at h
  · rename_i hhas
    rw [Members.has, show ms.get? key = none from h] at hhas
    cases hhas
  · rename_i hhas
    rw [if_neg hhas]
    exact List.mem_cons_of_mem key List.mem_cons_self

theorem readable_handleOf {key other : String} {ms : Members} (hms : ms.Readable) {v : Value}
    (h : (handleOf key other ms).1 = some v) : v.Readable := by
  unfold handleOf at h
  split at h <;> exact hms.get? h

theorem handleOf_eq {key other : String} {ms : Members} {o : Option Value} (h : ms.get? key = o)
    (hother : o = none → ms.get? other = none) :
    handleOf key other ms = (o, if o.isSome then [key] else [key, other]) := by
  unfold handleOf Members.has
  rw [h]
  cases o with
  | some v => rfl
  | none => rw [hother rfl]; rfl

/-! ### Reading back -/

theorem sorted_ofMembers (ms : Members) : (ofMembers ms).Sorted := by
  have hfree : ∀ key ∈ ["id", "source", "target"] ++ (handleOf "sourceHandle" "source_handle" ms).2 ++
      (handleOf "targetHandle" "target_handle" ms).2, key ∉ Table.keys (ofMembers ms).extra :=
    fun key hkey => Members.not_mem_keys_without hkey
  refine ⟨fun key hkey => hfree key ?_, fun h => hfree _ ?_, fun h => hfree _ ?_⟩
  · rw [List.append_assoc, List.mem_append, List.mem_append]
    simp only [keys, List.mem_cons, List.not_mem_nil, or_false] at hkey
    rcases hkey with rfl | rfl | rfl | rfl | rfl
    · exact .inl (by decide)
    · exact .inl (by decide)
    · exact .inl (by decide)
    · exact .inr (.inl (key_mem_handleOf _ _ ms))
    · exact .inr (.inr (key_mem_handleOf _ _ ms))
  · exact List.mem_append_left _ (List.mem_append_right _ (other_mem_handleOf h))
  · exact List.mem_append_right _ (other_mem_handleOf h)

theorem readable_ofMembers {ms : Members} (hms : ms.Readable) : (ofMembers ms).toPayload.Readable := by
  have hextra : (ofMembers ms).extra.Readable := hms.without _
  refine (readable_record (by decide) (keys_fields _) ?_ hextra (sorted_ofMembers ms).extra_free).obj
  intro m hm
  simp only [fields, List.mem_append] at hm
  rcases hm with (((hm | hm) | hm) | hm) | hm
  · exact readable_received "id" (fun v hv => hms.get? hv) m hm
  · exact readable_received "source" (fun v hv => hms.get? hv) m hm
  · exact readable_received "target" (fun v hv => hms.get? hv) m hm
  · exact readable_received "sourceHandle" (fun v hv => readable_handleOf hms hv) m hm
  · exact readable_received "targetHandle" (fun v hv => readable_handleOf hms hv) m hm

theorem get?_unknown (e : Edge) {key : String} (h : key ∉ keys) :
    Members.get? (e.fields ++ e.extra) key = e.extra.get? key := by
  have hnone : List.lookup key e.fields = none :=
    Members.get?_of_not_mem fun hkey => h (e.keys_fields.subset hkey)
  rw [Members.get?, List.lookup_append, hnone]
  rfl

theorem get?_known {e : Edge} (h : ∀ key ∈ keys, e.extra.get? key = none) :
    Members.get? (e.fields ++ e.extra) "id" = e.id ∧ Members.get? (e.fields ++ e.extra) "source" = e.source ∧
    Members.get? (e.fields ++ e.extra) "target" = e.target ∧
    Members.get? (e.fields ++ e.extra) "sourceHandle" = e.sourceHandle ∧
    Members.get? (e.fields ++ e.extra) "targetHandle" = e.targetHandle := by
  simp only [keys, List.mem_cons, List.not_mem_nil, or_false, forall_eq_or_imp, forall_eq] at h
  obtain ⟨hid, hsource, htarget, hsourceHandle, htargetHandle⟩ := h
  unfold fields
  simp only [List.append_assoc]
  refine ⟨?_, ?_, ?_, ?_, ?_⟩
  · refine get?_received_self "id" e.id ?_
    repeat rw [get?_received_of_ne (by decide)]
    exact hid
  · rw [get?_received_of_ne (by decide)]
    refine get?_received_self "source" e.source ?_
    repeat rw [get?_received_of_ne (by decide)]
    exact hsource
  · repeat rw [get?_received_of_ne (by decide)]
    refine get?_received_self "target" e.target ?_
    repeat rw [get?_received_of_ne (by decide)]
    exact htarget
  · repeat rw [get?_received_of_ne (by decide)]
    refine get?_received_self "sourceHandle" e.sourceHandle ?_
    rw [get?_received_of_ne (by decide)]
    exact hsourceHandle
  · repeat rw [get?_received_of_ne (by decide)]
    exact get?_received_self "targetHandle" e.targetHandle htargetHandle

/-- The keys that are left out of an edge on its way back are the known ones, and the second spelling of a handle that
is missing. -/
theorem Sorted.without_eq {e : Edge} (h : e.Sorted) :
    Members.without (["id", "source", "target"] ++
      (if e.sourceHandle.isSome then ["sourceHandle"] else ["sourceHandle", "source_handle"]) ++
      (if e.targetHandle.isSome then ["targetHandle"] else ["targetHandle", "target_handle"]))
      (e.fields ++ e.extra) = e.extra := by
  refine Members.without_append (fun key hkey => ?_) (fun key hkey => ?_)
  · have hknown := e.keys_fields.subset hkey
    simp only [keys, List.mem_cons, List.not_mem_nil, or_false] at hknown
    rcases hknown with rfl | rfl | rfl | rfl | rfl <;> split <;> split <;> decide
  · simp only [List.append_assoc, List.mem_append] at hkey
    rcases hkey with hkey | hkey | hkey
    · exact h.extra_free key (List.mem_of_mem_take (i := 3) hkey)
    · split at hkey
      · exact h.extra_free key (List.mem_singleton.1 hkey ▸ by decide)
      · rename_i hmissing
        rcases List.mem_cons.1 hkey with rfl | hkey
        · exact h.extra_free _ (by decide)
        · exact List.mem_singleton.1 hkey ▸ h.source_free (Option.not_isSome_iff_eq_none.1 hmissing)
    · split at hkey
      · exact h.extra_free key (List.mem_singleton.1 hkey ▸ by decide)
      · rename_i hmissing
        rcases List.mem_cons.1 hkey with rfl | hkey
        · exact h.extra_free _ (by decide)
        · exact List.mem_singleton.1 hkey ▸ h.target_free (Option.not_isSome_iff_eq_none.1 hmissing)

/-- **An edge is given back as members that it can be read from.** -/
theorem Sorted.again {e : Edge} (h : e.Sorted) : ofMembers (e.fields ++ e.extra) = e := by
  obtain ⟨hid, hsource, htarget, hsourceHandle, htargetHandle⟩ :=
    e.get?_known fun key hkey => Members.get?_of_not_mem (h.extra_free key hkey)
  have hs := handleOf_eq hsourceHandle fun hnone =>
    (e.get?_unknown (by decide)).trans (Members.get?_of_not_mem (h.source_free hnone))
  have ht := handleOf_eq htargetHandle fun hnone =>
    (e.get?_unknown (by decide)).trans (Members.get?_of_not_mem (h.target_free hnone))
  unfold ofMembers
  rw [hs, ht, hid, hsource, htarget]
  simp only
  rw [h.without_eq]

end Edge

/-! ## Workflows -/

namespace Workflow

def keys : List String := ["nodes", "edges"]

def fields (w : Workflow) : Members :=
  [("nodes", .arr (w.nodes.map Node.toPayload))] ++
    received "edges" (w.edges.map fun es => .arr (es.map Edge.toPayload))

theorem toPayload_eq (w : Workflow) : w.toPayload = .obj (w.fields ++ w.extra) := rfl

theorem keys_fields (w : Workflow) : (Table.keys w.fields).Sublist keys := by
  rw [fields, Table.keys, List.map_append]
  exact (List.Sublist.refl ["nodes"]).append (keys_received "edges" _)

/-- In the list under a key there is an object with these members. -/
def Lists (ms : Members) (key : String) (members : Members) : Prop :=
  ∃ items, ms.get? key = some (.arr items) ∧ Value.obj members ∈ items

/-- **What a workflow is made of.** -/
structure IsFrom (w : Workflow) (ms : Members) : Prop where
  nodes_from : ∀ n ∈ w.nodes, ∃ nms, n.IsFrom nms ∧ Lists ms "nodes" nms
  edges_from : ∀ es, w.edges = some es → ∀ e ∈ es, ∃ ems, Edge.ofMembers ems = e ∧ Lists ms "edges" ems
  extra_eq : ms.without keys = w.extra

theorem listOf_eq_ok {α : Type} {check : List String → Value → Checked α} {key : String} {v : Value} {as : List α}
    (h : listOf check key v = .ok as) : ∃ items, v = .arr items ∧
      ∀ a ∈ as, ∃ place, ∃ item ∈ items, check place item = .ok a := by
  cases v with
  | arr items =>
    refine ⟨items, rfl, fun a ha => ?_⟩
    obtain ⟨j, item, hitem, hcheck⟩ := Checked.exists_of_mem_all h a ha
    exact ⟨_, item, hitem, hcheck⟩
  | null | bool | int | float | str | obj => cases h

theorem readable_item {ms : Members} {key : String} {items : List Value} (hms : ms.Readable)
    (hget : ms.get? key = some (.arr items)) {members : Members} (hitem : Value.obj members ∈ items) :
    members.Readable := by
  cases hms.get? hget with
  | arr h => exact Members.readable_of_obj (h _ hitem)

theorem Lists.readable {ms members : Members} {key : String} (h : Lists ms key members) (hms : ms.Readable) :
    members.Readable := by
  obtain ⟨items, hget, hitem⟩ := h
  exact readable_item hms hget hitem

theorem nodes_from {ms : Members} {nodes : Value} (hget : ms.get? "nodes" = some nodes) {ns : List Node}
    (h : listOf Node.ofPayload "nodes" nodes = .ok ns) : ∀ n ∈ ns, ∃ nms, n.IsFrom nms ∧ Lists ms "nodes" nms := by
  intro n hn
  obtain ⟨items, rfl, hitems⟩ := listOf_eq_ok h
  obtain ⟨place, item, hitem, hcheck⟩ := hitems n hn
  obtain ⟨nms, rfl, hfrom⟩ := Node.ofPayload_eq_ok.1 hcheck
  exact ⟨nms, hfrom, items, hget, hitem⟩

theorem edges_from {ms : Members} {es : List Edge} (h : edgesOf ms = .ok (some es)) :
    ∀ e ∈ es, ∃ ems, Edge.ofMembers ems = e ∧ Lists ms "edges" ems := by
  intro e he
  unfold edgesOf at h
  split at h
  · rename_i v hget
    obtain ⟨es', hlist, hsome⟩ := Checked.map_eq_ok h
    cases hsome
    obtain ⟨items, rfl, hitems⟩ := listOf_eq_ok hlist
    obtain ⟨place, item, hitem, hcheck⟩ := hitems e he
    obtain ⟨ems, rfl, hfrom⟩ := Edge.ofPayload_eq_ok.1 hcheck
    exact ⟨ems, hfrom, items, hget, hitem⟩
  · cases h

theorem isFrom_of_ofMembers {nodes : Value} {ms : Members} (hget : ms.get? "nodes" = some nodes) {w : Workflow}
    (h : ofMembers nodes ms = .ok w) : w.IsFrom ms := by
  obtain ⟨⟨ns, es⟩, hp, rfl⟩ := Checked.map_eq_ok h
  obtain ⟨hns, hes⟩ := Checked.both_eq_ok hp
  refine ⟨nodes_from hget hns, fun es' hes' => ?_, rfl⟩
  obtain rfl : es = some es' := hes'
  exact edges_from hes

theorem exists_ofMembers_of_ofPayload {payload : Value} {w : Workflow} (h : ofPayload payload = .ok w) :
    ∃ (ms : Members) (nodes : Value), payload = .obj ms ∧ ms.get? "nodes" = some nodes ∧ ofMembers nodes ms = .ok w := by
  cases payload with
  | obj ms =>
    unfold ofPayload at h
    simp only at h
    split at h
    · cases h
    · rename_i nodes hget
      cases hchecked : ofMembers nodes ms with
      | error vs =>
        rw [hchecked] at h
        cases h
      | ok w' =>
        rw [hchecked] at h
        cases h
        exact ⟨ms, nodes, rfl, hget, hchecked⟩
  | null | bool | int | float | str | arr => cases h

theorem isFrom_of_ofPayload {payload : Value} {w : Workflow} (h : ofPayload payload = .ok w) :
    ∃ ms, payload = .obj ms ∧ w.IsFrom ms := by
  obtain ⟨ms, nodes, hpayload, hget, hmade⟩ := exists_ofMembers_of_ofPayload h
  exact ⟨ms, hpayload, isFrom_of_ofMembers hget hmade⟩

section
variable {w : Workflow} {ms : Members} (h : w.IsFrom ms)
include h

theorem IsFrom.extra_free : ∀ key ∈ keys, key ∉ Table.keys w.extra := by
  intro key hkey
  rw [← h.extra_eq]
  exact Members.not_mem_keys_without hkey

theorem IsFrom.readable (hms : ms.Readable) : w.toPayload.Readable := by
  refine (readable_record (by decide) w.keys_fields ?_ (h.extra_eq ▸ hms.without keys) h.extra_free).obj
  intro m hm
  rcases List.mem_append.1 hm with hm | hm
  · obtain rfl := List.mem_singleton.1 hm
    refine .arr fun v hv => ?_
    obtain ⟨n, hn, rfl⟩ := List.mem_map.1 hv
    obtain ⟨nms, hfrom, hlists⟩ := h.nodes_from n hn
    exact hfrom.readable (hlists.readable hms)
  · refine readable_received "edges" (fun v hv => ?_) m hm
    obtain ⟨es, hes, rfl⟩ := Option.map_eq_some_iff.1 hv
    refine .arr fun v hv => ?_
    obtain ⟨e, he, rfl⟩ := List.mem_map.1 hv
    obtain ⟨ems, rfl, hlists⟩ := h.edges_from es hes e he
    exact Edge.readable_ofMembers (hlists.readable hms)

theorem IsFrom.listOf_nodes :
    listOf Node.ofPayload "nodes" (.arr (w.nodes.map Node.toPayload)) = .ok w.nodes := by
  refine Checked.all_map 0 w.nodes fun n hn i => ?_
  obtain ⟨nms, hfrom, -⟩ := h.nodes_from n hn
  exact Node.ofPayload_eq_ok.2 ⟨_, rfl, hfrom.again⟩

theorem IsFrom.listOf_edges {es : List Edge} (hes : w.edges = some es) :
    listOf Edge.ofPayload "edges" (.arr (es.map Edge.toPayload)) = .ok es := by
  refine Checked.all_map 0 es fun e he i => ?_
  obtain ⟨ems, rfl, -⟩ := h.edges_from es hes e he
  exact Edge.ofPayload_eq_ok.2 ⟨_, rfl, (Edge.sorted_ofMembers ems).again⟩

/-- **A workflow is given back as a value that it can be read from.** -/
theorem IsFrom.ofPayload_toPayload : ofPayload w.toPayload = .ok w := by
  have hedges : Members.get? (w.fields ++ w.extra) "edges" = w.edges.map fun es => .arr (es.map Edge.toPayload) :=
    get?_received_self "edges" _ (Members.get?_of_not_mem (h.extra_free "edges" (by decide)))
  have hextra : Members.without keys (w.fields ++ w.extra) = w.extra :=
    Members.without_append (fun key hkey => w.keys_fields.subset hkey) h.extra_free
  have hedgesOf : edgesOf (w.fields ++ w.extra) = .ok w.edges := by
    rw [edgesOf, hedges]
    cases hes : w.edges with
    | none => rfl
    | some es =>
      show (listOf Edge.ofPayload "edges" (.arr (es.map Edge.toPayload))).map some = _
      rw [h.listOf_edges hes]
      rfl
  rw [toPayload_eq, ofPayload]
  show (ofMembers (.arr (w.nodes.map Node.toPayload)) (w.fields ++ w.extra)).mapError Rejection.violations = _
  rw [ofMembers, h.listOf_nodes, hedgesOf]
  show Except.ok (Workflow.mk w.nodes w.edges (Members.without keys (w.fields ++ w.extra))) = _
  rw [hextra]

end

/-- **The text of a workflow says the workflow**, whatever the indent. -/
theorem read_toText {payload : Value} (hpayload : payload.Readable) {w : Workflow} (h : ofPayload payload = .ok w)
    (indent : Option Int) : Json.read (w.toText indent) = .ok w.toPayload ∧ ofPayload w.toPayload = .ok w := by
  obtain ⟨ms, rfl, hfrom⟩ := isFrom_of_ofPayload h
  exact ⟨Json.read_text (hfrom.readable (Members.readable_of_obj hpayload)) indent, hfrom.ofPayload_toPayload⟩

end Workflow
end FlowBundle
