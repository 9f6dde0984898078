import FlowBundle.Bundle
import FlowBundle.Proofs.Workflow.ReadBack
/-!
# Workflows that can be written

A workflow is given back with the values that it was received with, so it can be written if the value can that it was
taken from (`fits_toPayload`).  The texts of its configuration are made of values within it, so what can be written
leaves nothing unspelt (`unspelt?_of_fits`), nor does what was read (`unspelt?_of_readWithin`).  What can be written is
exported as the bundle that it is, and else it is not exported at all
(`Bundle.exported_of_fits`, `Bundle.exported_of_not_fits`).
-/
namespace FlowBundle

open Json (Value Members)

namespace Json

variable {room : Nat}

/-! ## Parts -/

theorem Value.Fits.of_mem_arr {vs : List Value} (h : (Value.arr vs).Fits room) {v : Value} (hv : v ∈ vs) :
    v.Fits (room - 1) := by
  obtain ⟨less, rfl, hall⟩ := h.arr (List.ne_nil_of_mem hv)
  exact hall v hv

theorem Value.Fits.of_mem_obj {ms : Members} (h : (Value.obj ms).Fits room) {m : String × Value} (hm : m ∈ ms) :
    m.2.Fits (room - 1) := by
  obtain ⟨less, rfl, hall⟩ := h.obj (List.ne_nil_of_mem hm)
  exact hall m hm

/-- A list of values that take no more room than some of another list. -/
theorem Value.Fits.arr_of {vs ws : List Value} (h : (Value.arr vs).Fits room)
    (hfrom : ∀ w ∈ ws, ∃ v ∈ vs, ∀ room, v.Fits room → w.Fits room) : (Value.arr ws).Fits room := by
  by_cases hws : ws = []
  · rw [hws]
    rfl
  obtain ⟨w, hw⟩ := List.exists_mem_of_ne_nil ws hws
  obtain ⟨v, hv, -⟩ := hfrom w hw
  obtain ⟨less, rfl, hall⟩ := h.arr (List.ne_nil_of_mem hv)
  refine fits_arr.2 fun w hw => ?_
  obtain ⟨v, hv, hle⟩ := hfrom w hw
  exact hle less (hall v hv)

theorem Value.Fits.obj_of {ms ns : Members} (h : (Value.obj ms).Fits room)
    (hfrom : ∀ n ∈ ns, ∃ m ∈ ms, ∀ room, m.2.Fits room → n.2.Fits room) : (Value.obj ns).Fits room := by
  by_cases hns : ns = []
  · rw [hns]
    rfl
  obtain ⟨n, hn⟩ := List.exists_mem_of_ne_nil ns hns
  obtain ⟨m, hm, -⟩ := hfrom n hn
  obtain ⟨less, rfl, hall⟩ := h.obj (List.ne_nil_of_mem hm)
  refine fits_obj.2 fun n hn => ?_
  obtain ⟨m, hm, hle⟩ := hfrom n hn
  exact hle less (hall m hm)

end Json

/-- What a member of the object has as its value, a member of the other has too. -/
def Taken (ms ns : Members) : Prop := ∀ n ∈ ns, ∃ m ∈ ms, m.2 = n.2

theorem Taken.fits {ms ns : Members} (h : Taken ms ns) {room : Nat} (hms : (Value.obj ms).Fits room) :
    (Value.obj ns).Fits room := by
  refine hms.obj_of fun n hn => ?_
  obtain ⟨m, hm, heq⟩ := h n hn
  exact ⟨m, hm, fun room => heq ▸ id⟩

theorem Taken.append {ms ns ns' : Members} (h : Taken ms ns) (h' : Taken ms ns') : Taken ms (ns ++ ns') := by
  intro n hn
  rcases List.mem_append.1 hn with hn | hn
  · exact h n hn
  · exact h' n hn

theorem taken_received {ms : Members} {found : String} (key : String) {o : Option Value} (h : ms.get? found = o) :
    Taken ms (received key o) := by
  intro m hm
  cases o with
  | none => cases hm
  | some v =>
    obtain rfl := List.mem_singleton.1 hm
    exact ⟨_, Members.mem_of_get? h, rfl⟩

theorem taken_without (ms : Members) (keys : List String) : Taken ms (ms.without keys) :=
  fun n hn => ⟨n, (List.mem_filter.1 hn).1, rfl⟩

theorem taken_handleOf (ms : Members) (key other : String) :
    Taken ms (received key (Edge.handleOf key other ms).1) := by
  unfold Edge.handleOf
  split <;> exact taken_received key rfl

theorem Node.IsFrom.taken {n : Node} {ms : Members} (h : n.IsFrom ms) : Taken ms (n.fields ++ n.extra) := by
  have hid : Taken ms (received "id" n.id) := taken_received "id" h.id_eq
  have htype : Taken ms [("type", .str n.type)] := taken_received "type" h.type_eq
  have hdata : Taken ms (received "data" (n.data.map .obj)) := taken_received "data" h.data_eq
  have hextra : Taken ms n.extra := h.extra_eq ▸ taken_without ms Node.keys
  exact ((hid.append htype).append hdata).append hextra

theorem Edge.taken_ofMembers (ms : Members) : Taken ms ((ofMembers ms).fields ++ (ofMembers ms).extra) := by
  have hid : Taken ms (received "id" (ms.get? "id")) := taken_received "id" rfl
  have hsource : Taken ms (received "source" (ms.get? "source")) := taken_received "source" rfl
  have htarget : Taken ms (received "target" (ms.get? "target")) := taken_received "target" rfl
  exact ((((hid.append hsource).append htarget).append (taken_handleOf ms "sourceHandle" "source_handle")).append
    (taken_handleOf ms "targetHandle" "target_handle")).append (taken_without ms _)

namespace Workflow

/-- A list of objects that are taken from objects in a list. -/
theorem exists_fits_listed {α : Type} {form : α → Members} {ms : Members} {key : String} {m : String × Value}
    (hm : m ∈ ms) {as : List α} (h : ∀ a ∈ as, ∃ members, Lists ms key members ∧ Taken members (form a)) :
    ∃ m ∈ ms, ∀ room, m.2.Fits room → (Value.arr (as.map fun a => .obj (form a))).Fits room := by
  cases as with
  | nil => exact ⟨m, hm, fun room _ => rfl⟩
  | cons a as =>
    obtain ⟨members, ⟨items, hget, -⟩, -⟩ := h a List.mem_cons_self
    refine ⟨_, Members.mem_of_get? hget, fun room hitems => hitems.arr_of fun v hv => ?_⟩
    obtain ⟨a', ha', rfl⟩ := List.mem_map.1 hv
    obtain ⟨members, ⟨items', hget', hitem⟩, htaken⟩ := h a' ha'
    obtain ⟨⟩ := Option.some.inj (hget.symm.trans hget')
    exact ⟨_, hitem, fun room => htaken.fits⟩

/-- **What a workflow is taken from can be written, and so can the workflow.** -/
theorem fits_toPayload {payload : Value} {w : Workflow} (h : ofPayload payload = .ok w) {room : Nat}
    (hfits : payload.Fits room) : w.toPayload.Fits room := by
  obtain ⟨ms, nodes, rfl, hget, hmade⟩ := exists_ofMembers_of_ofPayload h
  have hfrom := isFrom_of_ofMembers hget hmade
  have hnodes := exists_fits_listed (Members.mem_of_get? hget) fun n hn =>
    (hfrom.nodes_from n hn).imp fun _ h => ⟨h.2, h.1.taken⟩
  rw [toPayload_eq]
  refine hfits.obj_of fun m hm => ?_
  rcases List.mem_append.1 hm with hm | hm
  · rcases List.mem_append.1 hm with hm | hm
    · obtain rfl := List.mem_singleton.1 hm
      exact hnodes
    · cases hes : w.edges with
      | none =>
        rw [hes] at hm
        cases hm
      | some es =>
        rw [hes] at hm
        obtain rfl := List.mem_singleton.1 hm
        have hedges : ∀ e ∈ es, ∃ ems, Lists ms "edges" ems ∧ Taken ems (e.fields ++ e.extra) := fun e he => by
          obtain ⟨ems, rfl, hlists⟩ := hfrom.edges_from es hes e he
          exact ⟨ems, hlists, Edge.taken_ofMembers ems⟩
        exact exists_fits_listed (Members.mem_of_get? hget) hedges
  · rw [← hfrom.extra_eq] at hm
    exact ⟨m, (List.mem_filter.1 hm).1, fun room => id⟩

variable {room : Nat} {w : Workflow}

/-- What a node asks for lies four deep in the workflow. -/
theorem fits_asked (hfits : w.toPayload.Fits room) {n : Node} (hn : n ∈ w.nodes) (key : String) :
    (n.asked key).Fits (room - 4) := by
  have hnodes : (Value.arr (w.nodes.map Node.toPayload)).Fits (room - 1) :=
    hfits.of_mem_obj (m := ("nodes", _)) List.mem_cons_self
  have hnode : n.toPayload.Fits (room - 2) := hnodes.of_mem_arr (List.mem_map_of_mem hn)
  rw [Node.asked, Node.entry?]
  cases hdata : n.data with
  | none => rfl
  | some d =>
    have hmem : ("data", Value.obj d) ∈ n.fields ++ n.extra := by
      refine List.mem_append_left _ (List.mem_append_right _ ?_)
      rw [hdata]
      exact List.mem_cons_self
    have hd : (Value.obj d).Fits (room - 3) := Value.Fits.of_mem_obj (by rwa [← Node.toPayload_eq]) hmem
    show ((d.get? key).getD .null).Fits (room - 4)
    cases hentry : d.get? key with
    | none => rfl
    | some v => exact hd.of_mem_obj (Members.mem_of_get? hentry)

theorem mem_of_firstNode? {type : String} {n : Node} (h : w.firstNode? type = some n) : n ∈ w.nodes :=
  (List.mem_filter.1 (List.mem_of_head? h)).1

/-- **What can be written leaves nothing unspelt**, even with less room. -/
theorem unspelt?_of_fits_more {more : Nat} (hfits : w.toPayload.Fits more) (hle : more - 4 ≤ room) :
    w.unspelt? room = none := by
  refine List.findSome?_eq_none_iff.2 fun v hv => ?_
  rcases List.mem_append.1 hv with hv | hv
  · obtain ⟨n, hn, rfl⟩ := List.mem_map.1 hv
    exact (fits_asked hfits (List.mem_filter.1 hn).1 "message").mono hle
  · cases hmodel : w.firstNode? modelType with
    | none =>
      rw [hmodel] at hv
      cases hv
    | some n =>
      rw [hmodel] at hv
      obtain ⟨key, -, rfl⟩ := List.mem_map.1 hv
      exact (fits_asked hfits (mem_of_firstNode? hmodel) key).mono hle

theorem unspelt?_of_fits (hfits : w.toPayload.Fits room) : w.unspelt? room = none :=
  unspelt?_of_fits_more hfits (Nat.sub_le room 4)

/-- **What was read can be written** with the room that there was. -/
theorem fits_of_readWithin {text : String} {payload : Value} (hread : Json.readWithin room text = .ok payload)
    (h : ofPayload payload = .ok w) : w.toPayload.Fits room := by
  obtain ⟨hreadable, hdepth⟩ := Json.readableIn_of_readWithin hread
  exact fits_toPayload h (Json.fits_of_readable hreadable hdepth)

/-- **What was read leaves nothing unspelt**, though there be less room for writing than there was for reading. -/
theorem unspelt?_of_readWithin {limits : Json.Limits} (hlimits : limits.reading - 4 ≤ limits.writing) {text : String}
    {payload : Value} (hread : Json.readWithin limits.reading text = .ok payload) (h : ofPayload payload = .ok w) :
    w.unspelt? limits.writing = none :=
  unspelt?_of_fits_more (fits_of_readWithin hread h) hlimits

end Workflow

/-! ## Bundles -/

namespace Bundle

/-- A fault of a workflow that cannot be written. -/
def Fault.IsOverrun : Fault → Prop
  | .unspelt _ | .unwritten _ => True
  | .rejected _ | .blueprint _ => False

variable {room : Nat} {payload : Value} {w : Workflow}

theorem exported_of_fits (blueprints : List Blueprint) (h : Workflow.ofPayload payload = .ok w)
    (hfits : w.toPayload.Fits room) : exported room blueprints payload = ofPayload blueprints payload := by
  have hwritten : w.toPayload.overrun? room = none := hfits
  rw [exported, ofPayload, h]
  simp only [exportedWorkflow, Workflow.unspelt?_of_fits hfits, hwritten]
  cases ofWorkflow blueprints w <;> rfl

theorem exported_of_not_fits {blueprints : List Blueprint} (h : Workflow.ofPayload payload = .ok w)
    (hblueprints : ∃ b, ofWorkflow blueprints w = .ok b) (hfits : ¬ w.toPayload.Fits room) :
    ∃ fault : Fault, fault.IsOverrun ∧ exported room blueprints payload = .error fault := by
  obtain ⟨b, hb⟩ := hblueprints
  obtain ⟨overrun, hover⟩ := Option.ne_none_iff_exists'.1 hfits
  rw [exported, h]
  cases hspelt : w.unspelt? room with
  | some overrun => exact ⟨.unspelt overrun, trivial, by simp only [exportedWorkflow, hspelt]⟩
  | none => exact ⟨.unwritten overrun, trivial, by simp only [exportedWorkflow, hspelt, hb, hover]⟩

/-- **A payload is exported as a bundle**, unless it cannot be written; then it is not exported at all. -/
def ExportedAs (room : Nat) (blueprints : List Blueprint) (payload : Value) (b : Bundle) : Prop :=
  exported room blueprints payload = .ok b ∨
    ¬ payload.Fits room ∧ ∃ fault : Fault, fault.IsOverrun ∧ exported room blueprints payload = .error fault

theorem exportedAs_of_ok {blueprints : List Blueprint} (room : Nat) (h : Workflow.ofPayload payload = .ok w) {b : Bundle}
    (hb : ofWorkflow blueprints w = .ok b) : ExportedAs room blueprints payload b := by
  by_cases hfits : w.toPayload.Fits room
  · left
    rw [exported_of_fits _ h hfits, ofPayload, h]
    simp only [hb]
    rfl
  · exact .inr ⟨mt (Workflow.fits_toPayload h) hfits, exported_of_not_fits h ⟨b, hb⟩ hfits⟩

end Bundle
end FlowBundle
