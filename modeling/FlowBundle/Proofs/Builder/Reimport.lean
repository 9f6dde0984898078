import FlowBundle.Builder.Basic
import FlowBundle.Proofs.Blueprint.Rendering
import FlowBundle.Proofs.Workflow.Echo
/-!
# A bundle made again from its own workflow

A bundle holds its workflow as a text.  Reading this text, or the text of the workflow in any other layout, gives a
payload of which the same workflow, the same summary and the same bundle are made (`generate_read_toText`).  The payload
itself is the one first received, up to the order of members, unless an edge had a handle under its second spelling
alone (`workflowFile_says_graph`).
-/
namespace FlowBundle

open Json (Value)

namespace Bundle

/-- A bundle sees its payload only through the workflow. -/
theorem ofPayload_congr (blueprints : List Blueprint) {payload again : Value}
    (h : Workflow.ofPayload again = Workflow.ofPayload payload) :
    ofPayload blueprints again = ofPayload blueprints payload := by
  rw [ofPayload, h, ← ofPayload]

theorem exported_congr (room : Nat) (blueprints : List Blueprint) {payload again : Value}
    (h : Workflow.ofPayload again = Workflow.ofPayload payload) :
    exported room blueprints again = exported room blueprints payload := by
  rw [exported, h, ← exported]

theorem ofPayload_of_ok (blueprints : List Blueprint) {payload : Value} {w : Workflow}
    (h : Workflow.ofPayload payload = .ok w) :
    ofPayload blueprints payload = (ofWorkflow blueprints w).mapError .blueprint := by
  rw [ofPayload, h]

theorem file?_workflowPath {blueprints : List Blueprint} {w : Workflow} {b : Bundle}
    (h : ofWorkflow blueprints w = .ok b) (hfree : Blueprint.workflowPath ∉ blueprints.map (·.path)) :
    b.file? Blueprint.workflowPath = some (workflowFile w) := by
  unfold ofWorkflow at h
  simp only at h
  cases hfiles : blueprints.mapM (fileOf w.config (Family.ofModel w.config.model)) with
  | error fault =>
    rw [hfiles] at h
    cases h
  | ok files =>
    rw [hfiles] at h
    cases h
    have hpaths := map_of_mapM_eq_ok (fun _ _ h => path_of_fileOf h) blueprints files hfiles
    have hnone : files.find? (·.path == Blueprint.workflowPath) = none := by
      refine List.find?_eq_none.2 fun f hf hpath => hfree ?_
      rw [← hpaths, ← eq_of_beq hpath]
      exact List.mem_map_of_mem hf
    rw [file?, List.find?_append, hnone]
    rfl

end Bundle

namespace Builder

theorem generate_congr (b : Builder) {payload again : Value}
    (h : Workflow.ofPayload again = Workflow.ofPayload payload) : b.generate again = b.generate payload := by
  have hsummary : Simulation.summarize b.room again = Simulation.summarize b.room payload := by
    rw [Simulation.summarize, Simulation.configOf, h, ← Simulation.configOf, ← Simulation.summarize]
  rw [generate, Bundle.exported_congr b.room b.blueprints h, hsummary, ← generate]

/-- **What a workflow was read from makes no difference.**  The text of a workflow, in any layout, is read as a payload of
which the same workflow and the same stage are made; and so is the text in the workflow's own bundle, which is made
again from it, file by file. -/
theorem generate_read_toText {payload : Value} (hpayload : payload.Readable) {w : Workflow}
    (h : Workflow.ofPayload payload = .ok w) :
    (∀ indent, Json.read (w.toText indent) = .ok w.toPayload) ∧
    Workflow.ofPayload w.toPayload = .ok w ∧
    (∀ b : Builder, b.generate w.toPayload = b.generate payload) ∧
    ∃ bundle file, Bundle.ofPayload Blueprint.backend payload = .ok bundle ∧
      bundle.paths = Blueprint.backendPaths ∧ bundle.file? Blueprint.workflowPath = some file ∧
      ∃ again, Json.read file.content = .ok again ∧ Bundle.ofPayload Blueprint.backend again = .ok bundle := by
  have hread := Workflow.read_toText hpayload h
  have hagain := (hread none).2
  obtain ⟨bundle, hbundle, hpaths⟩ := Bundle.ofWorkflow_backend w
  have hmade : Bundle.ofPayload Blueprint.backend payload = .ok bundle := by
    rw [Bundle.ofPayload_of_ok _ h, hbundle]
    rfl
  refine ⟨fun indent => (hread indent).1, hagain, fun b => b.generate_congr (hagain.trans h.symm), bundle,
    Bundle.workflowFile w, hmade, hpaths, Bundle.file?_workflowPath hbundle (by decide), w.toPayload, (hread (some 2)).1, ?_⟩
  rw [Bundle.ofPayload_congr _ (hagain.trans h.symm), hmade]

/-- One handle in both spellings, the other one in the second spelling only, known keys behind unknown ones. -/
def twoSpellings : Value :=
  .obj [("name", .str "flow"),
    ("edges", .arr [.obj [("source_handle", .str "b"), ("target_handle", .null), ("sourceHandle", .str "a")]]),
    ("nodes", .arr [.obj [("type", .str "llm"), ("data", .obj [("tags", .arr [.int (-3), .float .nan])])]])]

theorem generate_read_toText_twoSpellings : ∃ w, Workflow.ofPayload twoSpellings = .ok w ∧
    Json.read (w.toText (some (-1))) = .ok w.toPayload ∧ Workflow.ofPayload w.toPayload = .ok w :=
  have h := generate_read_toText (by decide : twoSpellings.Readable) rfl
  ⟨_, rfl, h.1 (some (-1)), h.2.1⟩

/-- **The workflow in a bundle says the graph received**, with the handles of its edges spelt first.  So it says the very
graph if and only if every edge with the second spelling of a handle has the first one too. -/
theorem workflowFile_says_graph {payload : Value} (hpayload : payload.Readable) {w : Workflow}
    (h : Workflow.ofPayload payload = .ok w) :
    SameGraph (Workflow.respelt payload) w.toPayload ∧
    (SameGraph payload w.toPayload ↔ Workflow.SpeltFirst payload) ∧
    ∃ bundle file, Bundle.ofPayload Blueprint.backend payload = .ok bundle ∧
      bundle.file? Blueprint.workflowPath = some file ∧ Json.read file.content = .ok w.toPayload := by
  obtain ⟨bundle, hbundle, -⟩ := Bundle.ofWorkflow_backend w
  have hmade : Bundle.ofPayload Blueprint.backend payload = .ok bundle := by
    rw [Bundle.ofPayload_of_ok _ h, hbundle]
    rfl
  exact ⟨Workflow.sameGraph_respelt hpayload h, Workflow.sameGraph_iff hpayload h, bundle, Bundle.workflowFile w, hmade,
    Bundle.file?_workflowPath hbundle (by decide), (Workflow.read_toText hpayload h (some 2)).1⟩

theorem workflowFile_says_graph_twoSpellings : ∃ w, Workflow.ofPayload twoSpellings = .ok w ∧
    SameGraph (Workflow.respelt twoSpellings) w.toPayload :=
  ⟨_, rfl, (workflowFile_says_graph (by decide : twoSpellings.Readable) rfl).1⟩

/-- An edge with a handle under its second spelling alone. -/
def loneHandle : Value := .obj [("nodes", .arr []), ("edges", .arr [.obj [("source_handle", .str "a")]])]

theorem not_sameGraph_loneHandle : ∃ w, Workflow.ofPayload loneHandle = .ok w ∧ ¬ SameGraph loneHandle w.toPayload := by
  refine ⟨_, rfl, fun hsame => ?_⟩
  have hspelt := (Workflow.sameGraph_iff (by decide : loneHandle.Readable) rfl).1 hsame
  have hhas := (hspelt _ rfl _ rfl _ List.mem_cons_self).source (by decide)
  exact absurd hhas (by decide)

end Builder
end FlowBundle
