import FlowBundle.Simulation.Reply
/-!
# What an execution does

An execution touches the histories only if the workflow has a model node that asks for memory and all texts can be made
(`Recalls`).  Then the exchange goes into the history of its session, and the answer is made from what was there
(`execute_of_recalls`).  Every other execution has a result that no history has a part in, and leaves them as they are
(`execute_cases`).  What is said about executions elsewhere is said from these two cases.
-/
namespace FlowBundle
namespace Simulation

open Chat (Histories)
open Json (Value)

/-- **An execution that takes part in its session**: the payload is a workflow, the first model node of it asks for
memory, and texts can be made of the configuration and of the input. -/
structure Recalls (room : Nat) (payload input : Value) (w : Workflow) (n : Node) : Prop where
  accepted : Workflow.ofPayload payload = .ok w
  first : w.firstNode? Workflow.modelType = some n
  memory : Config.flag (n.entry? "memory") = true
  spelt : w.unspelt? room = none
  input_fits : input.Fits room

theorem configOf_of_ok {room : Nat} {payload : Value} {w : Workflow} (h : Workflow.ofPayload payload = .ok w)
    (hspelt : w.unspelt? room = none) : configOf room payload = .ok w.config := by
  rw [configOf, h]
  simp only [hspelt]

theorem config_of_first {w : Workflow} {n : Node} (h : w.firstNode? Workflow.modelType = some n) :
    w.config.hasModelNode = true ∧ w.config.memory = Config.flag (n.entry? "memory") := by
  rw [Workflow.config, h]
  exact ⟨rfl, rfl⟩

theorem hasModelNode_of_noFirst {w : Workflow} (h : w.firstNode? Workflow.modelType = none) :
    w.config.hasModelNode = false := by
  rw [Workflow.config, h]
  rfl

variable {room : Nat} {payload input : Value} {w : Workflow} {n : Node}

theorem execute_of_recalls (h : Recalls room payload input w n) (histories : Histories) (session : String) :
    execute room histories payload input session =
      ((histories.within session (converse w.config input.givenText)).1,
        .ok ⟨input.givenText, (histories.within session (converse w.config input.givenText)).2, w.config.model,
          true⟩) := by
  obtain ⟨hnode, hmemory⟩ := config_of_first h.first
  have hinput : input.overrun? room = none := h.input_fits
  rw [execute, configOf_of_ok h.accepted h.spelt]
  simp only [executeConfig, hnode, hmemory, h.memory, hinput, Bool.true_eq_false, if_false, if_true]

theorem executeConfig_cases (room : Nat) (c : Config) (input : Value) (hnode : c.hasModelNode = true) :
    (c.memory = true ∧ input.Fits room) ∨
    ∃ result : Except Fault Outcome, (∀ o, result = .ok o → o.memory = false) ∧
      ∀ histories session, executeConfig room histories c input session = (histories, result) := by
  cases hinput : input.overrun? room with
  | some overrun =>
    refine .inr ⟨.error (.unspelt overrun), nofun, fun _ _ => ?_⟩
    simp only [executeConfig, hnode, hinput, Bool.true_eq_false, if_false]
  | none =>
    cases hmemory : c.memory with
    | true => exact .inl ⟨rfl, hinput⟩
    | false =>
      refine .inr ⟨.ok ⟨input.givenText, answer c input.givenText [], c.model, false⟩, fun o ho => ?_, fun _ _ => ?_⟩
      · cases ho
        rfl
      · simp only [executeConfig, hnode, hinput, hmemory, Bool.true_eq_false, Bool.false_eq_true, if_false]

/-- **An execution takes part in its session, or has nothing to do with any.** -/
theorem execute_cases (room : Nat) (payload input : Value) :
    (∃ w n, Recalls room payload input w n) ∨
    ∃ result : Except Fault Outcome, (∀ o, result = .ok o → o.memory = false) ∧
      ∀ histories session, execute room histories payload input session = (histories, result) := by
  cases haccepted : Workflow.ofPayload payload with
  | error reason => exact .inr ⟨.error (.rejected reason), nofun, fun _ _ => by rw [execute, configOf, haccepted]⟩
  | ok w =>
    cases hspelt : w.unspelt? room with
    | some overrun =>
      exact .inr ⟨.error (.unspelt overrun), nofun, fun _ _ => by simp only [execute, configOf, haccepted, hspelt]⟩
    | none =>
      have hexecute : ∀ histories session, execute room histories payload input session =
          executeConfig room histories w.config input session := fun _ _ => by
        rw [execute, configOf_of_ok haccepted hspelt]
      simp only [hexecute]
      cases hfirst : w.firstNode? Workflow.modelType with
      | none =>
        have hnode := hasModelNode_of_noFirst hfirst
        exact .inr ⟨.error .noModelNode, nofun, fun _ _ => by rw [executeConfig, if_pos hnode]⟩
      | some n =>
        rcases executeConfig_cases room w.config input (config_of_first hfirst).1 with ⟨hmemory, hinput⟩ | hplain
        · rw [(config_of_first hfirst).2] at hmemory
          exact .inl ⟨w, n, haccepted, hfirst, hmemory, hspelt, hinput⟩
        · exact .inr hplain

end Simulation
end FlowBundle
