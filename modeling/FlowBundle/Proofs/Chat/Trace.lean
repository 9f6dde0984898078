import FlowBundle.Proofs.Chat.History
/-!
# Traces

A run of the histories as a list of events.  A scope is not one event: it is entered, changed any number of times and
left, and whatever happens to other sessions may stand in between, so scopes may overlap in any way.  A session's lock
keeps everything else away from it while a scope is open (`legal`); commands are a special case of it, in which scopes
are nested (`runAll_eq_apply`).
-/
namespace FlowBundle
namespace Chat

inductive Event where
  | exchange (session : String) (user assistant : Json.Value)
  | read (session : String)
  | clear (session : String)
  | forget (session : String)
  | enter (session : String)
  | say (session : String) (ms : List Message)
  | change (session : String) (f : List Message → List Message)
  | leave (session : String) (brokenOff : Bool)

namespace Event

def session : Event → String
  | exchange s _ _ | read s | clear s | forget s | enter s | say s _ | change s _ | leave s _ => s

def isInside : Event → Bool
  | say .. | change .. | leave .. => true
  | exchange .. | read _ | clear _ | forget _ | enter _ => false

/-- It takes nothing from a history while a scope is open. -/
def onlyAppends : Event → Bool
  | change .. => false
  | _ => true

def openAfter (opened : List String) : Event → List String
  | enter s => s :: opened
  | leave s _ => opened.filter (· != s)
  | _ => opened

/-- **The lock lets it happen**: within a scope if one is open on its session, else only if none is. -/
def canHappen (opened : List String) (e : Event) : Bool := opened.contains e.session == e.isInside

/-- A scope is left in the same way whether it is broken off or not. -/
def apply (h : Histories) : Event → Histories
  | exchange s user assistant => (h.append s [⟨.human, user⟩, ⟨.assistant, assistant⟩]).1
  | read s => (h.messages s).1
  | clear s => h.clear s
  | forget s => h.forget s
  | enter s => h.opened s
  | say s ms => h.setHistory s (h.history s ++ ms)
  | change s f => h.setHistory s (f (h.history s))
  | leave s _ => h.closed s

/-- **The events follow each other as the locks let them**, the scopes on some sessions being open before. -/
def legalFrom (opened : List String) : List Event → Bool
  | [] => true
  | e :: es => e.canHappen opened && legalFrom (e.openAfter opened) es

def legal (es : List Event) : Bool := legalFrom [] es

def openAfterAll (es : List Event) : List String := es.foldl openAfter []

def applyAll (h : Histories) (es : List Event) : Histories := es.foldl apply h

theorem legalFrom_append : ∀ (es es' : List Event) (opened : List String),
    legalFrom opened (es ++ es') = (legalFrom opened es && legalFrom (es.foldl openAfter opened) es')
  | [], _, _ => rfl
  | e :: es, es', opened => by
    rw [List.cons_append, legalFrom, legalFrom_append es es', legalFrom, Bool.and_assoc, List.foldl_cons]

@[simp] theorem limit_apply (h : Histories) (e : Event) : (apply h e).limit = h.limit := by
  cases e with
  | exchange s user assistant => exact h.limit_append s _
  | read s => exact h.limit_messages s
  | clear s => exact h.limit_clear s
  | forget s => exact h.limit_forget s
  | enter | say | change => rfl
  | leave s => exact h.limit_closed s

/-- **Another session's event leaves a history alone.** -/
theorem history_apply_of_ne (h : Histories) {e : Event} {s : String} (hne : s ≠ e.session) :
    (apply h e).history s = h.history s := by
  cases e with
  | exchange t user assistant => exact h.history_append_of_ne hne _
  | read t => exact h.history_messages t s
  | clear t => exact h.history_clear_of_ne hne
  | forget t => exact h.history_forget_of_ne hne
  | enter t => exact h.history_opened t s
  | say t ms => exact h.history_setHistory_of_ne hne _
  | change t f => exact h.history_setHistory_of_ne hne _
  | leave t => exact h.history_closed_of_ne hne

theorem contains_openAfter_of_ne (opened : List String) {e : Event} {s : String} (hne : s ≠ e.session) :
    (e.openAfter opened).contains s = opened.contains s := by
  cases e with
  | enter t =>
    have hst : s ≠ t := hne
    rw [openAfter, List.contains_cons, beq_false_of_ne hst, Bool.false_or]
  | leave t b =>
    have hst : s ≠ t := hne
    rw [Bool.eq_iff_iff]
    simp [openAfter, hst]
  | exchange | read | clear | forget | say | change => rfl

end Event

/-! ## Commands are traces -/

/-- What a scope does to its history before anything else happens in it. -/
def scopeChange (s : String) (added : List Message) : Option Int → Event
  | none => .say s added
  | some n => .change s fun ms => front (ms ++ added) (some n)

mutual
def Command.events : Command → List Event
  | .append s user assistant =>
    let refused := (Draft.acceptAll [⟨.human, user⟩, ⟨.assistant, assistant⟩]).2
    .exchange s user assistant :: if refused.isSome then [] else [.read s]
  | .messages s => [.read s]
  | .clear s => [.clear s]
  | .forget s => [.forget s]
  | .state => []
  | .scope s added keep inner brokenOff =>
    if (Draft.acceptAll added).2.isSome then [.enter s, .say s (Draft.acceptAll added).1, .leave s true]
    else
      .enter s :: scopeChange s (Draft.acceptAll added).1 keep ::
        (Command.eventsOfAll inner ++ [.leave s brokenOff, .read s])

def Command.eventsOfAll : List Command → List Event
  | [] => []
  | c :: cs => Command.events c ++ Command.eventsOfAll cs
end

theorem Histories.snd_append (h : Histories) (s : String) (drafts : List Draft) :
    (h.append s drafts).2 = (Draft.acceptAll drafts).2 :=
  h.snd_within s _

theorem Event.apply_scopeChange (h : Histories) (s : String) (added : List Message) (keep : Option Int) :
    Event.apply h (scopeChange s added keep) = h.setHistory s (front (h.history s ++ added) keep) := by
  cases keep <;> rfl

theorem Event.applyAll_append (h : Histories) (es es' : List Event) :
    Event.applyAll h (es ++ es') = Event.applyAll (Event.applyAll h es) es' :=
  List.foldl_append

namespace Histories

mutual
theorem run_eq_apply : ∀ (c : Command) (h : Histories), (h.run c).1 = Event.applyAll h c.events
  | .append s user assistant, h => by
    have hsnd := h.snd_append s [⟨.human, user⟩, ⟨.assistant, assistant⟩]
    rw [run, exchange, Command.events]
    split <;> rename_i heq <;> rw [heq] at hsnd <;> simp only [← hsnd, Event.applyAll] <;>
      simp [Event.apply, heq]
  | .messages s, h => by rw [run]; rfl
  | .clear s, h => by rw [run]; rfl
  | .forget s, h => by rw [run]; rfl
  | .state, h => by rw [run]; rfl
  | .scope s added keep inner brokenOff, h => by
    rw [run, Command.events]
    cases hsnd : (Draft.acceptAll added).2 with
    | some bad => rfl
    | none =>
      have hinner := runAll_eq_apply inner
      simp only [hinner, Option.isSome_none, Bool.false_eq_true, if_false]
      rw [← List.cons_append, ← List.cons_append, Event.applyAll_append]
      simp only [Event.applyAll, List.foldl_cons, Event.apply_scopeChange]
      rfl

/-- **A run of commands is the run of their events.** -/
theorem runAll_eq_apply : ∀ (cs : List Command) (h : Histories),
    (h.runAll cs).1 = Event.applyAll h (Command.eventsOfAll cs)
  | [], h => by rw [runAll]; rfl
  | c :: cs, h => by
    rw [runAll, Command.eventsOfAll, Event.applyAll_append, ← run_eq_apply c h]
    exact runAll_eq_apply cs _
end

end Histories
end Chat
end FlowBundle
