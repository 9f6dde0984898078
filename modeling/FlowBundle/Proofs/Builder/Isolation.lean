import FlowBundle.Builder.Command
import FlowBundle.Proofs.Chat.Isolation
import FlowBundle.Proofs.Simulation.Execution
/-!
# Sessions on one builder

A builder is used by many sessions at once, and by those who want archives.  A call is a whole command, or a part of a
scope: a scope is entered, changed and left, and any calls on other sessions may come in between (`Call`).  What of a run
is for one session decides what this session is told and what its history is in the end (`sessions_apart`).  So calls
for different sessions may change places, and calls for archives may be left out.
-/
namespace FlowBundle

open Json (Value)

namespace Simulation

variable {s t : String} {h h' : Chat.Histories}

/-- **An execution depends on what its session can see.** -/
theorem execute_alike (ha : Chat.Alike s h h') (room : Nat) (payload input : Value) :
    Chat.Alike s (execute room h payload input s).1 (execute room h' payload input s).1 ∧
      (execute room h payload input s).2 = (execute room h' payload input s).2 := by
  rcases execute_cases room payload input with ⟨w, n, hrecalls⟩ | ⟨result, -, hresult⟩
  · obtain ⟨hstate, hanswer⟩ := ha.within (converse w.config input.givenText)
    simp only [execute_of_recalls hrecalls, hanswer]
    exact ⟨hstate, trivial⟩
  · rw [hresult, hresult]
    exact ⟨ha, rfl⟩

/-- **An execution is noticed by no other session.** -/
theorem execute_alike_left (ha : Chat.Alike s h h') (hne : s ≠ t) (room : Nat) (payload input : Value) :
    Chat.Alike s (execute room h payload input t).1 h' := by
  rcases execute_cases room payload input with ⟨w, n, hrecalls⟩ | ⟨result, -, hresult⟩
  · simp only [execute_of_recalls hrecalls]
    exact ha.within_left hne _
  · rw [hresult]
    exact ha

end Simulation

namespace Builder

/-! ## Calls -/

/-- **A call on a builder**: a command, or a part of a scope. -/
inductive Call where
  | command (c : Command)
  | enter (session : String)
  | change (session : String) (f : List Chat.Message → List Chat.Message)
  | leave (session : String) (brokenOff : Bool)

/-- One event in the histories; in reply comes the history of its session as it is then. -/
def during (b : Builder) (e : Chat.Event) : Builder × Reply :=
  ({ b with histories := e.apply b.histories }, .chat (.messages ((e.apply b.histories).history e.session)))

/-- A command that makes, keeps or hands out files and archives. -/
def Command.onArchives : Command → Bool
  | .generate _ | .build _ | .publish _ _ | .fetch _ | .release _ => true
  | .chat _ | .execute .. | .simulate .. | .clearHistory _ => false

/-- The one session that a command is for.  Commands on the histories may be for several ones. -/
def Command.session? : Command → Option String
  | .execute _ _ session | .clearHistory session => some (sessionOr session)
  | .simulate _ _ session => some session
  | .chat _ | .generate _ | .build _ | .publish _ _ | .fetch _ | .release _ => none

namespace Call

def step (b : Builder) : Call → Builder × Reply
  | command c => b.run c
  | enter s => b.during (.enter s)
  | change s f => b.during (.change s f)
  | leave s brokenOff => b.during (.leave s brokenOff)

def runAll (b : Builder) : List Call → Builder × List Reply
  | [] => (b, [])
  | c :: cs =>
    let first := c.step b
    let rest := runAll first.1 cs
    (rest.1, first.2 :: rest.2)

def onArchives : Call → Bool
  | command c => c.onArchives
  | enter _ | change _ _ | leave _ _ => false

def session? : Call → Option String
  | command c => c.session?
  | enter s | change s _ | leave s _ => some s

/-- **What of a call is for a session.** -/
def concerning (s : String) : Call → List Call
  | command (.chat c) => (c.concerning s).map fun c => command (.chat c)
  | c => if c.session? = some s then [c] else []

/-- **What of the reply to a call a session hears.** -/
def heard (s : String) : Call → Reply → List Reply
  | command (.chat c), .chat r => (c.heard s r).map .chat
  | c, r => if c.session? = some s then [r] else []

def concerningAll (s : String) (cs : List Call) : List Call := cs.flatMap (concerning s)

theorem concerningAll_cons (s : String) (c : Call) (cs : List Call) :
    concerningAll s (c :: cs) = c.concerning s ++ concerningAll s cs := List.flatMap_cons

/-- **What a session hears in a run.** -/
def hears (s : String) (b : Builder) (cs : List Call) : List Reply :=
  (cs.zip (runAll b cs).2).flatMap fun p => p.1.heard s p.2

/-- The history of a session after a run. -/
def historyAfter (s : String) (b : Builder) (cs : List Call) : List Chat.Message :=
  (runAll b cs).1.histories.history s

/-! ## Runs -/

theorem fst_runAll_cons (b : Builder) (c : Call) (cs : List Call) :
    (runAll b (c :: cs)).1 = (runAll (c.step b).1 cs).1 := rfl

theorem hears_cons (s : String) (b : Builder) (c : Call) (cs : List Call) :
    hears s b (c :: cs) = c.heard s (c.step b).2 ++ hears s (c.step b).1 cs := rfl

theorem fst_runAll_append : ∀ (cs cs' : List Call) (b : Builder),
    (runAll b (cs ++ cs')).1 = (runAll (runAll b cs).1 cs').1
  | [], _, _ => rfl
  | _ :: cs, cs', _ => fst_runAll_append cs cs' _

theorem hears_append (s : String) : ∀ (cs cs' : List Call) (b : Builder),
    hears s b (cs ++ cs') = hears s b cs ++ hears s (runAll b cs).1 cs'
  | [], _, _ => rfl
  | c :: cs, cs', b => by
    rw [List.cons_append, hears_cons, hears_append s cs cs', hears_cons, List.append_assoc, fst_runAll_cons]

/-- Commands on the histories are run there. -/
theorem runAll_chat : ∀ (cs : List Chat.Command) (b : Builder),
    runAll b (cs.map fun c => command (.chat c)) =
      ({ b with histories := (b.histories.runAll cs).1 }, (b.histories.runAll cs).2.map .chat)
  | [], b => by
    rw [Chat.Histories.runAll]
    rfl
  | c :: cs, b => by
    rw [List.map_cons, runAll, runAll_chat cs, Chat.Histories.runAll]
    rfl

theorem hears_chat (s : String) : ∀ (cs : List Chat.Command) (b : Builder),
    hears s b (cs.map fun c => command (.chat c)) = (Chat.Histories.hears s b.histories cs).map .chat
  | [], b => by
    rw [Chat.Histories.hears_nil]
    rfl
  | c :: cs, b => by
    rw [List.map_cons, hears_cons, hears_chat s cs, Chat.Histories.hears_cons, List.map_append]
    rfl

/-- **A run of commands alone** is the builder's own. -/
theorem runAll_command : ∀ (cs : List Command) (b : Builder), runAll b (cs.map command) = b.runAll cs
  | [], _ => rfl
  | c :: cs, b => by
    rw [List.map_cons, runAll, runAll_command cs]
    rfl

end Call

/-- Publishing changes no more than the shelf. -/
theorem exists_shelf_publish (b : Builder) (id : String) (payload : Value) :
    ∃ shelf, (b.publish id payload).1 = { b with shelf := shelf } := by
  unfold publish
  split
  · exact ⟨b.shelf, rfl⟩
  split
  · exact ⟨b.shelf, rfl⟩
  · exact ⟨_, rfl⟩

/-- **What is done for archives leaves the histories alone.** -/
theorem histories_run (b : Builder) {c : Command} (hc : c.onArchives = true) : (b.run c).1.histories = b.histories := by
  cases c with
  | generate | build | fetch | release => rfl
  | publish id payload =>
    obtain ⟨shelf, hshelf⟩ := b.exists_shelf_publish id payload
    show (b.publish id payload).1.histories = b.histories
    rw [hshelf]
  | chat | execute | simulate | clearHistory => cases hc

/-- **No command changes the room.** -/
theorem room_run (b : Builder) (c : Command) : (b.run c).1.room = b.room := by
  cases c with
  | publish id payload =>
    obtain ⟨shelf, hshelf⟩ := b.exists_shelf_publish id payload
    show (b.publish id payload).1.room = b.room
    rw [hshelf]
  | chat | generate | build | fetch | release | execute | simulate | clearHistory => rfl

namespace Call

theorem room_step (b : Builder) (c : Call) : (c.step b).1.room = b.room := by
  cases c with
  | command c => exact b.room_run c
  | enter | change | leave => rfl

theorem room_runAll : ∀ (cs : List Call) (b : Builder), (runAll b cs).1.room = b.room
  | [], _ => rfl
  | c :: cs, b => (room_runAll cs _).trans (room_step b c)

end Call

theorem room_runAll (cs : List Command) (b : Builder) : (b.runAll cs).1.room = b.room := by
  rw [← Call.runAll_command, Call.room_runAll]

/-! ## One call -/

variable {s t : String} {b b' : Builder}

theorem alike_during (ha : Chat.Alike s b.histories b'.histories) {e : Chat.Event} (he : e.session = s) :
    Chat.Alike s (b.during e).1.histories (b'.during e).1.histories ∧ (b.during e).2 = (b'.during e).2 := by
  have happlied := ha.apply he
  refine ⟨happlied, ?_⟩
  rw [during, during, he, happlied.history_eq]

theorem alike_simulate (ha : Chat.Alike s b.histories b'.histories) (hroom : b.room = b'.room) (payload input : Value) :
    Chat.Alike s (b.simulate payload input s).1.histories (b'.simulate payload input s).1.histories ∧
      (b.simulate payload input s).2 = (b'.simulate payload input s).2 := by
  simp only [simulate, hroom]
  exact Simulation.execute_alike ha b'.room payload input

namespace Call

/-- A call for one session is left out for the others, and stays for this one. -/
theorem alike_step_of_session {c : Call} {t : String} (hfor : c.concerning s = if some t = some s then [c] else [])
    (hreply : ∀ r, c.heard s r = if some t = some s then [r] else [])
    (hsame : t = s → Chat.Alike s (c.step b).1.histories (c.step b').1.histories ∧ (c.step b).2 = (c.step b').2)
    (hother : s ≠ t → Chat.Alike s (c.step b).1.histories b'.histories) :
    Chat.Alike s (c.step b).1.histories (runAll b' (c.concerning s)).1.histories ∧
      c.heard s (c.step b).2 = hears s b' (c.concerning s) := by
  by_cases hts : t = s
  · have hsome : some t = some s := congrArg some hts
    rw [hfor, if_pos hsome, hears_cons, hreply, hreply, if_pos hsome, if_pos hsome, (hsame hts).2]
    exact ⟨(hsame hts).1, rfl⟩
  · have hsome : ¬ some t = some s := fun h => hts (Option.some.inj h)
    rw [hfor, if_neg hsome, hreply, if_neg hsome]
    exact ⟨hother (Ne.symm hts), rfl⟩

/-- A part of a scope is one event. -/
theorem alike_step_of_during (ha : Chat.Alike s b.histories b'.histories) {c : Call} {e : Chat.Event}
    (hstep : ∀ b : Builder, c.step b = b.during e)
    (hfor : c.concerning s = if some e.session = some s then [c] else [])
    (hreply : ∀ r, c.heard s r = if some e.session = some s then [r] else []) :
    Chat.Alike s (c.step b).1.histories (runAll b' (c.concerning s)).1.histories ∧
      c.heard s (c.step b).2 = hears s b' (c.concerning s) := by
  refine alike_step_of_session hfor hreply (fun hs => ?_) fun hs => ?_
  · rw [hstep, hstep]
    exact alike_during ha hs
  · rw [hstep]
    exact ha.apply_left hs

/-- **One call leaves a session as the part of it that is for the session**, and with the same replies. -/
theorem alike_step (ha : Chat.Alike s b.histories b'.histories) (hroom : b.room = b'.room) (c : Call) :
    Chat.Alike s (c.step b).1.histories (runAll b' (c.concerning s)).1.histories ∧
      c.heard s (c.step b).2 = hears s b' (c.concerning s) := by
  cases c with
  | enter t => exact alike_step_of_during (e := .enter t) ha (fun _ => rfl) rfl fun _ => rfl
  | change t f => exact alike_step_of_during (e := .change t f) ha (fun _ => rfl) rfl fun _ => rfl
  | leave t brokenOff => exact alike_step_of_during (e := .leave t brokenOff) ha (fun _ => rfl) rfl fun _ => rfl
  | command c =>
    cases c with
    | chat c =>
      obtain ⟨hstate, hheard⟩ := Chat.Histories.alike_run c ha
      rw [concerning, runAll_chat, hears_chat, ← hheard]
      exact ⟨hstate, rfl⟩
    | execute payload input session =>
      refine alike_step_of_session (t := sessionOr session) rfl (fun _ => rfl) (fun hs => ?_) fun hs => ?_
      · subst hs
        obtain ⟨hstate, hresult⟩ := alike_simulate ha hroom payload input
        exact ⟨hstate, congrArg Reply.executed hresult⟩
      · exact Simulation.execute_alike_left ha hs b.room payload input
    | simulate payload input t =>
      refine alike_step_of_session (t := t) rfl (fun _ => rfl) (fun hs => ?_) fun hs => ?_
      · subst hs
        obtain ⟨hstate, hresult⟩ := alike_simulate ha hroom payload input
        exact ⟨hstate, congrArg Reply.simulated hresult⟩
      · exact Simulation.execute_alike_left ha hs b.room payload input
    | clearHistory session =>
      refine alike_step_of_session (t := sessionOr session) rfl (fun _ => rfl) (fun hs => ?_) fun hs => ?_
      · exact ⟨ha.apply (e := .clear (sessionOr session)) hs, rfl⟩
      · exact ha.apply_left (e := .clear (sessionOr session)) hs
    | generate | build | publish | fetch | release =>
      -- Nobody hears anything, and nothing is left to be run.
      show Chat.Alike s (b.run _).1.histories b'.histories ∧ ([] : List Reply) = []
      rw [histories_run b rfl]
      exact ⟨ha, rfl⟩

/-- **A run leaves a session as the run of the calls for it**, and with the same replies. -/
theorem alike_runAll : ∀ (cs : List Call) {b b' : Builder}, Chat.Alike s b.histories b'.histories → b.room = b'.room →
    Chat.Alike s (runAll b cs).1.histories (runAll b' (concerningAll s cs)).1.histories ∧
      hears s b cs = hears s b' (concerningAll s cs)
  | [], _, _, ha, _ => ⟨ha, rfl⟩
  | c :: cs, b, b', ha, hroom => by
    obtain ⟨hstate, hheard⟩ := alike_step ha hroom c
    obtain ⟨hstate', hheard'⟩ := alike_runAll cs hstate (by rw [room_step, room_runAll, hroom])
    rw [concerningAll_cons, fst_runAll_append, fst_runAll_cons, hears_append, hears_cons, hheard, hheard']
    exact ⟨hstate', rfl⟩

theorem alike_of_concerningAll_eq {calls calls' : List Call} (b : Builder)
    (h : concerningAll s calls = concerningAll s calls') :
    hears s b calls = hears s b calls' ∧ historyAfter s b calls = historyAfter s b calls' := by
  obtain ⟨hstate, hheard⟩ := alike_runAll calls (b := b) (Chat.Alike.refl s b.histories) rfl
  obtain ⟨hstate', hheard'⟩ := alike_runAll calls' (b := b) (Chat.Alike.refl s b.histories) rfl
  rw [h] at hstate hheard
  exact ⟨hheard.trans hheard'.symm, hstate.history_eq.trans hstate'.history_eq.symm⟩

/-- Calls that no session has in common, in the other order. -/
theorem concerningAll_swap (pre post : List Call) {c c' : Call} (h : c.concerning s = [] ∨ c'.concerning s = []) :
    concerningAll s (pre ++ c :: c' :: post) = concerningAll s (pre ++ c' :: c :: post) := by
  rw [concerningAll, concerningAll, List.flatMap_append, List.flatMap_append, ← concerningAll, ← concerningAll,
    ← concerningAll, concerningAll_cons, concerningAll_cons, concerningAll_cons, concerningAll_cons]
  rcases h with h | h <;> rw [h, List.nil_append, List.nil_append]

/-! ## Archives -/

/-- The calls of a run that are not for archives. -/
def onChat (calls : List Call) : List Call := calls.filter fun c => !c.onArchives

theorem concerning_of_onArchives (s : String) {c : Call} (hc : c.onArchives = true) : c.concerning s = [] := by
  cases c with
  | enter | change | leave => cases hc
  | command c =>
    cases c with
    | generate | build | publish | fetch | release => rfl
    | chat | execute | simulate | clearHistory => cases hc

theorem onChat_cons_of_onArchives {c : Call} (hc : c.onArchives = true) (calls : List Call) :
    onChat (c :: calls) = onChat calls :=
  List.filter_cons_of_neg (by rw [hc]; decide)

theorem onChat_cons_of_not {c : Call} (hc : c.onArchives = false) (calls : List Call) :
    onChat (c :: calls) = c :: onChat calls :=
  List.filter_cons_of_pos (by rw [hc]; decide)

theorem concerningAll_onChat (s : String) : ∀ calls, concerningAll s (onChat calls) = concerningAll s calls
  | [] => rfl
  | c :: calls => by
    have ih := concerningAll_onChat s calls
    cases hc : c.onArchives with
    | true => rw [onChat_cons_of_onArchives hc, concerningAll_cons, concerning_of_onArchives s hc, List.nil_append, ih]
    | false => rw [onChat_cons_of_not hc, concerningAll_cons, concerningAll_cons, ih]

theorem histories_step (hb : b.histories = b'.histories) (hroom : b.room = b'.room) (c : Call) :
    (c.step b).1.histories = (c.step b').1.histories := by
  cases c with
  | enter t => exact congrArg (Chat.Event.enter t).apply hb
  | change t f => exact congrArg (Chat.Event.change t f).apply hb
  | leave t brokenOff => exact congrArg (Chat.Event.leave t brokenOff).apply hb
  | command c =>
    show (b.run c).1.histories = (b'.run c).1.histories
    cases c with
    | chat c => exact congrArg (fun h => (h.run c).1) hb
    | execute | simulate => simp only [run, execute, simulate, hb, hroom]
    | clearHistory session => exact congrArg (fun h => h.clear (sessionOr session)) hb
    | generate | build | publish | fetch | release => rw [histories_run b rfl, histories_run b' rfl, hb]

/-- **A run leaves the histories as the part of it that is not for archives.** -/
theorem histories_runAll_onChat : ∀ (calls : List Call) {b b' : Builder}, b.histories = b'.histories → b.room = b'.room →
    (runAll b (onChat calls)).1.histories = (runAll b' calls).1.histories
  | [], _, _, hb, _ => hb
  | c :: calls, b, b', hb, hroom => by
    cases hc : c.onArchives with
    | true =>
      rw [onChat_cons_of_onArchives hc, fst_runAll_cons]
      cases c with
      | enter | change | leave => cases hc
      | command c =>
        exact histories_runAll_onChat calls (hb.trans (histories_run b' hc).symm) (hroom.trans (room_run b' c).symm)
    | false =>
      rw [onChat_cons_of_not hc, fst_runAll_cons, fst_runAll_cons]
      exact histories_runAll_onChat calls (histories_step hb hroom c) (by rw [room_step, room_step, hroom])

/-! ## Sessions -/

/-- **Sessions are apart.**  What of a run is for a session decides what it hears and what its history is in the end.  So
two calls that are not both for one session may change places, and the calls for archives may be left out, which leaves
all histories as they are.  Runs of commands alone are among the runs this is said of. -/
theorem sessions_apart (b : Builder) :
    (∀ (s : String) (calls calls' : List Call), concerningAll s calls = concerningAll s calls' →
      hears s b calls = hears s b calls' ∧ historyAfter s b calls = historyAfter s b calls') ∧
    (∀ (pre post : List Call) (c c' : Call), (∀ s, c.concerning s = [] ∨ c'.concerning s = []) → ∀ s,
      hears s b (pre ++ c :: c' :: post) = hears s b (pre ++ c' :: c :: post) ∧
        historyAfter s b (pre ++ c :: c' :: post) = historyAfter s b (pre ++ c' :: c :: post)) ∧
    (∀ calls : List Call, (runAll b (onChat calls)).1.histories = (runAll b calls).1.histories ∧
      ∀ s, hears s b (onChat calls) = hears s b calls) ∧
    ∀ cs : List Command, runAll b (cs.map command) = b.runAll cs :=
  ⟨fun _ _ _ h => alike_of_concerningAll_eq b h,
    fun pre post _ _ h s => alike_of_concerningAll_eq b (concerningAll_swap pre post (h s)),
    fun calls => ⟨histories_runAll_onChat calls rfl rfl,
      fun s => (alike_of_concerningAll_eq b (concerningAll_onChat s calls)).1⟩,
    fun cs => runAll_command cs b⟩

end Call

/-- Settings with which little is kept, and an odd number of messages. -/
def keepingThree : Settings :=
  { delay := .zero false
    historyLimit := 3
    maxArchives := 2
    origins := []
    logLevel := "INFO"
    filename := "flow.zip"
    delay_nonneg := rfl
    delay_le := Binary64.isAtMost_zero false 30
    two_le_historyLimit := Nat.le_add_right 2 1
    one_le_maxArchives := Nat.le_add_right 1 1 }

namespace Call

/-- Session `a` is spoken in from within scopes on `b` and on `c`, which are cut and broken off. -/
def entwined : List Call :=
  [command (.chat (.append "a" (.str "1") (.str "2"))), enter "b", command (.publish "id" .null),
    command (.chat (.scope "c" [⟨.human, .str "x"⟩] (some 0)
      [.forget "d", .append "a" (.str "3") (.str "4"), .clear "e"] true)),
    change "b" List.reverse, command (.clearHistory none), leave "b" true, command (.chat (.messages "a"))]

/-- What of it is for session `a`. -/
def untwined : List Call :=
  [command (.chat (.append "a" (.str "1") (.str "2"))), command (.chat (.append "a" (.str "3") (.str "4"))),
    command (.chat (.messages "a"))]

theorem sessions_apart_entwined :
    concerningAll "a" entwined = concerningAll "a" untwined ∧
    historyAfter "a" (ofSettings keepingThree) entwined =
      [⟨.assistant, .text "2"⟩, ⟨.human, .text "3"⟩, ⟨.assistant, .text "4"⟩] :=
  ⟨rfl, ((sessions_apart (ofSettings keepingThree)).1 "a" entwined untwined rfl).2.trans rfl⟩

end Call

end Builder
end FlowBundle
