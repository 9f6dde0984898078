import FlowBundle.Chat.Command
/-!
# What each operation does to the histories

One lemma for each operation and each of its two sides: the history of the session it is for, and the histories of the
others, which stay (`…_of_ne`).  Opening, locking and reading change no history at all.

A history is cut with `newest`, and cutting before more is added and once again after it is the same as cutting once,
after it (`newest_append_newest`); all windows of a run come from this.
-/
namespace FlowBundle
namespace Chat
namespace Histories

/-! ## The newest messages -/

theorem newest_nil (n : Nat) : newest n [] = [] := by
  rw [newest, List.drop_nil]

theorem length_newest (n : Nat) (ms : List Message) : (newest n ms).length = min n ms.length := by
  rw [newest, List.length_drop]
  omega

/-- **Cutting twice is cutting once**, whatever was added in between. -/
theorem newest_append_newest (n : Nat) (ms more : List Message) :
    newest n (newest n ms ++ more) = newest n (ms ++ more) := by
  have hdrop : newest n ms ++ more = (ms ++ more).drop (ms.length - n) :=
    (List.drop_append_of_le_length (Nat.sub_le _ _)).symm
  rw [hdrop, newest, newest, List.drop_drop, List.length_drop, List.length_append]
  congr 1
  omega

/-! ## The parts of an operation -/

variable (h : Histories) (s : String)

@[simp] theorem history_setHistory_self (ms : List Message) : (h.setHistory s ms).history s = ms := by
  rw [history, setHistory, Table.lookup_put_self, Option.getD_some]

theorem history_setHistory_of_ne {s t : String} (hne : t ≠ s) (ms : List Message) :
    (h.setHistory s ms).history t = h.history t := by
  rw [history, setHistory, Table.lookup_put_of_ne ms hne, history]

@[simp] theorem history_acquire (t : String) : (h.acquire s).history t = h.history t := rfl

@[simp] theorem history_release (t : String) : (h.release s).history t = h.history t := by
  unfold release
  split <;> rfl

@[simp] theorem limit_setHistory (ms : List Message) : (h.setHistory s ms).limit = h.limit := rfl

@[simp] theorem limit_acquire : (h.acquire s).limit = h.limit := rfl

@[simp] theorem limit_release : (h.release s).limit = h.limit := by
  unfold release
  split <;> rfl

/-! ## Scopes -/

@[simp] theorem limit_opened : (h.opened s).limit = h.limit := rfl

@[simp] theorem limit_closed : (h.closed s).limit = h.limit := by
  rw [closed, limit_release, limit_setHistory]

@[simp] theorem history_opened (t : String) : (h.opened s).history t = h.history t := by
  by_cases hne : t = s
  · subst hne
    rw [opened, history_setHistory_self]
  · rw [opened, history_setHistory_of_ne _ hne, history_acquire]

@[simp] theorem history_closed_self : (h.closed s).history s = newest h.limit (h.history s) := by
  rw [closed, history_release, history_setHistory_self]

theorem history_closed_of_ne {s t : String} (hne : t ≠ s) : (h.closed s).history t = h.history t := by
  rw [closed, history_release, history_setHistory_of_ne _ hne]

@[simp] theorem limit_within {α : Type} (change : List Message → List Message × α) :
    (h.within s change).1.limit = h.limit := by
  rw [within, limit_closed, limit_setHistory, limit_opened]

@[simp] theorem history_within_self {α : Type} (change : List Message → List Message × α) :
    (h.within s change).1.history s = newest h.limit (change (h.history s)).1 := by
  rw [within, history_closed_self, history_setHistory_self, limit_setHistory, limit_opened, history_opened]

theorem history_within_of_ne {α : Type} {s t : String} (hne : t ≠ s) (change : List Message → List Message × α) :
    (h.within s change).1.history t = h.history t := by
  rw [within, history_closed_of_ne _ hne, history_setHistory_of_ne _ hne, history_opened]

theorem snd_within {α : Type} (change : List Message → List Message × α) :
    (h.within s change).2 = (change (h.history s)).2 := by
  rw [within, history_opened]

/-! ## Whole operations -/

@[simp] theorem limit_append (drafts : List Draft) : (h.append s drafts).1.limit = h.limit := limit_within ..

@[simp] theorem history_append_self (drafts : List Draft) :
    (h.append s drafts).1.history s = newest h.limit (h.history s ++ (Draft.acceptAll drafts).1) :=
  history_within_self ..

theorem history_append_of_ne {s t : String} (hne : t ≠ s) (drafts : List Draft) :
    (h.append s drafts).1.history t = h.history t :=
  history_within_of_ne h hne _

@[simp] theorem limit_messages : (h.messages s).1.limit = h.limit := by
  rw [messages, limit_release, limit_acquire]

@[simp] theorem history_messages (t : String) : (h.messages s).1.history t = h.history t := by
  rw [messages, history_release, history_acquire]

theorem snd_messages : (h.messages s).2 = h.history s := rfl

@[simp] theorem limit_clear : (h.clear s).limit = h.limit := by
  unfold clear
  simp only [limit_release]
  split <;> rfl

theorem history_of_has_eq_false {h : Histories} {s : String} (hs : h.has s = false) : h.history s = [] := by
  rw [has, Option.isSome_eq_false_iff, Option.isNone_iff_eq_none] at hs
  rw [history, hs, Option.getD_none]

@[simp] theorem history_clear_self : (h.clear s).history s = [] := by
  unfold clear
  simp only [history_release]
  cases hs : (h.acquire s).has s with
  | true => exact history_setHistory_self ..
  | false => exact history_of_has_eq_false hs

theorem history_clear_of_ne {s t : String} (hne : t ≠ s) : (h.clear s).history t = h.history t := by
  unfold clear
  simp only [history_release]
  split
  · rw [history_setHistory_of_ne _ hne, history_acquire]
  · rw [history_acquire]

@[simp] theorem limit_forget : (h.forget s).limit = h.limit := by
  rw [forget, limit_release, limit_acquire]

@[simp] theorem history_forget_self : (h.forget s).history s = [] := by
  rw [forget, history_release, history, Table.lookup_erase_self, Option.getD_none]

theorem history_forget_of_ne {s t : String} (hne : t ≠ s) : (h.forget s).history t = h.history t := by
  rw [forget, history_release, history, Table.lookup_erase_of_ne hne, history]
  rfl

@[simp] theorem limit_exchange (user assistant : Json.Value) : (h.exchange s user assistant).1.limit = h.limit := by
  unfold exchange
  split <;> rename_i heq
  · rw [← limit_append h s [⟨.human, user⟩, ⟨.assistant, assistant⟩], heq]
  · rw [limit_messages, ← limit_append h s [⟨.human, user⟩, ⟨.assistant, assistant⟩], heq]

/-- The messages of an exchange: both sides, or what comes before the side that is refused. -/
def exchanged (user assistant : Json.Value) : List Message :=
  (Draft.acceptAll [⟨.human, user⟩, ⟨.assistant, assistant⟩]).1

theorem history_exchange (user assistant : Json.Value) (t : String) :
    (h.exchange s user assistant).1.history t = (h.append s [⟨.human, user⟩, ⟨.assistant, assistant⟩]).1.history t := by
  unfold exchange
  split <;> rename_i heq
  · rw [heq]
  · rw [history_messages, heq]

@[simp] theorem history_exchange_self (user assistant : Json.Value) :
    (h.exchange s user assistant).1.history s = newest h.limit (h.history s ++ exchanged user assistant) := by
  rw [history_exchange, history_append_self, exchanged]

theorem history_exchange_of_ne {s t : String} (hne : t ≠ s) (user assistant : Json.Value) :
    (h.exchange s user assistant).1.history t = h.history t := by
  rw [history_exchange, history_append_of_ne _ hne]

end Histories
end Chat
end FlowBundle
