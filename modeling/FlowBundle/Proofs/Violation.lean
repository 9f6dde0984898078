import FlowBundle.Violation
/-!
# What a check answers

A check that fails says why (`Explains`), and checks that are put together of such checks do so, too.  Then a check passes
if it has no violations to report, and otherwise it answers with all of them (`Explains.isOk_iff`,
`eq_error_of_violations_ne_nil`).  If it passes, its parts have passed (`both_eq_ok`, `map_eq_ok`).
-/
namespace FlowBundle
namespace Checked

variable {α β : Type}

/-- **A check that fails says why.** -/
def Explains (a : Checked α) : Prop := a ≠ .error []

theorem Explains.isOk_iff {a : Checked α} (h : a.Explains) : (∃ x, a = .ok x) ↔ a.violations = [] := by
  cases a with
  | ok x => exact ⟨fun _ => rfl, fun _ => ⟨x, rfl⟩⟩
  | error vs =>
    refine ⟨fun ⟨x, hx⟩ => (nomatch hx), fun hvs => ?_⟩
    obtain rfl : vs = [] := hvs
    exact absurd rfl h

theorem eq_error_of_violations_ne_nil {a : Checked α} (h : a.violations ≠ []) : a = .error a.violations := by
  cases a with
  | ok x => exact absurd rfl h
  | error vs => rfl

theorem Explains.map {a : Checked α} (h : a.Explains) (f : α → β) : Explains (a.map f) := by
  cases a with
  | ok x => exact fun heq => nomatch heq
  | error vs => exact fun heq => h (congrArg Except.error (Except.error.inj heq))

theorem Explains.both {a : Checked α} {b : Checked β} (ha : a.Explains) (hb : b.Explains) : (both a b).Explains := by
  cases a with
  | ok x =>
    cases b with
    | ok y => exact fun heq => nomatch heq
    | error ws => exact fun heq => hb (congrArg Except.error (Except.error.inj heq))
  | error vs =>
    intro heq
    have hnil : vs ++ b.violations = [] := by
      cases b <;> exact Except.error.inj heq
    exact ha (congrArg Except.error (List.append_eq_nil_iff.1 hnil).1)

theorem explains_all {check : Nat → α → Checked β} (h : ∀ i a, (check i a).Explains) :
    ∀ (i : Nat) (as : List α), (all check i as).Explains
  | _, [] => fun heq => nomatch heq
  | i, a :: as => ((h i a).both (explains_all h (i + 1) as)).map _

theorem both_eq_ok {a : Checked α} {b : Checked β} {p : α × β} (h : both a b = .ok p) :
    a = .ok p.1 ∧ b = .ok p.2 := by
  cases a with
  | error vs => cases h
  | ok x =>
    cases b with
    | error vs => cases h
    | ok y =>
      cases h
      exact ⟨rfl, rfl⟩

theorem map_eq_ok {f : α → β} {a : Checked α} {b : β} (h : a.map f = .ok b) :
    ∃ x, a = .ok x ∧ f x = b := by
  cases a with
  | error vs => cases h
  | ok x =>
    cases h
    exact ⟨x, rfl, rfl⟩

/-- Whatever a list is read as comes from one of its members. -/
theorem exists_of_mem_all {check : Nat → α → Checked β} : ∀ {i : Nat} {as : List α} {bs : List β},
    all check i as = .ok bs → ∀ b ∈ bs, ∃ j, ∃ a ∈ as, check j a = .ok b
  | _, [], _, h, b, hb => by
    cases h
    cases hb
  | i, a :: as, bs, h, b, hb => by
    obtain ⟨p, hp, rfl⟩ := map_eq_ok h
    obtain ⟨hfirst, hrest⟩ := both_eq_ok hp
    rcases List.mem_cons.1 hb with rfl | hb
    · exact ⟨i, a, List.mem_cons_self, hfirst⟩
    · obtain ⟨j, c, hc, hcheck⟩ := exists_of_mem_all hrest b hb
      exact ⟨j, c, List.mem_cons_of_mem a hc, hcheck⟩

end Checked
end FlowBundle
