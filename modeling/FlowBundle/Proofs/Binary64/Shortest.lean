import FlowBundle.Proofs.Binary64.Rounding
/-!
# The shortest decimal reads back

The search for the shortest decimal tries what it returns, except for the last resort, which has all digits there are;
so whatever it returns is read as the number that it was searched for (`ofDecimal_shortest`).
-/
namespace FlowBundle
namespace Binary64

theorem ofDecimal_of_onGrid {x : Binary64} {num den : Nat} {exponent : Int} {d : Decimal}
    (h : onGrid x num den exponent = some d) : ofDecimal false d.digits d.exponent = x := by
  unfold onGrid at h
  simp only at h
  split at h
  · rename_i hlow
    rw [Bool.and_eq_true] at hlow
    cases h
    exact of_decide_eq_true hlow.1
  · split at h
    · rename_i hhigh
      cases h
      exact of_decide_eq_true hhigh
    · cases h

theorem ofDecimal_exact {s e : Nat} (h : Canonical s e) (hs : s ≠ 0) :
    ofDecimal false (exact (s * 2 ^ e)).digits (exact (s * 2 ^ e)).exponent = .finite false s e h := by
  have hnum : s * 2 ^ e ≠ 0 := Nat.mul_ne_zero hs (Nat.ne_of_gt (Nat.two_pow_pos e))
  have hdigits : s * 2 ^ e * 5 ^ (1074 : Nat) ≠ 0 := Nat.mul_ne_zero hnum (by decide +kernel)
  have hten : 5 ^ (1074 : Nat) * unitsPerOne = 10 ^ (1074 : Nat) := by decide +kernel
  have hwhole : (-1074 : Int).toNat = 0 := rfl
  have hplaces : (-(-1074) : Int).toNat = 1074 := rfl
  rw [exact, ofDecimal_eq_ratio false hdigits, decimalRatio, hwhole, hplaces, Nat.pow_zero, Nat.mul_one]
  refine ofRatio_exact false h hs (ten_pow_pos 1074) ?_
  rw [Nat.mul_assoc (s * 2 ^ e), hten]

/-- **The shortest decimal of a number reads back as the number.** -/
theorem ofDecimal_shortest {s e : Nat} (h : Canonical s e) (hs : s ≠ 0) :
    ofDecimal false (shortest (.finite false s e h) (s * 2 ^ e)).digits
      (shortest (.finite false s e h) (s * 2 ^ e)).exponent = .finite false s e h := by
  unfold shortest
  simp only
  cases hfound : (List.range 17).findSome? fun k => onGrid (.finite false s e h) (s * 2 ^ e) unitsPerOne
      (pointOf (s * 2 ^ e) unitsPerOne - (k + 1 : Nat)) with
  | none => exact ofDecimal_exact h hs
  | some d =>
    obtain ⟨k, -, hk⟩ := List.exists_of_findSome?_eq_some hfound
    exact ofDecimal_of_onGrid hk

theorem digits_shortest_ne_zero {s e : Nat} (h : Canonical s e) (hs : s ≠ 0) :
    (shortest (.finite false s e h) (s * 2 ^ e)).digits ≠ 0 := by
  intro h0
  have hread := ofDecimal_shortest h hs
  rw [h0, ofDecimal_zero, zero] at hread
  cases hread
  exact hs rfl

end Binary64
end FlowBundle
