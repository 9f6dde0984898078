import FlowBundle.Binary64.Shortest
/-!
# Rounding depends on the ratio alone

`ofRatio` sees its two numbers only through their ratio (`ofRatio_congr`), and it gives a number back that is the ratio
already (`ofRatio_exact`).  The decimals inherit both: the cut-offs of `ofDecimal` decide nothing that rounding would
not decide (`ofDecimal_eq_ratio`), so zeros may move between the digits and the exponent (`ofDecimal_shift`).
-/
namespace FlowBundle
namespace Binary64

/-! ## Ratios -/

theorem roundHalfEven_mul_right (num den : Nat) {c : Nat} (hc : 0 < c) :
    roundHalfEven (num * c) (den * c) = roundHalfEven num den := by
  have hlt : ∀ a b : Nat, a * c < b * c ↔ a < b := fun a b => Nat.mul_lt_mul_right hc
  unfold roundHalfEven
  simp only
  rw [Nat.mul_div_mul_right num den hc, Nat.mul_mod_mul_right, ← Nat.mul_assoc]
  simp only [hlt]

theorem roundHalfEven_exact (s : Nat) {den : Nat} (hden : 0 < den) : roundHalfEven (s * den) den = s := by
  unfold roundHalfEven
  rw [Nat.mul_div_cancel s hden, Nat.mul_mod_left]
  exact if_pos hden

theorem ofRatio_mul_right (negative : Bool) (num den : Nat) {c : Nat} (hc : 0 < c) :
    ofRatio negative (num * c) (den * c) = ofRatio negative num den := by
  unfold ofRatio
  simp only
  rw [Nat.mul_right_comm num c, Nat.mul_div_mul_right _ _ hc, Nat.mul_right_comm den c,
    roundHalfEven_mul_right _ _ hc]

/-- **Equal ratios are rounded alike.** -/
theorem ofRatio_congr (negative : Bool) {num den num' den' : Nat} (hden : 0 < den) (hden' : 0 < den')
    (h : num * den' = num' * den) : ofRatio negative num den = ofRatio negative num' den' := by
  rw [← ofRatio_mul_right negative num den hden', h, Nat.mul_comm den, ofRatio_mul_right negative num' den' hden]

theorem ofParts_of_canonical (negative : Bool) {s e : Nat} (h : Canonical s e) :
    ofParts negative s e = .finite negative s e h :=
  dif_pos h

theorem log2_mul_two_pow {s : Nat} (hs : s ≠ 0) : ∀ e, Nat.log2 (s * 2 ^ e) = Nat.log2 s + e
  | 0 => by rw [Nat.pow_zero, Nat.mul_one, Nat.add_zero]
  | e + 1 => by
    have hne : s * 2 ^ e ≠ 0 := Nat.mul_ne_zero hs (Nat.ne_of_gt (Nat.two_pow_pos e))
    rw [Nat.pow_succ, ← Nat.mul_assoc, Nat.mul_comm _ 2, Nat.log2_two_mul hne, log2_mul_two_pow hs e, Nat.add_assoc]

theorem log2_of_canonical {s e : Nat} (h : Canonical s e) (hs : s ≠ 0) : Nat.log2 (s * 2 ^ e) - 52 = e := by
  obtain ⟨hlt, -, hfull⟩ := h
  have hlog : Nat.log2 s < 53 := (Nat.log2_lt hs).2 hlt
  have hmul := log2_mul_two_pow hs e
  rcases hfull with hge | rfl
  · have hle : 52 ≤ Nat.log2 s := (Nat.le_log2 hs).2 hge
    omega
  · omega

/-- **A ratio that is a number is rounded to that number.** -/
theorem ofRatio_exact (negative : Bool) {num den s e : Nat} (h : Canonical s e) (hs : s ≠ 0) (hden : 0 < den)
    (heq : num * unitsPerOne = s * 2 ^ e * den) : ofRatio negative num den = .finite negative s e h := by
  unfold ofRatio
  simp only
  have hpos : 0 < den * 2 ^ e := Nat.mul_pos hden (Nat.two_pow_pos e)
  rw [heq, Nat.mul_div_cancel _ hden, log2_of_canonical h hs, Nat.mul_assoc, Nat.mul_comm (2 ^ e),
    roundHalfEven_exact s hpos, ofParts_of_canonical]

/-- **The sign is carried along**: it decides nothing else. -/
theorem ofParts_sign {s e t f : Nat} {h : Canonical t f} (heq : ofParts false s e = .finite false t f h)
    (negative : Bool) : ofParts negative s e = .finite negative t f h := by
  unfold ofParts at heq ⊢
  split at heq
  · rename_i hc
    cases heq
    rw [dif_pos hc]
  · rename_i hc
    rw [dif_neg hc]
    split at heq
    · rename_i hcarry
      cases heq
      rw [dif_pos hcarry]
    · cases heq

/-! ## Decimals -/

theorem ten_pow_pos (k : Nat) : 0 < 10 ^ k := Nat.pow_pos (Nat.zero_lt_succ 9)

theorem unitsPerOne_eq : unitsPerOne = 2 ^ (1074 : Nat) := by decide +kernel

theorem le_log2_of_le {k n : Nat} (h : 2 ^ k ≤ n) : k ≤ Nat.log2 n :=
  (Nat.le_log2 (Nat.ne_of_gt (Nat.lt_of_lt_of_le (Nat.two_pow_pos k) h))).2 h

theorem two_pow_le_div {a num den : Nat} (hden : 0 < den) (h : 2 ^ a * den ≤ num) (b : Nat) :
    2 ^ (a + b) ≤ num * 2 ^ b / den := by
  rw [Nat.le_div_iff_mul_le hden, Nat.pow_add, Nat.mul_right_comm]
  exact Nat.mul_le_mul_right _ h

theorem ofRatio_infinite (negative : Bool) {num den : Nat} (hden : 0 < den) (h : 2 ^ (1024 : Nat) * den ≤ num) :
    ofRatio negative num den = .infinite negative := by
  have hlog := le_log2_of_le (two_pow_le_div hden h 1074)
  rw [← unitsPerOne_eq] at hlog
  unfold ofRatio ofParts
  simp only
  rw [dif_neg fun hc => by have := hc.2.1; omega, dif_neg fun hc => by have := hc.2.2.1; omega]

theorem ofRatio_zero (negative : Bool) {num den : Nat} (h : 2 * (num * unitsPerOne) < den) :
    ofRatio negative num den = zero negative := by
  unfold ofRatio
  simp only
  rw [Nat.div_eq_of_lt (by omega), Nat.log2_zero, Nat.zero_sub, Nat.pow_zero, Nat.mul_one]
  unfold roundHalfEven
  rw [Nat.div_eq_of_lt (by omega), Nat.mod_eq_of_lt (by omega)]
  simp only
  rw [if_pos h]
  rfl

/-- The two numbers whose ratio is `digits` times a power of ten. -/
def decimalRatio (negative : Bool) (digits : Nat) (exponent : Int) : Binary64 :=
  ofRatio negative (digits * 10 ^ exponent.toNat) (10 ^ (-exponent).toNat)

theorem decimalRatio_large (negative : Bool) {digits : Nat} (hd : digits ≠ 0) {exponent : Int} (h : 400 < exponent) :
    decimalRatio negative digits exponent = .infinite negative := by
  have hneg : (-exponent).toNat = 0 := by omega
  unfold decimalRatio
  rw [hneg]
  refine ofRatio_infinite negative Nat.one_pos ?_
  calc 2 ^ (1024 : Nat) * 10 ^ (0 : Nat) ≤ 1 * 10 ^ (400 : Nat) := by decide +kernel
    _ ≤ digits * 10 ^ exponent.toNat :=
      Nat.mul_le_mul (Nat.one_le_iff_ne_zero.2 hd) (Nat.pow_le_pow_right (by decide) (by omega))

theorem decimalRatio_small (negative : Bool) {digits : Nat} {exponent : Int}
    (h : exponent + (Nat.log2 digits : Int) + 1 < -400) : decimalRatio negative digits exponent = zero negative := by
  have hpos : exponent.toNat = 0 := by omega
  have hdigits : digits < 10 ^ (Nat.log2 digits + 1) :=
    Nat.lt_of_lt_of_le Nat.lt_log2_self (Nat.pow_le_pow_left (by decide) _)
  unfold decimalRatio
  rw [hpos, Nat.pow_zero, Nat.mul_one]
  refine ofRatio_zero negative ?_
  calc 2 * (digits * unitsPerOne) = digits * (2 * unitsPerOne) := Nat.mul_left_comm 2 digits unitsPerOne
    _ ≤ 10 ^ (Nat.log2 digits + 1) * (2 * unitsPerOne) := Nat.mul_le_mul_right _ (Nat.le_of_lt hdigits)
    _ < 10 ^ (Nat.log2 digits + 1) * 10 ^ (400 : Nat) :=
      Nat.mul_lt_mul_of_pos_left (by decide +kernel) (ten_pow_pos _)
    _ = 10 ^ (Nat.log2 digits + 1 + 400) := by rw [Nat.pow_add 10 (Nat.log2 digits + 1) 400]
    _ ≤ 10 ^ (-exponent).toNat := Nat.pow_le_pow_right (by decide) (by omega)

theorem ofDecimal_zero (negative : Bool) (exponent : Int) : ofDecimal negative 0 exponent = zero negative := if_pos rfl

/-- **The cut-offs of a decimal decide what rounding its ratio decides.** -/
theorem ofDecimal_eq_ratio (negative : Bool) {digits : Nat} (hd : digits ≠ 0) (exponent : Int) :
    ofDecimal negative digits exponent = decimalRatio negative digits exponent := by
  unfold ofDecimal
  rw [if_neg hd]
  split
  · rename_i h
    exact (decimalRatio_large negative hd h).symm
  · split
    · rename_i h
      exact (decimalRatio_small negative h).symm
    · unfold decimalRatio
      split
      · rename_i h
        rw [show (-exponent).toNat = 0 by omega, Nat.pow_zero]
      · rename_i h
        rw [show exponent.toNat = 0 by omega, Nat.pow_zero, Nat.mul_one]

/-- **Zeros may stand in the digits or in the exponent.** -/
theorem ofDecimal_shift (negative : Bool) (digits zeros : Nat) (exponent : Int) :
    ofDecimal negative (digits * 10 ^ zeros) (exponent - zeros) = ofDecimal negative digits exponent := by
  by_cases hd : digits = 0
  · rw [hd, Nat.zero_mul, ofDecimal_zero, ofDecimal_zero]
  · have hd' : digits * 10 ^ zeros ≠ 0 := Nat.mul_ne_zero hd (Nat.ne_of_gt (ten_pow_pos zeros))
    rw [ofDecimal_eq_ratio negative hd', ofDecimal_eq_ratio negative hd]
    refine ofRatio_congr negative (ten_pow_pos _) (ten_pow_pos _) ?_
    rw [Nat.mul_assoc, Nat.mul_assoc, Nat.mul_assoc, ← Nat.pow_add, ← Nat.pow_add, ← Nat.pow_add]
    congr 2
    omega

theorem ofDecimal_sign {digits : Nat} {exponent : Int} {s e : Nat} {h : Canonical s e}
    (heq : ofDecimal false digits exponent = .finite false s e h) (hd : digits ≠ 0) (negative : Bool) :
    ofDecimal negative digits exponent = .finite negative s e h := by
  rw [ofDecimal_eq_ratio _ hd] at heq ⊢
  exact ofParts_sign heq negative

end Binary64
end FlowBundle
