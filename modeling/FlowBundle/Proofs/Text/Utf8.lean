import FlowBundle.Text.Utf8
/-!
# UTF-8 read back

The bytes of a text are read as that text (`decode_encode`).  A character takes one step of the machine for each of its
bytes: the lead byte puts its high bits in hand, with the range that the next byte lies in because the character is no
overlong form and no surrogate, and every further byte adds six bits (`decodeFrom_encodeChar`).
-/
namespace FlowBundle
namespace Utf8

theorem toNat_toUInt8 {n : Nat} (h : n < 256) : n.toUInt8.toNat = n := by
  rw [Nat.toUInt8, UInt8.toNat_ofNat']
  omega

/-! ## One byte -/

section

variable {n : Nat} (index lead : Nat) (done : List Char) (rest : Bytes)

theorem decodeFrom_plain (h : n < 0x80) : decodeFrom index lead none done (n.toUInt8 :: rest) =
    decodeFrom (index + 1) n none (Char.ofNat n :: done) rest := by
  rw [decodeFrom, toNat_toUInt8 (by omega)]
  simp only [if_pos h]

theorem decodeFrom_lead {p : Pending} (hlow : 0x80 ≤ n) (h : n < 256) (hp : pending? n = some p) :
    decodeFrom index lead none done (n.toUInt8 :: rest) = decodeFrom (index + 1) n (some p) done rest := by
  rw [decodeFrom, toNat_toUInt8 h]
  simp only [if_neg (Nat.not_lt.2 hlow), hp]

theorem decodeFrom_more {p : Pending} (hn : p.low ≤ n ∧ n ≤ p.high) (h : n < 256) (hm : p.missing ≠ 1) :
    decodeFrom index lead (some p) done (n.toUInt8 :: rest) =
      decodeFrom (index + 1) lead
        (some ⟨p.bits * 0x40 + (n - 0x80), p.taken + 1, p.missing - 1, 0x80, 0xBF⟩) done rest := by
  rw [decodeFrom, toNat_toUInt8 h]
  simp only [if_pos hn, if_neg hm]

theorem decodeFrom_last {p : Pending} (hn : p.low ≤ n ∧ n ≤ p.high) (h : n < 256) (hm : p.missing = 1) :
    decodeFrom index lead (some p) done (n.toUInt8 :: rest) =
      decodeFrom (index + 1) lead none (Char.ofNat (p.bits * 0x40 + (n - 0x80)) :: done) rest := by
  rw [decodeFrom, toNat_toUInt8 h]
  simp only [if_pos hn, if_pos hm]

/-! ## The bytes of one character -/

theorem pending?_two : ∀ q < 0x20, 2 ≤ q → pending? (0xC0 + q) = some ⟨q, 1, 1, 0x80, 0xBF⟩ := by decide

theorem pending?_three : ∀ q < 0x10, pending? (0xE0 + q) =
    some ⟨q, 1, 2, if q = 0 then 0xA0 else 0x80, if q = 0xD then 0x9F else 0xBF⟩ := by decide

theorem pending?_four : ∀ q < 5, pending? (0xF0 + q) =
    some ⟨q, 1, 3, if q = 0 then 0x90 else 0x80, if q = 4 then 0x8F else 0xBF⟩ := by decide

theorem decodeFrom_two (hlow : 0x80 ≤ n) (hhigh : n < 0x800) :
    decodeFrom index lead none done ((0xC0 + n / 0x40).toUInt8 :: (0x80 + n % 0x40).toUInt8 :: rest) =
      decodeFrom (index + 1 + 1) (0xC0 + n / 0x40) none (Char.ofNat n :: done) rest := by
  have hbits : n / 0x40 * 0x40 + (0x80 + n % 0x40 - 0x80) = n := by omega
  rw [decodeFrom_lead _ _ _ _ (by omega) (by omega) (pending?_two (n / 0x40) (by omega) (by omega)),
    decodeFrom_last _ _ _ _ (by simp only; omega) (by omega) rfl]
  simp only [hbits]

theorem decodeFrom_three (hlow : 0x800 ≤ n) (hhigh : n < 0x10000) (hn : n < 0xD800 ∨ 0xDFFF < n) :
    decodeFrom index lead none done
        ((0xE0 + n / 0x1000).toUInt8 :: (0x80 + n / 0x40 % 0x40).toUInt8 :: (0x80 + n % 0x40).toUInt8 :: rest) =
      decodeFrom (index + 1 + 1 + 1) (0xE0 + n / 0x1000) none (Char.ofNat n :: done) rest := by
  have hbits : (n / 0x1000 * 0x40 + (0x80 + n / 0x40 % 0x40 - 0x80)) * 0x40 + (0x80 + n % 0x40 - 0x80) = n := by omega
  rw [decodeFrom_lead _ _ _ _ (by omega) (by omega) (pending?_three (n / 0x1000) (by omega)),
    decodeFrom_more _ _ _ _ (by simp only; split <;> split <;> omega) (by omega) (by simp),
    decodeFrom_last _ _ _ _ (by simp only; omega) (by omega) rfl]
  simp only [hbits]

theorem decodeFrom_four (hlow : 0x10000 ≤ n) (hhigh : n < 0x110000) :
    decodeFrom index lead none done
        ((0xF0 + n / 0x40000).toUInt8 :: (0x80 + n / 0x1000 % 0x40).toUInt8 :: (0x80 + n / 0x40 % 0x40).toUInt8 ::
          (0x80 + n % 0x40).toUInt8 :: rest) =
      decodeFrom (index + 1 + 1 + 1 + 1) (0xF0 + n / 0x40000) none (Char.ofNat n :: done) rest := by
  have hbits : ((n / 0x40000 * 0x40 + (0x80 + n / 0x1000 % 0x40 - 0x80)) * 0x40 +
      (0x80 + n / 0x40 % 0x40 - 0x80)) * 0x40 + (0x80 + n % 0x40 - 0x80) = n := by omega
  rw [decodeFrom_lead _ _ _ _ (by omega) (by omega) (pending?_four (n / 0x40000) (by omega)),
    decodeFrom_more _ _ _ _ (by simp only; split <;> split <;> omega) (by omega) (by simp),
    decodeFrom_more _ _ _ _ (by simp only; omega) (by omega) (by simp),
    decodeFrom_last _ _ _ _ (by simp only; omega) (by omega) rfl]
  simp only [hbits]

end

/-! ## Characters and texts -/

theorem toNat_isScalar (c : Char) : c.toNat < 0xD800 ∨ 0xDFFF < c.toNat ∧ c.toNat < 0x110000 := c.valid

/-- **The bytes of a character are read as that character**, whatever stands behind them. -/
theorem decodeFrom_encodeChar (c : Char) (index lead : Nat) (done : List Char) (rest : Bytes) :
    ∃ index' lead', decodeFrom index lead none done (encodeChar c ++ rest) =
      decodeFrom index' lead' none (c :: done) rest := by
  have hc := toNat_isScalar c
  have hback : Char.ofNat c.toNat = c := Char.ofNat_toNat c
  unfold encodeChar
  by_cases h1 : c.toNat < 0x80
  · simp only [if_pos h1]
    have h := decodeFrom_plain index lead done rest h1
    rw [hback] at h
    exact ⟨_, _, h⟩
  by_cases h2 : c.toNat < 0x800
  · simp only [if_neg h1, if_pos h2]
    have h := decodeFrom_two index lead done rest (Nat.not_lt.1 h1) h2
    rw [hback] at h
    exact ⟨_, _, h⟩
  by_cases h3 : c.toNat < 0x10000
  · simp only [if_neg h1, if_neg h2, if_pos h3]
    have h := decodeFrom_three index lead done rest (Nat.not_lt.1 h2) h3 (by omega)
    rw [hback] at h
    exact ⟨_, _, h⟩
  · simp only [if_neg h1, if_neg h2, if_neg h3]
    have h := decodeFrom_four index lead done rest (Nat.not_lt.1 h3) (by omega)
    rw [hback] at h
    exact ⟨_, _, h⟩

theorem decodeFrom_flatMap : ∀ (cs : List Char) (index lead : Nat) (done : List Char),
    decodeFrom index lead none done (cs.flatMap encodeChar) = .ok (done.reverse ++ cs)
  | [], _, _, done => by rw [List.flatMap_nil, decodeFrom, List.append_nil]
  | c :: cs, index, lead, done => by
    obtain ⟨index', lead', h⟩ := decodeFrom_encodeChar c index lead done (cs.flatMap encodeChar)
    rw [List.flatMap_cons, h, decodeFrom_flatMap cs, List.reverse_cons, List.append_assoc]
    rfl

/-- **The bytes of a text are read as that text.** -/
theorem decode_encode (s : String) : decode (encode s) = .ok s := by
  rw [decode, encode, decodeFrom_flatMap, List.reverse_nil, List.nil_append]
  exact congrArg Except.ok String.ofList_toList

theorem encode_injective {s t : String} (h : encode s = encode t) : s = t := by
  have hs := decode_encode s
  rw [h, decode_encode t] at hs
  exact (Except.ok.inj hs).symm

end Utf8
end FlowBundle
