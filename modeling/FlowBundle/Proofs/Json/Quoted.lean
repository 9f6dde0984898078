import FlowBundle.Json.Printer
import FlowBundle.Json.Reader
import FlowBundle.Proofs.Text.Utf8
/-!
# Texts read back

A text between quotes is read character by character, and each character may be written in four ways: as it is, by a
short escape, by its code, or by a pair of codes.  The reader looks one character past a code, so behind an escaped text
there has to be one; the closing quote is there.
-/
namespace FlowBundle

namespace Wide

theorem isHighHalf_iff {n : Nat} : isHighHalf n = true ↔ 0xD800 ≤ n ∧ n < 0xDC00 := by
  rw [isHighHalf, Bool.and_eq_true, decide_eq_true_iff, decide_eq_true_iff]

theorem isLowHalf_iff {n : Nat} : isLowHalf n = true ↔ 0xDC00 ≤ n ∧ n < 0xE000 := by
  rw [isLowHalf, Bool.and_eq_true, decide_eq_true_iff, decide_eq_true_iff]

end Wide

namespace Json

open Wide (isHighHalf isLowHalf isHighHalf_iff isLowHalf_iff charOfCode charOfPair)

section
variable {opening : Nat} {done s out rest : List Char}

theorem readString_quote (opening : Nat) (done rest : List Char) :
    readString opening done ('"' :: rest) = .ok (done.reverse, rest) := by
  rw [readString]

theorem readString_plain {c : Char} (hquote : c ≠ '"') (hslash : c ≠ '\\') (hc : 0x20 ≤ c.toNat) :
    readString opening done (c :: s) = readString opening (c :: done) s := by
  rw [readString, if_neg (Nat.not_lt.2 hc)]
  · exact hquote
  · exact fun _ _ _ _ _ _ h _ => hslash h
  · exact fun _ h _ => hslash h
  · exact fun _ _ h _ => hslash h
  · exact fun h _ => hslash h

theorem readString_short {c x : Char} (hx : shortEscape? c = some x) :
    readString opening done ('\\' :: c :: s) = readString opening (x :: done) s := by
  have hu : c ≠ 'u' := by
    rintro rfl
    cases hx
  rw [readString, hx]
  · exact fun _ _ _ _ _ _ h _ => hu h
  · exact hu

theorem readString_code {a b c d e : Char} {n : Nat} (hn : hexValue4? a b c d = some n) (hhigh : isHighHalf n = false) :
    readString opening done ('\\' :: 'u' :: a :: b :: c :: d :: e :: s) =
      readString opening (charOfCode n :: done) (e :: s) := by
  rw [readString, hn]
  simp only [hhigh]
  rfl

theorem readString_pair {a b c d f g h i j : Char} {n m : Nat} (hn : hexValue4? a b c d = some n)
    (hhigh : isHighHalf n = true) (hm : hexValue4? f g h i = some m) (hlow : isLowHalf m = true) :
    readString opening done ('\\' :: 'u' :: a :: b :: c :: d :: '\\' :: 'u' :: f :: g :: h :: i :: j :: s) =
      readString opening (charOfPair n m :: done) (j :: s) := by
  rw [readString, hn]
  simp only [hhigh, hm, hlow, if_true]

end

/-! ## Escaped characters -/

theorem hexValue?_digitChar : ∀ d < 16, Text.hexValue? (Nat.digitChar d) = some d := by decide

theorem exists_hexText (n : Nat) (hn : n < 0x10000) :
    ∃ a b c d, Text.hexText 4 n = [a, b, c, d] ∧ hexValue4? a b c d = some n := by
  refine ⟨_, _, _, _, rfl, ?_⟩
  have hvalue := fun k => hexValue?_digitChar (k % 16) (Nat.mod_lt k (by decide))
  unfold hexValue4?
  rw [hvalue, hvalue, hvalue, hvalue]
  show some _ = some n
  congr 1
  omega

/-- **The four ways to write a character.** -/
theorem escapedChar_cases (ascii : Bool) (c : Char) :
    (∃ x, escapedChar ascii c = ['\\', x] ∧ shortEscape? x = some c) ∨
    (c.toNat < 0x10000 ∧ escapedChar ascii c = codeEscape c.toNat) ∨
    (0x10000 ≤ c.toNat ∧ escapedChar ascii c =
      codeEscape (0xD800 + (c.toNat - 0x10000) / 0x400) ++ codeEscape (0xDC00 + (c.toNat - 0x10000) % 0x400)) ∨
    (c ≠ '"' ∧ c ≠ '\\' ∧ 0x20 ≤ c.toNat ∧ escapedChar ascii c = [c]) := by
  by_cases hquote : c = '"'
  · exact .inl ⟨'"', by rw [hquote]; rfl, by rw [hquote]; rfl⟩
  by_cases hslash : c = '\\'
  · exact .inl ⟨'\\', by rw [hslash]; rfl, by rw [hslash]; rfl⟩
  by_cases hline : c = '\n'
  · exact .inl ⟨'n', by rw [hline]; rfl, by rw [hline]; rfl⟩
  by_cases hreturn : c = '\r'
  · exact .inl ⟨'r', by rw [hreturn]; rfl, by rw [hreturn]; rfl⟩
  by_cases htab : c = '\t'
  · exact .inl ⟨'t', by rw [htab]; rfl, by rw [htab]; rfl⟩
  by_cases hback : c = '\x08'
  · exact .inl ⟨'b', by rw [hback]; rfl, by rw [hback]; rfl⟩
  by_cases hfeed : c = '\x0c'
  · exact .inl ⟨'f', by rw [hfeed]; rfl, by rw [hfeed]; rfl⟩
  rw [escapedChar, if_neg hquote, if_neg hslash, if_neg hline, if_neg hreturn, if_neg htab, if_neg hback, if_neg hfeed]
  by_cases hcontrol : c.toNat < 0x20
  · exact .inr (.inl ⟨by omega, if_pos hcontrol⟩)
  rw [if_neg hcontrol]
  by_cases hcode : (ascii && decide (0x7F ≤ c.toNat)) = true
  · rw [if_pos hcode]
    by_cases hone : c.toNat < 0x10000
    · exact .inr (.inl ⟨hone, if_pos hone⟩)
    · exact .inr (.inr (.inl ⟨Nat.not_lt.1 hone, if_neg hone⟩))
  · exact .inr (.inr (.inr ⟨hquote, hslash, Nat.not_lt.1 hcontrol, if_neg hcode⟩))

/-- **A character written by its code is read.** -/
theorem readString_codeEscape (opening : Nat) (done : List Char) {c : Char} (hc : c.toNat < 0x10000) (e : Char)
    (s : List Char) :
    readString opening done (codeEscape c.toNat ++ e :: s) = readString opening (c :: done) (e :: s) := by
  obtain ⟨x, y, z, w, hhex, hvalue⟩ := exists_hexText c.toNat hc
  have hscalar := Utf8.toNat_isScalar c
  have hhigh : isHighHalf c.toNat = false := Bool.eq_false_iff.2 (mt isHighHalf_iff.1 (by omega))
  have hlow : isLowHalf c.toNat = false := Bool.eq_false_iff.2 (mt isLowHalf_iff.1 (by omega))
  have hchar : charOfCode c.toNat = c := by
    rw [charOfCode, hhigh, hlow]
    exact Char.ofNat_toNat c
  rw [codeEscape, hhex]
  refine (readString_code hvalue hhigh).trans ?_
  rw [hchar]

/-- **A character written by a pair of codes is read.** -/
theorem readString_pairEscape (opening : Nat) (done : List Char) {c : Char} (hc : 0x10000 ≤ c.toNat) (e : Char)
    (s : List Char) :
    readString opening done (codeEscape (0xD800 + (c.toNat - 0x10000) / 0x400) ++
      (codeEscape (0xDC00 + (c.toNat - 0x10000) % 0x400) ++ e :: s)) = readString opening (c :: done) (e :: s) := by
  have hscalar := Utf8.toNat_isScalar c
  obtain ⟨x, y, z, w, hhex, hvalue⟩ := exists_hexText (0xD800 + (c.toNat - 0x10000) / 0x400) (by omega)
  obtain ⟨x', y', z', w', hhex', hvalue'⟩ := exists_hexText (0xDC00 + (c.toNat - 0x10000) % 0x400) (by omega)
  have hhigh : isHighHalf (0xD800 + (c.toNat - 0x10000) / 0x400) = true := isHighHalf_iff.2 (by omega)
  have hlow : isLowHalf (0xDC00 + (c.toNat - 0x10000) % 0x400) = true := isLowHalf_iff.2 (by omega)
  have hchar : charOfPair (0xD800 + (c.toNat - 0x10000) / 0x400) (0xDC00 + (c.toNat - 0x10000) % 0x400) = c := by
    have hcode : 0x10000 + (0xD800 + (c.toNat - 0x10000) / 0x400 - 0xD800) * 0x400 +
        (0xDC00 + (c.toNat - 0x10000) % 0x400 - 0xDC00) = c.toNat := by omega
    rw [charOfPair, hcode]
    exact Char.ofNat_toNat c
  rw [codeEscape, codeEscape, hhex, hhex']
  refine (readString_pair hvalue hhigh hvalue' hlow).trans ?_
  rw [hchar]

theorem readString_escapedChar (ascii : Bool) (opening : Nat) (done : List Char) (c e : Char) (s : List Char) :
    readString opening done (escapedChar ascii c ++ e :: s) = readString opening (c :: done) (e :: s) := by
  obtain ⟨x, hc, hx⟩ | ⟨hone, hc⟩ | ⟨htwo, hc⟩ | ⟨hquote, hslash, hplain, hc⟩ := escapedChar_cases ascii c
  · rw [hc]
    exact readString_short hx
  · rw [hc]
    exact readString_codeEscape opening done hone e s
  · rw [hc, List.append_assoc]
    exact readString_pairEscape opening done htwo e s
  · rw [hc]
    exact readString_plain hquote hslash hplain

/-- **An escaped text reads back.** -/
theorem readString_escaped (ascii : Bool) (opening : Nat) (rest : List Char) : ∀ (cs done : List Char),
    readString opening done (cs.flatMap (escapedChar ascii) ++ '"' :: rest) = .ok (done.reverse ++ cs, rest)
  | [], done => by
    rw [List.append_nil]
    exact readString_quote opening done rest
  | c :: cs, done => by
    have ih := readString_escaped ascii opening rest cs (c :: done)
    rw [List.reverse_cons, List.append_assoc, List.singleton_append] at ih
    obtain ⟨e, s, hs⟩ : ∃ e s, cs.flatMap (escapedChar ascii) ++ '"' :: rest = e :: s :=
      List.exists_cons_of_ne_nil (List.append_ne_nil_of_right_ne_nil _ (List.cons_ne_nil _ _))
    rw [hs] at ih
    rw [List.flatMap_cons, List.append_assoc, hs, readString_escapedChar, ih]

end Json
end FlowBundle
