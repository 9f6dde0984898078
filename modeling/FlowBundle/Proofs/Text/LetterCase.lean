import FlowBundle.Text.Ascii
import FlowBundle.Text.Blank
import FlowBundle.Text.LetterCase
/-!
# Letter case of plain text

On the first 128 characters lower case is what it is in the library, character by character (`toList_lower`): no letter
there becomes more than one, and none depends on what stands around it.  So two spellings of a plain text that differ in
the case of letters alone are the same in lower case (`SameLetters.lower_eq`).
-/
namespace FlowBundle

/-- **What holds of each of the first 128 characters** can be found by going through them. -/
theorem Ascii.forall_isPlain {P : Char → Prop} (h : ∀ n < 0x80, P (Char.ofNat n)) {c : Char} (hc : isPlain c = true) :
    P c :=
  Char.ofNat_toNat c ▸ h c.toNat (of_decide_eq_true hc)

namespace Text

open Ascii (isPlain forall_isPlain)

/-! ## One character -/

theorem toLower_of_not_isPlain {c : Char} (h : isPlain c = false) : c.toLower = c := by
  have hcode : ¬ c.toNat < 0x80 := of_decide_eq_false h
  refine dif_neg fun hupper => hcode ?_
  have hlast : c.toNat ≤ 90 := UInt32.le_iff_toNat_le.1 hupper.2
  omega

theorem isPlain_toLower (c : Char) : isPlain c.toLower = isPlain c := by
  cases h : isPlain c with
  | false => rw [toLower_of_not_isPlain h, h]
  | true => exact forall_isPlain (P := fun c => isPlain c.toLower = true) (by decide) h

theorem isBlank_toLower (c : Char) : isBlank c.toLower = isBlank c := by
  cases h : isPlain c with
  | false => rw [toLower_of_not_isPlain h]
  | true => exact forall_isPlain (P := fun c => isBlank c.toLower = isBlank c) (by decide) h

/-- The run of the capital letters among the first 128 characters. -/
def capitals : CaseRun := ⟨0x41, 0x5A, 1, 0x61⟩

/-- No other run reaches down to the first 128 characters. -/
theorem apply_lowerRuns {n : Nat} (h : n < 0x80) : CaseRun.apply lowerRuns n = CaseRun.apply [capitals] n := by
  have hbeyond : ∀ r ∈ lowerRuns.tail, 0x80 ≤ r.first := by decide +kernel
  have hnone : lowerRuns.tail.findSome? (fun r => r.image? n) = none := by
    refine List.findSome?_eq_none_iff.2 fun r hr => ?_
    have hr := hbeyond r hr
    exact if_neg fun himage => by omega
  have hfirst : lowerRuns = capitals :: lowerRuns.tail := rfl
  rw [CaseRun.apply, CaseRun.apply, hfirst, List.findSome?_cons, List.findSome?_cons, hnone, List.findSome?_nil]

theorem lowerChar_of_isPlain {c : Char} (h : isPlain c = true) : lowerChar c = [c.toLower] := by
  have hdotted : c.toNat ≠ 0x130 := forall_isPlain (P := fun c => c.toNat ≠ 0x130) (by decide) h
  have hcode : Char.ofNat (CaseRun.apply [capitals] c.toNat) = c.toLower :=
    forall_isPlain (P := fun c => Char.ofNat (CaseRun.apply [capitals] c.toNat) = c.toLower) (by decide) h
  rw [lowerChar, if_neg hdotted, apply_lowerRuns (of_decide_eq_true h), hcode]

theorem lowerBetween_of_isPlain {c : Char} (h : isPlain c = true) (before after : List Char) :
    lowerBetween before c after = [c.toLower] := by
  have hsigma : c ≠ capitalSigma := forall_isPlain (P := (· ≠ capitalSigma)) (by decide) h
  rw [lowerBetween, if_neg hsigma, lowerChar_of_isPlain h]

/-! ## A text -/

theorem lowerOnto_of_isPlain : ∀ {cs : List Char} (done before : List Char), (∀ c ∈ cs, isPlain c = true) →
    lowerOnto done before cs = done.reverse ++ cs.map Char.toLower
  | [], done, _, _ => (List.append_nil _).symm
  | c :: cs, done, before, h => by
    have hrest : ∀ d ∈ cs, isPlain d = true := fun d hd => h d (List.mem_cons_of_mem c hd)
    rw [lowerOnto, lowerBetween_of_isPlain (h c List.mem_cons_self), lowerOnto_of_isPlain _ _ hrest]
    simp

/-- **A text of the first 128 characters**. -/
def IsPlain (s : String) : Prop := ∀ c ∈ s.toList, isPlain c = true

instance (s : String) : Decidable (IsPlain s) := List.decidableBAll (fun c => isPlain c = true) s.toList

/-- **Plain text in lower case**, character by character. -/
theorem toList_lower {s : String} (h : IsPlain s) : (lower s).toList = s.toList.map Char.toLower := by
  rw [lower, String.toList_ofList, lowerOnto_of_isPlain _ _ h]
  rfl

/-- **The same letters**, be they small or capital ones: two texts that differ at most in the case of the letters among
the first 128 characters. -/
def SameLetters (s t : String) : Prop := s.toList.map Char.toLower = t.toList.map Char.toLower

instance (s t : String) : Decidable (SameLetters s t) := inferInstanceAs (Decidable (_ = _))

namespace SameLetters

variable {s t : String} (h : SameLetters s t)
include h

theorem all_eq {p : Char → Bool} (hp : ∀ c, p c.toLower = p c) : s.toList.all p = t.toList.all p := by
  have hlower : ∀ cs : List Char, cs.all p = (cs.map Char.toLower).all p := fun cs => by
    rw [List.all_map]
    exact congrArg cs.all (funext fun c => (hp c).symm)
  rw [hlower, hlower t.toList, h]

theorem allBlank_eq : allBlank s = allBlank t := h.all_eq isBlank_toLower

theorem isPlain (ht : IsPlain t) : IsPlain s := by
  have hall : s.toList.all Ascii.isPlain = true := (h.all_eq isPlain_toLower).trans (List.all_eq_true.2 ht)
  exact List.all_eq_true.1 hall

/-- **Lower case does not tell the spellings of a plain text apart.** -/
theorem lower_eq (ht : IsPlain t) : lower s = lower t := by
  have hlists : (lower s).toList = (lower t).toList := by
    rw [toList_lower (h.isPlain ht), toList_lower ht, h]
  exact String.toList_inj.1 hlists

end SameLetters
end Text
end FlowBundle
