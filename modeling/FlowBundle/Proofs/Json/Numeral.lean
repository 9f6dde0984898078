import FlowBundle.Json.Printer
import FlowBundle.Json.Reader
import FlowBundle.Proofs.Binary64.Shortest
/-!
# Numbers read back

A number that is written is read back whatever stands behind it, as long as that does not go on with the number.  For an
integer (`readNumeral_writeInt`) the digits are those of the library, which are read back there.  For a float
(`readNumeral_text`) each layout puts the same digits around the point in its own way, and the zeros it adds do not show
in the number.
-/
namespace FlowBundle
namespace Json

/-! ## Digits -/

def Digits (ds : List Char) : Prop := ∀ c ∈ ds, c.isDigit = true

/-- Digits that a number may begin with, all of them. -/
structure Leading (ds : List Char) : Prop where
  digits : Digits ds
  ne_nil : ds ≠ []
  head_ne : ds.head? ≠ some '0'

def NoDigit (rest : List Char) : Prop := ∀ c ∈ rest.head?, c.isDigit = false

/-- **What does not go on with a number.** -/
def EndsNumber (rest : List Char) : Prop :=
  ∀ c ∈ rest.head?, c.isDigit = false ∧ c ≠ '.' ∧ c ≠ 'e' ∧ c ≠ 'E'

theorem EndsNumber.noDigit {rest : List Char} (h : EndsNumber rest) : NoDigit rest := fun c hc => (h c hc).1

theorem noDigit_cons {c : Char} (hc : c.isDigit = false) (rest : List Char) : NoDigit (c :: rest) := by
  intro d hd
  cases hd
  exact hc

theorem Digits.append {as bs : List Char} (ha : Digits as) (hb : Digits bs) : Digits (as ++ bs) := by
  intro c hc
  rcases List.mem_append.1 hc with h | h
  · exact ha c h
  · exact hb c h

theorem digits_zeros (k : Nat) : Digits (List.replicate k '0') := by
  intro c hc
  rw [List.eq_of_mem_replicate hc]
  decide

theorem digits_toDigits (n : Nat) : Digits (Nat.toDigits 10 n) := fun _ hc =>
  Nat.isDigit_of_mem_toDigits (by decide) (by decide) hc

theorem takeWhile_digits {ds rest : List Char} (hds : Digits ds) (hrest : NoDigit rest) :
    (ds ++ rest).takeWhile Char.isDigit = ds ∧ (ds ++ rest).dropWhile Char.isDigit = rest := by
  rw [List.takeWhile_append_of_pos hds, List.dropWhile_append_of_pos hds]
  cases rest with
  | nil => exact ⟨List.append_nil ds, rfl⟩
  | cons c rest =>
    have hc : c.isDigit = false := hrest c rfl
    rw [List.takeWhile_cons_of_neg (by rw [hc]; decide), List.dropWhile_cons_of_neg (by rw [hc]; decide)]
    exact ⟨List.append_nil ds, rfl⟩

theorem head?_toDigits_ne_zero (n : Nat) (hn : n ≠ 0) : (Nat.toDigits 10 n).head? ≠ some '0' := by
  by_cases h : n < 10
  · rw [Nat.toDigits_of_lt_base h]
    simpa using hn
  · have ih := head?_toDigits_ne_zero (n / 10) (by omega)
    obtain ⟨d, ds, hds⟩ := List.exists_cons_of_ne_nil (Nat.toDigits_ne_nil (b := 10) (n := n / 10))
    rw [Nat.toDigits_of_base_le (by decide) (by omega), hds]
    rw [hds] at ih
    exact ih
termination_by n

theorem leading_toDigits {n : Nat} (hn : n ≠ 0) : Leading (Nat.toDigits 10 n) :=
  ⟨digits_toDigits n, Nat.toDigits_ne_nil, head?_toDigits_ne_zero n hn⟩

/-! ## The number of some digits -/

theorem natOf_toDigits (n : Nat) : natOf (Nat.toDigits 10 n) = n := Nat.ofDigitChars_ten_toDigits

theorem natOf_append (as bs : List Char) : natOf (as ++ bs) = natOf as * 10 ^ bs.length + natOf bs := by
  unfold natOf
  rw [Nat.ofDigitChars_append, Nat.ofDigitChars_eq_ofDigitChars_zero, Nat.mul_comm]

theorem natOf_zeros (k : Nat) : natOf (List.replicate k '0') = 0 := by
  unfold natOf
  rw [Nat.ofDigitChars_replicate_zero, Nat.mul_zero]

theorem natOf_zeros_append (k : Nat) (ds : List Char) : natOf (List.replicate k '0' ++ ds) = natOf ds := by
  rw [natOf_append, natOf_zeros, Nat.zero_mul, Nat.zero_add]

theorem natOf_append_zeros (ds : List Char) (k : Nat) : natOf (ds ++ List.replicate k '0') = natOf ds * 10 ^ k := by
  rw [natOf_append, natOf_zeros, Nat.add_zero, List.length_replicate]

/-! ## The parts of a number -/

theorem readWhole_leading {ds rest : List Char} (hds : Leading ds) (hrest : NoDigit rest) :
    readWhole (ds ++ rest) = (ds, rest) := by
  obtain ⟨d, ds', rfl⟩ := List.exists_cons_of_ne_nil hds.ne_nil
  have hd : d ≠ '0' := fun h => hds.head_ne (by rw [h]; rfl)
  have htake := takeWhile_digits hds.digits hrest
  unfold readWhole
  split
  · rename_i h
    cases h
    exact absurd rfl hd
  · rw [htake.1, htake.2]

theorem readFraction_digits {ds rest : List Char} (hds : Digits ds) (hne : ds ≠ []) (hrest : NoDigit rest) :
    readFraction ('.' :: (ds ++ rest)) = (ds, rest) := by
  have htake := takeWhile_digits hds hrest
  unfold readFraction
  simp only
  rw [htake.1, htake.2]
  exact if_neg hne

theorem readFraction_none {rest : List Char} (h : ∀ c ∈ rest.head?, c ≠ '.') : readFraction rest = ([], rest) := by
  unfold readFraction
  split
  · exact absurd rfl (h '.' rfl)
  · rfl

theorem readExponentDigits_digits (negative : Bool) {ds rest : List Char} (hds : Digits ds) (hne : ds ≠ [])
    (hrest : NoDigit rest) : readExponentDigits negative (ds ++ rest) =
      some (if negative then -(natOf ds : Int) else natOf ds, rest) := by
  have htake := takeWhile_digits hds hrest
  unfold readExponentDigits
  rw [htake.1, htake.2, if_neg hne]

theorem readExponent_none {rest : List Char} (h : EndsNumber rest) : readExponent rest = none := by
  have hno : ∀ (e : Char) (tail : List Char), rest = e :: tail → ¬(e = 'e' ∨ e = 'E') := by
    rintro e tail rfl hor
    have hc := h e rfl
    rcases hor with he | he
    · exact hc.2.2.1 he
    · exact hc.2.2.2 he
  unfold readExponent
  split
  · exact if_neg (hno _ _ rfl)
  · exact if_neg (hno _ _ rfl)
  · exact if_neg (hno _ _ rfl)
  · rfl

theorem readUnsigned_plain (negative : Bool) {s whole fraction after rest : List Char}
    (hwhole : readWhole s = (whole, after)) (hne : whole ≠ []) (hfraction : readFraction after = (fraction, rest))
    (hrest : EndsNumber rest) : readUnsigned negative s = some (⟨negative, whole, fraction, none⟩, rest) := by
  unfold readUnsigned
  simp only [hwhole, hfraction, readExponent_none hrest, if_neg hne]

theorem readUnsigned_exponent (negative : Bool) {s whole fraction after behind rest : List Char} {exponent : Int}
    (hwhole : readWhole s = (whole, after)) (hne : whole ≠ []) (hfraction : readFraction after = (fraction, behind))
    (hexponent : readExponent behind = some (exponent, rest)) :
    readUnsigned negative s = some (⟨negative, whole, fraction, some exponent⟩, rest) := by
  unfold readUnsigned
  simp only [hwhole, hfraction, hexponent, if_neg hne]

/-! ## Integers -/

theorem readUnsigned_toDigits (negative : Bool) (n : Nat) {rest : List Char} (hrest : EndsNumber rest) :
    readUnsigned negative (Nat.toDigits 10 n ++ rest) = some (⟨negative, Nat.toDigits 10 n, [], none⟩, rest) := by
  have hfraction : readFraction rest = ([], rest) := readFraction_none fun c hc => (hrest c hc).2.1
  by_cases hn : n = 0
  · subst hn
    exact readUnsigned_plain negative rfl Nat.toDigits_ne_nil hfraction hrest
  · exact readUnsigned_plain negative (readWhole_leading (leading_toDigits hn) hrest.noDigit) Nat.toDigits_ne_nil
      hfraction hrest

theorem readNumeral_unsigned {c : Char} (hc : c.isDigit = true) (s : List Char) :
    readNumeral (c :: s) = readUnsigned false (c :: s) := by
  unfold readNumeral
  split
  · rename_i h
    cases h
    cases hc
  · rfl

theorem value_integer {n : Nat} {negative : Bool} (h : (Nat.toDigits 10 n).length ≤ maxDigits) :
    Numeral.value ⟨negative, Nat.toDigits 10 n, [], none⟩ = .ok (.int (if negative then -(n : Int) else n)) := by
  unfold Numeral.value
  simp only
  rw [if_neg (Nat.not_lt.2 h), natOf_toDigits]

/-- **An integer reads back**, if it has no more digits than are read. -/
theorem readNumeral_writeInt {i : Int} (hi : (Nat.toDigits 10 i.natAbs).length ≤ maxDigits) {rest : List Char}
    (hrest : EndsNumber rest) :
    ∃ n, readNumeral (writeInt i ++ rest) = some (n, rest) ∧ n.value = .ok (.int i) := by
  have hread := fun negative => readUnsigned_toDigits negative i.natAbs hrest
  unfold writeInt
  by_cases hneg : i < 0
  · rw [if_pos hneg]
    refine ⟨_, hread true, ?_⟩
    rw [value_integer hi, if_pos rfl, show -(i.natAbs : Int) = i by omega]
  · rw [if_neg hneg, List.nil_append]
    refine ⟨⟨false, Nat.toDigits 10 i.natAbs, [], none⟩, ?_, ?_⟩
    · rw [← hread false]
      obtain ⟨d, ds, hds⟩ := List.exists_cons_of_ne_nil (Nat.toDigits_ne_nil (b := 10) (n := i.natAbs))
      have hd := digits_toDigits i.natAbs d (by rw [hds]; exact List.mem_cons_self)
      rw [hds]
      exact readNumeral_unsigned hd _
    · rw [value_integer hi, if_neg (by decide), show (i.natAbs : Int) = i by omega]

/-! ## Floats -/

theorem value_fraction (negative : Bool) (whole : List Char) {fraction : List Char} (hne : fraction ≠ []) :
    Numeral.value ⟨negative, whole, fraction, none⟩ =
      .ok (.float (Binary64.ofDecimal negative (natOf (whole ++ fraction)) (0 - (fraction.length : Int)))) := by
  unfold Numeral.value
  split
  · rename_i h _
    exact absurd h hne
  · rfl

theorem value_exponent (negative : Bool) (whole fraction : List Char) (exponent : Int) :
    Numeral.value ⟨negative, whole, fraction, some exponent⟩ =
      .ok (.float (Binary64.ofDecimal negative (natOf (whole ++ fraction)) (exponent - (fraction.length : Int)))) := by
  unfold Numeral.value
  split
  · rename_i h
    cases h
  · rfl

/-- Digits in front of which a point belongs at some place, read as a number. -/
def Placed (negative : Bool) (ds : List Char) (point : Int) (s : List Char) : Prop :=
  ∀ rest, EndsNumber rest → ∃ n, readUnsigned negative (s ++ rest) = some (n, rest) ∧
    n.value = .ok (.float (Binary64.ofDecimal negative (natOf ds) (point - (ds.length : Int))))

theorem noDigit_point (rest : List Char) : NoDigit ('.' :: rest) := noDigit_cons (by decide) rest

theorem placed_low (negative : Bool) {ds : List Char} (hds : Leading ds) (k : Nat) :
    Placed negative ds (-(k : Int)) ('0' :: '.' :: (List.replicate k '0' ++ ds)) := by
  intro rest hrest
  have hne : List.replicate k '0' ++ ds ≠ [] := fun h => hds.ne_nil (List.append_eq_nil_iff.1 h).2
  have hfraction := readFraction_digits ((digits_zeros k).append hds.digits) hne hrest.noDigit
  have hwhole : readWhole ('0' :: '.' :: (List.replicate k '0' ++ ds) ++ rest) =
      (['0'], '.' :: (List.replicate k '0' ++ ds ++ rest)) := rfl
  refine ⟨_, readUnsigned_plain negative hwhole (by decide) hfraction hrest, ?_⟩
  rw [value_fraction negative ['0'] hne, List.length_append, List.length_replicate]
  have hnat : natOf (['0'] ++ (List.replicate k '0' ++ ds)) = natOf ds := by
    rw [show ['0'] = List.replicate 1 '0' from rfl, natOf_zeros_append, natOf_zeros_append]
  rw [hnat, show 0 - ((k + ds.length : Nat) : Int) = -(k : Int) - (ds.length : Int) by omega]

theorem placed_high (negative : Bool) {ds : List Char} (hds : Leading ds) (k : Nat) :
    Placed negative ds ((ds.length + k : Nat) : Int) (ds ++ List.replicate k '0' ++ ['.', '0']) := by
  intro rest hrest
  have hwhole : Leading (ds ++ List.replicate k '0') := by
    obtain ⟨d, ds', rfl⟩ := List.exists_cons_of_ne_nil hds.ne_nil
    exact ⟨hds.digits.append (digits_zeros k), by simp, hds.head_ne⟩
  have hzero : ['0'] ≠ ([] : List Char) := List.cons_ne_nil '0' []
  have hfraction := readFraction_digits (digits_zeros 1 : Digits ['0']) hzero hrest.noDigit
  refine ⟨⟨negative, ds ++ List.replicate k '0', ['0'], none⟩, ?_, ?_⟩
  · rw [List.append_assoc]
    exact readUnsigned_plain negative (readWhole_leading hwhole (noDigit_point _)) hwhole.ne_nil hfraction hrest
  · have hnat : natOf (ds ++ List.replicate k '0' ++ ['0']) = natOf ds * 10 ^ (k + 1) := by
      rw [List.append_assoc, ← List.replicate_succ', natOf_append_zeros]
    have hpoint : (0 : Int) - (['0'].length : Int) = ((ds.length + k : Nat) : Int) - ds.length - (k + 1 : Nat) := by
      rw [List.length_singleton]
      omega
    rw [value_fraction negative _ hzero, hnat, hpoint, Binary64.ofDecimal_shift]

theorem placed_within (negative : Bool) {ds : List Char} (hds : Leading ds) {k : Nat} (hpos : 0 < k)
    (hlt : k < ds.length) : Placed negative ds (k : Int) (ds.take k ++ '.' :: ds.drop k) := by
  intro rest hrest
  have hwhole : Leading (ds.take k) := by
    obtain ⟨d, ds', rfl⟩ := List.exists_cons_of_ne_nil hds.ne_nil
    obtain ⟨j, rfl⟩ := Nat.exists_eq_add_of_lt hpos
    exact ⟨fun c hc => hds.digits c (List.mem_of_mem_take hc), by simp, hds.head_ne⟩
  have hne : ds.drop k ≠ [] := fun h => by
    rw [List.drop_eq_nil_iff] at h
    omega
  have hfraction := readFraction_digits (fun c hc => hds.digits c (List.mem_of_mem_drop hc)) hne hrest.noDigit
  refine ⟨⟨negative, ds.take k, ds.drop k, none⟩, ?_, ?_⟩
  · rw [List.append_assoc]
    exact readUnsigned_plain negative (readWhole_leading hwhole (noDigit_point _)) hwhole.ne_nil hfraction hrest
  · rw [value_fraction negative _ hne, List.take_append_drop, List.length_drop,
      show (0 : Int) - ((ds.length - k : Nat) : Int) = k - ds.length by omega]

/-- **The positional layout reads back.** -/
theorem placed_positional (negative : Bool) {ds : List Char} (hds : Leading ds) (point : Int) :
    Placed negative ds point (Binary64.positional ds point) := by
  unfold Binary64.positional
  split
  · rename_i hlow
    have h := placed_low negative hds (-point).toNat
    rwa [show -((-point).toNat : Int) = point by omega] at h
  · simp only
    split
    · rename_i hle
      have h := placed_high negative hds (point.toNat - ds.length)
      rwa [show ((ds.length + (point.toNat - ds.length) : Nat) : Int) = point by omega] at h
    · have h := placed_within negative hds (k := point.toNat) (by omega) (by omega)
      rwa [show (point.toNat : Int) = point by omega] at h

theorem digits_exponent (n : Nat) :
    let ds := Nat.toDigits 10 n
    let padded := if ds.length < 2 then '0' :: ds else ds
    Digits padded ∧ padded ≠ [] ∧ natOf padded = n := by
  simp only
  split
  · refine ⟨(digits_zeros 1 : Digits ['0']).append (digits_toDigits n), List.cons_ne_nil _ _, ?_⟩
    exact (natOf_zeros_append 1 _).trans (natOf_toDigits n)
  · exact ⟨digits_toDigits n, Nat.toDigits_ne_nil, natOf_toDigits n⟩

theorem readExponent_written (e : Int) {ds rest : List Char} (hds : Digits ds) (hne : ds ≠ [])
    (hnat : natOf ds = e.natAbs) (hrest : NoDigit rest) :
    readExponent ('e' :: (if e < 0 then '-' else '+') :: (ds ++ rest)) = some (e, rest) := by
  have hread := fun negative => readExponentDigits_digits negative hds hne hrest
  by_cases he : e < 0
  · rw [if_pos he]
    refine (hread true).trans ?_
    rw [if_pos rfl, hnat, show -(e.natAbs : Int) = e by omega]
  · rw [if_neg he]
    refine (hread false).trans ?_
    rw [if_neg (by decide), hnat, show (e.natAbs : Int) = e by omega]

/-- **The layout with an exponent reads back.** -/
theorem placed_scientific (negative : Bool) {ds : List Char} (hds : Leading ds) (point : Int) :
    Placed negative ds point (Binary64.scientific ds point) := by
  intro rest hrest
  obtain ⟨hdigits, hne, hnat⟩ := digits_exponent (point - 1).natAbs
  have hexponent := readExponent_written (point - 1) hdigits hne hnat hrest.noDigit
  have he : ∀ tail : List Char, NoDigit ('e' :: tail) := fun tail => noDigit_cons (by decide) tail
  obtain ⟨d, ds', rfl⟩ := List.exists_cons_of_ne_nil hds.ne_nil
  have hwhole : Leading [d] := by
    refine ⟨fun c hc => hds.digits c ?_, List.cons_ne_nil d [], hds.head_ne⟩
    rw [List.mem_singleton.1 hc]
    exact List.mem_cons_self
  refine ⟨⟨negative, [d], ds', some (point - 1)⟩, ?_, ?_⟩
  · unfold Binary64.scientific
    simp only [List.append_assoc, List.cons_append, List.nil_append, List.take_succ_cons, List.take_zero,
      List.drop_succ_cons, List.drop_zero]
    cases ds' with
    | nil =>
      refine readUnsigned_exponent negative (readWhole_leading hwhole (he _)) hwhole.ne_nil ?_ hexponent
      exact readFraction_none fun c hc => by cases hc; decide
    | cons b bs =>
      have htail : Digits (b :: bs) := fun c hc => hds.digits c (List.mem_cons_of_mem d hc)
      rw [if_neg (by simp)]
      refine readUnsigned_exponent negative (readWhole_leading hwhole (noDigit_point _)) hwhole.ne_nil ?_ hexponent
      exact readFraction_digits htail (List.cons_ne_nil b bs) (he _)
  · rw [value_exponent, List.singleton_append, List.length_cons,
      show point - 1 - (ds'.length : Int) = point - ((ds'.length + 1 : Nat) : Int) by omega]

/-! ## The digits of a decimal -/

theorem exists_zeros (ds : List Char) :
    ∃ k, ds = (ds.reverse.dropWhile (· == '0')).reverse ++ List.replicate k '0' := by
  have hsplit := List.takeWhile_append_dropWhile (p := (· == '0')) (l := ds.reverse)
  have hzeros : ds.reverse.takeWhile (· == '0') =
      List.replicate (ds.reverse.takeWhile (· == '0')).length '0' := by
    refine List.eq_replicate_iff.2 ⟨rfl, fun c hc => ?_⟩
    exact eq_of_beq (List.all_eq_true.1 List.all_takeWhile c hc)
  refine ⟨(ds.reverse.takeWhile (· == '0')).length, ?_⟩
  rw [← List.reverse_replicate, ← hzeros, ← List.reverse_append, hsplit, List.reverse_reverse]

/-- **The digits of a decimal stand for its number**, wherever its zeros went. -/
theorem ofDecimal_parts (negative : Bool) {d : Binary64.Decimal} (hd : d.digits ≠ 0) :
    Leading d.parts.1 ∧ Binary64.ofDecimal negative (natOf d.parts.1) (d.parts.2 - (d.parts.1.length : Int)) =
      Binary64.ofDecimal negative d.digits d.exponent := by
  obtain ⟨k, hk⟩ := exists_zeros (Nat.toDigits 10 d.digits)
  have hall := leading_toDigits hd
  have hnat := natOf_toDigits d.digits
  have hlen := congrArg List.length hk
  unfold Binary64.Decimal.parts
  simp only
  generalize ((Nat.toDigits 10 d.digits).reverse.dropWhile (· == '0')).reverse = ds at hk hlen ⊢
  rw [List.length_append, List.length_replicate] at hlen
  rw [hk, natOf_append_zeros] at hnat
  have hne : ds ≠ [] := by
    rintro rfl
    exact hd (hnat.symm.trans (Nat.zero_mul _))
  refine ⟨⟨fun c hc => hall.digits c (hk ▸ List.mem_append_left _ hc), hne, ?_⟩, ?_⟩
  · have hhead := hall.head_ne
    obtain ⟨c, cs, rfl⟩ := List.exists_cons_of_ne_nil hne
    rw [hk] at hhead
    exact hhead
  · rw [← Binary64.ofDecimal_shift negative (natOf ds) k, hnat, hlen]
    congr 1
    omega

theorem readUnsigned_zero (negative : Bool) {rest : List Char} (hrest : EndsNumber rest) :
    ∃ n, readUnsigned negative (['0', '.', '0'] ++ rest) = some (n, rest) ∧
      n.value = .ok (.float (Binary64.zero negative)) := by
  have hzero : ['0'] ≠ ([] : List Char) := List.cons_ne_nil '0' []
  have hfraction := readFraction_digits (digits_zeros 1 : Digits ['0']) hzero hrest.noDigit
  have hwhole : readWhole (['0', '.', '0'] ++ rest) = (['0'], '.' :: (['0'] ++ rest)) := rfl
  refine ⟨⟨negative, ['0'], ['0'], none⟩, readUnsigned_plain negative hwhole hzero hfraction hrest, ?_⟩
  rw [value_fraction negative ['0'] hzero, show natOf (['0'] ++ ['0']) = 0 from natOf_zeros 2, Binary64.ofDecimal_zero]

theorem exists_unsigned_text (negative : Bool) {s e : Nat} (h : Canonical s e) :
    ∃ body, Binary64.text spelling (.finite negative s e h) = (if negative then ['-'] else []) ++ body ∧
      ∀ rest, EndsNumber rest → ∃ n, readUnsigned negative (body ++ rest) = some (n, rest) ∧
        n.value = .ok (.float (.finite negative s e h)) := by
  refine ⟨_, rfl, fun rest hrest => ?_⟩
  by_cases hs : s = 0
  · subst hs
    obtain rfl : e = 0 := h.2.2.resolve_left (by decide)
    exact readUnsigned_zero negative hrest
  · have hd := Binary64.digits_shortest_ne_zero h hs
    obtain ⟨hleading, hvalue⟩ := ofDecimal_parts negative hd
    rw [Binary64.ofDecimal_sign (Binary64.ofDecimal_shortest h hs) hd negative] at hvalue
    rw [if_neg hs, ← hvalue]
    simp only
    split
    · exact placed_positional negative hleading _ rest hrest
    · exact placed_scientific negative hleading _ rest hrest

theorem digit_of_readUnsigned {negative : Bool} {s rest : List Char} {n : Numeral}
    (h : readUnsigned negative s = some (n, rest)) : ∃ c tail, s = c :: tail ∧ c.isDigit = true := by
  unfold readUnsigned at h
  simp only at h
  split at h
  · cases h
  · rename_i hne
    unfold readWhole at hne
    split at hne
    · exact ⟨'0', _, rfl, by decide⟩
    · cases s with
      | nil => exact absurd rfl hne
      | cons c tail =>
        refine ⟨c, tail, rfl, ?_⟩
        by_cases hc : c.isDigit = true
        · exact hc
        · exact absurd (List.takeWhile_cons_of_neg hc) hne

/-- **A finite number's text reads back as the number.** -/
theorem readNumeral_text (negative : Bool) {s e : Nat} (h : Canonical s e) {rest : List Char} (hrest : EndsNumber rest) :
    ∃ n, readNumeral (Binary64.text spelling (.finite negative s e h) ++ rest) = some (n, rest) ∧
      n.value = .ok (.float (.finite negative s e h)) := by
  obtain ⟨body, htext, hread⟩ := exists_unsigned_text negative h
  obtain ⟨n, hn, hvalue⟩ := hread rest hrest
  refine ⟨n, ?_, hvalue⟩
  rw [htext]
  cases negative with
  | true => exact hn
  | false =>
    obtain ⟨c, tail, hcons, hc⟩ := digit_of_readUnsigned hn
    show readNumeral (body ++ rest) = _
    rw [hcons, readNumeral_unsigned hc, ← hcons]
    exact hn

end Json
end FlowBundle
