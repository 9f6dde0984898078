import FlowBundle.Builder.Basic
import FlowBundle.Proofs.Archive.Extraction
/-!
# Files that cannot be packed

Packing fails for the first file that cannot be packed behind those before it, and for a reason of that file alone
(`pack_eq_error_iff_firstUnpackable`).  Most reasons are refusals, which name the path.  One is not: a path may be good
and its name too long for the field of a record that holds its length.  Whoever expects packing to succeed or to refuse
has to rule this out (`refuses_or_nameTooLong`).

The directories above a path never matter for the length, since their names are beginnings of its own (`hasRoom_iff`).
-/
namespace FlowBundle
namespace Archive

/-- **A fault that refuses a path.**  The other one says no more than that a number is too great for its field. -/
def PackFault.IsRefusal (fault : PackFault) : Prop := fault ≠ .nameTooLong

/-- **There is room for the name** that is written for a path. -/
def NameFits (path : String) : Prop := (Utf8.encode (nameOf path)).length ≤ Entry.maxNameLength

instance (path : String) : Decidable (NameFits path) := inferInstanceAs (Decidable (_ ≤ _))

/-- **Files that can be packed together.** -/
structure Packable (files : List File) : Prop where
  safe : ∀ f ∈ files, ¬ Malformed f.path
  nodup : (files.map (·.path)).Nodup
  nameFits : ∀ f ∈ files, NameFits f.path

/-- **Why a file cannot be packed** behind files with some paths: it is refused, or it is not and its name has no
room. -/
inductive Unpackable (earlier : List String) (path : String) : PackFault → Prop where
  | refused {fault : PackFault} (h : Refused earlier path fault) : Unpackable earlier path fault
  | noRoom (hrefused : ∀ fault, ¬ Refused earlier path fault) (hname : ¬ NameFits path) :
    Unpackable earlier path .nameTooLong

/-- **The first file that cannot be packed** fails for this fault. -/
def FirstUnpackable (files : List File) (fault : PackFault) : Prop :=
  ∃ pre f post, files = pre ++ f :: post ∧ Packable pre ∧ Unpackable (pre.map (·.path)) f.path fault

/-! ## Room for names -/

theorem nameOf_mono {p q : String} (h : p.toList <+: q.toList) : (nameOf p).toList <+: (nameOf q).toList := by
  obtain ⟨rest, hrest⟩ := h
  rw [nameOf, nameOf, String.toList_ofList, String.toList_ofList, ← hrest, List.takeWhile_append]
  split
  · exact (List.takeWhile_prefix _).trans (List.prefix_append _ _)
  · exact List.prefix_refl _

theorem hasRoom_iff {path : String} : HasRoom path ↔ NameFits path := by
  constructor
  · intro h
    exact h path List.mem_cons_self
  · intro h p hp
    have hbegins : p.toList <+: path.toList := by
      rcases List.mem_cons.1 hp with rfl | hp
      · exact List.prefix_refl _
      · exact (mem_parentDirectories_iff.1 hp).begins
    exact Nat.le_trans (length_encode_le_of_begins (nameOf_mono hbegins)) h

theorem all_nameFits_iff {method : Method} {made : List String} {f : File} :
    (entriesOf method (newDirectories made f.path) f).all Entry.nameFits = true ↔ NameFits f.path := by
  constructor
  · intro h
    have hfile : (Entry.ofFile method f).nameFits = true :=
      List.all_eq_true.1 h _ (List.mem_append_right _ List.mem_cons_self)
    exact of_decide_eq_true hfile
  · intro h
    exact all_nameFits_of_hasRoom (hasRoom_iff.2 h) method made

/-! ## What is packed -/

/-- **Files are packed if and only if they are good together.** -/
theorem pack_isOk_iff (method : Method) {files : List File} : (∃ es, pack method files = .ok es) ↔ Packable files := by
  constructor
  · rintro ⟨es, hes⟩
    refine ⟨fun f hf => ?_, nodup_of_entriesAfter files hes, fun f hf => ?_⟩
    · rw [← isSafe_eq_false_iff, (safe_and_new_of_entriesAfter files hes f hf).1]
      decide
    · have hmem : Entry.ofFile method f ∈ es := (mem_entriesAfter_iff files hes).2 (.inr ⟨f, hf, rfl⟩)
      have hfits : (Entry.ofFile method f).nameFits = true := nameFits_of_pack hes _ hmem
      exact of_decide_eq_true hfits
  · intro h
    have hsafe : ∀ f ∈ files, isSafe f.path = true := fun f hf => by
      rw [← Bool.not_eq_false, isSafe_eq_false_iff]
      exact h.safe f hf
    obtain ⟨es, hes, -⟩ := pack_isOk method files (fun f hf => ⟨hsafe f hf, hasRoom_iff.2 (h.nameFits f hf)⟩) h.nodup
    exact ⟨es, hes⟩

/-! ## What packing fails for -/

theorem Refused.mono {earlier earlier' : List String} {path : String} {fault : PackFault}
    (h : Refused earlier path fault) (hmem : ∀ p ∈ earlier, p ∈ earlier') : Refused earlier' path fault := by
  cases h with
  | malformed h => exact .malformed h
  | repeated h => exact .repeated (hmem path h)

theorem Unpackable.congr {earlier earlier' : List String} {path : String} {fault : PackFault}
    (h : Unpackable earlier path fault) (hmem : ∀ p, p ∈ earlier ↔ p ∈ earlier') : Unpackable earlier' path fault := by
  cases h with
  | refused h => exact .refused (h.mono fun p => (hmem p).1)
  | noRoom hnot hname => exact .noRoom (fun fault h => hnot fault (h.mono fun p => (hmem p).2)) hname

/-- A step that fails has an unpackable file, or the rest of the run fails. -/
theorem entriesAfter_cons_eq_error {method : Method} {made packed : List String} {f : File} {fs : List File}
    {fault : PackFault} (h : entriesAfter method made packed (f :: fs) = .error fault) :
    Unpackable packed f.path fault ∨
      isSafe f.path = true ∧ f.path ∉ packed ∧
        (entriesOf method (newDirectories made f.path) f).all Entry.nameFits = true ∧
        entriesAfter method (made ++ newDirectories made f.path) (f.path :: packed) fs = .error fault := by
  by_cases hunsafe : isSafe f.path = false
  · rw [entriesAfter, if_pos hunsafe] at h
    cases h
    exact .inl (.refused (.malformed (isSafe_eq_false_iff.1 hunsafe)))
  by_cases hold : f.path ∈ packed
  · rw [entriesAfter, if_neg hunsafe, if_pos (List.contains_iff_mem.2 hold)] at h
    cases h
    exact .inl (.refused (.repeated hold))
  have hsafe : isSafe f.path = true := Bool.not_eq_false _ ▸ hunsafe
  by_cases hfits : (entriesOf method (newDirectories made f.path) f).all Entry.nameFits = true
  · rw [entriesAfter_cons hsafe hold hfits] at h
    cases hrest : entriesAfter method (made ++ newDirectories made f.path) (f.path :: packed) fs with
    | error fault' =>
      rw [hrest] at h
      cases h
      exact .inr ⟨hsafe, hold, hfits, rfl⟩
    | ok es =>
      rw [hrest] at h
      cases h
  · have hcontains : packed.contains f.path = false := by simpa using hold
    simp only [entriesAfter, hsafe, hcontains, if_neg hfits] at h
    cases h
    refine .inl (.noRoom (fun fault hrefused => ?_) (mt all_nameFits_iff.2 hfits))
    rcases exists_refused_iff.1 ⟨fault, hrefused⟩ with hmalformed | hmem
    · exact hunsafe (isSafe_eq_false_iff.2 hmalformed)
    · exact hold hmem

/-- **A run that fails** packs some of its files, and fails at the next one. -/
theorem exists_unpackable_of_entriesAfter {method : Method} : ∀ (files : List File) {made packed : List String}
    {fault : PackFault}, entriesAfter method made packed files = .error fault →
      ∃ pre f post es, files = pre ++ f :: post ∧ entriesAfter method made packed pre = .ok es ∧
        Unpackable ((pre.map (·.path)).reverse ++ packed) f.path fault
  | [], _, _, _, h => nomatch h
  | f :: fs, made, packed, fault, h => by
    rcases entriesAfter_cons_eq_error h with hfirst | ⟨hsafe, hnew, hfits, hrest⟩
    · exact ⟨[], f, fs, [], rfl, rfl, hfirst⟩
    · obtain ⟨pre, g, post, es, rfl, hes, hg⟩ := exists_unpackable_of_entriesAfter fs hrest
      refine ⟨f :: pre, g, post, entriesOf method (newDirectories made f.path) f ++ es, rfl, ?_, ?_⟩
      · rw [entriesAfter_cons hsafe hnew hfits, hes]
        rfl
      · rw [List.map_cons, List.reverse_cons, List.append_assoc]
        exact hg

theorem pack_of_noRoom {method : Method} {pre : List File} {es : List Entry} (hes : pack method pre = .ok es) {f : File}
    (hrefused : ∀ fault, ¬ Refused (pre.map (·.path)) f.path fault) (hname : ¬ NameFits f.path) (post : List File) :
    pack method (pre ++ f :: post) = .error .nameTooLong := by
  obtain ⟨made, happend⟩ := entriesAfter_append pre hes
  have hsafe : isSafe f.path = true := by
    rw [← Bool.not_eq_false, isSafe_eq_false_iff]
    exact fun h => hrefused _ (.malformed h)
  have hnew : ((pre.map File.path).reverse ++ []).contains f.path = false := by
    rw [List.append_nil, List.contains_reverse]
    simpa using fun h => hrefused _ (.repeated h)
  have hfits := mt (@all_nameFits_iff method made f).1 hname
  rw [pack, happend (f :: post), entriesAfter]
  simp only [hsafe, hnew, if_neg hfits]
  rfl

/-- **Packing fails for the first file that cannot be packed.** -/
theorem pack_eq_error_iff_firstUnpackable (method : Method) {files : List File} {fault : PackFault} :
    pack method files = .error fault ↔ FirstUnpackable files fault := by
  constructor
  · intro h
    obtain ⟨pre, f, post, es, hsplit, hes, hf⟩ := exists_unpackable_of_entriesAfter files h
    exact ⟨pre, f, post, hsplit, (pack_isOk_iff method).1 ⟨es, hes⟩, hf.congr fun p => by simp⟩
  · rintro ⟨pre, f, post, rfl, hpre, hf⟩
    obtain ⟨es, hes⟩ := (pack_isOk_iff method).2 hpre
    cases hf with
    | refused h => exact pack_of_refused hes h post
    | noRoom hrefused hname => exact pack_of_noRoom hes hrefused hname post

/-! ## A good path with a long name -/

/-- A path with nothing wrong with it, of one character more than a name may have bytes. -/
def longPath : String := String.ofList (List.replicate (Entry.maxNameLength + 1) 'a')

theorem not_nameFits_longPath : ¬ NameFits longPath := by
  have hname : nameOf longPath = longPath := nameOf_of_not_mem (by simp [longPath])
  have hencode : Utf8.encode longPath = List.replicate (Entry.maxNameLength + 1) 0x61 := by
    rw [Utf8.encode, longPath, String.toList_ofList, List.flatMap_replicate]
    exact List.flatten_replicate_singleton
  rw [NameFits, hname, hencode, List.length_replicate]
  exact Nat.not_succ_le_self _

theorem isSafe_longPath : isSafe longPath = true := by
  have hsplit : components longPath = [List.replicate (Entry.maxNameLength + 1) 'a'] := by
    rw [components, longPath, String.toList_ofList]
    exact Text.split_of_not_mem (by simp)
  rw [isSafe, hsplit, List.replicate_succ]
  simp [isName]

theorem firstUnpackable_longPath (content : String) (post : List File) :
    FirstUnpackable (⟨longPath, content⟩ :: post) .nameTooLong := by
  have hrefused : ∀ fault, ¬ Refused [] longPath fault := fun fault h => by
    rcases exists_refused_iff.1 ⟨fault, h⟩ with hmalformed | hmem
    · rw [← isSafe_eq_false_iff, isSafe_longPath] at hmalformed
      cases hmalformed
    · cases hmem
  have hnone : Packable [] := ⟨fun _ h => (nomatch h), List.nodup_nil, fun _ h => nomatch h⟩
  exact ⟨[], ⟨longPath, content⟩, post, rfl, hnone, .noRoom hrefused not_nameFits_longPath⟩

theorem not_isRefusal_longPath : ∃ fault, pack .stored [⟨longPath, ""⟩] = .error fault ∧ ¬ fault.IsRefusal :=
  ⟨.nameTooLong, (pack_eq_error_iff_firstUnpackable .stored).2 (firstUnpackable_longPath "" []), fun h => h rfl⟩

end Archive

namespace Builder

open Json (Value)
open Archive

/-- **A fault of packing comes out as it is**, and nothing is changed by it. -/
theorem fails_of_pack_eq_error {b : Builder} (id : String) {payload : Value} {stage : Stage} {fault : PackFault}
    (h : b.generate payload = .ok stage) (hpack : pack .deflated stage.bundle.files = .error fault) :
    b.build payload = .error (.pack fault) ∧ b.publish id payload = (b, .error (.pack fault)) := by
  have harchive : archiveOf stage.bundle.files = .error fault := by
    rw [archiveOf, hpack]
    rfl
  constructor
  · rw [build, h]
    simp only [harchive]
  · rw [publish, h]
    simp only [harchive]

/-- **Packing succeeds or refuses a path, unless the first file that cannot be packed is good but for the length of its
name.**  What can be packed, and what packing fails for, is decided by the paths alone; building and publishing fail for
the same, and then change nothing. -/
theorem refuses_or_nameTooLong (method : Method) (files : List File) :
    ((∃ es, pack method files = .ok es) ↔ Packable files) ∧
    (∀ fault, pack method files = .error fault ↔ FirstUnpackable files fault) ∧
    (((∃ es, pack method files = .ok es) ∨ ∃ fault, pack method files = .error fault ∧ fault.IsRefusal) ↔
      ¬ FirstUnpackable files .nameTooLong) ∧
    ∀ (b : Builder) (id : String) (payload : Value) (stage : Builder.Stage), b.generate payload = .ok stage →
      stage.bundle.files = files → ∀ fault, FirstUnpackable files fault →
        b.build payload = .error (.pack fault) ∧ b.publish id payload = (b, .error (.pack fault)) := by
  refine ⟨pack_isOk_iff method, fun fault => pack_eq_error_iff_firstUnpackable method, ?_, ?_⟩
  · rw [← pack_eq_error_iff_firstUnpackable method]
    cases pack method files with
    | ok es => simp
    | error fault => simp [PackFault.IsRefusal]
  · rintro b id payload stage hstage rfl fault hfirst
    exact Builder.fails_of_pack_eq_error id hstage ((pack_eq_error_iff_firstUnpackable .deflated).2 hfirst)

/-- A builder of one file, under the long path. -/
def farAway : Builder :=
  { blueprints := [{ path := longPath, body := "" }]
    filename := "flow.zip"
    histories := { limit := 4, two_le_limit := by decide }
    shelf := { capacity := 8, one_le_capacity := by decide, filename := "flow.zip" } }

theorem refuses_or_nameTooLong_farAway : ∃ stage, farAway.generate (.obj [("nodes", .arr [])]) = .ok stage ∧
    FirstUnpackable stage.bundle.files .nameTooLong ∧
    farAway.build (.obj [("nodes", .arr [])]) = .error (.pack .nameTooLong) ∧
    farAway.publish "id" (.obj [("nodes", .arr [])]) = (farAway, .error (.pack .nameTooLong)) := by
  obtain ⟨stage, post, hstage, hfiles⟩ : ∃ stage post, farAway.generate (.obj [("nodes", .arr [])]) = .ok stage ∧
      stage.bundle.files = ⟨longPath, ""⟩ :: post := ⟨_, _, rfl, rfl⟩
  have hfirst : FirstUnpackable stage.bundle.files .nameTooLong := hfiles ▸ firstUnpackable_longPath "" post
  exact ⟨stage, hstage, hfirst,
    (refuses_or_nameTooLong .deflated stage.bundle.files).2.2.2 farAway "id" _ stage hstage rfl .nameTooLong hfirst⟩

end Builder
end FlowBundle
