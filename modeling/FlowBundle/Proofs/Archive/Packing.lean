import FlowBundle.Archive.Pack
/-!
# Files that can be packed

Safe paths that differ and whose names have room in a record are packed without a fault, and the entries of files among
the entries made are those of the files given, in their order (`pack_isOk`).  Whatever is packed, every name fits, and
there are no more entries than files and directories above them (`nameFits_of_pack`, `length_le_of_pack`).
-/
namespace FlowBundle
namespace Archive

def fileEntries (es : List Entry) : List Entry := es.filter fun e => decide (e.kind = .file)

theorem fileEntries_append (es es' : List Entry) : fileEntries (es ++ es') = fileEntries es ++ fileEntries es' :=
  List.filter_append ..

theorem fileEntries_directories (ds : List String) : fileEntries (ds.map Entry.ofDirectory) = [] := by
  rw [fileEntries, List.filter_eq_nil_iff]
  intro e he
  obtain ⟨d, -, rfl⟩ := List.mem_map.1 he
  simp [Entry.ofDirectory]

theorem fileEntries_entriesOf (method : Method) (ds : List String) (f : File) :
    fileEntries (entriesOf method ds f) = [Entry.ofFile method f] := by
  rw [entriesOf, fileEntries_append, fileEntries_directories]
  rfl

/-- **There is room for the name** of a path, and for those of the directories above it. -/
def HasRoom (path : String) : Prop :=
  ∀ p ∈ path :: parentDirectories path, (Utf8.encode (nameOf p)).length ≤ Entry.maxNameLength

instance (path : String) : Decidable (HasRoom path) :=
  inferInstanceAs (Decidable (∀ p ∈ path :: parentDirectories path, _))

theorem all_nameFits_of_hasRoom {f : File} (h : HasRoom f.path) (method : Method) (made : List String) :
    (entriesOf method (newDirectories made f.path) f).all Entry.nameFits = true := by
  rw [List.all_eq_true]
  intro e he
  rcases List.mem_append.1 he with he | he
  · obtain ⟨d, hd, rfl⟩ := List.mem_map.1 he
    exact decide_eq_true (h d (List.mem_cons_of_mem _ (List.mem_filter.1 hd).1))
  · rw [List.mem_singleton] at he
    subst he
    exact decide_eq_true (h f.path List.mem_cons_self)

/-- **A file that is packed** comes in front of what is packed after it. -/
theorem entriesAfter_cons {method : Method} {made packed : List String} {f : File} (hsafe : isSafe f.path = true)
    (hnew : f.path ∉ packed) (hfits : (entriesOf method (newDirectories made f.path) f).all Entry.nameFits = true)
    (fs : List File) : entriesAfter method made packed (f :: fs) =
      (entriesAfter method (made ++ newDirectories made f.path) (f.path :: packed) fs).map
        (entriesOf method (newDirectories made f.path) f ++ ·) := by
  have hcontains : packed.contains f.path = false := by simpa using hnew
  simp only [entriesAfter, hsafe, hcontains, hfits]
  rfl

theorem entriesAfter_isOk (method : Method) : ∀ (files : List File) (made packed : List String),
    (∀ f ∈ files, isSafe f.path = true ∧ HasRoom f.path) → (files.map (·.path)).Nodup →
    (∀ f ∈ files, f.path ∉ packed) →
    ∃ es, entriesAfter method made packed files = .ok es ∧ fileEntries es = files.map (Entry.ofFile method)
  | [], _, _, _, _, _ => ⟨[], rfl, rfl⟩
  | f :: fs, made, packed, hgood, hnodup, hfresh => by
    rw [List.map_cons, List.nodup_cons] at hnodup
    obtain ⟨hsafe, hroom⟩ := hgood f List.mem_cons_self
    have hrest : ∀ g ∈ fs, g.path ∉ f.path :: packed := by
      intro g hg hmem
      rcases List.mem_cons.1 hmem with heq | hmem
      · exact hnodup.1 (List.mem_map.2 ⟨g, hg, heq⟩)
      · exact hfresh g (List.mem_cons_of_mem f hg) hmem
    obtain ⟨es, hes, hfiles⟩ := entriesAfter_isOk method fs (made ++ newDirectories made f.path) (f.path :: packed)
      (fun g hg => hgood g (List.mem_cons_of_mem f hg)) hnodup.2 hrest
    have hnew : f.path ∉ packed := hfresh f List.mem_cons_self
    refine ⟨entriesOf method (newDirectories made f.path) f ++ es, ?_, ?_⟩
    · rw [entriesAfter_cons hsafe hnew (all_nameFits_of_hasRoom hroom method made), hes]
      rfl
    · rw [fileEntries_append, fileEntries_entriesOf, hfiles]
      rfl

/-- **Good paths are packed**, and the files in the archive are the files given. -/
theorem pack_isOk (method : Method) (files : List File) (hgood : ∀ f ∈ files, isSafe f.path = true ∧ HasRoom f.path)
    (hnodup : (files.map (·.path)).Nodup) :
    ∃ es, pack method files = .ok es ∧ fileEntries es = files.map (Entry.ofFile method) :=
  entriesAfter_isOk method files [] [] hgood hnodup fun _ _ h => nomatch h

/-! ## What is packed -/

theorem entriesAfter_cons_eq_ok {method : Method} {made packed : List String} {f : File} {fs : List File}
    {es : List Entry} (h : entriesAfter method made packed (f :: fs) = .ok es) :
    isSafe f.path = true ∧ f.path ∉ packed ∧
      (entriesOf method (newDirectories made f.path) f).all Entry.nameFits = true ∧
      ∃ rest, entriesAfter method (made ++ newDirectories made f.path) (f.path :: packed) fs = .ok rest ∧
        es = entriesOf method (newDirectories made f.path) f ++ rest := by
  simp only [entriesAfter] at h
  by_cases hsafe : isSafe f.path = false
  · rw [if_pos hsafe] at h
    cases h
  by_cases hold : packed.contains f.path = true
  · rw [if_neg hsafe, if_pos hold] at h
    cases h
  by_cases hroom : (entriesOf method (newDirectories made f.path) f).all Entry.nameFits = true
  · rw [if_neg hsafe, if_neg hold, if_pos hroom] at h
    cases hrest : entriesAfter method (made ++ newDirectories made f.path) (f.path :: packed) fs with
    | error fault =>
      rw [hrest] at h
      cases h
    | ok rest =>
      rw [hrest] at h
      cases h
      exact ⟨by simpa using hsafe, by simpa using hold, hroom, rest, rfl, rfl⟩
  · rw [if_neg hsafe, if_neg hold, if_neg hroom] at h
    cases h

theorem nameFits_of_entriesAfter {method : Method} : ∀ (files : List File) {made packed : List String} {es : List Entry},
    entriesAfter method made packed files = .ok es → ∀ e ∈ es, e.nameFits = true
  | [], _, _, _, h => by
    cases h
    intro e he
    cases he
  | f :: fs, _, _, _, h => by
    obtain ⟨-, -, hroom, rest, hrest, rfl⟩ := entriesAfter_cons_eq_ok h
    intro e he
    rcases List.mem_append.1 he with he | he
    · exact List.all_eq_true.1 hroom e he
    · exact nameFits_of_entriesAfter fs hrest e he

/-- What may have to be packed for some paths: each of them, after the directories above it. -/
def withDirectories (paths : List String) : List String := paths.flatMap fun path => parentDirectories path ++ [path]

theorem length_entriesOf_le (method : Method) (made : List String) (f : File) :
    (entriesOf method (newDirectories made f.path) f).length ≤ (parentDirectories f.path ++ [f.path]).length := by
  rw [entriesOf, List.length_append, List.length_map, List.length_append]
  exact Nat.succ_le_succ (List.length_filter_le _ _)

theorem length_le_of_entriesAfter {method : Method} : ∀ (files : List File) {made packed : List String}
    {es : List Entry}, entriesAfter method made packed files = .ok es → es.length ≤ (withDirectories (files.map (·.path))).length
  | [], _, _, _, h => by
    cases h
    exact Nat.le_refl 0
  | f :: fs, made, _, _, h => by
    obtain ⟨-, -, -, rest, hrest, rfl⟩ := entriesAfter_cons_eq_ok h
    have hfirst := length_entriesOf_le method made f
    have hlater := length_le_of_entriesAfter fs hrest
    rw [List.length_append, List.map_cons, withDirectories, List.flatMap_cons, List.length_append]
    exact Nat.add_le_add hfirst hlater

theorem nameFits_of_pack {method : Method} {files : List File} {es : List Entry} (h : pack method files = .ok es) :
    ∀ e ∈ es, e.nameFits = true :=
  nameFits_of_entriesAfter files h

theorem length_le_of_pack {method : Method} {files : List File} {es : List Entry} (h : pack method files = .ok es) :
    es.length ≤ (withDirectories (files.map (·.path))).length :=
  length_le_of_entriesAfter files h

/-! ## The paths of a backend -/

theorem nodup_backendPaths : Blueprint.backendPaths.Nodup := by decide

theorem backendPaths_good : ∀ path ∈ Blueprint.backendPaths, isSafe path = true ∧ HasRoom path ∧ nameOf path = path := by
  decide +kernel

theorem length_backendPaths_lt : (withDirectories Blueprint.backendPaths).length < 2 ^ (16 : Nat) := by decide +kernel

end Archive
end FlowBundle
