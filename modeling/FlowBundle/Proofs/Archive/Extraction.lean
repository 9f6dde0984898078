import Mathlib.Data.List.Nodup
import FlowBundle.Proofs.Archive.FileTree
/-!
# Archives that can be extracted

Paths are checked one by one when files are packed, and it is the names written that are extracted, all of them into one
place.  The two come apart in two ways.  A name ends before the first null character of its path, and what is left need
not be a safe path, nor another one than that of a second file.  And a file may be packed beside the directory of the
same name that a second file is in.  Where nothing of this kind is among the files, and only there, the archive can be
extracted (`extractable_iff_writtenApart`).

The names are those of the files and, once each, those of the directories above them (`names_perm`).
-/
namespace FlowBundle
namespace Archive

/-- Where an entry goes: its name, without the slash that ends the name of a directory. -/
def Entry.place (e : Entry) : String :=
  match e.kind with
  | .file => e.name
  | .directory => String.ofList e.name.toList.dropLast

/-- **Entries that make a safe tree of files**: different names, each of them a path inside the tree, with a slash at the
end for a directory and for nothing else, and no file in the place of a directory. -/
structure Extractable (es : List Entry) : Prop where
  nodup_names : (es.map (·.name)).Nodup
  safe : ∀ e ∈ es, ¬ Malformed e.place
  slash_iff : ∀ e ∈ es, e.name.toList.getLast? = some '/' ↔ e.kind = .directory
  apart : ∀ e ∈ es, ∀ d ∈ es, e.kind = .file → d.kind = .directory → e.name ≠ d.place

/-- **Files whose names as written are as good as their paths**: no directory above them is cut, what is left of their
own paths is safe and different, and none of them is a directory above another one. -/
structure WrittenApart (files : List File) : Prop where
  whole_directories : ∀ f ∈ files, ∀ directory, IsAbove directory f.path → '\x00' ∉ directory.toList
  safe : ∀ f ∈ files, ¬ Malformed (nameOf f.path)
  nodup : (files.map fun f => nameOf f.path).Nodup
  no_directory : ∀ f ∈ files, ∀ g ∈ files, ¬ IsAbove (nameOf f.path ++ "/") g.path

/-! ## Directories and their places -/

theorem place_ofDirectory {directory place : String} (h : nameOf directory = place ++ "/") :
    (Entry.ofDirectory directory).place = place := by
  show String.ofList (nameOf directory).toList.dropLast = place
  rw [h, String.toList_append]
  exact (congrArg String.ofList List.dropLast_concat).trans String.ofList_toList

theorem not_mem_nameOf (path : String) : '\x00' ∉ (nameOf path).toList := by
  rw [nameOf, String.toList_ofList]
  intro hmem
  have hkept := List.all_eq_true.1 List.all_takeWhile _ hmem
  exact absurd hkept (by decide)

theorem nodup_parentDirectories (path : String) : (parentDirectories path).Nodup :=
  (pairwise_parentDirectories path).imp fun hlength heq => by
    rw [heq] at hlength
    exact Nat.lt_irrefl _ hlength

/-! ## The names of an archive -/

def directoryEntries (es : List Entry) : List Entry := es.filter fun e => !decide (e.kind = .file)

theorem directoryEntries_entriesOf (method : Method) (ds : List String) (f : File) :
    directoryEntries (entriesOf method ds f) = ds.map Entry.ofDirectory := by
  have hall : (ds.map Entry.ofDirectory).filter (fun e => !decide (e.kind = .file)) = ds.map Entry.ofDirectory := by
    refine List.filter_eq_self.2 fun e he => ?_
    obtain ⟨d, -, rfl⟩ := List.mem_map.1 he
    rfl
  rw [directoryEntries, entriesOf, List.filter_append, hall]
  exact List.append_nil _

/-- **Every directory above a file is made once.** -/
theorem directories_of_entriesAfter {method : Method} : ∀ (files : List File) {made packed : List String}
    {es : List Entry}, entriesAfter method made packed files = .ok es →
      ∃ ds : List String, directoryEntries es = ds.map Entry.ofDirectory ∧ ds.Nodup ∧
        ∀ d, d ∈ ds ↔ (∃ f ∈ files, IsAbove d f.path) ∧ d ∉ made
  | [], _, _, _, h => by
    cases h
    exact ⟨[], rfl, List.nodup_nil, fun d => by simp⟩
  | f :: fs, made, _, _, h => by
    obtain ⟨-, -, -, rest, hrest, rfl⟩ := entriesAfter_cons_eq_ok h
    obtain ⟨ds, hds, hnodup, hmem⟩ := directories_of_entriesAfter fs hrest
    refine ⟨newDirectories made f.path ++ ds, ?_, ?_, fun d => ?_⟩
    · rw [directoryEntries, List.filter_append, ← directoryEntries, ← directoryEntries, directoryEntries_entriesOf, hds,
        List.map_append]
    · refine List.nodup_append.2 ⟨(nodup_parentDirectories f.path).filter _, hnodup, fun d hd d' hd' heq => ?_⟩
      exact ((hmem d').1 hd').2 (List.mem_append_right _ (heq ▸ hd))
    · rw [List.mem_append, hmem, mem_newDirectories_iff]
      simp only [List.mem_append, mem_newDirectories_iff, List.mem_cons, exists_eq_or_imp, not_or, not_and]
      constructor
      · rintro (⟨habove, hmade⟩ | ⟨hg, hmade, -⟩)
        · exact ⟨.inl habove, hmade⟩
        · exact ⟨.inr hg, hmade⟩
      · rintro ⟨habove, hmade⟩
        by_cases hf : IsAbove d f.path
        · exact .inl ⟨hf, hmade⟩
        · exact .inr ⟨habove.resolve_left hf, hmade, fun hf' => absurd hf' hf⟩

theorem nodup_of_entriesAfter {method : Method} : ∀ (files : List File) {made packed : List String} {es : List Entry},
    entriesAfter method made packed files = .ok es → (files.map (·.path)).Nodup
  | [], _, _, _, _ => List.nodup_nil
  | f :: fs, _, _, _, h => by
    obtain ⟨-, -, -, rest, hrest, -⟩ := entriesAfter_cons_eq_ok h
    refine List.nodup_cons.2 ⟨fun hmem => ?_, nodup_of_entriesAfter fs hrest⟩
    obtain ⟨g, hg, hpath⟩ := List.mem_map.1 hmem
    exact (safe_and_new_of_entriesAfter fs hrest g hg).2 (hpath ▸ List.mem_cons_self)

/-- **The names of an archive** are those of the files and of the directories made for them. -/
theorem names_perm {method : Method} {files : List File} {made packed : List String} {es : List Entry}
    (h : entriesAfter method made packed files = .ok es) {ds : List String}
    (hds : directoryEntries es = ds.map Entry.ofDirectory) :
    (es.map (·.name)).Perm ((files.map fun f => nameOf f.path) ++ ds.map nameOf) := by
  have hsplit : (fileEntries es ++ directoryEntries es).Perm es := List.filter_append_perm _ es
  rw [files_of_entriesAfter files h, hds] at hsplit
  have hnames := (hsplit.map (·.name)).symm
  rwa [List.map_append, List.map_map, List.map_map] at hnames

section

variable {method : Method} {files : List File} {es : List Entry} (h : pack method files = .ok es)
include h

theorem exists_entry_of_isAbove {d : String} {f : File} (hf : f ∈ files) (habove : IsAbove d f.path) :
    Entry.ofDirectory d ∈ es :=
  (mem_entriesAfter_iff files h).2 (.inl ⟨d, ⟨f, hf, habove⟩, List.not_mem_nil, rfl⟩)

/-- Where a name ends in a slash if it is that of a directory, no directory was cut: it would have the name of one that
is above it. -/
theorem whole_directories_of_extractable (hes : Extractable es) {f : File} (hf : f ∈ files) {d : String}
    (habove : IsAbove d f.path) : '\x00' ∉ d.toList := by
  intro hnull
  obtain ⟨ds, hds, -, hmem⟩ := directories_of_entriesAfter files h
  have hlast : (nameOf d).toList.getLast? = some '/' :=
    (hes.slash_iff _ (exists_entry_of_isAbove h hf habove)).2 rfl
  have hcut : IsAbove (nameOf d) f.path := isAbove_of_begins hlast ((nameOf_begins d).trans habove.begins)
  have hnodup := (names_perm h hds).nodup_iff.1 hes.nodup_names
  have hinj := List.inj_on_of_nodup_map (List.nodup_append.1 hnodup).2.1
  have heq := hinj ((hmem _).2 ⟨⟨f, hf, hcut⟩, List.not_mem_nil⟩) ((hmem d).2 ⟨⟨f, hf, habove⟩, List.not_mem_nil⟩)
    (nameOf_of_not_mem (not_mem_nameOf d))
  exact not_mem_nameOf d (heq.symm ▸ hnull)

theorem writtenApart_of_extractable (hes : Extractable es) : WrittenApart files where
  whole_directories := fun _ hf _ habove => whole_directories_of_extractable h hes hf habove
  safe := fun f hf => hes.safe _ ((mem_entriesAfter_iff files h).2 (.inr ⟨f, hf, rfl⟩))
  nodup := by
    obtain ⟨ds, hds, -, -⟩ := directories_of_entriesAfter files h
    exact (List.nodup_append.1 ((names_perm h hds).nodup_iff.1 hes.nodup_names)).1
  no_directory := fun f hf g hg habove => by
    have hwhole := whole_directories_of_extractable h hes hg habove
    refine hes.apart _ ((mem_entriesAfter_iff files h).2 (.inr ⟨f, hf, rfl⟩)) _ (exists_entry_of_isAbove h hg habove) rfl
      rfl ?_
    exact (place_ofDirectory (nameOf_of_not_mem hwhole)).symm

theorem extractable_of_writtenApart (hfiles : WrittenApart files) : Extractable es := by
  have hmem := fun {e} => mem_entriesAfter_iff files h (e := e)
  have hname : ∀ {d f}, f ∈ files → IsAbove d f.path → nameOf d = d := fun hf habove =>
    nameOf_of_not_mem (hfiles.whole_directories _ hf _ habove)
  have hfile : ∀ f ∈ files, (nameOf f.path).toList.getLast? ≠ some '/' := fun f hf hlast =>
    hfiles.safe f hf (.inr (.inr (.inl hlast)))
  refine ⟨?_, fun e he => ?_, fun e he => ?_, fun e he d hd hfilekind hdirectory => ?_⟩
  · obtain ⟨ds, hds, hnodup, hmemds⟩ := directories_of_entriesAfter files h
    have hnames : ds.map nameOf = ds := (List.map_congr_left fun d hd => by
      obtain ⟨⟨f, hf, habove⟩, -⟩ := (hmemds d).1 hd
      exact hname hf habove).trans (List.map_id _)
    rw [(names_perm h hds).nodup_iff, hnames]
    refine List.nodup_append.2 ⟨hfiles.nodup, hnodup, fun name hnamef d hd heq => ?_⟩
    obtain ⟨f, hf, rfl⟩ := List.mem_map.1 hnamef
    obtain ⟨⟨g, -, habove⟩, -⟩ := (hmemds d).1 hd
    exact hfile f hf (heq ▸ habove.getLast?_eq)
  · rcases hmem.1 he with ⟨d, ⟨f, hf, habove⟩, -, rfl⟩ | ⟨f, hf, rfl⟩
    · obtain ⟨place, rfl⟩ := habove.exists_place
      have hsafe := isSafe_of_isAbove habove (safe_and_new_of_entriesAfter files h f hf).1
      rw [place_ofDirectory (hname hf habove), ← isSafe_eq_false_iff, hsafe]
      decide
    · exact hfiles.safe f hf
  · rcases hmem.1 he with ⟨d, ⟨f, hf, habove⟩, -, rfl⟩ | ⟨f, hf, rfl⟩
    · have hlast : (nameOf d).toList.getLast? = some '/' := by rw [hname hf habove, habove.getLast?_eq]
      exact ⟨fun _ => rfl, fun _ => hlast⟩
    · exact ⟨fun hlast => absurd hlast (hfile f hf), fun hkind => nomatch hkind⟩
  · rcases hmem.1 he with ⟨_, _, _, rfl⟩ | ⟨f, hf, rfl⟩
    · cases hfilekind
    rcases hmem.1 hd with ⟨d, ⟨g, hg, habove⟩, -, rfl⟩ | ⟨_, _, rfl⟩
    · obtain ⟨place, rfl⟩ := habove.exists_place
      rw [place_ofDirectory (hname hg habove)]
      intro heq
      have hplace : nameOf f.path = place := heq
      exact hfiles.no_directory f hf g hg (hplace ▸ habove)
    · cases hdirectory

end

/-- **What is packed can be extracted if and only if the names as written are as good as the paths.**  Where no path has a
null character, that is if no file is a directory above another one. -/
theorem extractable_iff_writtenApart {method : Method} {files : List File} {es : List Entry}
    (h : pack method files = .ok es) :
    (Extractable es ↔ WrittenApart files) ∧
    ((∀ f ∈ files, '\x00' ∉ f.path.toList) →
      (Extractable es ↔ ∀ f ∈ files, ∀ g ∈ files, ¬ IsAbove (f.path ++ "/") g.path)) := by
  have hiff : Extractable es ↔ WrittenApart files :=
    ⟨writtenApart_of_extractable h, extractable_of_writtenApart h⟩
  refine ⟨hiff, fun hnull => hiff.trans ⟨fun hfiles f hf g hg => ?_, fun hno => ?_⟩⟩
  · have hapart := hfiles.no_directory f hf g hg
    rwa [nameOf_of_not_mem (hnull f hf)] at hapart
  · have hname : ∀ f ∈ files, nameOf f.path = f.path := fun f hf => nameOf_of_not_mem (hnull f hf)
    refine ⟨fun f hf _ habove hmem => hnull f hf (habove.begins.subset hmem), fun f hf => ?_, ?_, fun f hf => ?_⟩
    · rw [hname f hf, ← isSafe_eq_false_iff, (safe_and_new_of_entriesAfter files h f hf).1]
      decide
    · rw [List.map_congr_left hname]
      exact nodup_of_entriesAfter files h
    · rw [hname f hf]
      exact hno f hf

/-- Names that begin alike, in one directory and beside it. -/
def alike : List File := [⟨"a/b.txt", "1"⟩, ⟨"a/b/c", "2"⟩, ⟨"ab", "3"⟩]

theorem extractable_iff_writtenApart_alike : ∃ es, pack .deflated alike = .ok es ∧ Extractable es :=
  ⟨_, rfl, ((@extractable_iff_writtenApart .deflated alike _ rfl).2 (by decide)).2 (by decide)⟩

/-- A file in the place of a directory, and a path that is safe for the sake of what will be cut off. -/
theorem not_extractable_of_packed :
    (∃ es, pack .deflated [⟨"a", ""⟩, ⟨"a/b", ""⟩] = .ok es ∧ ¬ Extractable es) ∧
    ∃ es, pack .deflated [⟨"..\x00x", ""⟩] = .ok es ∧ ¬ Extractable es := by
  refine ⟨⟨_, rfl, fun hes => ?_⟩, _, rfl, fun hes => ?_⟩
  · exact hes.apart (Entry.ofFile .deflated ⟨"a", ""⟩) (by decide) (Entry.ofDirectory "a/") (by decide) rfl rfl (by decide)
  · exact hes.safe _ List.mem_cons_self (isSafe_eq_false_iff.1 (by decide))

end Archive
end FlowBundle
