import FlowBundle.Proofs.Archive.Directories
import FlowBundle.Proofs.Archive.Packing
/-!
# The tree in an archive

Packing either refuses a file or makes a tree of all of them (`pack_refuses_first_or_makes_tree`).  It refuses the first
file whose path is malformed or was there before.  In a tree every file stands once, in the order given, and so does
every directory above one, before all that is in it.

Two lists grow while files are packed, the directories made and the paths used.  What they do is said once for a run
from any such lists (`mem_entriesAfter_iff`, `pairwise_entriesAfter`), by induction on the files.
-/
namespace FlowBundle
namespace Archive

/-! ## Names -/

/-- **A path that an entry can be named for**: nothing of it is cut off, and a record has room for it. -/
def Nameable (path : String) : Prop :=
  '\x00' ∉ path.toList ∧ (Utf8.encode path).length ≤ Entry.maxNameLength

instance (path : String) : Decidable (Nameable path) := inferInstanceAs (Decidable (_ ∧ _))

theorem nameOf_of_not_mem {path : String} (h : '\x00' ∉ path.toList) : nameOf path = path := by
  have hkept : ∀ c ∈ path.toList, (c != '\x00') = true := fun c hc => bne_iff_ne.2 fun heq => h (heq ▸ hc)
  have hall : (path.toList ++ []).takeWhile (· != '\x00') = path.toList ++ [].takeWhile (· != '\x00') :=
    List.takeWhile_append_of_pos hkept
  rw [List.append_nil, List.takeWhile_nil, List.append_nil] at hall
  rw [nameOf, hall, String.ofList_toList]

theorem nameOf_begins (path : String) : (nameOf path).toList <+: path.toList := by
  rw [nameOf, String.toList_ofList]
  exact List.takeWhile_prefix _

theorem name_ofFile (method : Method) {f : File} (h : '\x00' ∉ f.path.toList) : (Entry.ofFile method f).name = f.path :=
  nameOf_of_not_mem h

theorem name_ofDirectory {directory path : String} (habove : IsAbove directory path) (h : '\x00' ∉ path.toList) :
    (Entry.ofDirectory directory).name = directory :=
  nameOf_of_not_mem fun hmem => h (habove.begins.subset hmem)

theorem length_encode_le_of_begins {s t : String} (h : s.toList <+: t.toList) :
    (Utf8.encode s).length ≤ (Utf8.encode t).length := by
  obtain ⟨rest, hrest⟩ := h
  rw [Utf8.encode, Utf8.encode, ← hrest, List.flatMap_append, List.length_append]
  exact Nat.le_add_right _ _

theorem hasRoom_of_nameable {path : String} (h : Nameable path) : HasRoom path := by
  intro p hp
  have hpath : p.toList <+: path.toList := by
    rcases List.mem_cons.1 hp with rfl | hp
    · exact List.prefix_refl _
    · exact (mem_parentDirectories_iff.1 hp).begins
  exact Nat.le_trans (length_encode_le_of_begins ((nameOf_begins p).trans hpath)) h.2

/-! ## What is refused -/

/-- **What a file is refused for**, after files with some paths. -/
inductive Refused (earlier : List String) (path : String) : PackFault → Prop where
  | malformed : Malformed path → Refused earlier path (.unsafePath path)
  | repeated : path ∈ earlier → Refused earlier path (.duplicatePath path)

def NoneRefused (files : List File) : Prop :=
  ∀ pre f post, files = pre ++ f :: post → ∀ fault, ¬ Refused (pre.map (·.path)) f.path fault

/-- **The first file that is refused** is refused with this fault. -/
def FirstRefused (files : List File) (fault : PackFault) : Prop :=
  ∃ pre f post, files = pre ++ f :: post ∧ Refused (pre.map (·.path)) f.path fault ∧ NoneRefused pre

theorem exists_refused_iff {earlier : List String} {path : String} :
    (∃ fault, Refused earlier path fault) ↔ Malformed path ∨ path ∈ earlier := by
  constructor
  · rintro ⟨fault, hmalformed | hrepeated⟩
    · exact .inl hmalformed
    · exact .inr hrepeated
  · rintro (h | h)
    · exact ⟨_, .malformed h⟩
    · exact ⟨_, .repeated h⟩

/-- Where a file is refused, there is a first one. -/
theorem exists_firstRefused {files : List File} (pre : List File) {f : File} {post : List File} {fault : PackFault}
    (hfiles : files = pre ++ f :: post) (h : Refused (pre.map (·.path)) f.path fault) :
    ∃ first, FirstRefused files first := by
  by_cases hpre : NoneRefused pre
  · exact ⟨fault, pre, f, post, hfiles, h, hpre⟩
  · simp only [NoneRefused, Classical.not_forall, Classical.not_not] at hpre
    obtain ⟨pre', g, post', hsplit, fault', hg⟩ := hpre
    exact exists_firstRefused pre' (by rw [hfiles, hsplit, List.append_assoc]; rfl) hg
termination_by pre.length
decreasing_by
  rw [hsplit, List.length_append, List.length_cons]
  omega

theorem isSafe_of_noneRefused {files : List File} (h : NoneRefused files) : ∀ f ∈ files, isSafe f.path = true := by
  intro f hf
  obtain ⟨pre, post, hsplit⟩ := List.append_of_mem hf
  rw [← Bool.not_eq_false]
  exact fun hunsafe => h pre f post hsplit _ (.malformed (isSafe_eq_false_iff.1 hunsafe))

theorem nodup_of_noneRefused : ∀ {files : List File}, NoneRefused files → (files.map (·.path)).Nodup
  | [], _ => List.nodup_nil
  | f :: fs, h => by
    have hfirst : f.path ∉ fs.map (·.path) := by
      intro hmem
      obtain ⟨g, hg, hpath⟩ := List.mem_map.1 hmem
      obtain ⟨pre, post, hsplit⟩ := List.append_of_mem hg
      refine h (f :: pre) g post (by rw [hsplit]; rfl) _ (.repeated ?_)
      rw [hpath]
      exact List.mem_cons_self
    have hrest : NoneRefused fs := fun pre g post hsplit fault hg => by
      obtain ⟨fault', hg'⟩ := exists_refused_iff.2
        ((exists_refused_iff.1 ⟨fault, hg⟩).imp_right (List.mem_cons_of_mem f.path))
      exact h (f :: pre) g post (by rw [hsplit]; rfl) fault' hg'
    exact List.nodup_cons.2 ⟨hfirst, nodup_of_noneRefused hrest⟩

theorem pack_of_noneRefused (method : Method) {files : List File} (hname : ∀ f ∈ files, Nameable f.path)
    (h : NoneRefused files) : ∃ es, pack method files = .ok es := by
  obtain ⟨es, hes, -⟩ := pack_isOk method files
    (fun f hf => ⟨isSafe_of_noneRefused h f hf, hasRoom_of_nameable (hname f hf)⟩) (nodup_of_noneRefused h)
  exact ⟨es, hes⟩

/-- **What comes after packed files is packed on its own**, but for the directories made and the paths used. -/
theorem entriesAfter_append {method : Method} : ∀ (files : List File) {made packed : List String} {es : List Entry},
    entriesAfter method made packed files = .ok es → ∃ made', ∀ more,
      entriesAfter method made packed (files ++ more) =
        (entriesAfter method made' ((files.map (·.path)).reverse ++ packed) more).map (es ++ ·)
  | [], made, packed, _, h => by
    cases h
    refine ⟨made, fun more => ?_⟩
    show entriesAfter method made packed more = (entriesAfter method made packed more).map id
    cases entriesAfter method made packed more <;> rfl
  | f :: fs, made, packed, es, h => by
    obtain ⟨hsafe, hnew, hroom, rest, hrest, rfl⟩ := entriesAfter_cons_eq_ok h
    obtain ⟨made', hmore⟩ := entriesAfter_append fs hrest
    refine ⟨made', fun more => ?_⟩
    rw [List.cons_append, entriesAfter_cons hsafe hnew hroom, hmore more]
    rw [List.map_cons, List.reverse_cons, List.append_assoc, List.singleton_append]
    cases entriesAfter method made' ((fs.map (·.path)).reverse ++ f.path :: packed) more with
    | error fault => rfl
    | ok later =>
      show Except.ok (_ ++ (rest ++ later)) = Except.ok (_ ++ rest ++ later)
      rw [List.append_assoc]

theorem safe_and_new_of_entriesAfter {method : Method} : ∀ (files : List File) {made packed : List String}
    {es : List Entry}, entriesAfter method made packed files = .ok es →
      ∀ f ∈ files, isSafe f.path = true ∧ f.path ∉ packed
  | [], _, _, _, _ => fun _ hf => nomatch hf
  | f :: fs, _, _, _, h => by
    obtain ⟨hsafe, hnew, -, rest, hrest, -⟩ := entriesAfter_cons_eq_ok h
    intro g hg
    rcases List.mem_cons.1 hg with rfl | hg
    · exact ⟨hsafe, hnew⟩
    · obtain ⟨hsafe', hnew'⟩ := safe_and_new_of_entriesAfter fs hrest g hg
      exact ⟨hsafe', fun hmem => hnew' (List.mem_cons_of_mem _ hmem)⟩

/-- **A file is refused** behind files that are packed. -/
theorem pack_of_refused {method : Method} {pre : List File} {es : List Entry} (hes : pack method pre = .ok es) {f : File}
    {fault : PackFault} (h : Refused (pre.map (·.path)) f.path fault) (post : List File) :
    pack method (pre ++ f :: post) = .error fault := by
  obtain ⟨made, happend⟩ := entriesAfter_append pre hes
  rw [pack, happend (f :: post), entriesAfter]
  cases h with
  | malformed hmalformed =>
    rw [if_pos (isSafe_eq_false_iff.2 hmalformed)]
    rfl
  | repeated hrepeated =>
    obtain ⟨g, hg, hpath⟩ := List.mem_map.1 hrepeated
    have hsafe : isSafe f.path = true := hpath ▸ (safe_and_new_of_entriesAfter pre hes g hg).1
    have hcontains : ((pre.map File.path).reverse ++ []).contains f.path = true := by
      rw [List.append_nil, List.contains_iff_mem, List.mem_reverse]
      exact hrepeated
    rw [hsafe, if_neg (by decide), if_pos hcontains]
    rfl

theorem pack_of_firstRefused (method : Method) {files : List File} (hname : ∀ f ∈ files, Nameable f.path)
    {fault : PackFault} (h : FirstRefused files fault) : pack method files = .error fault := by
  obtain ⟨pre, f, post, rfl, hrefused, hpre⟩ := h
  obtain ⟨es, hes⟩ := pack_of_noneRefused method (fun g hg => hname g (List.mem_append_left _ hg)) hpre
  exact pack_of_refused hes hrefused post

/-- **The fault is that of the first file refused.** -/
theorem pack_eq_error_iff (method : Method) {files : List File} (hname : ∀ f ∈ files, Nameable f.path)
    (fault : PackFault) : pack method files = .error fault ↔ FirstRefused files fault := by
  refine ⟨fun herror => ?_, pack_of_firstRefused method hname⟩
  by_cases hnone : NoneRefused files
  · obtain ⟨es, hes⟩ := pack_of_noneRefused method hname hnone
    rw [hes] at herror
    cases herror
  · simp only [NoneRefused, Classical.not_forall, Classical.not_not] at hnone
    obtain ⟨pre, f, post, hsplit, fault', hf⟩ := hnone
    obtain ⟨first, hfirst⟩ := exists_firstRefused pre hsplit hf
    rw [pack_of_firstRefused method hname hfirst] at herror
    cases herror
    exact hfirst

/-! ## What is made -/

theorem files_of_entriesAfter {method : Method} : ∀ (files : List File) {made packed : List String} {es : List Entry},
    entriesAfter method made packed files = .ok es → fileEntries es = files.map (Entry.ofFile method)
  | [], _, _, _, h => by
    cases h
    rfl
  | f :: fs, _, _, _, h => by
    obtain ⟨-, -, -, rest, hrest, rfl⟩ := entriesAfter_cons_eq_ok h
    rw [fileEntries_append, fileEntries_entriesOf, files_of_entriesAfter fs hrest]
    rfl

theorem mem_newDirectories_iff {made : List String} {path directory : String} :
    directory ∈ newDirectories made path ↔ IsAbove directory path ∧ directory ∉ made := by
  rw [newDirectories, List.mem_filter, mem_parentDirectories_iff]
  simp

theorem mem_entriesOf_iff {method : Method} {directories : List String} {f : File} {e : Entry} :
    e ∈ entriesOf method directories f ↔ (∃ d ∈ directories, e = .ofDirectory d) ∨ e = .ofFile method f := by
  rw [entriesOf, List.mem_append, List.mem_map, List.mem_singleton]
  simp only [eq_comm]

/-- **The entries made** are those of the directories that were not there, and of the files. -/
theorem mem_entriesAfter_iff {method : Method} : ∀ (files : List File) {made packed : List String} {es : List Entry},
    entriesAfter method made packed files = .ok es → ∀ {e : Entry},
      e ∈ es ↔ (∃ d, (∃ f ∈ files, IsAbove d f.path) ∧ d ∉ made ∧ e = .ofDirectory d) ∨
        ∃ f ∈ files, e = .ofFile method f
  | [], _, _, _, h, e => by
    cases h
    simp
  | f :: fs, made, _, _, h, e => by
    obtain ⟨-, -, -, rest, hrest, rfl⟩ := entriesAfter_cons_eq_ok h
    rw [List.mem_append, mem_entriesOf_iff, mem_entriesAfter_iff fs hrest]
    simp only [List.mem_append, mem_newDirectories_iff, List.mem_cons, exists_eq_or_imp, not_or, not_and]
    constructor
    · rintro ((⟨d, ⟨habove, hmade⟩, he⟩ | he) | (⟨d, hg, ⟨hmade, -⟩, he⟩ | he))
      · exact .inl ⟨d, .inl habove, hmade, he⟩
      · exact .inr (.inl he)
      · exact .inl ⟨d, .inr hg, hmade, he⟩
      · exact .inr (.inr he)
    · rintro (⟨d, habove, hmade, he⟩ | he | he)
      · by_cases hf : IsAbove d f.path
        · exact .inl (.inl ⟨d, ⟨hf, hmade⟩, he⟩)
        · exact .inr (.inl ⟨d, habove.resolve_left hf, ⟨hmade, fun hf' => absurd hf' hf⟩, he⟩)
      · exact .inl (.inr he)
      · exact .inr (.inr he)

/-- **An entry may come before another one**: their names differ, and the later one is no directory that the earlier one
is in. -/
def MayPrecede (e later : Entry) : Prop :=
  e.name ≠ later.name ∧ (later.kind = .directory → ¬ later.name.toList <+: e.name.toList)

theorem mayPrecede_directory {directory : String} {e : Entry} (hname : (Entry.ofDirectory directory).name = directory)
    (h : ¬ directory.toList <+: e.name.toList) : MayPrecede e (.ofDirectory directory) := by
  refine ⟨fun heq => h ?_, fun _ => ?_⟩
  · have hsame : e.name = directory := heq.trans hname
    exact hsame ▸ List.prefix_refl _
  · rw [hname]
    exact h

theorem mayPrecede_file {method : Method} {f : File} {e : Entry} (hnull : '\x00' ∉ f.path.toList)
    (h : e.name ≠ f.path) : MayPrecede e (.ofFile method f) :=
  ⟨fun heq => h (heq.trans (name_ofFile method hnull)), fun hkind => nomatch hkind⟩

/-- A file is not named like a directory. -/
theorem ne_of_isAbove {directory path other : String} (habove : IsAbove directory other) (h : isSafe path = true) :
    directory ≠ path := by
  intro heq
  exact getLast?_ne_of_isSafe h (heq ▸ habove.getLast?_eq)

theorem pairwise_entriesOf (method : Method) (made : List String) {f : File} (hsafe : isSafe f.path = true)
    (hnull : '\x00' ∉ f.path.toList) : (entriesOf method (newDirectories made f.path) f).Pairwise MayPrecede := by
  have hname : ∀ d ∈ newDirectories made f.path, (Entry.ofDirectory d).name = d := fun d hd =>
    name_ofDirectory (mem_newDirectories_iff.1 hd).1 hnull
  rw [entriesOf, List.pairwise_append, List.pairwise_map]
  refine ⟨?_, List.pairwise_singleton _ _, ?_⟩
  · refine List.Pairwise.imp_of_mem ?_ ((pairwise_parentDirectories f.path).sublist List.filter_sublist)
    intro outer inner houter hinner hlength
    refine mayPrecede_directory (hname inner hinner) fun hstart => ?_
    have hle := hstart.length_le
    rw [hname outer houter] at hle
    omega
  · intro e he later hlater
    obtain ⟨d, hd, rfl⟩ := List.mem_map.1 he
    rw [List.mem_singleton.1 hlater]
    refine mayPrecede_file hnull ?_
    rw [hname d hd]
    exact ne_of_isAbove (mem_newDirectories_iff.1 hd).1 hsafe

/-- **Directories come before what is in them**, and no name comes twice. -/
theorem pairwise_entriesAfter {method : Method} : ∀ (files : List File) {made packed : List String} {es : List Entry},
    (∀ f ∈ files, '\x00' ∉ f.path.toList) → entriesAfter method made packed files = .ok es → es.Pairwise MayPrecede
  | [], _, _, _, _, h => by
    cases h
    exact List.Pairwise.nil
  | f :: fs, made, packed, _, hnull, h => by
    obtain ⟨hsafe, -, -, rest, hrest, rfl⟩ := entriesAfter_cons_eq_ok h
    have hnullf := hnull f List.mem_cons_self
    have hnullfs := fun g hg => hnull g (List.mem_cons_of_mem f hg)
    have hown := pairwise_entriesOf method made hsafe hnullf
    refine List.pairwise_append.2 ⟨hown, pairwise_entriesAfter fs hnullfs hrest, fun e he later hlater => ?_⟩
    -- The first entries are named by beginnings of the path of `f`.
    have hbegins : e.name.toList <+: f.path.toList ∧ (e.name = f.path ∨ IsAbove e.name f.path) := by
      rcases mem_entriesOf_iff.1 he with ⟨d, hd, rfl⟩ | rfl
      · have habove := (mem_newDirectories_iff.1 hd).1
        rw [name_ofDirectory habove hnullf]
        exact ⟨habove.begins, .inr habove⟩
      · rw [name_ofFile method hnullf]
        exact ⟨List.prefix_refl _, .inl rfl⟩
    rcases (mem_entriesAfter_iff fs hrest).1 hlater with ⟨d, ⟨g, hg, habove⟩, hmade, rfl⟩ | ⟨g, hg, rfl⟩
    · refine mayPrecede_directory (name_ofDirectory habove (hnullfs g hg)) fun hstart => hmade ?_
      have habovef := isAbove_of_begins habove.getLast?_eq (hstart.trans hbegins.1)
      rw [List.mem_append, mem_newDirectories_iff]
      exact (Decidable.em (d ∈ made)).imp_right fun hnot => ⟨habovef, hnot⟩
    · obtain ⟨hsafeg, hnew⟩ := safe_and_new_of_entriesAfter fs hrest g hg
      refine mayPrecede_file (hnullfs g hg) ?_
      rcases hbegins.2 with heq | habove
      · rw [heq]
        exact fun heq => hnew (heq ▸ List.mem_cons_self)
      · exact ne_of_isAbove habove hsafeg

theorem listed_ofFile (method : Method) {f : File} (hsafe : isSafe f.path = true) (hnull : '\x00' ∉ f.path.toList) :
    (Entry.ofFile method f).listedAsDirectory? = some false := by
  rw [Entry.listedAsDirectory?, name_ofFile method hnull]
  have hlast := getLast?_ne_of_isSafe hsafe
  cases hc : f.path.toList.getLast? with
  | none =>
    have hunsafe : isSafe f.path = false :=
      isSafe_eq_false_iff.2 (.inl (String.toList_eq_nil_iff.1 (List.getLast?_eq_none_iff.1 hc)))
    cases hsafe.symm.trans hunsafe
  | some c =>
    rw [hc] at hlast
    rw [Option.map_some, beq_false_of_ne fun heq => hlast (congrArg some heq)]

/-- **A tree of some files**: what the entries of an archive should be. -/
structure IsTree (files : List File) (es : List Entry) : Prop where
  files_eq : (fileEntries es).map (fun e => (e.name, e.content)) = files.map fun f => (f.path, Utf8.encode f.content)
  directory_iff : ∀ d, (∃ e ∈ es, e.kind = .directory ∧ e.name = d) ↔ ∃ f ∈ files, IsAbove d f.path
  directory_empty : ∀ e ∈ es, e.kind = .directory → e.content = []
  listed_eq : ∀ e ∈ es, e.listedAsDirectory? = some (decide (e.kind = .directory))
  outer_first : es.Pairwise fun e later => later.kind = .directory → ¬ later.name.toList <+: e.name.toList
  nodup_names : (es.map (·.name)).Nodup

theorem isTree_of_pack {method : Method} {files : List File} (hname : ∀ f ∈ files, Nameable f.path)
    {es : List Entry} (h : pack method files = .ok es) : IsTree files es := by
  have hnull : ∀ f ∈ files, '\x00' ∉ f.path.toList := fun f hf => (hname f hf).1
  have hmem := fun {e} => mem_entriesAfter_iff files h (e := e)
  have hpairwise := pairwise_entriesAfter files hnull h
  refine ⟨?_, fun d => ⟨?_, ?_⟩, fun e he hkind => ?_, fun e he => ?_, hpairwise.imp And.right, ?_⟩
  · rw [files_of_entriesAfter files h, List.map_map]
    refine List.map_congr_left fun f hf => ?_
    show ((Entry.ofFile method f).name, _) = (f.path, _)
    rw [name_ofFile method (hnull f hf)]
    rfl
  · rintro ⟨e, he, hkind, rfl⟩
    rcases hmem.1 he with ⟨d, ⟨f, hf, habove⟩, -, rfl⟩ | ⟨f, -, rfl⟩
    · rw [name_ofDirectory habove (hnull f hf)]
      exact ⟨f, hf, habove⟩
    · cases hkind
  · rintro ⟨f, hf, habove⟩
    exact ⟨.ofDirectory d, hmem.2 (.inl ⟨d, ⟨f, hf, habove⟩, List.not_mem_nil, rfl⟩), rfl,
      name_ofDirectory habove (hnull f hf)⟩
  · rcases hmem.1 he with ⟨d, -, -, rfl⟩ | ⟨f, -, rfl⟩
    · rfl
    · cases hkind
  · rcases hmem.1 he with ⟨d, ⟨f, hf, habove⟩, -, rfl⟩ | ⟨f, hf, rfl⟩
    · rw [Entry.listedAsDirectory?, name_ofDirectory habove (hnull f hf), habove.getLast?_eq]
      rfl
    · exact listed_ofFile method (safe_and_new_of_entriesAfter files h f hf).1 (hnull f hf)
  · exact List.pairwise_map.2 (hpairwise.imp And.left)

/-- **Packing refuses the first file it cannot take, or makes a tree of all of them.**  It can take a file unless the
path is malformed or was there before; the fault has that path.  A tree has the files in their order, each directory
above them once and before all that is in it, and nothing else. -/
theorem pack_refuses_first_or_makes_tree (method : Method) {files : List File}
    (hname : ∀ f ∈ files, Nameable f.path) :
    ((∃ fault, pack method files = .error fault) ↔
      ∃ pre f post, files = pre ++ f :: post ∧ (Malformed f.path ∨ f.path ∈ pre.map (·.path))) ∧
    (∀ fault, pack method files = .error fault ↔ FirstRefused files fault) ∧
    ∀ es, pack method files = .ok es → IsTree files es := by
  refine ⟨⟨?_, ?_⟩, pack_eq_error_iff method hname, fun es => isTree_of_pack hname⟩
  · rintro ⟨fault, herror⟩
    obtain ⟨pre, f, post, hsplit, hrefused, -⟩ := (pack_eq_error_iff method hname fault).1 herror
    exact ⟨pre, f, post, hsplit, exists_refused_iff.1 ⟨fault, hrefused⟩⟩
  · rintro ⟨pre, f, post, hsplit, hbad⟩
    obtain ⟨fault, hrefused⟩ := exists_refused_iff.2 hbad
    obtain ⟨first, hfirst⟩ := exists_firstRefused pre hsplit hrefused
    exact ⟨first, pack_of_firstRefused method hname hfirst⟩

/-- A file beside a directory of the same name, and a directory that two files share. -/
def nested : List File := [⟨"a/b/c.txt", "é"⟩, ⟨"a/b", ""⟩, ⟨"a/d/e", "x"⟩]

theorem pack_refuses_first_or_makes_tree_nested :
    (∀ f ∈ nested ++ [⟨"a/b", "again"⟩, ⟨"../f", ""⟩], Nameable f.path) ∧
    IsTree nested [.ofDirectory "a/", .ofDirectory "a/b/", ⟨"a/b/c.txt", .file, .stored, [0xC3, 0xA9]⟩,
      ⟨"a/b", .file, .stored, []⟩, .ofDirectory "a/d/", ⟨"a/d/e", .file, .stored, [0x78]⟩] ∧
    FirstRefused (nested ++ [⟨"a/b", "again"⟩, ⟨"../f", ""⟩]) (.duplicatePath "a/b") :=
  ⟨by decide +kernel, (pack_refuses_first_or_makes_tree .stored (by decide +kernel)).2.2 _ (by rfl),
    ((pack_refuses_first_or_makes_tree .stored (by decide +kernel)).2.1 _).1 (by rfl)⟩

end Archive
end FlowBundle
