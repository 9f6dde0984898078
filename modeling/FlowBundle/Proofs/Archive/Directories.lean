import Mathlib.Data.List.Infix
import FlowBundle.Archive.Path
import FlowBundle.Proofs.Text.Split
/-!
# Components and directories of a path

What a path says about itself, in terms of its text: its components are what stands between its slashes, so it is safe
unless it is malformed (`isSafe_eq_false_iff`), and the directories above it are its beginnings up to a slash
(`mem_parentDirectories_iff`), the shorter ones first (`pairwise_parentDirectories`).  So the list of them is known
(`directories_are_beginnings`): one for each slash, none of them longer than the path, and safe if the path is.
-/
namespace FlowBundle
namespace Archive

/-- **A component of a path**: it stands between two slashes, if one more is put at each end of the path. -/
def HasComponent (path : String) (component : List Char) : Prop :=
  '/' ∉ component ∧ ('/' :: component ++ ['/']) <:+: ('/' :: path.toList ++ ['/'])

/-- **A path that cannot be extracted where it should be.** -/
def Malformed (path : String) : Prop :=
  path = "" ∨ path.toList.head? = some '/' ∨ path.toList.getLast? = some '/' ∨
    ∃ component ∈ [[], ['.'], ['.', '.']], HasComponent path component

/-- **A directory on the way to a path**: what the path has up to one of its slashes, and the slash. -/
def IsAbove (directory path : String) : Prop :=
  ∃ before after, directory.toList = before ++ ['/'] ∧ path.toList = before ++ '/' :: after

theorem hasComponent_iff {path : String} {component : List Char} :
    HasComponent path component ↔ component ∈ components path :=
  Text.mem_split_iff.symm

theorem isName_eq_false_iff {component : List Char} :
    isName component = false ↔ component ∈ [[], ['.'], ['.', '.']] := by
  simp [isName, Decidable.or_iff_not_imp_left]

theorem isSafe_eq_false_iff {path : String} : isSafe path = false ↔ Malformed path := by
  have hsafe : isSafe path = false ↔ ∃ component ∈ [[], ['.'], ['.', '.']], HasComponent path component := by
    rw [isSafe, List.all_eq_false]
    constructor
    · rintro ⟨component, hmem, hname⟩
      exact ⟨component, isName_eq_false_iff.1 (by simpa using hname), hasComponent_iff.2 hmem⟩
    · rintro ⟨component, hname, hmem⟩
      exact ⟨component, hasComponent_iff.1 hmem, by rw [isName_eq_false_iff.2 hname]; exact Bool.false_ne_true⟩
  rw [hsafe]
  -- An empty path and one with an outer slash have an empty component.
  have hempty : ∀ before after : List Char, '/' :: path.toList ++ ['/'] = before ++ '/' :: '/' :: after →
      ∃ component ∈ [[], ['.'], ['.', '.']], HasComponent path component := fun before after h =>
    ⟨[], List.mem_cons_self, List.not_mem_nil, before, after, by rw [h]; simp⟩
  constructor
  · intro h
    exact .inr (.inr (.inr h))
  · rintro (rfl | hhead | hlast | h)
    · exact hempty [] [] rfl
    · obtain ⟨rest, hrest⟩ := List.head?_eq_some_iff.1 hhead
      exact hempty [] (rest ++ ['/']) (by rw [hrest]; rfl)
    · obtain ⟨rest, hrest⟩ := List.getLast?_eq_some_iff.1 hlast
      exact hempty ('/' :: rest) [] (by rw [hrest]; simp)
    · exact h

theorem getLast?_ne_of_isSafe {path : String} (h : isSafe path = true) : path.toList.getLast? ≠ some '/' := by
  intro hlast
  have hunsafe : isSafe path = false := isSafe_eq_false_iff.2 (.inr (.inr (.inl hlast)))
  rw [h] at hunsafe
  cases hunsafe

/-! ## Directories -/

theorem IsAbove.getLast?_eq {directory path : String} (h : IsAbove directory path) :
    directory.toList.getLast? = some '/' := by
  obtain ⟨before, -, hdirectory, -⟩ := h
  rw [hdirectory, List.getLast?_concat]

theorem IsAbove.begins {directory path : String} (h : IsAbove directory path) : directory.toList <+: path.toList := by
  obtain ⟨before, after, hdirectory, hpath⟩ := h
  exact ⟨after, by rw [hdirectory, hpath, List.append_assoc, List.singleton_append]⟩

/-- A beginning of a path that ends in a slash is a directory on the way to it. -/
theorem isAbove_of_begins {directory path : String} (hlast : directory.toList.getLast? = some '/')
    (h : directory.toList <+: path.toList) : IsAbove directory path := by
  obtain ⟨before, hbefore⟩ := List.getLast?_eq_some_iff.1 hlast
  obtain ⟨after, hafter⟩ := h
  exact ⟨before, after, hbefore, by rw [← hafter, hbefore, List.append_assoc, List.singleton_append]⟩

theorem IsAbove.exists_place {directory path : String} (h : IsAbove directory path) :
    ∃ place : String, directory = place ++ "/" := by
  obtain ⟨before, -, hdirectory, -⟩ := h
  refine ⟨String.ofList before, String.toList_inj.1 ?_⟩
  rw [hdirectory, String.toList_append, String.toList_ofList]
  rfl

/-- **The directories above a safe path are safe.** -/
theorem isSafe_of_isAbove {place path : String} (h : IsAbove (place ++ "/") path) (hsafe : isSafe path = true) :
    isSafe place = true := by
  obtain ⟨before, after, hdirectory, hpath⟩ := h
  rw [String.toList_append] at hdirectory
  have hplace : place.toList = before := List.append_inj_left' hdirectory rfl
  rw [isSafe, components, hpath, Text.split_append_cons, List.all_append, Bool.and_eq_true] at hsafe
  rw [isSafe, components, hplace]
  exact hsafe.1

theorem components_eq_append (path : String) :
    ∃ last, components path = (components path).dropLast ++ [last] ∧
      path.toList = (components path).dropLast.flatMap (· ++ ['/']) ++ last := by
  have hne : components path ≠ [] := Text.split_ne_nil _ _
  have hsplit := List.dropLast_concat_getLast hne
  refine ⟨_, hsplit.symm, ?_⟩
  have hall : (components path).flatMap (· ++ ['/']) = path.toList ++ ['/'] := Text.flatMap_split _
  rw [← hsplit, List.flatMap_append, List.flatMap_singleton, ← List.append_assoc] at hall
  exact (List.append_inj_left' hall rfl).symm

/-- **The directories of a path are the directories above it.** -/
theorem mem_parentDirectories_iff {directory path : String} :
    directory ∈ parentDirectories path ↔ IsAbove directory path := by
  constructor
  · intro h
    obtain ⟨i, hi, rfl⟩ := List.mem_map.1 h
    obtain ⟨last, -, hpath⟩ := components_eq_append path
    generalize (components path).dropLast = parts at hi hpath ⊢
    rw [List.mem_range] at hi
    have hfirst : (parts.take (i + 1)).flatMap (· ++ ['/']) =
        (parts.take i).flatMap (· ++ ['/']) ++ parts[i] ++ ['/'] := by
      rw [List.take_succ_eq_append_getElem hi, List.flatMap_append, List.flatMap_singleton, List.append_assoc]
    have hparts : parts.flatMap (· ++ ['/']) =
        (parts.take (i + 1)).flatMap (· ++ ['/']) ++ (parts.drop (i + 1)).flatMap (· ++ ['/']) := by
      rw [← List.flatMap_append, List.take_append_drop]
    refine ⟨(parts.take i).flatMap (· ++ ['/']) ++ parts[i], (parts.drop (i + 1)).flatMap (· ++ ['/']) ++ last, ?_, ?_⟩
    · rw [directoryPath, String.toList_ofList, hfirst]
    · rw [hpath, hparts, hfirst, List.append_assoc, List.append_assoc, List.singleton_append]
  · rintro ⟨before, after, hdirectory, hpath⟩
    have hparts : (components path).dropLast =
        Text.split '/' before ++ (Text.split '/' after).dropLast := by
      rw [components, hpath, Text.split_append_cons, List.dropLast_append_of_ne_nil (Text.split_ne_nil _ after)]
    have hpos : 0 < (Text.split '/' before).length := List.length_pos_iff.2 (Text.split_ne_nil _ before)
    refine List.mem_map.2 ⟨(Text.split '/' before).length - 1, List.mem_range.2 ?_, ?_⟩
    · rw [hparts, List.length_append]
      omega
    · rw [Nat.sub_add_cancel hpos, hparts, List.take_left, directoryPath, Text.flatMap_split, ← hdirectory,
        String.ofList_toList]

instance (directory path : String) : Decidable (IsAbove directory path) := decidable_of_iff _ mem_parentDirectories_iff

/-- **Outer directories come first.** -/
theorem pairwise_parentDirectories (path : String) :
    (parentDirectories path).Pairwise fun outer inner => outer.toList.length < inner.toList.length := by
  unfold parentDirectories
  generalize (components path).dropLast = parts
  rw [List.pairwise_map]
  refine List.Pairwise.imp_of_mem ?_ List.pairwise_lt_range
  intro i j hi hj hij
  rw [List.mem_range] at hj
  have htake : parts.take (j + 1) = parts.take (i + 1) ++ (parts.take (j + 1)).drop (i + 1) := by
    have hsplit := List.take_append_drop (i + 1) (parts.take (j + 1))
    rw [List.take_take, Nat.min_eq_left (by omega)] at hsplit
    exact hsplit.symm
  have hmore : (parts.take (j + 1)).drop (i + 1) ≠ [] := by
    rw [← List.length_pos_iff, List.length_drop, List.length_take]
    omega
  obtain ⟨part, rest, hcons⟩ := List.exists_cons_of_ne_nil hmore
  rw [directoryPath, directoryPath, htake, hcons, List.flatMap_append, List.flatMap_cons, String.toList_ofList,
    String.toList_ofList]
  simp only [List.length_append, List.length_singleton]
  omega

/-! ## The list of directories -/

theorem pairwise_inits {α : Type} : ∀ l : List α, l.inits.Pairwise fun shorter longer => shorter.length < longer.length
  | [] => List.pairwise_singleton _ _
  | a :: l => by
    rw [List.inits_cons, List.pairwise_cons, List.pairwise_map]
    refine ⟨fun longer h => ?_, (pairwise_inits l).imp Nat.succ_lt_succ⟩
    obtain ⟨rest, -, rfl⟩ := List.mem_map.1 h
    exact Nat.succ_pos _

/-- **The directories of a path are its beginnings that end in a slash.**  Both lists go from short to long, so it is
enough that they have the same members. -/
theorem map_toList_parentDirectories (path : String) :
    (parentDirectories path).map String.toList = path.toList.inits.filter (·.getLast? == some '/') := by
  have hdirectories : ((parentDirectories path).map String.toList).Pairwise fun shorter longer =>
      shorter.length < longer.length := List.pairwise_map.2 (pairwise_parentDirectories path)
  have hbeginnings := (pairwise_inits path.toList).filter (·.getLast? == some '/')
  have hnodup : ∀ {l : List (List Char)}, l.Pairwise (fun shorter longer => shorter.length < longer.length) → l.Nodup :=
    fun h => h.imp fun hlength heq => absurd (congrArg List.length heq) (Nat.ne_of_lt hlength)
  have hmem : ∀ cs, cs ∈ (parentDirectories path).map String.toList ↔
      cs ∈ path.toList.inits.filter (·.getLast? == some '/') := by
    intro cs
    rw [List.mem_map, List.mem_filter, List.mem_inits, beq_iff_eq]
    constructor
    · rintro ⟨directory, hmem, rfl⟩
      have habove := mem_parentDirectories_iff.1 hmem
      exact ⟨habove.begins, habove.getLast?_eq⟩
    · rintro ⟨hbegins, hlast⟩
      refine ⟨String.ofList cs, mem_parentDirectories_iff.2 (isAbove_of_begins ?_ ?_), String.toList_ofList⟩
      · rwa [String.toList_ofList]
      · rwa [String.toList_ofList]
  have hperm := (List.perm_ext_iff_of_nodup (hnodup hdirectories) (hnodup hbeginnings)).2 hmem
  exact hperm.eq_of_pairwise (fun _ _ _ _ h h' => absurd h' (Nat.lt_asymm h)) hdirectories hbeginnings

/-- What is put together of parts without a slash has one for each part. -/
theorem count_directoryPath : ∀ {parts : List (List Char)}, (∀ part ∈ parts, '/' ∉ part) →
    (directoryPath parts).toList.count '/' = parts.length
  | [], _ => rfl
  | part :: parts, h => by
    have hpart : part.count '/' = 0 := List.count_eq_zero.2 (h part List.mem_cons_self)
    have ih := count_directoryPath fun other hother => h other (List.mem_cons_of_mem part hother)
    rw [directoryPath, String.toList_ofList] at ih ⊢
    rw [List.flatMap_cons, List.count_append, List.count_append, hpart, ih, List.length_cons, Nat.add_comm]
    rfl

/-- **There is one directory for each slash**: the first has one slash, the second has two, and so on. -/
theorem map_count_parentDirectories (path : String) :
    (parentDirectories path).map (·.toList.count '/') = List.range' 1 (path.toList.count '/') := by
  have hlength : (components path).dropLast.length = path.toList.count '/' := by
    rw [List.length_dropLast, components, Text.length_split, Nat.add_sub_cancel]
  have hpart : ∀ part ∈ (components path).dropLast, '/' ∉ part := fun part hmem =>
    Text.not_mem_of_mem_split (List.mem_of_mem_dropLast hmem)
  rw [parentDirectories, ← hlength, List.range'_eq_map_range, List.map_map]
  generalize (components path).dropLast = parts at hpart ⊢
  refine List.map_congr_left fun i hi => ?_
  rw [List.mem_range] at hi
  show (directoryPath (parts.take (i + 1))).toList.count '/' = 1 + i
  rw [count_directoryPath fun part hmem => hpart part (List.mem_of_mem_take hmem), List.length_take, Nat.min_eq_left hi,
    Nat.add_comm]

/-- Of two directories of a path the shorter one is above the longer one. -/
theorem pairwise_begins_parentDirectories (path : String) :
    (parentDirectories path).Pairwise fun outer inner =>
      outer.toList <+: inner.toList ∧ outer.toList.length < inner.toList.length := by
  refine List.Pairwise.imp_of_mem ?_ (pairwise_parentDirectories path)
  intro outer inner houter hinner hlength
  have houter := (mem_parentDirectories_iff.1 houter).begins
  have hinner := (mem_parentDirectories_iff.1 hinner).begins
  exact ⟨List.prefix_of_prefix_length_le houter hinner (Nat.le_of_lt hlength), hlength⟩

/-- **The directories of any path are its beginnings that end in a slash**, one for each slash and each a proper
beginning of the next.  A path is one of its own directories if it ends in a slash, and not otherwise.  The directories
of a safe path are safe, too, without the slash at their ends. -/
theorem directories_are_beginnings (path : String) :
    (parentDirectories path).map String.toList = path.toList.inits.filter (·.getLast? == some '/') ∧
    (parentDirectories path).map (·.toList.count '/') = List.range' 1 (path.toList.count '/') ∧
    (parentDirectories path).Pairwise (fun outer inner =>
      outer.toList <+: inner.toList ∧ outer.toList.length < inner.toList.length) ∧
    (∀ directory ∈ parentDirectories path, directory.toList <+: path.toList) ∧
    (path ∈ parentDirectories path ↔ path.toList.getLast? = some '/') ∧
    (isSafe path = true → ∀ directory ∈ parentDirectories path, ∃ place,
      directory = place ++ "/" ∧ isSafe place = true) := by
  refine ⟨map_toList_parentDirectories path, map_count_parentDirectories path,
    pairwise_begins_parentDirectories path, fun directory hmem => (mem_parentDirectories_iff.1 hmem).begins, ?_, ?_⟩
  · rw [mem_parentDirectories_iff]
    exact ⟨IsAbove.getLast?_eq, fun hlast => isAbove_of_begins hlast (List.prefix_refl _)⟩
  · intro hsafe directory hmem
    have habove := mem_parentDirectories_iff.1 hmem
    obtain ⟨place, rfl⟩ := habove.exists_place
    exact ⟨place, rfl, isSafe_of_isAbove habove hsafe⟩

theorem directories_are_beginnings_deep :
    isSafe "a/..b/c.txt" = true ∧ parentDirectories "a/..b/c.txt" = ["a/", "a/..b/"] ∧
    ∀ directory ∈ ["a/", "a/..b/"], ∃ place, directory = place ++ "/" ∧ isSafe place = true := by
  have hsafe : isSafe "a/..b/c.txt" = true := by decide
  have hlist : parentDirectories "a/..b/c.txt" = ["a/", "a/..b/"] := by decide
  obtain ⟨-, -, -, -, -, hplaces⟩ := directories_are_beginnings "a/..b/c.txt"
  exact ⟨hsafe, hlist, hlist ▸ hplaces hsafe⟩

/-- Slashes side by side, and at both ends. -/
example : parentDirectories "//a/" = ["/", "//", "//a/"] := by decide

end Archive
end FlowBundle
