import Mathlib.Logic.Basic
import FlowBundle.Files
import FlowBundle.Proofs.Table
/-!
# What writing a file changes

A file can be written where a path leads, if no directory is there (`write_of_writable`).  Then the place has the
content, the path still leads there, and reading it gives the content (`read_put`).  No other place looks different
(`look_put_of_find`): all that lies on the way was a directory before, and writing makes no other.
-/
namespace FlowBundle
namespace FileSystem

open Files (Place Path Problem Fault)

/-- **A path where a file can be written**, new or not. -/
structure Writable (fs : FileSystem) (p : Path) (place : Place) : Prop where
  find_eq : fs.find p = .ok place
  look_ne : fs.look place ≠ .directory

/-- The files with a content at a place. -/
def put (fs : FileSystem) (place : Place) (content : Bytes) : FileSystem :=
  { fs with contents := Table.put place content fs.contents }

variable {fs : FileSystem} {p : Path} {place : Place} {content : Bytes}

theorem write_of_writable (h : fs.Writable p place) (content : Bytes) :
    fs.write p content = .ok (fs.put place content) := by
  rw [write, h.find_eq]
  cases hlook : fs.look place with
  | directory => exact absurd hlook h.look_ne
  | file | nothing => simp only [hlook]; rfl

/-! ## Places and what is there -/

/-- What is at a place, by the look-up of a table: places are compared component by component there, to the same
effect. -/
theorem look_eq (fs : FileSystem) (place : Place) : fs.look place =
    match @List.lookup Place Bytes instBEqOfDecidableEq place fs.contents with
    | some content => .file content
    | none => if fs.isDirectory place then .directory else .nothing := by
  have hsame : (List.instBEq : BEq Place) = instBEqOfDecidableEq := lawful_beq_subsingleton _ _
  rw [← hsame]
  rfl

theorem isDirectory_iff {other : Place} : fs.isDirectory other = true ↔
    isOutside other = true ∨ other ∈ fs.directories ∨ ∃ key ∈ Table.keys fs.contents, other <+: key ∧ other ≠ key := by
  simp [isDirectory, Table.keys, or_assoc]

theorem look_ne_nothing_iff {other : Place} :
    fs.look other ≠ .nothing ↔ other ∈ Table.keys fs.contents ∨ fs.isDirectory other = true := by
  rw [look_eq, ← Table.isSome_lookup_iff]
  cases @List.lookup Place Bytes instBEqOfDecidableEq other fs.contents with
  | some content => simp
  | none => cases fs.isDirectory other <;> simp

theorem look_put_self : (fs.put place content).look place = .file content := by
  rw [look_eq]
  simp only [put, Table.lookup_put_self]

theorem isDirectory_put_iff {other : Place} : (fs.put place content).isDirectory other = true ↔
    fs.isDirectory other = true ∨ (other <+: place ∧ other ≠ place) := by
  rw [isDirectory_iff, isDirectory_iff, put]
  simp only [Table.mem_keys_put]
  constructor
  · rintro (h | h | ⟨key, rfl | hkey, habove⟩)
    · exact .inl (.inl h)
    · exact .inl (.inr (.inl h))
    · exact .inr habove
    · exact .inl (.inr (.inr ⟨key, hkey, habove⟩))
  · rintro ((h | h | ⟨key, hkey, habove⟩) | habove)
    · exact .inl h
    · exact .inr (.inl h)
    · exact .inr (.inr ⟨key, .inr hkey, habove⟩)
    · exact .inr (.inr ⟨place, .inl rfl, habove⟩)

/-- **Another place looks the same**, unless nothing was there and it is now above the file. -/
theorem look_put_of_ne {other : Place} (hne : other ≠ place) (habove : other <+: place → fs.look other ≠ .nothing) :
    (fs.put place content).look other = fs.look other := by
  rw [look_eq, look_eq]
  simp only [put, Table.lookup_put_of_ne content hne]
  cases hold : @List.lookup Place Bytes instBEqOfDecidableEq other fs.contents with
  | some content => rfl
  | none =>
    have hsame : (fs.put place content).isDirectory other = fs.isDirectory other := by
      rw [Bool.eq_iff_iff, isDirectory_put_iff]
      refine ⟨fun h => h.elim id fun h => ?_, .inl⟩
      have hkey : other ∉ Table.keys fs.contents := by
        rw [← Table.isSome_lookup_iff, hold]
        exact Bool.false_ne_true
      exact (look_ne_nothing_iff.1 (habove h.1)).resolve_left hkey
    exact congrArg (fun b : Bool => if b then Look.directory else Look.nothing) hsame

/-! ## The way to a place -/

/-- **Nothing is missing above a place.** -/
def Reached (fs : FileSystem) (place : Place) : Prop :=
  ∀ other, other <+: place → other ≠ place → fs.look other ≠ .nothing

theorem look_nil : fs.look [] ≠ .nothing := look_ne_nothing_iff.2 (.inr rfl)

theorem reached_start (p : Path) : fs.Reached p.start := by
  intro other habove hne
  have hnil : other = [] := by
    unfold Path.start at habove hne
    split at habove
    · exact List.prefix_nil.1 habove
    · rename_i hroot
      rw [if_neg hroot] at hne
      rcases List.prefix_cons_iff.1 habove with hnil | ⟨rest, rfl, hrest⟩
      · exact hnil
      · rw [List.prefix_nil.1 hrest] at hne
        exact absurd rfl hne
  rw [hnil]
  exact look_nil

theorem reached_concat (h : fs.Reached place) (hlook : fs.look place ≠ .nothing) (part : String) :
    fs.Reached (place ++ [part]) := by
  intro other habove hne
  rcases List.prefix_concat_iff.1 habove with heq | habove
  · exact absurd heq hne
  · by_cases hplace : other = place
    · rw [hplace]
      exact hlook
    · exact h other habove hplace

theorem reached_step (h : fs.Reached place) (hlook : fs.look place ≠ .nothing) (part : String) :
    fs.Reached (step place part) := by
  unfold step
  split
  · split
    · exact h
    · split
      · exact reached_concat h hlook ".."
      · intro other habove hne
        refine h other (habove.trans (List.dropLast_prefix place)) fun heq => ?_
        subst heq
        exact hne (habove.eq_of_length_le (List.dropLast_prefix other).length_le)
  · exact reached_concat h hlook part

/-- **A way that leads somewhere** starts at a directory, and its first component is short enough. -/
theorem walk_cons_eq_ok_iff {start : Place} {part : String} {parts : List String} :
    fs.walk start (part :: parts) = .ok place ↔ fs.look start = .directory ∧
      (Utf8.encode part).length ≤ Files.maxComponent ∧ fs.walk (step start part) parts = .ok place := by
  rw [walk]
  cases fs.look start with
  | file | nothing => simp
  | directory =>
    by_cases hlong : Files.maxComponent < (Utf8.encode part).length
    · simp [hlong, Nat.not_le.2 hlong]
    · simp [hlong, Nat.not_lt.1 hlong]

/-- **A path that leads somewhere** has no zero in it, is short enough, and its way leads there. -/
theorem find_eq_ok_iff : fs.find p = .ok place ↔ '\x00' ∉ p.text.toList ∧
    (Utf8.encode p.text).length < Files.maxPath ∧ fs.walk p.start p.parts = .ok place := by
  rw [find]
  by_cases hzero : '\x00' ∈ p.text.toList
  · simp [hzero]
  · by_cases hlong : Files.maxPath ≤ (Utf8.encode p.text).length
    · simp [hzero, hlong, Nat.not_lt.2 hlong]
    · simp [hzero, hlong, Nat.not_le.1 hlong]

theorem reached_walk : ∀ {parts : List String} {start : Place}, fs.Reached start → fs.walk start parts = .ok place →
    fs.Reached place
  | [], _, h, hwalk => by
    cases hwalk
    exact h
  | part :: parts, start, h, hwalk => by
    obtain ⟨hlook, -, hrest⟩ := walk_cons_eq_ok_iff.1 hwalk
    exact reached_walk (reached_step h (by rw [hlook]; nofun) part) hrest

/-- A way leads to the same place where the directories on it are still there. -/
theorem walk_congr {fs' : FileSystem} (hkept : ∀ other, fs.look other = .directory → fs'.look other = .directory) :
    ∀ {parts : List String} {start : Place}, fs.walk start parts = .ok place → fs'.walk start parts = .ok place
  | [], _, hwalk => hwalk
  | part :: parts, start, hwalk => by
    obtain ⟨hlook, hshort, hrest⟩ := walk_cons_eq_ok_iff.1 hwalk
    exact walk_cons_eq_ok_iff.2 ⟨hkept start hlook, hshort, walk_congr hkept hrest⟩

/-! ## The file written -/

/-- **Nothing else looks different** once a file is written where a path leads. -/
theorem look_put_of_find (h : fs.find p = .ok place) {other : Place} (hne : other ≠ place) :
    (fs.put place content).look other = fs.look other :=
  look_put_of_ne hne fun habove => reached_walk (reached_start p) (find_eq_ok_iff.1 h).2.2 other habove hne

theorem find_put (h : fs.Writable p place) : (fs.put place content).find p = .ok place := by
  have hkept : ∀ other, fs.look other = .directory → (fs.put place content).look other = .directory := by
    intro other hlook
    have hne : other ≠ place := fun heq => h.look_ne (heq ▸ hlook)
    rw [look_put_of_find h.find_eq hne, hlook]
  obtain ⟨hzero, hshort, hwalk⟩ := find_eq_ok_iff.1 h.find_eq
  exact find_eq_ok_iff.2 ⟨hzero, hshort, walk_congr hkept hwalk⟩

/-- **What was written is read.** -/
theorem read_put (h : fs.Writable p place) : (fs.put place content).read p = .ok content := by
  rw [read, find_put h]
  simp only [look_put_self]

end FileSystem
end FlowBundle
