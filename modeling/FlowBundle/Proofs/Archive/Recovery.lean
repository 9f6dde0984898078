import FlowBundle.Proofs.Archive.FileTree
import FlowBundle.Proofs.Archive.Reading
/-!
# What an archive gives back

An archive of files that are kept as they are gives back the entries that the files were packed as, names, kinds and
contents, in their order; and it gives them back for no other files (`ofBytes_of_packedAs`).  The reader never looks for
a record: it goes to the places that the records before give.  So a content may hold the mark of any record.
-/
namespace FlowBundle
namespace Archive

/-- **Files packed as entries**, within the numbers of an archive. -/
structure PackedAs (files : List File) (es : List Entry) : Prop where
  nameable : ∀ f ∈ files, Nameable f.path
  pack_eq : pack .stored files = .ok es
  count_le : es.length ≤ 65535
  size_lt : (toBytes es).length < 2 ^ (31 : Nat)

theorem PackedAs.isTree {files : List File} {es : List Entry} (h : PackedAs files es) : IsTree files es :=
  isTree_of_pack h.nameable h.pack_eq

theorem PackedAs.ofBytes_toBytes {files : List File} {es : List Entry} (h : PackedAs files es) :
    ofBytes (toBytes es) = some es := by
  have hcount : es.length < 2 ^ (16 : Nat) := Nat.lt_of_le_of_lt h.count_le (by decide)
  have hsize : (toBytes es).length < 2 ^ (32 : Nat) := Nat.lt_trans h.size_lt (by decide)
  exact Archive.ofBytes_toBytes (nameFits_of_pack h.pack_eq) hcount hsize

/-- **A tree is the tree of one list of files.** -/
theorem IsTree.files_unique {files files' : List File} {es : List Entry} (h : IsTree files es) (h' : IsTree files' es) :
    files' = files := by
  refine (List.map_inj_right fun f g heq => ?_).1 (h'.files_eq.symm.trans h.files_eq)
  obtain ⟨hpath, hcontent⟩ := Prod.mk.inj heq
  cases f
  cases g
  rw [File.mk.injEq]
  exact ⟨hpath, Utf8.encode_injective hcontent⟩

/-- **Reading undoes packing.**  The bytes of an archive are read as the entries that its files were packed as: the
files with their contents, and the directories above them.  No other files make the same bytes. -/
theorem ofBytes_of_packedAs {files : List File} {es : List Entry} (h : PackedAs files es) :
    ofBytes (toBytes es) = some es ∧ IsTree files es ∧
    ∀ files' es', PackedAs files' es' → toBytes es' = toBytes es → files' = files := by
  refine ⟨h.ofBytes_toBytes, h.isTree, fun files' es' h' hbytes => ?_⟩
  have hsame : es' = es := by
    have hread := h'.ofBytes_toBytes
    rw [hbytes, h.ofBytes_toBytes] at hread
    exact (Option.some.inj hread).symm
  exact h.isTree.files_unique (hsame ▸ h'.isTree)

/-- A content that begins and ends with the marks of records, beside a name that is not ASCII. -/
def markedFiles : List File := [⟨"a/é.zip", "PK\x03\x04 PK\x01\x02 PK\x05\x06"⟩, ⟨"a/PK\x05\x06", ""⟩]

def markedEntries : List Entry :=
  [.ofDirectory "a/", .ofFile .stored ⟨"a/é.zip", "PK\x03\x04 PK\x01\x02 PK\x05\x06"⟩,
    .ofFile .stored ⟨"a/PK\x05\x06", ""⟩]

theorem ofBytes_of_packedAs_marked :
    PackedAs markedFiles markedEntries ∧ ofBytes (toBytes markedEntries) = some markedEntries :=
  have h : PackedAs markedFiles markedEntries := ⟨by decide +kernel, by rfl, by decide, by decide +kernel⟩
  ⟨h, (ofBytes_of_packedAs h).1⟩

end Archive
end FlowBundle
