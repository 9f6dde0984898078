import FlowBundle.Archive.ZipReader
import FlowBundle.Proofs.Archive.Deflate
import FlowBundle.Proofs.Text.Utf8
/-!
# Archives read back

The reader takes the fields of a record off the front of the bytes one by one, so each record is read back with
whatever stands behind it (`takeFields_append`, `takeRecord_append`).  The directory is the row of such records, each
with the place of its local header, and at that place the entry is found whole (`entryAt_append`).  So an archive is
read back as the entries it was made of, if its fields have room for the length of each name, the number of entries and
the size of the whole (`ofBytes_toBytes`).
-/
namespace FlowBundle
namespace Archive

theorem afterMark_append (mark rest : Bytes) : afterMark mark (mark ++ rest) = some rest := by
  rw [afterMark, if_pos (List.isPrefixOf_iff_prefix.2 (List.prefix_append mark rest)), List.drop_left]

theorem takeBytes_append (bytes rest : Bytes) : takeBytes bytes.length (bytes ++ rest) = some (bytes, rest) := by
  have h : bytes.length ≤ (bytes ++ rest).length := by
    rw [List.length_append]
    omega
  rw [takeBytes, if_pos h, List.take_left, List.drop_left]

theorem takeBytes_zero (bytes : Bytes) : takeBytes 0 bytes = some ([], bytes) := rfl

theorem takeNumber_two {n : Nat} (h : n < 2 ^ (16 : Nat)) (rest : Bytes) :
    takeNumber 2 (number 2 n ++ rest) = some (n, rest) :=
  takeNumber_append 2 n rest h

theorem takeNumber_four {n : Nat} (h : n < 2 ^ (32 : Nat)) (rest : Bytes) :
    takeNumber 4 (number 4 n ++ rest) = some (n, rest) :=
  takeNumber_append 4 n rest h

/-! ## Names, kinds and methods -/

theorem ofAttributes_attributes (k : Kind) : Kind.ofAttributes k.attributes = some k := by
  cases k <;> decide

theorem ofCode_code (m : Method) : Method.ofCode m.code = some m := by
  cases m <;> decide

theorem expand_data (e : Entry) : expand e.method e.data = some e.content := by
  unfold Entry.data
  cases e.method with
  | stored => rfl
  | deflated => exact inflate_deflate e.content

theorem encodeChar_lt_of_lt {c : Char} (hc : c.toNat < 0x80) : ∀ b ∈ Utf8.encodeChar c, b < 0x80 := by
  intro b hb
  rw [Utf8.encodeChar] at hb
  simp only [if_pos hc, List.mem_singleton] at hb
  rw [hb, UInt8.lt_iff_toNat_lt, Utf8.toNat_toUInt8 (by omega)]
  exact hc

theorem nameOfBytes_nameBytes (e : Entry) : nameOfBytes e.flags e.nameBytes = some e.name := by
  have hmarked : e.flags = utf8Flag ∨ e.nameBytes.all (· < 0x80) = true := by
    cases hascii : e.isAscii with
    | false => exact .inl (by rw [Entry.flags, hascii]; rfl)
    | true =>
      refine .inr (List.all_eq_true.2 fun b hb => decide_eq_true ?_)
      obtain ⟨c, hc, hbc⟩ := List.mem_flatMap.1 hb
      exact encodeChar_lt_of_lt (of_decide_eq_true (List.all_eq_true.1 hascii c hc)) b hbc
  rw [nameOfBytes, if_pos hmarked, Entry.nameBytes, Utf8.decode_encode]
  rfl

/-! ## Records -/

namespace Entry

/-- **The fields have room** for the numbers of an entry. -/
structure Fits (e : Entry) : Prop where
  name : e.nameBytes.length < 2 ^ (16 : Nat)
  content : e.content.length < 2 ^ (32 : Nat)
  data : e.data.length < 2 ^ (32 : Nat)

/-- The fields that both headers share, with what each of them gives for the sizes and behind the name. -/
def fieldsWith (e : Entry) (dataLength contentLength extraLength : Nat) : Fields :=
  ⟨e.version, e.flags, e.method.code, 0, firstDay, (checksum e.content).toNat, dataLength, contentLength,
    e.nameBytes.length, extraLength⟩

def record (e : Entry) (offset : Nat) : Record :=
  ⟨e.fieldsWith e.data.length e.content.length 0, e.kind.attributes, offset, e.nameBytes⟩

theorem version_lt (e : Entry) : e.version < 2 ^ (16 : Nat) := by
  unfold version
  split <;> decide

theorem flags_lt (e : Entry) : e.flags < 2 ^ (16 : Nat) := by
  unfold flags
  split <;> decide

theorem code_lt (m : Method) : m.code < 2 ^ (16 : Nat) := by
  cases m <;> decide

theorem attributes_lt (k : Kind) : k.attributes < 2 ^ (32 : Nat) := by
  cases k <;> decide

end Entry

theorem takeNumber_zero (rest : Bytes) : takeNumber 2 (number 2 0 ++ rest) = some (0, rest) :=
  takeNumber_two (by decide) rest

theorem takeFields_append {e : Entry} (hname : e.nameBytes.length < 2 ^ (16 : Nat)) {dataLength contentLength : Nat}
    (hdata : dataLength < 2 ^ (32 : Nat)) (hcontent : contentLength < 2 ^ (32 : Nat)) {extraLength : Nat}
    (hextra : extraLength < 2 ^ (16 : Nat)) (rest : Bytes) :
    takeFields (e.sharedFields dataLength contentLength extraLength ++ rest) =
      some (e.fieldsWith dataLength contentLength extraLength, rest) := by
  have hsum : (checksum e.content).toNat < 2 ^ (32 : Nat) := (checksum e.content).toNat_lt
  have hday : firstDay < 2 ^ (16 : Nat) := by decide
  simp only [Entry.sharedFields, List.append_assoc]
  simp only [takeFields, takeNumber_two e.version_lt, takeNumber_two e.flags_lt,
    takeNumber_two (Entry.code_lt e.method), takeNumber_zero, takeNumber_two hday, takeNumber_four hsum,
    takeNumber_four hdata, takeNumber_four hcontent, takeNumber_two hname, takeNumber_two hextra, Option.bind_eq_bind,
    Option.bind_some]
  rfl

theorem takeRecord_append {e : Entry} (h : e.Fits) {offset : Nat} (hoffset : offset < 2 ^ (32 : Nat)) (rest : Bytes) :
    takeRecord (e.directoryRecord offset ++ rest) = some (e.record offset, rest) := by
  have hmade (bytes : Bytes) : takeNumber 2 ([e.version.toUInt8, Entry.system] ++ bytes) =
      some (value [e.version.toUInt8, Entry.system], bytes) := rfl
  have hfields := takeFields_append h.name h.data h.content (show 0 < 2 ^ (16 : Nat) by decide)
  have hname : takeBytes (e.fieldsWith e.data.length e.content.length 0).nameLength (e.nameBytes ++ rest) =
      some (e.nameBytes, rest) := takeBytes_append e.nameBytes rest
  have hextra : takeBytes ((e.fieldsWith e.data.length e.content.length 0).extraLength + 0) rest = some ([], rest) :=
    takeBytes_zero rest
  simp only [Entry.directoryRecord, List.append_assoc]
  simp only [takeRecord, afterMark_append, hmade, hfields, takeNumber_zero,
    takeNumber_four (Entry.attributes_lt e.kind), takeNumber_four hoffset, hname, hextra, Option.bind_eq_bind,
    Option.bind_some]
  rfl

def records (offset : Nat) : List Entry → List Record
  | [] => []
  | e :: es => e.record offset :: records (offset + e.localRecord.length) es

theorem takeRecords_directory : ∀ (es : List Entry) (offset : Nat), (∀ e ∈ es, e.Fits) →
    offset + (localRecords es).length < 2 ^ (32 : Nat) →
    takeRecords es.length (directory offset es) = some (records offset es)
  | [], _, _, _ => rfl
  | e :: es, offset, hfits, hsize => by
    rw [localRecords, List.flatMap_cons, List.length_append] at hsize
    have hfirst := takeRecord_append (hfits e List.mem_cons_self) (show offset < 2 ^ (32 : Nat) by omega)
      (directory (offset + e.localRecord.length) es)
    have hrest := takeRecords_directory es (offset + e.localRecord.length)
      (fun e' he' => hfits e' (List.mem_cons_of_mem e he')) (by rw [localRecords]; omega)
    rw [List.length_cons, directory, takeRecords, hfirst]
    simp only [Option.bind_eq_bind, Option.bind_some, hrest]
    rfl

/-! ## Entries -/

theorem takeNumber_eight {n : Nat} (h : n < 2 ^ (32 : Nat)) (rest : Bytes) :
    takeNumber 8 (number 8 n ++ rest) = some (n, rest) :=
  takeNumber_append 8 n rest (Nat.lt_trans h (by decide))

theorem length_sizes (e : Entry) : e.sizes.length = 16 := by
  rw [Entry.sizes, List.length_append, length_number, length_number]

theorem takeSizes_extra {e : Entry} (h : e.Fits) (hlarge : e.isLarge = true) :
    takeSizes e.extra = some (e.content.length, e.data.length) := by
  have hmark : sizesMark < 2 ^ (16 : Nat) := by decide
  have hlength : e.sizes.length < 2 ^ (16 : Nat) := by
    rw [length_sizes]
    decide
  have hlast : takeNumber 8 (number 8 e.data.length) = some (e.data.length, []) := by
    rw [← List.append_nil (number 8 e.data.length), takeNumber_eight h.data]
  rw [Entry.extra, if_pos hlarge, List.append_assoc]
  simp only [takeSizes, takeNumber_two hmark, takeNumber_two hlength, Option.bind_eq_bind, Option.bind_some]
  simp only [Entry.sizes, takeNumber_eight h.content, hlast, Option.bind_some]
  exact if_pos ⟨trivial, length_sizes e, trivial⟩

theorem length_extra_lt (e : Entry) : e.extra.length < 2 ^ (16 : Nat) := by
  unfold Entry.extra
  split
  · rw [List.length_append, List.length_append, length_number, length_number, length_sizes]
    decide
  · decide

/-- **The local header is read with the sizes of the entry**, whichever fields they stand in. -/
theorem exists_takeFields_local {e : Entry} (h : e.Fits) : ∃ f : Fields,
    (∀ rest, takeFields (e.localFields ++ rest) = some (f, rest)) ∧ f.nameLength = e.nameBytes.length ∧
    f.extraLength = e.extra.length ∧
    f.withSizes? e.extra = some (e.fieldsWith e.data.length e.content.length e.extra.length) := by
  unfold Entry.localFields
  split
  · rename_i hlarge
    refine ⟨_, takeFields_append h.name (by decide) (by decide) (length_extra_lt e), rfl, rfl, ?_⟩
    rw [Fields.withSizes?, if_pos ⟨rfl, rfl⟩, takeSizes_extra h hlarge]
    rfl
  · rename_i hsmall
    refine ⟨_, takeFields_append h.name h.data h.content (length_extra_lt e), rfl, rfl, ?_⟩
    refine if_neg fun hgiven => hsmall (decide_eq_true ?_)
    have hlength : e.content.length = givenElsewhere := hgiven.1
    rw [hlength]
    decide

theorem entryAt_append {e : Entry} (h : e.Fits) (before after : Bytes) :
    entryAt (before ++ (e.localRecord ++ after)) (e.record before.length) = some e := by
  obtain ⟨f, hfields, hnameLength, hextraLength, hsizes⟩ := exists_takeFields_local h
  have hlocal : (before ++ (e.localRecord ++ after)).drop before.length =
      localSignature ++ (e.localFields ++ (e.nameBytes ++ (e.extra ++ (e.data ++ after)))) := by
    rw [List.drop_left, Entry.localRecord]
    simp only [List.append_assoc]
  have hname (rest : Bytes) : takeBytes f.nameLength (e.nameBytes ++ rest) = some (e.nameBytes, rest) := by
    rw [hnameLength, takeBytes_append]
  have hextra (rest : Bytes) : takeBytes f.extraLength (e.extra ++ rest) = some (e.extra, rest) := by
    rw [hextraLength, takeBytes_append]
  have hdata : takeBytes (e.fieldsWith e.data.length e.content.length e.extra.length).dataLength (e.data ++ after) =
      some (e.data, after) := takeBytes_append e.data after
  have hflags : nameOfBytes (e.fieldsWith e.data.length e.content.length e.extra.length).flags e.nameBytes =
      some e.name := nameOfBytes_nameBytes e
  have hmethod : Method.ofCode (e.fieldsWith e.data.length e.content.length e.extra.length).method = some e.method :=
    ofCode_code e.method
  simp only [entryAt, Entry.record, hlocal, afterMark_append, hfields, hname, hextra, hsizes, hdata, hflags,
    ofAttributes_attributes, hmethod, expand_data, Option.bind_eq_bind, Option.bind_some]
  exact if_pos ⟨decide_eq_true rfl, trivial, rfl, rfl⟩

theorem mapM_entryAt : ∀ (es : List Entry) (before after : Bytes), (∀ e ∈ es, e.Fits) →
    (records before.length es).mapM (entryAt (before ++ (localRecords es ++ after))) = some es
  | [], _, _, _ => rfl
  | e :: es, before, after, hfits => by
    have hsplit : before ++ (localRecords (e :: es) ++ after) =
        before ++ (e.localRecord ++ (localRecords es ++ after)) := by
      rw [localRecords, List.flatMap_cons, List.append_assoc]
      rfl
    have hfirst := entryAt_append (hfits e List.mem_cons_self) before (localRecords es ++ after)
    have hrest := mapM_entryAt es (before ++ e.localRecord) after fun e' he' => hfits e' (List.mem_cons_of_mem e he')
    rw [List.length_append, List.append_assoc] at hrest
    rw [hsplit, records, List.mapM_cons, hfirst, hrest]
    rfl

/-! ## Archives -/

theorem length_endRecord (count size offset : Nat) : (endRecord count size offset).length = endLength := by
  simp only [endRecord, List.length_append, length_number]
  rfl

theorem takeNumber_zeros (rest : Bytes) : takeNumber 4 (number 2 0 ++ (number 2 0 ++ rest)) = some (0, rest) :=
  takeNumber_four (n := 0) (by decide) rest

theorem length_localRecord_le {e : Entry} : ∀ {es : List Entry}, e ∈ es →
    e.localRecord.length ≤ (localRecords es).length
  | e' :: es, he => by
    rw [localRecords, List.flatMap_cons, List.length_append]
    rcases List.mem_cons.1 he with rfl | he
    · exact Nat.le_add_right ..
    · exact Nat.le_trans (length_localRecord_le he) (Nat.le_add_left ..)

theorem length_content_le_length_data (e : Entry) : e.content.length ≤ e.data.length := by
  unfold Entry.data
  cases e.method with
  | stored => exact Nat.le_refl _
  | deflated => exact length_le_length_deflate e.content

/-- The size of the whole bounds the numbers of each entry. -/
theorem fits_of_length_lt {es : List Entry} (hnames : ∀ e ∈ es, e.nameFits = true)
    (hsize : (toBytes es).length < 2 ^ (32 : Nat)) : ∀ e ∈ es, e.Fits := by
  intro e he
  have hname : e.nameBytes.length ≤ Entry.maxNameLength := of_decide_eq_true (hnames e he)
  have hrecord := length_localRecord_le he
  have hdata : e.data.length ≤ e.localRecord.length := by
    rw [Entry.localRecord, List.length_append]
    exact Nat.le_add_left ..
  have hcontent := length_content_le_length_data e
  rw [toBytes, List.length_append, List.length_append] at hsize
  exact ⟨Nat.lt_of_le_of_lt hname (by decide), by omega, by omega⟩

/-- **An archive is read back** as the entries that it was made of. -/
theorem ofBytes_toBytes {es : List Entry} (hnames : ∀ e ∈ es, e.nameFits = true) (hcount : es.length < 2 ^ (16 : Nat))
    (hsize : (toBytes es).length < 2 ^ (32 : Nat)) : ofBytes (toBytes es) = some es := by
  have hfits := fits_of_length_lt hnames hsize
  have hlength : (toBytes es).length = (localRecords es).length + (directory 0 es).length + endLength := by
    rw [toBytes, List.length_append, List.length_append, length_endRecord]
  have hstart : (toBytes es).length - endLength = (localRecords es ++ directory 0 es).length := by
    rw [hlength, List.length_append, Nat.add_sub_cancel]
  have hend : (toBytes es).drop ((toBytes es).length - endLength) =
      endRecord es.length (directory 0 es).length (localRecords es).length := by
    rw [hstart]
    exact List.drop_left
  have hdirectory : ((toBytes es).drop (localRecords es).length).take (directory 0 es).length = directory 0 es := by
    rw [toBytes, List.append_assoc, List.drop_left, List.take_left]
  have hrecords := takeRecords_directory es 0 hfits (by omega)
  have hentries : (records 0 es).mapM (entryAt (toBytes es)) = some es := by
    have h := mapM_entryAt es [] (directory 0 es ++ endRecord es.length (directory 0 es).length (localRecords es).length)
      hfits
    rw [List.nil_append, ← List.append_assoc] at h
    exact h
  have hcounted : takeNumber 2 (number 2 0) = some (0, []) := rfl
  simp only [ofBytes, hend, endRecord, List.append_assoc, afterMark_append, takeNumber_zeros, takeNumber_two hcount,
    takeNumber_four (show (directory 0 es).length < 2 ^ (32 : Nat) by omega),
    takeNumber_four (show (localRecords es).length < 2 ^ (32 : Nat) by omega), hcounted, hdirectory, hrecords,
    Option.bind_eq_bind, Option.bind_some]
  rw [if_pos ⟨trivial, trivial, by rw [hstart, List.length_append]⟩]
  exact hentries

end Archive
end FlowBundle
