import FlowBundle.Archive.Zip
/-!
# Reading an archive

The end record is the last 22 bytes.  It leads to the directory, each record of the directory leads
to a local header, and the data stand behind it.  The two headers of an entry must agree, with the
sizes that a local header gives in wider fields taken from there, and the content must have the size
and the checksum that they give.
-/
namespace FlowBundle
namespace Archive

def afterMark (mark bytes : Bytes) : Option Bytes :=
  if mark.isPrefixOf bytes then some (bytes.drop mark.length) else none

def takeBytes (count : Nat) (bytes : Bytes) : Option (Bytes × Bytes) :=
  if count ≤ bytes.length then some (bytes.take count, bytes.drop count) else none

structure Fields where
  version : Nat
  flags : Nat
  method : Nat
  time : Nat
  date : Nat
  checksum : Nat
  dataLength : Nat
  contentLength : Nat
  nameLength : Nat
  extraLength : Nat
  deriving DecidableEq, Repr

def takeFields (bytes : Bytes) : Option (Fields × Bytes) := do
  let (version, bytes) ← takeNumber 2 bytes
  let (flags, bytes) ← takeNumber 2 bytes
  let (method, bytes) ← takeNumber 2 bytes
  let (time, bytes) ← takeNumber 2 bytes
  let (date, bytes) ← takeNumber 2 bytes
  let (checksum, bytes) ← takeNumber 4 bytes
  let (dataLength, bytes) ← takeNumber 4 bytes
  let (contentLength, bytes) ← takeNumber 4 bytes
  let (nameLength, bytes) ← takeNumber 2 bytes
  let (extraLength, bytes) ← takeNumber 2 bytes
  return (⟨version, flags, method, time, date, checksum, dataLength, contentLength, nameLength, extraLength⟩, bytes)

/-- The wider fields for the sizes: that of the content, then that of the data. -/
def takeSizes (extra : Bytes) : Option (Nat × Nat) := do
  let (mark, bytes) ← takeNumber 2 extra
  let (length, bytes) ← takeNumber 2 bytes
  let (contentLength, bytes) ← takeNumber 8 bytes
  let (dataLength, bytes) ← takeNumber 8 bytes
  if mark = sizesMark ∧ length = 16 ∧ bytes = [] then some (contentLength, dataLength) else none

/-- **The fields of a local header with its sizes**, wherever they are given. -/
def Fields.withSizes? (f : Fields) (extra : Bytes) : Option Fields :=
  if f.contentLength = givenElsewhere ∧ f.dataLength = givenElsewhere then
    (takeSizes extra).map fun sizes => { f with contentLength := sizes.1, dataLength := sizes.2 }
  else some f

/-- Both headers say the same of an entry; what stands behind the name is a matter of each. -/
def Fields.agrees (f g : Fields) : Bool := decide ({ f with extraLength := g.extraLength } = g)

structure Record where
  fields : Fields
  attributes : Nat
  offset : Nat
  nameBytes : Bytes
  deriving DecidableEq, Repr

def takeRecord (bytes : Bytes) : Option (Record × Bytes) := do
  let bytes ← afterMark directorySignature bytes
  let (_, bytes) ← takeNumber 2 bytes
  let (fields, bytes) ← takeFields bytes
  let (commentLength, bytes) ← takeNumber 2 bytes
  let (_, bytes) ← takeNumber 2 bytes
  let (_, bytes) ← takeNumber 2 bytes
  let (attributes, bytes) ← takeNumber 4 bytes
  let (offset, bytes) ← takeNumber 4 bytes
  let (nameBytes, bytes) ← takeBytes fields.nameLength bytes
  let (_, bytes) ← takeBytes (fields.extraLength + commentLength) bytes
  return (⟨fields, attributes, offset, nameBytes⟩, bytes)

def takeRecords : Nat → Bytes → Option (List Record)
  | 0, [] => some []
  | 0, _ :: _ => none
  | count + 1, bytes => do
    let (record, bytes) ← takeRecord bytes
    let records ← takeRecords count bytes
    return record :: records

def Kind.ofAttributes (attributes : Nat) : Option Kind :=
  [Kind.file, Kind.directory].find? fun k => k.attributes = attributes

def Method.ofCode (code : Nat) : Option Method :=
  [Method.stored, Method.deflated].find? fun m => m.code = code

def nameOfBytes (flags : Nat) (bytes : Bytes) : Option String :=
  if flags = utf8Flag ∨ bytes.all (· < 0x80) then (Utf8.decode bytes).toOption else none

def expand (method : Method) (data : Bytes) : Option Bytes :=
  match method with
  | .stored => some data
  | .deflated => inflate data

def entryAt (archive : Bytes) (r : Record) : Option Entry := do
  let bytes ← afterMark localSignature (archive.drop r.offset)
  let (fields, bytes) ← takeFields bytes
  let (nameBytes, bytes) ← takeBytes fields.nameLength bytes
  let (extra, bytes) ← takeBytes fields.extraLength bytes
  let fields ← fields.withSizes? extra
  let (data, _) ← takeBytes fields.dataLength bytes
  let name ← nameOfBytes fields.flags nameBytes
  let kind ← Kind.ofAttributes r.attributes
  let method ← Method.ofCode fields.method
  let content ← expand method data
  if fields.agrees r.fields ∧ nameBytes = r.nameBytes ∧ content.length = fields.contentLength ∧
      (checksum content).toNat = fields.checksum then
    some ⟨name, kind, method, content⟩
  else none

def endLength : Nat := 22

/-- **The entries of an archive**, or nothing if the bytes are none. -/
def ofBytes (archive : Bytes) : Option (List Entry) := do
  let start := archive.length - endLength
  let bytes ← afterMark endSignature (archive.drop start)
  let (_, bytes) ← takeNumber 4 bytes
  let (count, bytes) ← takeNumber 2 bytes
  let (total, bytes) ← takeNumber 2 bytes
  let (size, bytes) ← takeNumber 4 bytes
  let (offset, bytes) ← takeNumber 4 bytes
  let (commentLength, _) ← takeNumber 2 bytes
  if count = total ∧ commentLength = 0 ∧ offset + size = start then
    let records ← takeRecords count ((archive.drop offset).take size)
    records.mapM (entryAt archive)
  else none

end Archive
end FlowBundle
