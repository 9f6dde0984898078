import FlowBundle.Archive.Entry
/-!
# The bytes of an archive

First the entries, each a local header, its name and its data; then the directory, a record for each
entry with the place of its local header; then the end record, with the place of the directory.
Both headers of an entry share most of their fields.  All entries carry the same date, the first day
of 1980, so the same entries always make the same bytes.

The local header is written before the data are made.  If they might turn out too large for it, their
sizes stand in wider fields behind the name.  An archive beyond 2 GiB would have wider fields in its
directory and its end record too, and this is left out here.
-/
namespace FlowBundle
namespace Archive

def localSignature : Bytes := [0x50, 0x4B, 0x03, 0x04]

def directorySignature : Bytes := [0x50, 0x4B, 0x01, 0x02]

def endSignature : Bytes := [0x50, 0x4B, 0x05, 0x06]

/-- The largest size that a header is meant to give. -/
def sizeLimit : Nat := 0x7FFFFFFF

/-- What stands for a size that is given in a wider field. -/
def givenElsewhere : Nat := 0xFFFFFFFF

/-- What marks the wider fields for the sizes. -/
def sizesMark : Nat := 1

/-- The day in the high bits, then the month, then the year since 1980. -/
def firstDay : Nat := 1 * 32 + 1

def utf8Flag : Nat := 0x800

namespace Entry

def nameBytes (e : Entry) : Bytes := Utf8.encode e.name

def isAscii (e : Entry) : Bool := e.name.toList.all fun c => decide (c.toNat < 0x80)

def flags (e : Entry) : Nat := if e.isAscii then 0 else utf8Flag

/-- **Whether the data might be too large** for the local header, a twentieth larger than the content. -/
def isLarge (e : Entry) : Bool := decide (20 * sizeLimit < 21 * e.content.length)

def version (e : Entry) : Nat := if e.isLarge then 45 else 20

def sharedFields (e : Entry) (dataLength contentLength extraLength : Nat) : Bytes :=
  number 2 e.version ++ number 2 e.flags ++ number 2 e.method.code ++ number 2 0 ++ number 2 firstDay ++
    number 4 (checksum e.content).toNat ++ number 4 dataLength ++ number 4 contentLength ++
    number 2 e.nameBytes.length ++ number 2 extraLength

/-- The wider fields for the sizes. -/
def sizes (e : Entry) : Bytes := number 8 e.content.length ++ number 8 e.data.length

def extra (e : Entry) : Bytes :=
  if e.isLarge then number 2 sizesMark ++ number 2 e.sizes.length ++ e.sizes else []

def localFields (e : Entry) : Bytes :=
  if e.isLarge then e.sharedFields givenElsewhere givenElsewhere e.extra.length
  else e.sharedFields e.data.length e.content.length e.extra.length

def localRecord (e : Entry) : Bytes := localSignature ++ e.localFields ++ e.nameBytes ++ e.extra ++ e.data

/-- The system whose attributes an entry carries. -/
def system : UInt8 := 3

def directoryRecord (e : Entry) (offset : Nat) : Bytes :=
  directorySignature ++ [e.version.toUInt8, system] ++ e.sharedFields e.data.length e.content.length 0 ++
    number 2 0 ++ number 2 0 ++ number 2 0 ++ number 4 e.kind.attributes ++ number 4 offset ++ e.nameBytes

end Entry

def localRecords (es : List Entry) : Bytes := es.flatMap Entry.localRecord

/-- The directory, for entries whose local records begin at `offset`. -/
def directory (offset : Nat) : List Entry → Bytes
  | [] => []
  | e :: es => e.directoryRecord offset ++ directory (offset + e.localRecord.length) es

def endRecord (count size offset : Nat) : Bytes :=
  endSignature ++ number 2 0 ++ number 2 0 ++ number 2 count ++ number 2 count ++ number 4 size ++
    number 4 offset ++ number 2 0

/-- **The archive of some entries.** -/
def toBytes (es : List Entry) : Bytes :=
  let records := localRecords es
  let dir := directory 0 es
  records ++ dir ++ endRecord es.length dir.length records.length

end Archive
end FlowBundle
