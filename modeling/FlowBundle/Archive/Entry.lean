import FlowBundle.Archive.Checksum
import FlowBundle.Archive.Deflate
import FlowBundle.Bundle
/-!
# Entries of an archive

An entry is a file or a directory.  Its name ends before the first null character of the path it is
made for.  A directory has no content and is never deflated.
-/
namespace FlowBundle
namespace Archive

inductive Kind where
  | file
  | directory
  deriving DecidableEq, Repr

inductive Method where
  | stored
  | deflated
  deriving DecidableEq, Repr

structure Entry where
  name : String
  kind : Kind
  method : Method
  content : Bytes
  deriving DecidableEq

def Method.code : Method → Nat
  | .stored => 0
  | .deflated => 8

/-- Permissions, and for a directory the two marks that it is one. -/
def Kind.attributes : Kind → Nat
  | .file => 0o644 * 0x10000
  | .directory => 0o40755 * 0x10000 + 0x10

def nameOf (path : String) : String := String.ofList (path.toList.takeWhile (· != '\x00'))

namespace Entry

def ofDirectory (path : String) : Entry := ⟨nameOf path, .directory, .stored, []⟩

def ofFile (method : Method) (f : File) : Entry :=
  ⟨nameOf f.path, .file, method, Utf8.encode f.content⟩

def data (e : Entry) : Bytes :=
  match e.method with
  | .stored => e.content
  | .deflated => deflate e.content

def maxNameLength : Nat := 65535

def nameFits (e : Entry) : Bool := decide ((Utf8.encode e.name).length ≤ maxNameLength)

/-- Whether a listing takes the entry for a directory: by the end of its name, which an empty name
has not. -/
def listedAsDirectory? (e : Entry) : Option Bool := e.name.toList.getLast?.map (· == '/')

end Entry
end Archive
end FlowBundle
