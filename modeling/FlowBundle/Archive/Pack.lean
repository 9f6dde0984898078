import FlowBundle.Archive.Entry
import FlowBundle.Archive.Path
/-!
# Packing files

Files are packed in the order given.  Before a file come the directories above it that are not there
yet, outermost first.  A path that is not safe, or that an earlier file has, ends the packing; so
does a name that no record has room for.
-/
namespace FlowBundle
namespace Archive

inductive PackFault where
  | unsafePath (path : String)
  | duplicatePath (path : String)
  | nameTooLong
  deriving DecidableEq, Repr

def PackFault.message : PackFault → String
  | .unsafePath path => "Invalid archive path: " ++ Text.quoted path
  | .duplicatePath path => "Duplicate archive path: " ++ path
  | .nameTooLong => "ushort format requires 0 <= number <= " ++ toString Entry.maxNameLength

def newDirectories (made : List String) (path : String) : List String :=
  (parentDirectories path).filter fun d => !made.contains d

def entriesOf (method : Method) (directories : List String) (f : File) : List Entry :=
  directories.map Entry.ofDirectory ++ [Entry.ofFile method f]

/-- The entries of some files, after the directories made and the files packed before. -/
def entriesAfter (method : Method) (made packed : List String) : List File → Except PackFault (List Entry)
  | [] => .ok []
  | f :: fs =>
    if isSafe f.path = false then .error (.unsafePath f.path)
    else if packed.contains f.path then .error (.duplicatePath f.path)
    else
      let directories := newDirectories made f.path
      let entries := entriesOf method directories f
      if entries.all Entry.nameFits then
        (entriesAfter method (made ++ directories) (f.path :: packed) fs).map (entries ++ ·)
      else .error .nameTooLong

/-- **The entries that some files are packed as.** -/
def pack (method : Method) (files : List File) : Except PackFault (List Entry) :=
  entriesAfter method [] [] files

end Archive
end FlowBundle
