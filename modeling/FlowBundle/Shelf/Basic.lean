import FlowBundle.Limit
import FlowBundle.Table
import FlowBundle.Text.Utf8
/-!
# The shelf of archives

Archives that wait to be fetched.  Each one has an id, and a handle that is the id behind a fixed
path; both lead to it.  The shelf holds at most `capacity` archives: a new one goes to the end, and
the oldest ones, at the front, give way.
-/
namespace FlowBundle

structure Stored where
  filename : String
  content : Bytes
  deriving DecidableEq

def defaultFilename : String := "ai-workflow-backend.zip"

structure Shelf where
  capacity : Nat
  one_le_capacity : 1 ≤ capacity := by omega
  filename : String := defaultFilename
  archives : List (String × Stored) := []

namespace Shelf

def ofCapacity (capacity : Int) (filename : String) : Except TooSmall Shelf :=
  (TooSmall.check "max_archives" 1 capacity).map fun n =>
    { capacity := n.1, one_le_capacity := n.2, filename := filename }

def handlePath : String := "/api/archives/"

def handleOf (id : String) : String := handlePath ++ id

/-- **The id that a handle names**; what is no handle is taken for an id. -/
def idOfHandle (handle : String) : String :=
  if handlePath.toList.isPrefixOf handle.toList then
    String.ofList (handle.toList.drop handlePath.toList.length)
  else handle

theorem idOfHandle_handleOf (id : String) : idOfHandle (handleOf id) = id := by
  simp [idOfHandle, handleOf, String.toList_append]

def size (s : Shelf) : Nat := s.archives.length

/-- A name that is given and not empty, else the shelf's own. -/
def filenameOr (s : Shelf) : Option String → String
  | some name => if name = "" then s.filename else name
  | none => s.filename

def newest (s : Shelf) (archives : List (String × Stored)) : List (String × Stored) :=
  archives.drop (archives.length - s.capacity)

/-- **An archive is put on the shelf.** -/
def register (s : Shelf) (id : String) (content : Bytes) (filename : Option String) : Shelf × Stored :=
  let stored : Stored := ⟨s.filenameOr filename, content⟩
  ({ s with archives := s.newest (Table.put id stored s.archives) }, stored)

def get? (s : Shelf) (handle : String) : Option Stored := List.lookup (idOfHandle handle) s.archives

def release (s : Shelf) (handle : String) : Shelf × Bool :=
  ({ s with archives := Table.erase (idOfHandle handle) s.archives }, (s.get? handle).isSome)

end Shelf
end FlowBundle
