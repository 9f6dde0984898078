import FlowBundle.Text.Split
/-!
# Paths in an archive

A path is cut into components at its slashes.  It is safe to extract if every component is a name:
no component is empty, stands for the directory itself or for the one above it.  So a safe path is
relative, and names a file.
-/
namespace FlowBundle
namespace Archive

def components (path : String) : List (List Char) := Text.split '/' path.toList

def isName (component : List Char) : Bool :=
  !component.isEmpty && component != ['.'] && component != ['.', '.']

/-- **A path that an archive takes.** -/
def isSafe (path : String) : Bool := (components path).all isName

def directoryPath (parts : List (List Char)) : String := String.ofList (parts.flatMap (· ++ ['/']))

/-- **The directories above a path**, outermost first. -/
def parentDirectories (path : String) : List String :=
  let parts := (components path).dropLast
  (List.range parts.length).map fun i => directoryPath (parts.take (i + 1))

end Archive
end FlowBundle
