import FlowBundle.Shelf.Basic
/-!
# Commands on the shelf

What can be asked of the shelf, as data.  A scope puts an archive on the shelf, holds the commands
that are given while it is open, and takes its archive off at the end, in the same way whether it is
left at its end or broken off.  Ids come from outside: who gives the commands sees to it that no id
comes twice.
-/
namespace FlowBundle
namespace Shelf

inductive Command where
  | register (id : String) (content : Bytes) (filename : Option String)
  | get (handle : String)
  | release (handle : String)
  | count
  | scoped (id : String) (content : Bytes) (filename : Option String) (inner : List Command) (brokenOff : Bool)

inductive Reply where
  | registered (id : String) (stored : Stored) (count : Nat)
  | found (id : String) (stored : Option Stored)
  | released (wasThere : Bool) (count : Nat)
  | count (n : Nat)
  | scoped (id : String) (stored : Stored) (inner : List Reply) (count : Nat)

mutual
/-- **One command.** -/
def run (s : Shelf) : Command → Shelf × Reply
  | .register id content filename =>
    let (s, stored) := s.register id content filename
    (s, .registered id stored s.size)
  | .get handle => (s, .found (idOfHandle handle) (s.get? handle))
  | .release handle =>
    let (s, wasThere) := s.release handle
    (s, .released wasThere s.size)
  | .count => (s, .count s.size)
  | .scoped id content filename inner _ =>
    let first := s.register id content filename
    let result := runAll first.1 inner
    let last := (result.1.release id).1
    (last, .scoped id first.2 result.2 last.size)

def runAll (s : Shelf) : List Command → Shelf × List Reply
  | [] => (s, [])
  | c :: cs =>
    let first := run s c
    let rest := runAll first.1 cs
    (rest.1, first.2 :: rest.2)
end

end Shelf
end FlowBundle
