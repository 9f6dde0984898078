import FlowBundle.Builder.Basic
import FlowBundle.Chat.Command
import FlowBundle.Shelf.Command
/-!
# Commands on a builder

What can be asked of a builder, as data: the commands on its histories, and its own.
-/
namespace FlowBundle
namespace Builder

open Json (Value)

inductive Command where
  | chat (command : Chat.Command)
  | generate (payload : Value)
  | build (payload : Value)
  | publish (id : String) (payload : Value)
  | fetch (handle : String)
  | release (handle : String)
  | execute (payload input : Value) (session : Option String)
  | simulate (payload input : Value) (session : String)
  | clearHistory (session : Option String)

inductive Reply where
  | chat (reply : Chat.Reply)
  | generated (result : Except Bundle.Fault Stage)
  | built (result : Except Fault Built)
  | published (result : Except Fault Published) (count : Nat)
  | fetched (stored : Option Stored)
  | released (wasThere : Bool)
  | executed (result : Except Simulation.Fault Simulation.Outcome)
  | simulated (result : Except Simulation.Fault Simulation.Outcome)
  | cleared

/-- **One command.** -/
def run (b : Builder) : Command → Builder × Reply
  | .chat command =>
    let (histories, reply) := b.histories.run command
    ({ b with histories := histories }, .chat reply)
  | .generate payload => (b, .generated (b.generate payload))
  | .build payload => (b, .built (b.build payload))
  | .publish id payload =>
    let (b, result) := b.publish id payload
    (b, .published result b.shelf.size)
  | .fetch handle => (b, .fetched (b.shelf.get? handle))
  | .release handle =>
    let (shelf, wasThere) := b.shelf.release handle
    ({ b with shelf := shelf }, .released wasThere)
  | .execute payload input session =>
    let (b, result) := b.execute payload input session
    (b, .executed result)
  | .simulate payload input session =>
    let (b, result) := b.simulate payload input session
    (b, .simulated result)
  | .clearHistory session => (b.clearHistory session, .cleared)

def runAll (b : Builder) : List Command → Builder × List Reply
  | [] => (b, [])
  | c :: cs =>
    let first := b.run c
    let rest := runAll first.1 cs
    (rest.1, first.2 :: rest.2)

end Builder
end FlowBundle
