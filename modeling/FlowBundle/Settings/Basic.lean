import FlowBundle.Binary64.Basic
import FlowBundle.Shelf.Basic
/-!
# Settings

What a builder is made with.  The bounds are part of the type, so the stores of a builder can always
be made from its settings.
-/
namespace FlowBundle

structure Settings where
  delay : Binary64
  historyLimit : Nat
  maxArchives : Nat
  origins : List String
  logLevel : String
  filename : String
  delay_nonneg : delay.isNonneg = true
  delay_le : delay.isAtMost 30 = true
  two_le_historyLimit : 2 ≤ historyLimit
  one_le_maxArchives : 1 ≤ maxArchives

end FlowBundle
