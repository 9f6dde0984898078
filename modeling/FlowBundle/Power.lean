/-!
# Powers

The powers written in this library are those of the core library, whatever else is in scope.
-/
namespace FlowBundle

scoped instance (priority := high) natPow : Pow Nat Nat := instPowNat

scoped instance (priority := high) intPow : Pow Int Nat := instPowNat

end FlowBundle
