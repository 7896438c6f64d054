/-!
Bounds on the size of a table or memory.
-/

namespace WasmTree

structure Limits where
  initial : UInt64
  max : Option UInt64
  shared : Bool
  deriving DecidableEq

namespace Limits

def display (l : Limits) : String :=
  toString l.initial ++ (l.max.elim "" fun m => " " ++ toString m) ++ bif l.shared then " shared" else ""

end Limits

end WasmTree
