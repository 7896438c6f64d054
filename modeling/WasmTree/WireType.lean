import WasmTree.Outline
import WasmTree.ValueType

/-!
The types a binary can mention. Only the number types have a place in a module; the others can be
read and named in a message.
-/

namespace WasmTree

inductive HeapKind where
  | func | external | any | none | noExtern | noFunc | eq | struct | array | i31 | exn | noExn | cont
  | noCont
  deriving DecidableEq

namespace HeapKind

/-- The name of the kind in a reference type that may be null. -/
def nullableText : HeapKind → String
  | func => "funcref"
  | external => "externref"
  | any => "anyref"
  | none => "nullref"
  | noExtern => "nullexternref"
  | noFunc => "nullfuncref"
  | eq => "eqref"
  | struct => "structref"
  | array => "arrayref"
  | i31 => "i31ref"
  | exn => "exnref"
  | noExn => "nullexnref"
  | cont => "contref"
  | noCont => "nullcontref"

def text : HeapKind → String
  | func => "func"
  | external => "extern"
  | any => "any"
  | none => "none"
  | noExtern => "noextern"
  | noFunc => "nofunc"
  | eq => "eq"
  | struct => "struct"
  | array => "array"
  | i31 => "i31"
  | exn => "exn"
  | noExn => "noexn"
  | cont => "cont"
  | noCont => "nocont"

def outline : HeapKind → String
  | func => "Func"
  | external => "Extern"
  | any => "Any"
  | none => "None"
  | noExtern => "NoExtern"
  | noFunc => "NoFunc"
  | eq => "Eq"
  | struct => "Struct"
  | array => "Array"
  | i31 => "I31"
  | exn => "Exn"
  | noExn => "NoExn"
  | cont => "Cont"
  | noCont => "NoCont"

end HeapKind

inductive HeapType where
  | concrete (index : Nat)
  | abstract (shared : Bool) (kind : HeapKind)
  deriving DecidableEq

open Outline in
def HeapType.outline : HeapType → String
  | concrete index => wrap "Concrete" (wrap "Module" (toString index))
  | abstract shared kind => record "Abstract" [("shared", toString shared), ("ty", kind.outline)]

structure RefType where
  nullable : Bool
  heap : HeapType
  deriving DecidableEq

def RefType.text (r : RefType) : String :=
  match r.nullable, r.heap with
  | true, .abstract false k => k.nullableText
  | true, .abstract true k => "(shared " ++ k.nullableText ++ ")"
  | false, .abstract false k => "(ref " ++ k.text ++ ")"
  | false, .abstract true k => "(ref (shared " ++ k.text ++ "))"
  | true, .concrete i => "(ref null (module " ++ toString i ++ "))"
  | false, .concrete i => "(ref (module " ++ toString i ++ "))"

inductive WireType where
  | number (t : ValueType)
  | v128
  | ref (r : RefType)
  deriving DecidableEq

namespace WireType

def number? : WireType → Option ValueType
  | number t => some t
  | _ => none

def outline : WireType → String
  | number t => t.outline
  | v128 => "V128"
  | ref r => Outline.wrap "Ref" r.text

end WireType

end WasmTree
