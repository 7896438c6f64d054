import WasmTree.Script.ScriptModule

/-!
The commands of a test script.
-/

namespace WasmTree

/-- What an action does with the export it names. -/
inductive ActionKind where
  | invoke (args : List Constant)
  | get
  deriving DecidableEq

/-- Without a reference an action is meant for the module defined last. -/
structure Action where
  loc : Location
  module : Option Var
  name : String
  kind : ActionKind
  deriving DecidableEq

def Action.args? (a : Action) : Option (List Constant) :=
  match a.kind with
  | .invoke args => some args
  | .get => none

/-- Assertions that a module is not accepted. -/
inductive Rejection where
  | malformed | invalid | invalidNonBinary | unlinkable | uninstantiable
  deriving DecidableEq

/-- Assertions that an action does not return. -/
inductive Failure where
  | trap | exhaustion
  deriving DecidableEq

inductive Nan where
  | canonical | arithmetic
  deriving DecidableEq

inductive CommandKind where
  | module
  | action
  | register
  | assertRejection (r : Rejection)
  | assertReturn
  | assertNan (n : Nan)
  | assertFailure (f : Failure)
  deriving DecidableEq

namespace CommandKind

def all : List CommandKind :=
  [module, action, register, assertRejection .malformed, assertRejection .invalid,
    assertRejection .invalidNonBinary, assertRejection .unlinkable, assertRejection .uninstantiable,
    assertReturn, assertNan .canonical, assertNan .arithmetic, assertFailure .trap,
    assertFailure .exhaustion]

def keyword : CommandKind → String
  | module => "module"
  | action => "action"
  | register => "register"
  | assertRejection .malformed => "assert_malformed"
  | assertRejection .invalid => "assert_invalid"
  | assertRejection .invalidNonBinary => "assert_invalid_non_binary"
  | assertRejection .unlinkable => "assert_unlinkable"
  | assertRejection .uninstantiable => "assert_uninstantiable"
  | assertReturn => "assert_return"
  | assertNan .canonical => "assert_return_canonical_nan"
  | assertNan .arithmetic => "assert_return_arithmetic_nan"
  | assertFailure .trap => "assert_trap"
  | assertFailure .exhaustion => "assert_exhaustion"

def ofKeyword? (s : String) : Option CommandKind := all.find? fun k => k.keyword == s

end CommandKind

inductive Command where
  | module (m : Module)
  | action (a : Action)
  | register (moduleName : String) (var : Option Var)
  | assertRejection (r : Rejection) (m : ScriptModule) (text : String)
  | assertReturn (a : Action) (expected : List Constant)
  | assertNan (n : Nan) (a : Action)
  | assertFailure (f : Failure) (a : Action) (text : String)

def Nan.matches (n : Nan) (l : Literal) : Bool :=
  match n with
  | canonical => l.isCanonicalNan
  | arithmetic => l.isArithmeticNan

namespace Command

def kind : Command → CommandKind
  | module _ => .module
  | action _ => .action
  | register .. => .register
  | assertRejection r .. => .assertRejection r
  | assertReturn .. => .assertReturn
  | assertNan n _ => .assertNan n
  | assertFailure f .. => .assertFailure f

/-- The module a command defines. -/
def module? : Command → Option Module
  | module m => some m
  | _ => none

def action? : Command → Option Action
  | action a | assertReturn a _ | assertNan _ a | assertFailure _ a _ => some a
  | _ => none

def scriptModule? : Command → Option ScriptModule
  | assertRejection _ m _ => some m
  | _ => none

/-- Whether results are as asserted. Expected results agree bit by bit, whatever their locations; a NaN
is asked of every result, and of one at least. -/
def checkReturn (c : Command) (actual : List Constant) : Option Bool :=
  match c with
  | assertReturn _ expected => some (expected.map Constant.value == actual.map Constant.value)
  | assertNan n _ => some (!actual.isEmpty && actual.all fun c => n.matches c.value)
  | _ => none

end Command

end WasmTree
