import WasmTree.Load
import WasmTree.Summary

/-!
The command line: reads one module and prints its summary. Everything but the access to files is
decided here.
-/

namespace WasmTree.CommandLine

structure Invocation where
  input : String
  output : Option String
  options : ReadOptions
  deriving DecidableEq

inductive Request where
  | run (i : Invocation)
  | help
  | version
  deriving DecidableEq

/-- The arguments met so far. -/
structure Given where
  input : Option String
  output : Option String
  noDebugNames : Bool
  noExceptions : Bool

namespace Given

def none : Given := ⟨.none, .none, false, false⟩

def invocation? (g : Given) : Option Invocation :=
  g.input.map fun input => ⟨input, g.output, ⟨!g.noDebugNames, !g.noExceptions⟩⟩

/-- An argument that is no option; there is place for one, and it is not empty. -/
def addInput (g : Given) (a : String) : Option Given :=
  if g.input.isSome || a.isEmpty then .none else some { g with input := some a }

def addOutput (g : Given) (a : String) : Option Given :=
  if g.output.isSome || a.isEmpty then .none else some { g with output := some a }

def addFlag (g : Given) (name : String) : Option Given :=
  if name = "--no-debug-names" && !g.noDebugNames then some { g with noDebugNames := true }
  else if name = "--no-exceptions" && !g.noExceptions then some { g with noExceptions := true }
  else .none

end Given

/-- How an argument reads before it is known whether it is allowed. -/
inductive Argument where
  | input (a : String)
  | separator
  | output (value : Option String)
  | flag (name : String)
  | help
  | version
  deriving DecidableEq

def looksLikeOption (a : String) : Bool :=
  match a.toList with
  | '-' :: _ :: _ => true
  | _ => false

/-- The value of an option may follow its name directly or in the next argument. -/
def Argument.ofString (a : String) : Argument :=
  match a.toList with
  | '-' :: '-' :: rest =>
    if rest.isEmpty then .separator
    else if a = "--help" then .help
    else if a = "--version" then .version
    else if a = "--output" then .output none
    else if "--output=".toList.isPrefixOf a.toList then .output (some (String.ofList (a.toList.drop 9)))
    else .flag a
  | ['-'] => .input a
  | '-' :: 'h' :: _ => .help
  | '-' :: 'V' :: _ => .version
  | ['-', 'o'] => .output none
  | '-' :: 'o' :: '=' :: value | '-' :: 'o' :: value => .output (some (String.ofList value))
  | '-' :: _ => .flag a
  | _ => .input a

/-- Reads the arguments from left to right; nothing comes back from a usage error. -/
def parse? (g : Given) (args : List String) : Option Request :=
  match args with
  | [] => g.invocation?.map .run
  | a :: rest =>
    match Argument.ofString a with
    | .input a => (g.addInput a).bind fun g => parse? g rest
    | .separator => ((rest.foldlM Given.addInput g).bind Given.invocation?).map .run
    | .output (some value) => (g.addOutput value).bind fun g => parse? g rest
    | .output none =>
      match rest with
      | value :: rest => if looksLikeOption value then none else (g.addOutput value).bind fun g => parse? g rest
      | [] => none
    | .flag name => (g.addFlag name).bind fun g => parse? g rest
    | .help => some .help
    | .version => some .version

/-- What a run leaves behind: its exit code, what it printed, the lines it logged, and the file it wrote. -/
structure Outcome where
  exitCode : Nat
  stdout : String
  stderr : List String
  written : Option (String × String)
  deriving DecidableEq

/-- The lines of an error and of what caused it, outermost first. -/
def report (links : List String) : List String :=
  match links with
  | [] => []
  | e :: causes => lines "Error: " "" e ++ (if causes.isEmpty then [] else ["", "Caused by:"] ++ causeLines causes)
where
  lines (first others : String) (text : String) : List String :=
    match text.splitOn "\n" with
    | [] => []
    | l :: ls => (first ++ l) :: ls.map (others ++ ·)
  causeLines (causes : List String) : List String :=
    match causes with
    | [cause] => lines "    " "    " cause
    | _ => (causes.mapIdx fun i c => lines ("    " ++ toString i ++ ": ") "       " c).flatten

/-- The lines of a message. More than one come from a path that has line breaks. -/
def logLines (text : String) : List String := ("wasir: " ++ text).splitOn "\n"

def failed (logged links : List String) : Outcome := ⟨1, "", logged ++ report links, none⟩

/-- The outcome, given what reading the input gave and how writing the output will go. -/
def Invocation.outcome (i : Invocation) (input : Except String (List UInt8)) (written : Except String Unit) :
    Outcome :=
  let reading := logLines ("reading " ++ i.input)
  match input with
  | .error e => failed reading ["failed to read " ++ i.input, e]
  | .ok bytes =>
    match readModule i.options bytes with
    | .error e => failed reading (("failed to decode " ++ i.input) :: e.links)
    | .ok m =>
      let fields := logLines (toString m.fields.size ++ " fields")
      match i.output, written with
      | none, _ => ⟨0, m.summary, reading ++ fields, none⟩
      | some path, .error e => failed reading ["failed to write " ++ path, e]
      | some path, .ok () =>
        ⟨0, "", reading ++ logLines ("wrote " ++ path) ++ fields, some (path, m.summary)⟩

def usage : String := "Usage: wasir [OPTIONS] <INPUT>"

def usageOutcome : Outcome :=
  ⟨2, "", ["error: invalid arguments", "", usage, "", "For more information, try '--help'."], none⟩

def version : String := "wasir 0.1.0\n"

def help : String := "\n".intercalate
  ["In-memory IR for WebAssembly modules and the test-script model built on it", "", usage, "", "Arguments:",
    "  <INPUT>  Input module (.wasm binary or .wat text)", "", "Options:",
    "  -o, --output <OUTPUT>  Write the summary here instead of stdout",
    "      --no-debug-names   Ignore the `name` custom section",
    "      --no-exceptions    Reject exception-handling instructions and tags",
    "  -h, --help             Print help",
    "  -V, --version          Print version", ""]

/-- The outcome of a run, given how files are read and whether they can be written. -/
def run (args : List String) (read : String → Except String (List UInt8)) (write : String → Except String Unit) :
    Outcome :=
  match parse? .none args with
  | none => usageOutcome
  | some .help => ⟨0, help, [], none⟩
  | some .version => ⟨0, version, [], none⟩
  | some (.run i) => i.outcome (read i.input) (i.output.elim (.ok ()) write)

end WasmTree.CommandLine
