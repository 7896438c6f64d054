import WasmTree.CommandLine

/-!
The program: access to files around the command line.
-/

namespace WasmTree.CommandLine

def readInput (path : String) : IO (Except String (List UInt8)) := do
  try
    return .ok (← IO.FS.readBinFile path).toList
  catch e => return .error (toString e)

def writeOutput (path text : String) : IO (Except String Unit) := do
  try
    IO.FS.writeFile path text
    return .ok ()
  catch e => return .error (toString e)

def print (o : Outcome) : IO UInt32 := do
  for line in o.stderr do
    IO.eprintln line
  IO.print o.stdout
  return o.exitCode.toUInt32

/-- Writes the file that a run is to leave behind, and takes the outcome anew if that fails. -/
def runWithFiles (args : List String) : IO UInt32 := do
  let input ← match parse? .none args with
    | some (.run i) => readInput i.input
    | _ => pure (.error "")
  let outcome (written : Except String Unit) : Outcome := run args (fun _ => input) (fun _ => written)
  let o := outcome (.ok ())
  match o.written with
  | none => print o
  | some (path, text) => print (outcome (← writeOutput path text))

end WasmTree.CommandLine

def main (args : List String) : IO UInt32 := WasmTree.CommandLine.runWithFiles args
