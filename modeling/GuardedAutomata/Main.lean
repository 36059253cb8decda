import GuardedAutomata.CommandLine.Outcome

/-!
# The tool

Reads the files and variables that a command line may need, and prints and writes its outcome.
-/

set_option autoImplicit false

namespace GuardedAutomata.CommandLine

def readEntry (path : String) : IO (Option Entry) := do
  try
    let place ← IO.FS.realPath path
    if ← place.isDir then return some .folder
    else if ← place.pathExists then
      let bytes ← IO.FS.readBinFile place
      return some (.file (bytes.toList.map UInt8.toNat))
    else return none
  catch _ => return none

def withAncestors (path : String) : List String :=
  let cs := path.toList
  let steps := Path.steps cs
  (List.range (steps.length + 1)).map fun n =>
    String.ofList (Path.plain (Path.root cs ++ Text.join '/' (steps.take n)))

def readFolder (args : List String) : IO Folder := do
  let entries ← (args.flatMap withAncestors).filterMapM fun path => do
    return (← readEntry path).map fun e => (path, e)
  return ⟨entries⟩

def readSettings (folder : Folder) (args : List String) : IO (List (String × String)) := do
  let names := args.flatMap fun arg =>
    match folder.readValue arg with
    | .ok v => Environment.names v
    | .error _ => []
  ("COLUMNS" :: names ++ names.map (Environment.defaultLead ++ ·)).filterMapM fun name => do
    return (← IO.getEnv name).map fun value => (name, value)

def answer (args : List String) : IO UInt32 := do
  let folder ← readFolder args
  let settings ← readSettings folder args
  let o := @outcome Matcher.catalogue folder settings args
  if let some (path, text) := o.written then IO.FS.writeFile path text
  IO.eprint o.errors
  IO.print (String.ofList o.output)
  match o.ending with
  | .exit code => return code.toUInt32
  | .raised f => do
    IO.eprintln f.message
    return 1

end GuardedAutomata.CommandLine

def main (args : List String) : IO UInt32 :=
  GuardedAutomata.CommandLine.answer args
