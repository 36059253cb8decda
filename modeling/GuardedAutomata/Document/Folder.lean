import GuardedAutomata.Definition.Builder
import GuardedAutomata.Document.Json
import GuardedAutomata.Document.Path
import GuardedAutomata.Document.Yaml.Unfolding
import GuardedAutomata.Text.Lowercase

/-!
# Definitions in files

A folder holds files under their names. A definition is read from a JSON or YAML file, which its suffix
tells apart; the root of the document must be a dictionary.
-/

set_option autoImplicit false

namespace GuardedAutomata

inductive Entry where
  | file (bytes : List Nat)
  | folder

structure Folder where
  entries : List (String × Entry)

inductive Format where
  | json
  | yaml
  deriving DecidableEq, Repr

namespace Format

def ofSuffix? (suffix : String) : Option Format :=
  match suffix with
  | ".json" => some json
  | ".yaml" => some yaml
  | ".yml" => some yaml
  | _ => none

def pieceSize : Nat := 8192

def text (format : Format) (bytes : List Nat) : Except Failure (List Char) :=
  let decoded :=
    match format with
    | json => Utf8.decode bytes
    | yaml => Utf8.decodePieces pieceSize (bytes.length + 1) [] bytes
  match decoded with
  | .ok cs => .ok (Text.unifyLines cs)
  | .error cause => .error (.undecodable cause)

def parse (format : Format) (path : String) (cs : List Char) : Except Failure Value :=
  let parsed :=
    match format with
    | json => Json.parse cs
    | yaml => Yaml.parse cs
  match parsed with
  | .ok v => .ok v
  | .error .malformed => .error (.unparsable path)
  | .error (.fault cause) => .error (.fault cause)
  | .error .halfPair => .error .unpaired

end Format

inductive Place where
  | folder (steps : List (List Char))
  | outside
  | file (path : List Char) (bytes : List Nat)
  | vacant (path : List Char)

namespace Folder

def find? (folder : Folder) (path : List Char) : Option Entry :=
  match folder.entries.find? fun e => Path.plain e.1.toList == path with
  | some e => some e.2
  | none =>
    if folder.entries.any fun e => (path ++ ['/']).isPrefixOf (Path.plain e.1.toList) then
      some .folder
    else none

def enter (folder : Folder) (steps : List (List Char)) (name : List Char) : Place :=
  let path := Text.join '/' (steps ++ [name])
  match folder.find? path with
  | some .folder => .folder (steps ++ [name])
  | some (.file bytes) => .file path bytes
  | none => .vacant path

def step (folder : Folder) (place : Place) (name : List Char) : Except Obstacle Place :=
  match place with
  | .file _ _ => .error .notFolder
  | .vacant _ => .error .folderMissing
  | .outside =>
    if Path.stays name || Path.climbs name then .ok .outside
    else if Path.isLongName name then .error .nameTooLong
    else .ok (.vacant name)
  | .folder steps =>
    if Path.stays name then .ok place
    else if Path.climbs name then .ok (if steps.isEmpty then .outside else .folder steps.dropLast)
    else if Path.isLongName name then .error .nameTooLong
    else .ok (folder.enter steps name)

def follow (folder : Folder) (place : Place) : List (List Char) → Except Obstacle Place
  | [] => .ok place
  | name :: rest =>
    match folder.step place name with
    | .ok next => folder.follow next rest
    | .error o => .error o

def locate (folder : Folder) (path : List Char) : Except Obstacle Place :=
  if Path.isLong path then .error .nameTooLong
  else folder.follow (if (Path.root path).isEmpty then .folder [] else .outside) (Text.splitAt '/' path)

def has (folder : Folder) (path : String) : Bool :=
  !path.isEmpty &&
    match folder.locate path.toList with
    | .ok (.vacant _) => false
    | .ok _ => true
    | .error _ => false

def checkWritable (folder : Folder) (path : String) : Except Failure String :=
  let shown := Path.plain path.toList
  match folder.locate shown with
  | .ok (.file own _) => .ok (String.ofList own)
  | .ok (.vacant own) => .ok (String.ofList own)
  | .ok _ => .error (.unopened (String.ofList shown) .isFolder)
  | .error o => .error (.unopened (String.ofList shown) o)

def readValue (folder : Folder) (name : String) : Except Failure Value :=
  let path := Path.plain name.toList
  let shown := String.ofList path
  match folder.locate path with
  | .error .nameTooLong => .error (.unopened shown .nameTooLong)
  | .error _ => .error (.fileMissing shown)
  | .ok (.vacant _) => .error (.fileMissing shown)
  | .ok (.file _ bytes) =>
    let suffix := Text.lower (String.ofList (Path.suffix path))
    match Format.ofSuffix? suffix with
    | none => .error (.unsupportedFormat suffix shown)
    | some format =>
      match format.text bytes with
      | .error f => .error f
      | .ok cs =>
        match format.parse shown cs with
        | .error f => .error f
        | .ok (.dict entries) => .ok (.dict entries)
        | .ok v => .error (.rootNotMapping shown v.typeName)
  | .ok _ => .error (.unopened shown .isFolder)

def readDefinition (folder : Folder) (environment : Option Environment) (name : String) :
    Except Failure Definition :=
  match folder.readValue name with
  | .error f => .error f
  | .ok v => Definition.load environment v

def loadAutomaton (folder : Folder) (environment : Option Environment) (name : String) :
    Except Failure Automaton :=
  match folder.readDefinition environment name with
  | .error f => .error f
  | .ok d => d.build .builtIn

end Folder

end GuardedAutomata
