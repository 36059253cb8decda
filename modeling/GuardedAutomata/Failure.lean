import GuardedAutomata.Definition.Issue
import GuardedAutomata.Text.Utf8
import GuardedAutomata.Value.Fault

/-!
# Failures

Every way in which an operation on automata, stores, definitions or files can fail, as its cause. The
wording of a cause is `Failure.message`, the structured details are `Failure.context`, and
`Failure.family?` says to which family of the library's own errors it belongs; faults of values and of
the file system belong to none.
-/

set_option autoImplicit false

namespace GuardedAutomata

inductive Family where
  | general
  | validation
  | configuration
  | notFound
  | unknownState
  | operation
  | composition
  | serialization
  deriving DecidableEq, Repr

namespace Family

def parent? : Family → Option Family
  | general => none
  | validation => some general
  | configuration => some general
  | notFound => some general
  | unknownState => some notFound
  | operation => some general
  | composition => some operation
  | serialization => some general

def lineage (f : Family) : List Family :=
  match f.parent? with
  | none => [f]
  | some p =>
    match p.parent? with
    | none => [f, p]
    | some g => [f, p, g]

end Family

inductive Obstacle where
  | folderMissing
  | notFolder
  | isFolder
  | nameTooLong
  deriving DecidableEq, Repr

namespace Obstacle

def message : Obstacle → String
  | folderMissing => "[Errno 2] No such file or directory"
  | notFolder => "[Errno 20] Not a directory"
  | isFolder => "[Errno 21] Is a directory"
  | nameTooLong => "[Errno 36] File name too long"

end Obstacle

inductive Failure where
  | fault (cause : Fault)
  | unknownState (id : Int) (count : Nat)
  | emptyGuard
  | epsilonInput
  | selfComposition (name : Value) (count : Nat)
  | factoriesDiffer (name other : Value) (factory otherFactory : String)
  | noKind (factory : String)
  | notCallable (type : String)
  | unreadableCallable (raw : Value)
  | unwritableCallable (text : String)
  | badRange (raw : Value)
  | badBounds (cause : Fault) (raw : Value)
  | keyTaken (key registry : String)
  | unknownKind (key registry : String) (available : List String)
  | variableUnset (name lead : String)
  | variableRequired (name text : String)
  | invalidDefinition (issues : List Issue)
  | invalidGuard (source target : Nat) (automaton : String) (guard : Value) (cause : Failure)
  | fragmentStore (fragment : Option String) (store parent : String)
  | fileMissing (path : String)
  | unparsable (path : String)
  | unsupportedFormat (suffix path : String)
  | rootNotMapping (path type : String)
  | undecodable (cause : Undecodable)
  | unopened (path : String) (obstacle : Obstacle)
  | nullInPath
  | unpaired
  | unmatchedTag (tag : String) (position : Nat)
  | nothingToClose (position : Nat)
  | badHandler (part whole problem : String)

namespace Failure

def unknownStateText (id count : String) : String :=
  "Unknown state #" ++ id ++ " (automaton has " ++ count ++ " states)"

def issueCount (n : Nat) : String :=
  toString n ++ (if n = 1 then " validation error for " else " validation errors for ")

def byteRange (bytes : List Nat) (position : Nat) : String :=
  match bytes with
  | [b] => "byte 0x" ++ String.ofList (Text.hex 2 b) ++ " in position " ++ toString position
  | _ =>
    "bytes in position " ++ toString position ++ "-" ++ toString (position + bytes.length - 1)

def message : Failure → String
  | fault cause => cause.message
  | unknownState id count => unknownStateText (toString id) (toString count)
  | emptyGuard => "Guard cannot be None; use EPSILON for epsilon transitions"
  | epsilonInput => "EPSILON is not an input value"
  | selfComposition _ _ => "Cannot compose an automaton with itself"
  | factoriesDiffer name other factory otherFactory =>
    "Cannot compose " ++ other.literal ++ " into " ++ name.literal ++ ": store factories differ (" ++
      otherFactory ++ " vs " ++ factory ++ ")"
  | noKind _ => "Transition store factory has no kind"
  | notCallable type => "Predicate must be callable, got " ++ type
  | unreadableCallable _ => "Callable predicates cannot be read from configuration"
  | unwritableCallable _ => "Callable predicates cannot be dumped"
  | badRange raw => "Invalid range predicate: " ++ raw.literal
  | badBounds cause _ => cause.message
  | keyTaken key registry => "Store kind '" ++ key ++ "' already registered in " ++ registry
  | unknownKind key _ _ => "Unknown store kind: " ++ key
  | variableUnset name _ => "Environment variable not found: " ++ name
  | variableRequired _ text => "Required environment variable: " ++ text
  | invalidDefinition issues =>
    "Invalid automaton definition: " ++ issueCount issues.length ++ RecordKind.automaton.name
  | invalidGuard source target automaton _ cause =>
    "Invalid guard on transition " ++ arrow source target ++ " of " ++ Text.quoted automaton ++ ": " ++
      cause.message
  | fragmentStore fragment store parent =>
    "Fragment " ++ fragmentLabel fragment ++ " uses store " ++ Text.quoted store ++ ", parent uses " ++
      Text.quoted parent
  | fileMissing path => "Configuration file not found: " ++ path
  | unparsable path => "Cannot parse " ++ path
  | unsupportedFormat suffix _ => "Unsupported file format: " ++ suffix
  | rootNotMapping path _ => "Configuration root must be a mapping: " ++ path
  | undecodable cause =>
    "'utf-8' codec can't decode " ++ byteRange cause.bytes cause.position ++ ": " ++ cause.problem.message
  | unopened path obstacle => obstacle.message ++ ": " ++ Text.quoted path
  | nullInPath => "embedded null byte"
  | unpaired => "'utf-8' codec can't encode character: surrogates not allowed"
  | nothingToClose position =>
    "closing tag '[/]' at position " ++ toString position ++ " has nothing to close"
  | unmatchedTag tag position =>
    "closing tag '" ++ tag ++ "' at position " ++ toString position ++ " doesn't match any open tag"
  | badHandler part whole problem =>
    "error parsing " ++ Text.quoted part ++ " in " ++ Text.quoted whole ++ "; " ++ problem

def family? : Failure → Option Family
  | fault _ => none
  | unknownState _ _ => some .unknownState
  | emptyGuard => some .validation
  | epsilonInput => some .validation
  | selfComposition _ _ => some .composition
  | factoriesDiffer _ _ _ _ => some .composition
  | noKind _ => some .serialization
  | notCallable _ => some .validation
  | unreadableCallable _ => some .configuration
  | unwritableCallable _ => some .serialization
  | badRange _ => some .validation
  | badBounds _ _ => some .validation
  | keyTaken _ _ => some .operation
  | unknownKind _ _ _ => some .configuration
  | variableUnset _ _ => some .configuration
  | variableRequired _ _ => some .configuration
  | invalidDefinition _ => some .configuration
  | invalidGuard _ _ _ _ _ => some .configuration
  | fragmentStore _ _ _ => some .configuration
  | fileMissing _ => some .configuration
  | unparsable _ => some .configuration
  | unsupportedFormat _ _ => some .configuration
  | rootNotMapping _ _ => some .configuration
  | undecodable _ => none
  | unopened _ _ => none
  | nullInPath => none
  | unpaired => none
  | unmatchedTag _ _ => none
  | nothingToClose _ => none
  | badHandler _ _ _ => none

def context : Failure → List (String × Value)
  | unknownState id count => [("state_id", .int id), ("num_states", .int count)]
  | epsilonInput => [("value", .epsilon)]
  | selfComposition name count => [("name", name), ("num_states", .int count)]
  | factoriesDiffer name other factory otherFactory =>
    [("name", name), ("other", other), ("factory", .str factory), ("other_factory", .str otherFactory)]
  | noKind factory => [("factory", .str factory)]
  | notCallable _ => [("store", .str "callable")]
  | unreadableCallable raw => [("store", .str "callable"), ("predicate", raw)]
  | unwritableCallable text => [("store", .str "callable"), ("predicate", .str text)]
  | badRange raw =>
    [("predicate", raw), ("accepted", .list [.str "a", .str "a-z", .list [.str "a", .str "z"]])]
  | badBounds _ raw => [("predicate", raw)]
  | keyTaken key registry => [("key", .str key), ("registry", .str registry)]
  | unknownKind key registry available =>
    [("key", .str key), ("registry", .str registry), ("available_keys", .list (available.map .str))]
  | variableUnset name lead => [("variable", .str name), ("prefix", .str lead)]
  | variableRequired name _ => [("variable", .str name)]
  | invalidDefinition issues => [("errors", .list (issues.map Issue.value))]
  | invalidGuard _ _ automaton guard _ => [("automaton", .str automaton), ("guard", guard)]
  | fragmentStore fragment store _ =>
    [("fragment", (fragment.map Value.str).getD .null), ("store", .str store)]
  | fileMissing path => [("path", .str path)]
  | unparsable path => [("path", .str path)]
  | unsupportedFormat _ path =>
    [("path", .str path), ("supported", .list [.str ".json", .str ".yaml", .str ".yml"])]
  | rootNotMapping path type => [("path", .str path), ("type", .str type)]
  | _ => []

end Failure

structure Report where
  family : Family
  message : String
  context : Value

def Report.make (family : Family) (message : String) (context details : Value) : Report :=
  ⟨family, message,
    if details.truthy then details else if context.truthy then context else .dict []⟩

def Report.unknownState (id count : Value) : Report :=
  ⟨.unknownState, Failure.unknownStateText id.text count.text,
    .dict [(.str "state_id", id), (.str "num_states", count)]⟩

end GuardedAutomata
