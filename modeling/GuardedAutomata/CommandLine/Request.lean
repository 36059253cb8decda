import GuardedAutomata.CommandLine.Similarity
import GuardedAutomata.Text.Quoted

/-!
# Requests on the command line

The arguments of a command line are options, which start with a dash, and positional arguments. Options
of a command may stand anywhere; those of the tool itself come before the name of the command. Whatever
cannot be read is reported with the usage of what it belongs to.
-/

set_option autoImplicit false

namespace GuardedAutomata.CommandLine

inductive Command where
  | validate
  | display
  | run
  | dot
  deriving DecidableEq, Repr

inductive DisplayFormat where
  | text
  | table
  | tree
  deriving DecidableEq, Repr

namespace DisplayFormat

def ofName? : String → Option DisplayFormat
  | "text" => some text
  | "table" => some table
  | "tree" => some tree
  | _ => none

end DisplayFormat

structure Switch where
  long : String
  short : Option Char
  takesValue : Bool
  deriving DecidableEq, Repr

namespace Switch

def verbose : Switch := ⟨"--verbose", some 'v', false⟩
def version : Switch := ⟨"--version", none, false⟩
def help : Switch := ⟨"--help", none, false⟩
def format : Switch := ⟨"--format", some 'f', true⟩
def split : Switch := ⟨"--split", none, false⟩
def output : Switch := ⟨"--output", some 'o', true⟩

end Switch

namespace Command

def ofName? : String → Option Command
  | "validate" => some validate
  | "show" => some display
  | "run" => some run
  | "dot" => some dot
  | _ => none

def name : Command → String
  | validate => "validate"
  | display => "show"
  | run => "run"
  | dot => "dot"

def all : List Command := [validate, display, run, dot]

def arguments : Command → List String
  | run => ["CONFIG_FILE", "INPUT_TEXT"]
  | _ => ["CONFIG_FILE"]

def switches : Command → List Switch
  | validate => [.verbose, .help]
  | display => [.format, .help]
  | run => [.split, .help]
  | dot => [.output, .help]

end Command

inductive Misuse where
  | unknownOption (option : String) (similar : List String)
  | valueMissing (option : String)
  | valueGiven (option : String)
  | unknownCommand (word : String)
  | nullInPath
  | commandMissing
  | argumentMissing (argument : String)
  | argumentsLeft (words : List String)
  | pathMissing (path : String)
  | unknownFormat (word : String)
  deriving DecidableEq, Repr

namespace Misuse

def message : Misuse → String
  | unknownOption option similar =>
    "No such option " ++ Text.quoted option ++ "." ++ meantText similar
  | valueMissing option => "Option " ++ Text.quoted option ++ " requires an argument."
  | valueGiven option => "Option " ++ Text.quoted option ++ " does not take a value."
  | unknownCommand word =>
    "No such command " ++ Text.quoted word ++ "." ++
      meantText (similarNames (Command.all.map Command.name) word)
  | nullInPath => "embedded null byte"
  | commandMissing => "Missing command."
  | argumentMissing argument => "Missing argument '" ++ argument ++ "'."
  | argumentsLeft words =>
    "Got unexpected extra argument" ++ (if words.length = 1 then "" else "s") ++ " (" ++
      " ".intercalate words ++ ")"
  | pathMissing path =>
    "Invalid value for 'CONFIG_FILE': Path " ++ Text.quoted path ++ " does not exist."
  | unknownFormat word =>
    "Invalid value for '--format' / '-f': " ++ Text.quoted word ++
      " is not one of 'text', 'table', 'tree'."

def showsUsage : Misuse → Bool
  | valueMissing _ => false
  | valueGiven _ => false
  | _ => true

end Misuse

def usage : Option Command → String
  | none => "Usage: nfakit [OPTIONS] COMMAND [ARGS]...\n"
  | some c =>
    "Usage: nfakit " ++ c.name ++ " [OPTIONS] " ++ " ".intercalate c.arguments ++ "\n"

def hint : Option Command → String
  | none => "Try 'nfakit --help' for help.\n"
  | some c => "Try 'nfakit " ++ c.name ++ " --help' for help.\n"

def misuseText (place : Option Command) (m : Misuse) : String :=
  (if m.showsUsage then usage place ++ hint place ++ "\n" else "") ++ "Error: " ++ m.message ++ "\n"

/-! ### Options and positional arguments -/

structure Given where
  options : List (Switch × String)
  words : List String

namespace Given

def has (g : Given) (s : Switch) : Bool :=
  g.options.any (·.1 == s)

def value? (g : Given) (s : Switch) : Option String :=
  g.options.reverse.lookup s

end Given

def shortOptions (switches : List Switch) :
    List Char → Except Misuse (List (Switch × String) × Option (Switch × String))
  | [] => .ok ([], none)
  | c :: rest =>
    let shown := String.ofList ['-', c]
    match switches.find? fun s => s.short == some c with
    | none => .error (.unknownOption shown [])
    | some s =>
      if s.takesValue then
        if rest.isEmpty then .ok ([], some (s, shown)) else .ok ([(s, String.ofList rest)], none)
      else
        match shortOptions switches rest with
        | .error m => .error m
        | .ok (more, open?) => .ok ((s, "") :: more, open?)

def optionOf (switches : List Switch) (arg : String) :
    Except Misuse (List (Switch × String) × Option (Switch × String)) :=
  let cs := arg.toList
  let long := String.ofList (cs.takeWhile (· != '='))
  match switches.find? fun s => s.long == long with
  | some s =>
    match cs.dropWhile (· != '=') with
    | [] => if s.takesValue then .ok ([], some (s, long)) else .ok ([(s, "")], none)
    | _ :: value =>
      if s.takesValue then .ok ([(s, String.ofList value)], none) else .error (.valueGiven long)
  | none =>
    if "--".isPrefixOf arg then
      .error (.unknownOption long (similarNames (switches.map Switch.long) long))
    else shortOptions switches (cs.drop 1)

def readArguments (switches : List Switch) (anywhere : Bool) : List String → Except Misuse Given
  | [] => .ok ⟨[], []⟩
  | arg :: rest =>
    if arg = "--" then .ok ⟨[], rest⟩
    else if "-".isPrefixOf arg && arg != "-" then
      match optionOf switches arg with
      | .error m => .error m
      | .ok (options, none) =>
        match readArguments switches anywhere rest with
        | .error m => .error m
        | .ok g => .ok { g with options := options ++ g.options }
      | .ok (options, some (s, shown)) =>
        match rest with
        | [] => .error (.valueMissing shown)
        | value :: rest =>
          match readArguments switches anywhere rest with
          | .error m => .error m
          | .ok g => .ok { g with options := options ++ (s, value) :: g.options }
    else if anywhere then
      match readArguments switches anywhere rest with
      | .error m => .error m
      | .ok g => .ok { g with words := arg :: g.words }
    else .ok ⟨[], arg :: rest⟩

/-! ### Requests -/

inductive Request where
  | version
  | help (place : Option Command)
  | validate (file : String) (details : Bool)
  | display (file : String) (format : DisplayFormat)
  | run (file text : String) (split : Bool)
  | dot (file : String) (output : Option String)
  deriving DecidableEq, Repr

def positional (fileExists : String → Bool) (c : Command) (words : List String) :
    Except Misuse (String × String) :=
  match words, c.arguments with
  | [], _ => .error (.argumentMissing "CONFIG_FILE")
  | file :: rest, arguments =>
    if file.contains '\x00' then .error .nullInPath
    else if !fileExists file then .error (.pathMissing file)
    else
      match rest, arguments with
      | [], [_] => .ok (file, "")
      | [], _ => .error (.argumentMissing "INPUT_TEXT")
      | text :: more, [_, _] => if more.isEmpty then .ok (file, text) else .error (.argumentsLeft more)
      | more, _ => .error (.argumentsLeft more)

def formatOf (g : Given) : Except Misuse DisplayFormat :=
  match g.value? .format with
  | none => .ok .text
  | some word =>
    match DisplayFormat.ofName? word with
    | some f => .ok f
    | none => .error (.unknownFormat word)

def outputOf (g : Given) : Except Misuse (Option String) :=
  match g.value? .output with
  | none => .ok none
  | some path =>
    if path.contains '\x00' then .error .nullInPath
    else .ok (if path.isEmpty then none else some path)

def commandRequest (fileExists : String → Bool) (c : Command) (g : Given) : Except Misuse Request :=
  if g.has .help then .ok (.help (some c))
  else
    match formatOf g with
    | .error m => .error m
    | .ok format =>
      match outputOf g with
      | .error m => .error m
      | .ok output =>
        match positional fileExists c g.words with
        | .error m => .error m
        | .ok (file, text) =>
          match c with
          | .validate => .ok (.validate file (g.has .verbose))
          | .display => .ok (.display file format)
          | .run => .ok (.run file text (g.has .split))
          | .dot => .ok (.dot file output)

structure Invocation where
  request : Request
  verbose : Bool
  deriving DecidableEq, Repr

def toolSwitches : List Switch := [.verbose, .version, .help]

def toolRequest? (g : Given) : Option Request :=
  match g.options.find? fun o => o.1 == Switch.version || o.1 == Switch.help with
  | some (s, _) => some (if s == Switch.version then .version else .help none)
  | none => none

def unknownWord (word : String) (rest : List String) : Except Misuse Request :=
  match readArguments toolSwitches false (word :: rest) with
  | .error m => .error m
  | .ok g =>
    match toolRequest? g with
    | some request => .ok request
    | none => .error (.unknownCommand word)

def wordsRequest (fileExists : String → Bool) :
    List String → Except (Option Command × Misuse) Request
  | [] => .error (none, .commandMissing)
  | word :: rest =>
    match Command.ofName? word with
    | none =>
      match unknownWord word rest with
      | .ok request => .ok request
      | .error m => .error (none, m)
    | some c =>
      match readArguments c.switches true rest with
      | .error m => .error (some c, m)
      | .ok g =>
        match commandRequest fileExists c g with
        | .error m => .error (some c, m)
        | .ok request => .ok request

def readInvocation (fileExists : String → Bool) (args : List String) :
    Except (Option Command × Misuse) Invocation :=
  match readArguments toolSwitches false args with
  | .error m => .error (none, m)
  | .ok g =>
    match toolRequest? g with
    | some request => .ok ⟨request, false⟩
    | none =>
      if args.isEmpty then .ok ⟨.help none, false⟩
      else
        match wordsRequest fileExists g.words with
        | .error e => .error e
        | .ok request => .ok ⟨request, g.has .verbose⟩

end GuardedAutomata.CommandLine
