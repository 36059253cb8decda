import GuardedAutomata.Automaton.Dot
import GuardedAutomata.CommandLine.Journal
import GuardedAutomata.CommandLine.Request
import GuardedAutomata.CommandLine.View
import GuardedAutomata.Document.Folder
import GuardedAutomata.Terminal.ControlSequence

/-!
# Outcomes of command lines

What a command line prints, which file it writes, and how it ends. Lines are wrapped at the columns that a variable
tells, or at eighty. A definition that cannot be loaded is reported as a message; a failure that is none of the
library's own ends the command, as does markup whose tags do not match and a marker or guard that cannot be written.
What is not laid out in lines is printed without control sequences.
-/

set_option autoImplicit false

namespace GuardedAutomata.CommandLine

open Terminal

inductive Ending where
  | exit (code : Nat)
  | raised (failure : Failure)

structure Outcome where
  ending : Ending
  output : List Char
  errors : String
  written : Option (String × String)

def columns (environment : Environment) : Nat :=
  match environment.settings.lookup "COLUMNS" with
  | none => 80
  | some text =>
    let digits := Text.plainDigits text.toList
    if digits.all Char.isDigit && Decimal.digitsValue digits != 0 then Decimal.digitsValue digits else 80

def unlines (lines : List (List Char)) : List Char :=
  lines.flatMap (· ++ ['\n'])

def laidOut (most : Nat) (text : List Char) : List Char :=
  unlines (wrap most .fold text)

def printed (most : Nat) (markup : List Char) : Except Failure (List Char) :=
  match Markup.plain markup with
  | .ok shown => .ok (laidOut most shown)
  | .error f => .error f

def printAll (most : Nat) (written : Option (String × String)) (ending : Ending) :
    List Char → List (List Char) → Outcome
  | output, [] => ⟨ending, output, "", written⟩
  | output, markup :: rest =>
    match printed most markup with
    | .ok text => printAll most written ending (output ++ text) rest
    | .error f => ⟨.raised f, output, "", written⟩

def printLines : Except Failure (List (List Char)) → Outcome
  | .ok lines => ⟨.exit 0, unlines lines, "", none⟩
  | .error f => ⟨.raised f, [], "", none⟩

def loadFailed (most : Nat) (f : Failure) : Outcome :=
  match f.family? with
  | none => ⟨.raised f, [], "", none⟩
  | some _ =>
    printAll most none (.exit 1) [] [("[red]Error loading configuration: " ++ f.message ++ "[/red]").toList]

def validateOutcome (most : Nat) (details : Bool) (a : Automaton) : Outcome :=
  printAll most none (.exit 0) [] ((validLines a details).map String.toList)

def displayOutcome (most : Nat) (format : DisplayFormat) (a : Automaton) : Outcome :=
  match a.checkText with
  | .error cause => ⟨.raised (.fault cause), [], "", none⟩
  | .ok _ =>
    match format with
    | .text => ⟨.exit 0, ControlSequence.strip a.debugText.toList, "", none⟩
    | .table => printLines ((stateTable a).render most)
    | .tree => printLines ((stateTree a).render most)

def inputValues (split : Bool) (text : String) : List Value :=
  if split then (Text.words text.toList).map fun w => .str (String.ofList w)
  else text.toList.map Value.ofChar

def runOutcome [TestFunctions] (most : Nat) (split : Bool) (text : String) (a : Automaton) : Outcome :=
  let values := inputValues split text
  match a.feedList values with
  | (_, .error f) => ⟨.raised f, [], "", none⟩
  | (b, .ok f) =>
    match Value.checkTexts f.markers with
    | .error cause => printAll most none (.raised (.fault cause)) [] (progressLines values b f)
    | .ok _ =>
      printAll most none (.exit (if f.accepted then 0 else 1)) []
        (progressLines values b f ++ verdictLines values f)

def runNotes [TestFunctions] (split : Bool) (text : String) (a : Automaton) : List Note :=
  match a.feedList (inputValues split text) with
  | (_, .error _) => []
  | (b, .ok f) => feedNotes (inputValues split text) b f

def dotOutcome (most : Nat) (folder : Folder) (output : Option String) (a : Automaton) : Outcome :=
  match a.writeDot {} with
  | .error cause => ⟨.raised (.fault cause), [], "", none⟩
  | .ok source =>
    match output with
    | none => ⟨.exit 0, ControlSequence.strip (source.toList ++ ['\n']), "", none⟩
    | some path =>
      match folder.checkWritable path with
      | .error f => ⟨.raised f, [], "", none⟩
      | .ok plain =>
        printAll most (some (plain, source)) (.exit 0) []
          [("[green]✓[/green] Wrote DOT source to " ++ path).toList]

def withAutomaton (folder : Folder) (environment : Environment) (file : String)
    (command : Nat → Automaton → Outcome) : Outcome :=
  match folder.loadAutomaton (some environment) file with
  | .error f => loadFailed (columns environment) f
  | .ok a => command (columns environment) a

def requestOutcome [TestFunctions] (folder : Folder) (environment : Environment) : Request → Outcome
  | .version => ⟨.exit 0, "nfakit, version 0.1.0\n".toList, "", none⟩
  | .help place => ⟨.exit 0, (usage place).toList, "", none⟩
  | .validate file details => withAutomaton folder environment file fun most => validateOutcome most details
  | .display file format => withAutomaton folder environment file fun most => displayOutcome most format
  | .run file text split => withAutomaton folder environment file fun most => runOutcome most split text
  | .dot file output => withAutomaton folder environment file fun most => dotOutcome most folder output

def loadNotes (folder : Folder) (environment : Environment) (file : String) : List Note :=
  match folder.readValue file with
  | .error _ => []
  | .ok v =>
    .loaded (String.ofList (Path.plain file.toList)) ::
      match Definition.load (some environment) v with
      | .error _ => []
      | .ok d => definitionNotes .builtIn d

def requestNotes [TestFunctions] (folder : Folder) (environment : Environment) : Request → List Note
  | .version => []
  | .help _ => []
  | .validate file _ => loadNotes folder environment file
  | .display file _ => loadNotes folder environment file
  | .dot file _ => loadNotes folder environment file
  | .run file text split =>
    loadNotes folder environment file ++
      match folder.loadAutomaton (some environment) file with
      | .error _ => []
      | .ok a => runNotes split text a

def outcome [TestFunctions] (folder : Folder) (settings : List (String × String)) (args : List String) : Outcome :=
  let environment : Environment := ⟨settings, Environment.defaultLead⟩
  match readInvocation folder.has args with
  | .error (_, .nullInPath) => ⟨.raised .nullInPath, [], "", none⟩
  | .error (place, m) => ⟨.exit 2, [], ControlSequence.stripText (misuseText place m), none⟩
  | .ok invocation =>
    let result := requestOutcome folder environment invocation.request
    if invocation.verbose then
      let notes := requestNotes folder environment invocation.request
      { result with errors := result.errors ++ String.join (notes.map Note.line) }
    else result

end GuardedAutomata.CommandLine
