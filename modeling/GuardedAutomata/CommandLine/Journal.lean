import GuardedAutomata.Automaton.Simulation
import GuardedAutomata.Definition.Builder

/-!
# The journal

Notes on what happens while a definition is built and run, in the order in which it happens. The journal
of a build is told even if the build fails: it then ends where the failure is.
-/

set_option autoImplicit false

namespace GuardedAutomata.CommandLine

inductive Note where
  | loaded (path : String)
  | composed (sub : Value) (count : Nat) (name : Value) (offset : Nat)
  | skipped (fragment : Option String)
  | added (fragment : Option String) (entry : Nat)
  | built (name : Value) (count marked : Nat)
  | stuck (value : Value) (active : Nat)

namespace Note

def line : Note → String
  | loaded path => "DEBUG nfakit.config.loader: Loaded raw configuration from " ++ path ++ "\n"
  | composed sub count name offset =>
    "DEBUG nfakit.automaton: Composed " ++ sub.literal ++ " (" ++ toString count ++ " states) into " ++
      name.literal ++ " at offset " ++ toString offset ++ "\n"
  | skipped fragment =>
    "DEBUG nfakit.config.builder: Fragment " ++ fragmentLabel fragment ++ " has no states; skipped\n"
  | added fragment entry =>
    "DEBUG nfakit.config.builder: Added fragment " ++ fragmentLabel fragment ++ " with entry #" ++
      toString entry ++ "\n"
  | built name count marked =>
    "INFO nfakit.config.builder: Built automaton " ++ name.literal ++ ": " ++ toString count ++
      " states, " ++ toString marked ++ " marked\n"
  | stuck value active =>
    "DEBUG nfakit.automaton: No transition on " ++ value.literal ++ " from " ++ toString active ++
      " active states\n"

end Note

def fragmentNotes (name : Option String) (linkFrom : Option Nat) (sub a : Automaton) : List Note :=
  match a.add sub with
  | (_, .error _) => []
  | (_, .ok none) => [.skipped name]
  | (_, .ok (some entry)) =>
    .composed sub.name sub.count a.name entry ::
      match Automaton.addFragment linkFrom sub a with
      | .ok _ => [.added name entry]
      | .error _ => []

mutual

def buildNotes (r : Registry) (kind : String) (d : Definition) : List Note :=
  match r.get kind with
  | .error _ => []
  | .ok k =>
    match d.buildOwn k with
    | .error _ => []
    | .ok a =>
      match d with
      | ⟨_, _, _, _, _, fragments⟩ => fragmentsNotes r kind fragments a

def fragmentsNotes (r : Registry) (kind : String) : List (Fragment Definition) → Automaton → List Note
  | [], _ => []
  | ⟨name, linkFrom, d⟩ :: rest, a =>
    if (d.store.filter (· != kind)).isSome then []
    else
      buildNotes r kind d ++
        match d.buildWith r kind with
        | .error _ => []
        | .ok sub =>
          fragmentNotes name linkFrom sub a ++
            match Automaton.addFragment linkFrom sub a with
            | .error _ => []
            | .ok b => fragmentsNotes r kind rest b

end

def definitionNotes (r : Registry) (d : Definition) : List Note :=
  buildNotes r d.effectiveKind d ++
    match d.build r with
    | .ok a => [.built a.name a.count a.marked.ids.length]
    | .error _ => []

def feedNotes (values : List Value) (a : Automaton) (f : Feed) : List Note :=
  if f.completed then [] else (values[f.consumed]?.map fun v => Note.stuck v a.active.ids.length).toList

end GuardedAutomata.CommandLine
