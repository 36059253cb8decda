import GuardedAutomata.Automaton.Basic
import GuardedAutomata.Text.Sorted

/-!
# Debug text

One line per state: its number after a hash sign, its markers after a colon in the order of their text,
another colon, and its edges as guard and target in the order of recording.
-/

set_option autoImplicit false

namespace GuardedAutomata.Automaton

def sortedMarkers (a : Automaton) (i : Nat) : List Value :=
  Text.sortByKey Value.text (a.markersAt i)

def markerText (a : Automaton) (i : Nat) : String :=
  ",".intercalate ((a.sortedMarkers i).map Value.text)

def stateLine (a : Automaton) (i : Nat) : String :=
  let markers := if (a.markersAt i).isEmpty then "" else ":" ++ a.markerText i
  let edges := (a.edgesOf i).map fun e => " " ++ Store.edgeText a.factory.storeKind e
  "#" ++ toString i ++ markers ++ ":" ++ String.join edges ++ "\n"

def debugText (a : Automaton) : String :=
  String.join ((List.range a.count).map a.stateLine)

def hasText (a : Automaton) : Bool :=
  (List.range a.count).all fun i =>
    Value.allHaveText (a.markersAt i) && (a.edgesOf i).all fun e => e.guard.value.hasText

def checkText (a : Automaton) : Except Fault Unit :=
  if a.hasText then .ok () else .error (.longInteger none)

def writeDebug (a : Automaton) : Except Fault String :=
  match a.checkText with
  | .ok _ => .ok a.debugText
  | .error cause => .error cause

def literal (a : Automaton) : String :=
  "Automaton(name=" ++ a.name.literal ++ ", states=" ++ toString a.count ++ ", active=[" ++
    ",".intercalate (a.active.ids.map toString) ++ "])"

end GuardedAutomata.Automaton
