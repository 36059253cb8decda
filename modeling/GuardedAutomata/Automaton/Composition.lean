import GuardedAutomata.Automaton.Basic

/-!
# Composition

Adding another automaton copies it as a block of new states: its ids, edge targets and active states are
raised by the number of states there were before. The joined frontier is not closed.
-/

set_option autoImplicit false

namespace GuardedAutomata.Automaton

def mergeStores (offset : Nat) : List Store → Nat → Automaton → Attempt Unit
  | [], _, a => (a, .ok ())
  | s :: rest, i, a =>
    match ((a.stores[i]?).getD a.factory.newStore).merge s fun target => .ok (target + offset) with
    | (merged, .error f) => ({ a with stores := a.stores.set i merged }, .error f)
    | (merged, .ok _) => mergeStores offset rest (i + 1) { a with stores := a.stores.set i merged }

def mergeMarkers : List (List Value) → Nat → Automaton → Automaton
  | [], _, a => a
  | ms :: rest, i, a =>
    mergeMarkers rest (i + 1)
      { a with markers := a.markers.set i (ms.foldl Value.insertInto (a.markersAt i)) }

def refuseFactories (a other : Automaton) : Failure :=
  match Value.checkTexts [other.name, a.name] with
  | .ok _ => .factoriesDiffer a.name other.name a.factory.literal other.factory.literal
  | .error cause => .fault cause

def add (a other : Automaton) : Attempt (Option Nat) :=
  if a.factory ≠ other.factory then
    (a, .error (a.refuseFactories other))
  else if other.count = 0 then (a, .ok none)
  else
    let offset := a.count
    let grown := grow other.count a
    let joined := { grown with active := grown.active.union (other.active.shift offset) }
    match mergeStores offset other.stores offset joined with
    | (b, .error f) => (b, .error f)
    | (b, .ok _) => (mergeMarkers other.markers offset b, .ok (some offset))

def addSelf (a : Automaton) : Attempt (Option Nat) :=
  (a, .error (.selfComposition a.name a.count))

end GuardedAutomata.Automaton
