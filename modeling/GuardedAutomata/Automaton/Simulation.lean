import GuardedAutomata.Automaton.Basic

/-!
# Simulation

All branches of an automaton advance together. A step leads from the frontier to the closure of the
targets of all matching edges, or is rejected and leaves the frontier as it is. Feeding a sequence stops
at the first value that is rejected. The markers of the active states are united in the order of the states,
which decides which of several equal markers is kept.
-/

set_option autoImplicit false

namespace GuardedAutomata

structure Feed where
  consumed : Nat
  completed : Bool
  markers : List Value

def Feed.accepted (f : Feed) : Bool :=
  f.completed && !f.markers.isEmpty

namespace Automaton

variable [TestFunctions]

def targetsOf (a : Automaton) (v : Value) (i : Nat) : Except Fault (List Nat) :=
  match a.stores[i]? with
  | some s => s.query v
  | none => .ok []

def targetsFrom (a : Automaton) (v : Value) : List Nat → Except Fault (List Nat)
  | [] => .ok []
  | i :: rest =>
    match a.targetsOf v i with
    | .error cause => .error cause
    | .ok targets =>
      match a.targetsFrom v rest with
      | .error cause => .error cause
      | .ok others => .ok (targets ++ others)

def advance (a : Automaton) (v : Value) : Attempt Bool :=
  match a.targetsFrom v a.active.ids with
  | .error cause => (a, .error (.fault cause))
  | .ok targets =>
    if targets.isEmpty then (a, .ok false)
    else ({ a with active := a.closure (.ofList targets) }, .ok true)

def step (a : Automaton) (v : Value) : Attempt Bool :=
  match v with
  | .epsilon => (a, .error .epsilonInput)
  | v => a.advance v

def joinMarkers (ms : List (List Value)) : List Value :=
  ms.foldl (fun seen vs => vs.foldl Value.insertInto seen) []

def currentMarkers (a : Automaton) : List Value :=
  joinMarkers (a.active.ids.map a.markersAt)

def feedFrom (consumed : Nat) : List Value → Automaton → Attempt Feed
  | [], a => (a, .ok ⟨consumed, true, a.currentMarkers⟩)
  | v :: rest, a =>
    match a.step v with
    | (b, .error f) => (b, .error f)
    | (b, .ok true) => feedFrom (consumed + 1) rest b
    | (b, .ok false) => (b, .ok ⟨consumed, false, b.currentMarkers⟩)

def feedList (a : Automaton) (values : List Value) : Attempt Feed :=
  feedFrom 0 values a

def feed (a : Automaton) (values : Value) : Attempt Feed :=
  match values.elements with
  | .error cause => (a, .error (.fault cause))
  | .ok items => a.feedList items

def accepts (a : Automaton) (values : Value) : Attempt Bool :=
  match a.reset.feed values with
  | (b, .error f) => (b, .error f)
  | (b, .ok r) => (b, .ok r.accepted)

def combine (a : Automaton) : List Nat → Store → Except Failure Store
  | [], s => .ok s
  | i :: rest, s =>
    match s.putAll .ok (a.edgesOf i) with
    | (_, .error f) => .error f
    | (s, .ok _) => a.combine rest s

def activeTransitions (a : Automaton) : Except Failure Store :=
  a.combine a.active.ids a.factory.newStore

end Automaton

end GuardedAutomata
