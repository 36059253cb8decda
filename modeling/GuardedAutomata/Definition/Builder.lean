import GuardedAutomata.Automaton.Composition
import GuardedAutomata.Automaton.Dictionary
import GuardedAutomata.Definition.Environment
import GuardedAutomata.Definition.Reader
import GuardedAutomata.Store.Registry

/-!
# Building automata

A definition becomes an automaton: its states and markers, its transitions, and then each fragment,
built by itself, copied in as a block and linked by an epsilon edge. The whole tree uses the store kind
of its root.
-/

set_option autoImplicit false

namespace GuardedAutomata

namespace Automaton

def addMarkers (state : Nat) : List Value → Automaton → Except Failure Automaton
  | [], a => .ok a
  | m :: rest, a =>
    match a.mark (.state state) m with
    | (_, .error f) => .error f
    | (b, .ok _) => addMarkers state rest b

def addStates : List StateEntry → Automaton → Except Failure Automaton
  | [], a => .ok a
  | s :: rest, a =>
    match addMarkers a.count s.markers a.newState.1 with
    | .error f => .error f
    | .ok b => addStates rest b

def guardFailure (name : String) (t : TransitionEntry) (f : Failure) : Failure :=
  match f.family? with
  | some _ => .invalidGuard t.source t.target name t.guard f
  | none => f

def guardOf (k : StoreKind) (name : String) (t : TransitionEntry) : Except Failure Guard :=
  if t.epsilon then .ok .epsilon
  else
    match k.parse t.guard with
    | .ok p => .ok (.predicate p)
    | .error f => .error (guardFailure name t f)

def addTransitions (k : StoreKind) (name : String) :
    List TransitionEntry → Automaton → Except Failure Automaton
  | [], a => .ok a
  | t :: rest, a =>
    match guardOf k name t with
    | .error f => .error f
    | .ok g =>
      match a.newTransition (.state t.source) (.state t.target) g.value with
      | (_, .error f) => .error f
      | (b, .ok _) => addTransitions k name rest b

def addFragment (linkFrom : Option Nat) (sub a : Automaton) : Except Failure Automaton :=
  match a.add sub with
  | (_, .error f) => .error f
  | (b, .ok none) => .ok b
  | (b, .ok (some entry)) =>
    match linkFrom with
    | none => .ok b
    | some link =>
      match b.newTransition (.state link) (.state entry) .epsilon with
      | (_, .error f) => .error f
      | (c, .ok _) => .ok c

end Automaton

namespace Definition

def buildOwn (k : StoreKind) (d : Definition) : Except Failure Automaton :=
  match Automaton.addStates d.states (.new (.ofKind k) (.str d.name)) with
  | .error f => .error f
  | .ok a => Automaton.addTransitions k d.name d.transitions a

mutual

def buildWith (r : Registry) (kind : String) (d : Definition) : Except Failure Automaton :=
  match r.get kind with
  | .error f => .error f
  | .ok k =>
    match d.buildOwn k with
    | .error f => .error f
    | .ok a =>
      match d with
      | ⟨_, _, _, _, _, fragments⟩ => buildFragments r kind fragments a

def buildFragments (r : Registry) (kind : String) :
    List (Fragment Definition) → Automaton → Except Failure Automaton
  | [], a => .ok a
  | ⟨name, linkFrom, d⟩ :: rest, a =>
    match d.store.filter (· != kind) with
    | some store => .error (.fragmentStore name store kind)
    | none =>
      match buildWith r kind d with
      | .error f => .error f
      | .ok sub =>
        match Automaton.addFragment linkFrom sub a with
        | .error f => .error f
        | .ok b => buildFragments r kind rest b

end

def build (r : Registry) (d : Definition) : Except Failure Automaton :=
  match d.buildWith r d.effectiveKind with
  | .error f => .error f
  | .ok a => .ok a.reset

def load (environment : Option Environment) (v : Value) : Except Failure Definition :=
  match environment with
  | none => ofValue v
  | some e =>
    match e.resolve v with
    | .error f => .error f
    | .ok w => ofValue w

end Definition

def Automaton.ofDict (v : Value) : Except Failure Automaton :=
  match Definition.load none v with
  | .error f => .error f
  | .ok d => d.build .builtIn

end GuardedAutomata
