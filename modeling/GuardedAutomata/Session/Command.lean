import GuardedAutomata.Automaton.Dot
import GuardedAutomata.Automaton.Simulation

/-!
# Commands

What can be asked of a session's variables, and the answers.
-/

set_option autoImplicit false

namespace GuardedAutomata

inductive FactoryChoice where
  | ofKind (kind : StoreKind)
  | foreign
  | registered (key : String)

inductive Command where
  | new (factory : FactoryChoice) (name : Value)
  | ofDict (data : Value)
  | newStore (factory : FactoryChoice)
  | newState
  | newStates (count : Nat)
  | newTransition (source target guard : Value)
  | mark (state marker : Value)
  | reset
  | dropMarkers
  | add (other : String)
  | step (value : Value)
  | accepts (values : Value)
  | feed (values : Value)
  | currentMarkers
  | markersOf (state : Value)
  | activeStates
  | marked
  | epsilonClosure (states : Value)
  | setActive (states : Value)
  | activeTransitions (keep : Option String)
  | transitionsOf (state : Value)
  | states
  | size
  | rename (name : Value)
  | debug
  | literal
  | dot (options : Dot.Options)
  | toDict
  | roundTrip (keep : String)
  | sameFactory (other : String)
  | put (guard : Value) (target : Nat)
  | query (value : Value)
  | merge (other : String) (shift : Value)
  | items
  | symbols
  | formatGuard (guard : Guard)
  | coerce (value : Value)
  | format (value : Value)
  | parse (value : Value)
  | dump (value : Value)

inductive Answer where
  | nothing
  | flag (b : Bool)
  | count (n : Nat)
  | entry (id : Option Nat)
  | ids (ids : List Nat)
  | text (s : String)
  | texts (ss : List String)
  | counts (ns : List Nat)
  | markers (ms : List Value)
  | feed (f : Feed)
  | edges (es : List Edge)
  | view (text : String) (es : List Edge)
  | value (v : Value)
  | values (vs : List Value)
  | sameness (equal : Bool)

end GuardedAutomata
