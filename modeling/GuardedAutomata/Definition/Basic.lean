import GuardedAutomata.Value.Basic

/-!
# Definitions

A definition lists the states of an automaton with their markers, its transitions, and fragments:
definitions of their own that are composed into it and may be linked to one of its states.
-/

set_option autoImplicit false

namespace GuardedAutomata

structure StateEntry where
  id : Nat
  markers : List Value
  deriving Inhabited

structure TransitionEntry where
  source : Nat
  target : Nat
  guard : Value
  epsilon : Bool
  deriving Inhabited

structure Fragment (δ : Type) where
  name : Option String
  linkFrom : Option Nat
  automaton : δ

structure Definition where
  name : String
  description : Option String
  store : Option String
  states : List StateEntry
  transitions : List TransitionEntry
  fragments : List (Fragment Definition)

namespace Definition

def defaultStore : String := "symbol"

def effectiveKind (d : Definition) : String :=
  match d.store with
  | some s => if s.isEmpty then defaultStore else s
  | none => defaultStore

end Definition

end GuardedAutomata
