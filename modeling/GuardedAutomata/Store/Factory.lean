import GuardedAutomata.Store.Basic

/-!
# Store factories

What makes the stores of an automaton: either stores of one kind, or a foreign factory of symbol stores,
which has no kind and is the same as itself only.
-/

set_option autoImplicit false

namespace GuardedAutomata

inductive Factory where
  | ofKind (kind : StoreKind)
  | foreign (serial : Nat)
  deriving DecidableEq, Inhabited, Repr

namespace Factory

def storeKind : Factory → StoreKind
  | ofKind k => k
  | foreign _ => .symbol

def newStore (f : Factory) : Store :=
  Store.empty f.storeKind

def kindName? : Factory → Option String
  | ofKind k => if k.name.isEmpty then none else some k.name
  | foreign _ => none

def literal : Factory → String
  | ofKind k => "StoreFactory(" ++ k.className ++ ")"
  | foreign _ => "PlainFactory()"

end Factory

end GuardedAutomata
