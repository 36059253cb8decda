import GuardedAutomata.Failure

/-!
# Guards

A transition is guarded by epsilon, and then taken without consuming input, or by a predicate that a
store knows how to match.
-/

set_option autoImplicit false

namespace GuardedAutomata

inductive Guard where
  | epsilon
  | predicate (value : Value)
  deriving Inhabited, BEq

namespace Guard

def ofValue : Value → Except Failure Guard
  | .epsilon => .ok .epsilon
  | .predicate v => .ok (.predicate v)
  | .null => .error .emptyGuard
  | v => .ok (.predicate v)

def value : Guard → Value
  | epsilon => .epsilon
  | predicate v => .predicate v

def equal : Guard → Guard → Bool
  | epsilon, epsilon => true
  | predicate a, predicate b => a.same b
  | _, _ => false

end Guard

structure Edge where
  guard : Guard
  target : Nat
  deriving Inhabited, BEq

def Edge.equal (a b : Edge) : Bool :=
  a.guard.equal b.guard && a.target == b.target

end GuardedAutomata
