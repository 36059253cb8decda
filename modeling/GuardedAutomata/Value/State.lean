import GuardedAutomata.Value.Fault

/-!
# States as values

A state is made of an integer that is not negative; booleans and floats are refused.
-/

set_option autoImplicit false

namespace GuardedAutomata.StateId

def ofInt (n : Int) : Except Fault Nat :=
  if n < 0 then .error (.badStateId (.int n)) else .ok n.toNat

def ofValue : Value → Except Fault Nat
  | .int n => ofInt n
  | v => .error (.badStateId v)

def floatSum (id : Nat) (x : Double) : Fault :=
  match Double.ofInt? id with
  | some y => .badStateId (.float (y.add x))
  | none => .largeInteger

def shift (id : Nat) : Value → Except Fault Nat
  | .int n => ofInt (id + n)
  | .bool b => ofInt (id + (if b then 1 else 0))
  | .float x => .error (floatSum id x)
  | v => .error (.notAddable "int" v.fullTypeName)

def index (id : Nat) (items : List Value) : Except Fault Value :=
  match items[id]? with
  | some v => .ok v
  | none => .error .outOfRange

end GuardedAutomata.StateId
