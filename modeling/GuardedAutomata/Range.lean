import GuardedAutomata.Failure
import GuardedAutomata.Value.Order

/-!
# Ranges

An inclusive range of ordered values. A range is only made of bounds that can be compared and of which
the high one is not before the low one. Its written forms are one character, two characters around a
dash, and a pair of bounds.
-/

set_option autoImplicit false

namespace GuardedAutomata.Range

def make (low high : Value) : Except Fault Value :=
  match Value.compare .less high low with
  | .error f => .error f
  | .ok true => .error (.emptyRange low high)
  | .ok false => .ok (.range low high)

def contains (low high v : Value) : Bool :=
  match Value.compare .lessOrEqual low v with
  | .ok true =>
    match Value.compare .lessOrEqual v high with
    | .ok b => b
    | .error _ => false
  | _ => false

def ofBounds (raw low high : Value) : Except Failure Value :=
  match make low high with
  | .ok r => .ok r
  | .error f => .error (.badBounds f raw)

def refuse (raw : Value) : Except Failure Value :=
  match raw.checkText with
  | .ok _ => .error (.badRange raw)
  | .error cause => .error (.fault cause)

theorem refuse_ne_ok (raw r : Value) : refuse raw ≠ .ok r := by
  unfold refuse
  split <;> nofun

def parse : Value → Except Failure Value
  | .range low high => ofBounds (.range low high) low high
  | .str s =>
    match s.toList with
    | [c] => ofBounds (.str s) (.ofChar c) (.ofChar c)
    | [low, '-', high] => ofBounds (.str s) (.ofChar low) (.ofChar high)
    | _ => refuse (.str s)
  | .list [low, high] => ofBounds (.list [low, high]) low high
  | .tuple [low, high] => ofBounds (.tuple [low, high]) low high
  | raw => refuse raw

def isOneChar : Value → Bool
  | .str s => s.length == 1
  | _ => false

def dump (low high : Value) : Value :=
  if isOneChar low && low.equal high then low else .list [low, high]

end GuardedAutomata.Range
