import GuardedAutomata.Value.Fault

/-!
# Order of values

Numbers are ordered among themselves, text by code points, bytes by their numbers, dates and moments by
time, sets by inclusion, states by their ids. Sequences of one type are ordered by the first items that
differ, and by length if none does. All else has no order.
-/

set_option autoImplicit false

namespace GuardedAutomata

inductive Comparison where
  | less
  | lessOrEqual
  deriving DecidableEq, Repr

namespace Comparison

def sign : Comparison → String
  | less => "<"
  | lessOrEqual => "<="

def onEqual : Comparison → Bool
  | less => false
  | lessOrEqual => true

def ints : Comparison → Int → Int → Bool
  | less, a, b => decide (a < b)
  | lessOrEqual, a, b => decide (a ≤ b)

def texts : Comparison → String → String → Bool
  | less, a, b => decide (a < b)
  | lessOrEqual, a, b => !decide (b < a)

def positions (c : Comparison) : Position → Position → Bool
  | .at a, .at b => c.ints a b
  | .bottom, .bottom => c.onEqual
  | .top, .top => c.onEqual
  | .bottom, _ => true
  | _, .top => true
  | _, _ => false

def numbers (c : Comparison) : Number → Number → Bool
  | .whole a, .whole b => c.ints a b
  | x, y =>
    match x.position?, y.position? with
    | some p, some q => c.positions p q
    | _, _ => false

end Comparison

namespace Comparison

def words (c : Comparison) : List Nat → List Nat → Bool
  | [], [] => c.onEqual
  | [], _ :: _ => true
  | _ :: _, [] => false
  | a :: as, b :: bs => if a = b then words c as bs else decide (a < b)

def moments (c : Comparison) (a b : Moment) : Except Fault Bool :=
  if a.comparable b then .ok (c.ints a.instant b.instant) else .error .mixedZones

end Comparison

namespace Value

def compareNumbers (c : Comparison) (a b : Value) : Except Fault Bool :=
  match a.number?, b.number? with
  | some x, some y => .ok (c.numbers x y)
  | _, _ => .error (.unordered c.sign a.fullTypeName b.fullTypeName)

mutual

def compare (c : Comparison) : Value → Value → Except Fault Bool
  | str a, str b => .ok (c.texts a b)
  | bytes a, bytes b => .ok (c.words a b)
  | date a, date b => .ok (c.ints a.dayNumber b.dayNumber)
  | date _, moment _ => .error .mixedDates
  | moment _, date _ => .error .mixedDates
  | moment a, moment b => c.moments a b
  | set a, set b => .ok (subset a b && (c == .lessOrEqual || a.length != b.length))
  | list a, list b => compareItems c a b
  | tuple a, tuple b => compareItems c a b
  | state a, state b => .ok (c.ints a b)
  | a, b => compareNumbers c a b

def compareItems (c : Comparison) : List Value → List Value → Except Fault Bool
  | [], [] => .ok c.onEqual
  | [], _ :: _ => .ok true
  | _ :: _, [] => .ok false
  | a :: as, b :: bs => if same a b then compareItems c as bs else compare c a b

end

end Value

end GuardedAutomata
