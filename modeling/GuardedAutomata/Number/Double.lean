/-!
# Double-precision numbers

Every finite double is a whole number of units of 2^-1074, the smallest positive one, so a finite
double is kept as that integer and comparing doubles with integers is integer arithmetic. Zero has a
second, negative form that differs from zero in its text only. What is not a number equals nothing, itself
included; where it was made tells one from another.
-/

set_option autoImplicit false

namespace GuardedAutomata

inductive Double where
  | finite (units : Int)
  | negativeZero
  | infinite (negative : Bool)
  | nan (origin : Nat)
  deriving DecidableEq, Inhabited, Repr

namespace Double

def unitsPerOne : Nat := Nat.pow 2 1074

def overflowUnits : Nat := Nat.pow 2 (1024 + 1074)

def roundHalfEven (num den : Nat) : Nat :=
  let q := num / den
  let r := num % den
  if 2 * r < den then q else if den < 2 * r then q + 1 else if q % 2 = 0 then q else q + 1

def bitLength (n : Nat) : Nat :=
  if n = 0 then 0 else Nat.log2 n + 1

def excessBits (units : Nat) : Nat :=
  bitLength units - 53

def roundUnits (num den : Nat) : Nat :=
  let scaled := num * unitsPerOne
  let shift := excessBits (scaled / den)
  roundHalfEven scaled (den * Nat.pow 2 shift) * Nat.pow 2 shift

def ofUnits (negative : Bool) (units : Nat) : Double :=
  if overflowUnits ≤ units then .infinite negative
  else if units = 0 then (if negative then .negativeZero else .finite 0)
  else .finite (if negative then -(units : Int) else units)

def ofRatio (negative : Bool) (num den : Nat) : Double :=
  ofUnits negative (roundUnits num den)

def ofInt (n : Int) : Double :=
  ofRatio (decide (n < 0)) n.natAbs 1

def ofInt? (n : Int) : Option Double :=
  match ofInt n with
  | .infinite _ => none
  | x => some x

def ofDecimal (negative : Bool) (digits : Nat) (exponent : Int) : Double :=
  let size : Int := (Nat.toDigits 10 digits).length + exponent
  if digits = 0 then ofUnits negative 0
  else if size > 400 then .infinite negative
  else if size < -400 then ofUnits negative 0
  else if exponent < 0 then ofRatio negative digits (Nat.pow 10 exponent.natAbs)
  else ofRatio negative (digits * Nat.pow 10 exponent.natAbs) 1

def units? : Double → Option Int
  | .finite u => some u
  | .negativeZero => some 0
  | .infinite _ => none
  | .nan _ => none

def isNegative : Double → Bool
  | .finite u => decide (u < 0)
  | .negativeZero => true
  | .infinite negative => negative
  | .nan _ => false

def isZero (x : Double) : Bool :=
  x.units? == some 0

def toInt? (x : Double) : Option Int :=
  match x.units? with
  | some u => if u % (unitsPerOne : Int) = 0 then some (u / (unitsPerOne : Int)) else none
  | none => none

def roundScaled (num : Int) (den : Nat) (zeroNegative : Bool) : Double :=
  if num = 0 then ofUnits zeroNegative 0
  else ofRatio (decide (num < 0)) num.natAbs (den * unitsPerOne)

def isNan : Double → Bool
  | .nan _ => true
  | _ => false

def madeAt (origin : Nat) : Double → Double
  | .nan _ => .nan origin
  | x => x

def add (x y : Double) : Double :=
  match x, y with
  | .nan origin, _ => .nan origin
  | _, .nan origin => .nan origin
  | .infinite a, .infinite b => if a == b then .infinite a else .nan 0
  | .infinite a, _ => .infinite a
  | _, .infinite b => .infinite b
  | a, b =>
    roundScaled (a.units?.getD 0 + b.units?.getD 0) 1 (a == .negativeZero && b == .negativeZero)

def mul (x y : Double) : Double :=
  let negative := x.isNegative != y.isNegative
  match x.units?, y.units? with
  | some a, some b => roundScaled (a * b) unitsPerOne negative
  | _, _ =>
    if x.isNan || y.isNan || x.isZero || y.isZero then .nan 0 else .infinite negative

end Double

end GuardedAutomata
