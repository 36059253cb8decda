import GuardedAutomata.Number.Double

/-!
# Decimal text of doubles

A finite double is written with the fewest digits that read back as the same double, of those the
nearest ones. Exponents from -4 to 15 are written positionally with at least one decimal place, all
others with a signed exponent of at least two digits.
-/

set_option autoImplicit false

namespace GuardedAutomata.Decimal

structure Digits where
  digits : Nat
  exponent : Int
  deriving DecidableEq, Repr

structure Interval where
  lower : Nat
  value : Nat
  upper : Nat
  closed : Bool
  deriving Repr

def interval (units : Nat) : Interval :=
  let shift := Double.excessBits units
  let step := Nat.pow 2 shift
  let mantissa := units / step
  let below := if mantissa = Nat.pow 2 52 ∧ 0 < shift then step else 2 * step
  ⟨4 * units - below, 4 * units, 4 * units + 2 * step, decide (mantissa % 2 = 0)⟩

def gridPoint (d : Digits) : Nat × Nat :=
  let quarters := 4 * Double.unitsPerOne
  if d.exponent < 0 then (d.digits * quarters, Nat.pow 10 d.exponent.natAbs)
  else (d.digits * Nat.pow 10 d.exponent.natAbs * quarters, 1)

def Interval.contains (i : Interval) (d : Digits) : Bool :=
  let (num, den) := gridPoint d
  if i.closed then decide (i.lower * den ≤ num ∧ num ≤ i.upper * den)
  else decide (i.lower * den < num ∧ num < i.upper * den)

def neighbours (i : Interval) (exponent : Int) : Digits × Digits :=
  let quarters := 4 * Double.unitsPerOne
  let below :=
    if exponent < 0 then i.value * Nat.pow 10 exponent.natAbs / quarters
    else i.value / (Nat.pow 10 exponent.natAbs * quarters)
  (⟨below, exponent⟩, ⟨below + 1, exponent⟩)

def nearer (i : Interval) (a b : Digits) : Bool :=
  let (numA, denA) := gridPoint a
  let (numB, _) := gridPoint b
  let target := i.value * denA
  let below := target - numA
  let above := numB - target
  if below = above then decide (a.digits % 2 = 0) else decide (below < above)

def onGrid (i : Interval) (exponent : Int) : Option Digits :=
  let (a, b) := neighbours i exponent
  match i.contains a, i.contains b with
  | true, true => if nearer i a b then some a else some b
  | true, false => some a
  | false, true => some b
  | false, false => none

def leadingExponent (i : Interval) : Nat → Int → Int
  | 0, guess => guess
  | fuel + 1, guess =>
    let (num, den) := gridPoint ⟨1, guess⟩
    if num ≤ i.value * den then guess else leadingExponent i fuel (guess - 1)

def search (i : Interval) : Nat → Int → Option Digits
  | 0, _ => none
  | fuel + 1, exponent =>
    match onGrid i exponent with
    | some d => some d
    | none => search i fuel (exponent - 1)

def shortest (units : Nat) : Digits :=
  let i := interval units
  let guess : Int := ((Double.bitLength units : Int) - 1074) * 30103 / 100000 + 2
  let lead := leadingExponent i 8 guess
  (search i 18 lead).getD ⟨units, 0⟩

def zeros (n : Nat) : List Char := List.replicate n '0'

def dropZeros (cs : List Char) : List Char :=
  (cs.reverse.dropWhile (· == '0')).reverse

def exponentText (e : Int) : List Char :=
  let digits := Nat.toDigits 10 e.natAbs
  (if e < 0 then '-' else '+') :: (zeros (2 - digits.length) ++ digits)

def layout (digits : List Char) (lead : Int) : List Char :=
  if -4 ≤ lead ∧ lead < 0 then
    ['0', '.'] ++ zeros (lead.natAbs - 1) ++ digits
  else if 0 ≤ lead ∧ lead < 16 then
    let whole := lead.natAbs + 1
    if digits.length ≤ whole then
      digits ++ zeros (whole - digits.length) ++ ['.', '0']
    else digits.take whole ++ '.' :: digits.drop whole
  else
    let rest := digits.drop 1
    digits.take 1 ++ (if rest.isEmpty then [] else '.' :: rest) ++ 'e' :: exponentText lead

def positiveText (units : Nat) : List Char :=
  let d := shortest units
  let all := Nat.toDigits 10 d.digits
  layout (dropZeros all) ((all.length : Int) - 1 + d.exponent)

def takeDigits (cs : List Char) : List Char × List Char :=
  (cs.takeWhile Char.isDigit, cs.dropWhile Char.isDigit)

def digitsValue (cs : List Char) : Nat :=
  cs.foldl (fun n c => n * 10 + (c.toNat - '0'.toNat)) 0

def takeSign : List Char → Bool × List Char
  | '-' :: rest => (true, rest)
  | '+' :: rest => (false, rest)
  | rest => (false, rest)

def exponent? : List Char → Option Int
  | [] => some 0
  | c :: rest =>
    if c = 'e' ∨ c = 'E' then
      let (negative, digits) := takeSign rest
      if digits.isEmpty ∨ ¬ digits.all Char.isDigit then none
      else
        let n := digitsValue digits
        some (if negative then -(n : Int) else n)
    else none

def parse? (cs : List Char) : Option Double :=
  let (negative, rest) := takeSign cs
  let (whole, rest) := takeDigits rest
  let (fraction, rest) :=
    match rest with
    | '.' :: rest => takeDigits rest
    | rest => ([], rest)
  if whole.isEmpty && fraction.isEmpty then none
  else
    (exponent? rest).map fun e =>
      Double.ofDecimal negative (digitsValue (whole ++ fraction)) (e - fraction.length)

end GuardedAutomata.Decimal

namespace GuardedAutomata.Double

def text : Double → String
  | .finite u =>
    if u = 0 then "0.0"
    else String.ofList ((if u < 0 then ['-'] else []) ++ Decimal.positiveText u.natAbs)
  | .negativeZero => "-0.0"
  | .infinite negative => if negative then "-inf" else "inf"
  | .nan _ => "nan"

def parse? (s : String) : Option Double :=
  match s with
  | "inf" => some (.infinite false)
  | "-inf" => some (.infinite true)
  | "nan" => some (.nan 0)
  | s => Decimal.parse? s.toList

end GuardedAutomata.Double
