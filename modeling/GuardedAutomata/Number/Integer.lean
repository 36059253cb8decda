import GuardedAutomata.Number.Decimal
import GuardedAutomata.Text.Blank
import GuardedAutomata.Text.Digits

/-!
# Integers in text

Reads integers written in a base, with a sign and white space around them. Decimal integers have a bound on
their number of digits, which is looked at before anything that follows the digits, and which holds for integers
that are written as well.
-/

set_option autoImplicit false

namespace GuardedAutomata.Integer

inductive Problem where
  | malformed
  | tooLong (digits : Nat)
  deriving DecidableEq, Repr

def mostDigits : Nat := 4300

def hasText (n : Int) : Bool :=
  decide (n.natAbs < Nat.pow 10 mostDigits)

def leastLong : Int :=
  Int.ofNat (Nat.pow 10 mostDigits)

theorem hasText_leastLong : hasText leastLong = false := by
  rw [hasText, leastLong, Int.natAbs_ofNat']
  exact decide_eq_false (Nat.lt_irrefl _)

def tooLongText (digits : Option Nat) : String :=
  "Exceeds the limit (" ++ toString mostDigits ++ " digits) for integer string conversion" ++
    (match digits with
      | some n => ": value has " ++ toString n ++ " digits"
      | none => "") ++
    "; use sys.set_int_max_str_digits() to increase the limit"

def digit? (c : Char) : Option Nat :=
  if c.isDigit then some (c.toNat - '0'.toNat)
  else if 'a' ≤ c ∧ c ≤ 'f' then some (c.toNat - 'a'.toNat + 10)
  else if 'A' ≤ c ∧ c ≤ 'F' then some (c.toNat - 'A'.toNat + 10)
  else none

def baseLetter? : Nat → Option Char
  | 2 => some 'b'
  | 8 => some 'o'
  | 16 => some 'x'
  | _ => none

def dropBaseName (base : Nat) : List Char → List Char
  | '0' :: c :: rest => if baseLetter? base = some c.toLower then rest else '0' :: c :: rest
  | cs => cs

def digits? (base : Nat) : Nat → List Char → Option Nat
  | acc, [] => some acc
  | acc, c :: rest =>
    match digit? c with
    | some d => if d < base then digits? base (acc * base + d) rest else none
    | none => none

def isTooLong (base digits : Nat) : Bool :=
  base == 10 && decide (mostDigits < digits)

def parse (base : Nat) (cs : List Char) : Except Problem Int :=
  let (negative, body) := Decimal.takeSign (Text.plainDigits (Text.trimSpace cs))
  let digits := dropBaseName base body
  let count := (digits.takeWhile Char.isDigit).length
  if isTooLong base count then .error (.tooLong count)
  else if digits.isEmpty then .error .malformed
  else
    match digits? base 0 digits with
    | some n => .ok (if negative then -(n : Int) else n)
    | none => .error .malformed

end GuardedAutomata.Integer
