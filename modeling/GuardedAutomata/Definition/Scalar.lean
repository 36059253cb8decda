import GuardedAutomata.Definition.Issue
import GuardedAutomata.Number.Decimal
import GuardedAutomata.Text.Blank
import GuardedAutomata.Text.Utf8

/-!
# Scalars of a definition

How lenient the reader of definitions is: integers may be booleans, whole floats or text; booleans may
be 0, 1 or one of the usual words; text must be text. Bytes that are UTF-8 are read as their text.
-/

set_option autoImplicit false

namespace GuardedAutomata.Scalar

/-! ### Integers in text -/

def mostPlain : Nat := 4300

def isLong (cs : List Char) : Bool :=
  let digits := if cs.head? = some '-' then cs.drop 1 else cs
  let count := (digits.takeWhile Char.isDigit).length
  digits.head? != some '0' && decide (mostPlain < cs.length - digits.length + count)

def behindZero (last : Char) : List Char → Option (List Char)
  | [] => some [last]
  | c :: rest =>
    if c = '0' ∨ c = '_' then behindZero c rest
    else if c.isDigit ∨ c = '-' then some (c :: rest)
    else if c = '.' then some (last :: c :: rest)
    else none

def dropZeros : List Char → Option (List Char)
  | [] => none
  | c :: rest => if c = '0' then behindZero c rest else if c.isDigit then some (c :: rest) else none

def dropZeroFraction (cs : List Char) : Option (List Char) :=
  let whole := cs.takeWhile (· != '.')
  match cs.dropWhile (· != '.') with
  | [] => some whole
  | _ :: fraction => if fraction.isEmpty ∨ ¬ fraction.all (· == '0') then none else some whole

def isGrouped (previous : Char) : List Char → Bool
  | [] => previous != '_'
  | c :: rest => !(previous == '_' && c == '_') && isGrouped c rest

def plainInteger? (cs : List Char) : Option Int :=
  let negative := cs.head? = some '-'
  let digits := if negative then cs.drop 1 else cs
  if digits.isEmpty ∨ ¬ digits.all Char.isDigit ∨ mostPlain < cs.length then none
  else if digits.head? = some '0' ∧ digits ≠ ['0'] then none
  else
    let n : Int := Decimal.digitsValue digits
    some (if negative then -n else n)

def looseInteger? (cs : List Char) : Option Int :=
  let (negative, rest) := Decimal.takeSign (Text.trimSpace cs)
  match (dropZeros rest).bind fun digits =>
      dropZeroFraction (if negative then '-' :: digits else digits) with
  | some whole => if isGrouped '_' whole then plainInteger? (whole.filter (· != '_')) else none
  | none => none

def integerOfText (cs : List Char) : Except IssueKind Int :=
  if isLong cs then .error .integerTooLarge
  else
    match looseInteger? cs with
    | some n => .ok n
    | none => .error .integerText

/-! ### Readers -/

def textOfBytes? (bs : List Nat) : Option (List Char) :=
  match Utf8.decode bs with
  | .ok cs => some cs
  | .error _ => none

def integerOfDouble (x : Double) : Except IssueKind Int :=
  match x.units? with
  | none => .error .notFinite
  | some _ =>
    match x.toInt? with
    | none => .error .fractional
    | some n => if n.natAbs < Nat.pow 2 63 then .ok n else .error .integerTooLarge

def integer : Value → Except IssueKind Int
  | .bool b => .ok (if b then 1 else 0)
  | .int n => .ok n
  | .float x => integerOfDouble x
  | .str s => integerOfText s.toList
  | .bytes bs =>
    match textOfBytes? bs with
    | some cs => integerOfText cs
    | none => .error .integerText
  | _ => .error .notInteger

def natural (v : Value) : Except IssueKind Nat :=
  match integer v with
  | .error k => .error k
  | .ok n => if n < 0 then .error .negative else .ok n.toNat

def falseWords : List String := ["0", "off", "f", "false", "n", "no"]

def trueWords : List String := ["1", "on", "t", "true", "y", "yes"]

def booleanOfText (cs : List Char) : Except IssueKind Bool :=
  let word := String.ofList (cs.map Char.toLower)
  if falseWords.contains word then .ok false
  else if trueWords.contains word then .ok true
  else .error .booleanText

def booleanOfInt (n : Int) : Except IssueKind Bool :=
  if n = 0 then .ok false
  else if n = 1 then .ok true
  else if -(Int.pow 2 63) ≤ n ∧ n < Int.pow 2 63 then .error .booleanText
  else .error .notBoolean

def boolean : Value → Except IssueKind Bool
  | .bool b => .ok b
  | .int n => booleanOfInt n
  | .float x =>
    match integerOfDouble x with
    | .ok n => booleanOfInt n
    | .error _ => .error .notBoolean
  | .str s => booleanOfText s.toList
  | .bytes bs =>
    match textOfBytes? bs with
    | some cs => booleanOfText cs
    | none => .error .booleanText
  | _ => .error .notBoolean

def text : Value → Except IssueKind String
  | .str s => .ok s
  | .bytes bs =>
    match textOfBytes? bs with
    | some cs => .ok (String.ofList cs)
    | none => .error .undecodableText
  | _ => .error .notText

def optional {α : Type} (read : Value → Except IssueKind α) : Value → Except IssueKind (Option α)
  | .null => .ok none
  | v =>
    match read v with
    | .ok a => .ok (some a)
    | .error k => .error k

end GuardedAutomata.Scalar
