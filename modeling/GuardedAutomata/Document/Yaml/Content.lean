import GuardedAutomata.Document.Base64
import GuardedAutomata.Document.Problem
import GuardedAutomata.Document.Yaml.Tag
import GuardedAutomata.Text.Lowercase

/-!
# What scalars stand for

The value of a scalar is what its tag makes of its text: a number, a truth value, a date, bytes or text. A
text that does not fit its tag is at fault; bytes that cannot be read, and a tag that no scalar can have,
make the whole document malformed.
-/

set_option autoImplicit false

namespace GuardedAutomata.Yaml

/-! ### Integers -/

def integerIn (base : Nat) (cs : List Char) : Except Fault Int :=
  match Integer.parse base cs with
  | .ok n => .ok n
  | .error .malformed => .error (.badInteger base (String.ofList cs))
  | .error (.tooLong digits) => .error (.longInteger (some digits))

def sexagesimalInteger : Int → List (List Char) → Except Fault Int
  | acc, [] => .ok acc
  | acc, part :: parts =>
    match integerIn 10 part with
    | .ok n => sexagesimalInteger (acc * 60 + n) parts
    | .error cause => .error cause

def unsignedInteger : List Char → Except Fault Int
  | [] => .error .outOfText
  | ['0'] => .ok 0
  | '0' :: 'b' :: digits => integerIn 2 digits
  | '0' :: 'x' :: digits => integerIn 16 digits
  | '0' :: rest => integerIn 8 ('0' :: rest)
  | cs => if cs.contains ':' then sexagesimalInteger 0 (Text.splitAt ':' cs) else integerIn 10 cs

def withoutBars (cs : List Char) : List Char :=
  cs.filter (· != '_')

def integer (cs : List Char) : Except Fault Int :=
  match Decimal.takeSign (withoutBars cs) with
  | (negative, body) =>
    match unsignedInteger body with
    | .ok n => .ok (if negative then -n else n)
    | .error cause => .error cause

/-! ### Floats -/

def double (origin : Nat) (cs : List Char) : Except Fault Double :=
  let plain := Text.plainDigits (Text.trimSpace cs)
  let (negative, body) := Decimal.takeSign plain
  match String.ofList body with
  | "inf" => .ok (.infinite negative)
  | "infinity" => .ok (.infinite negative)
  | "nan" => .ok (.nan origin)
  | _ =>
    match Decimal.parse? plain with
    | some x => .ok x
    | none => .error (.badFloat (String.ofList cs))

def sexagesimalSum : Int → Double → List Double → Except Fault Double
  | _, acc, [] => .ok acc
  | weight, acc, x :: xs =>
    match Double.ofInt? weight with
    | some w => sexagesimalSum (weight * 60) (acc.add (x.mul w)) xs
    | none => .error .largeInteger

def unsignedFloat (origin : Nat) (cs : List Char) : Except Fault Double :=
  if cs.contains ':' then
    match (Text.splitAt ':' cs).mapM (double origin) with
    | .ok xs => sexagesimalSum 1 (.finite 0) xs.reverse
    | .error cause => .error cause
  else double origin cs

def float (origin : Nat) (cs : List Char) : Except Fault Double :=
  match (Text.lower (String.ofList (withoutBars cs))).toList with
  | [] => .error .outOfText
  | c :: rest =>
    let (negative, body) := Decimal.takeSign (c :: rest)
    if body = ".inf".toList then .ok (.infinite negative)
    else if body = ".nan".toList then .ok (.nan 0)
    else
      match unsignedFloat origin body with
      | .ok x => .ok ((if negative then (Double.ofInt (-1)).mul x else x).madeAt origin)
      | .error cause => .error cause

/-! ### Values -/

def truth (cs : List Char) : Except Fault Bool :=
  let word := Text.lower (String.ofList cs)
  match word with
  | "yes" => .ok true
  | "true" => .ok true
  | "on" => .ok true
  | "no" => .ok false
  | "false" => .ok false
  | "off" => .ok false
  | _ => .error (.missingKey (.str word))

def timestamp (cs : List Char) : Except Fault Value :=
  match Timestamp.parse? (Tag.dropLineEnd cs) with
  | none => .error (.noAttribute Value.null.typeName "groupdict")
  | some t =>
    match t.value with
    | .ok v => .ok v
    | .error problem => .error (.badDate problem)

def scalarValue (origin : Nat) (tag : Tag) (text : List Char) : Except Problem Value :=
  match tag with
  | .null => .ok .null
  | .bool => (Problem.faulty (truth text)).map .bool
  | .int => (Problem.faulty (integer text)).map .int
  | .float => (Problem.faulty (float origin text)).map .float
  | .timestamp => Problem.faulty (timestamp text)
  | .binary => (Problem.required (Base64.decode? text)).map .bytes
  | .str => .ok (.str (String.ofList text))
  | _ => .error .malformed

end GuardedAutomata.Yaml
