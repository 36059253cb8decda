import GuardedAutomata.Document.Problem
import GuardedAutomata.Value.Equality

/-!
# JSON text

JSON text as a value. The names of the numbers that JSON lacks, `NaN`, `Infinity` and `-Infinity`, are
read as well; a number with a fraction or an exponent is a float and any other an integer, which may not
have too many digits; of equal keys the last value counts. A text that is well formed has no value if an escape in
it stands for half of a pair of code units.
-/

set_option autoImplicit false

namespace GuardedAutomata.Json

def isBlank (c : Char) : Bool :=
  c == ' ' || c == '\t' || c == '\n' || c == '\r'

def skipBlanks (cs : List Char) : List Char :=
  cs.dropWhile isBlank

def hexNumber? : Nat → Nat → List Char → Option (Nat × List Char)
  | 0, acc, cs => some (acc, cs)
  | _ + 1, _, [] => none
  | n + 1, acc, c :: rest =>
    match Integer.digit? c with
    | some d => hexNumber? n (acc * 16 + d) rest
    | none => none

def unicodeEscape? (cs : List Char) : Option (Option Char × List Char) :=
  match hexNumber? 4 0 cs with
  | none => none
  | some (high, rest) =>
    if 0xD800 ≤ high ∧ high < 0xDC00 then
      match rest with
      | '\\' :: 'u' :: more =>
        match hexNumber? 4 0 more with
        | some (low, after) =>
          if 0xDC00 ≤ low ∧ low < 0xE000 then
            some (some (Char.ofNat (0x10000 + (high - 0xD800) * 0x400 + (low - 0xDC00))), after)
          else some (none, rest)
        | none => none
      | _ => some (none, rest)
    else if 0xDC00 ≤ high ∧ high < 0xE000 then some (none, rest)
    else some (some (Char.ofNat high), rest)

def simpleEscape? : Char → Option Char
  | '"' => some '"'
  | '\\' => some '\\'
  | '/' => some '/'
  | 'b' => some '\x08'
  | 'f' => some '\x0C'
  | 'n' => some '\n'
  | 'r' => some '\r'
  | 't' => some '\t'
  | _ => none

def stringTail? : Nat → List Char → List Char → Option (List Char × List Char)
  | 0, _, _ => none
  | _ + 1, _, [] => none
  | _ + 1, acc, '"' :: rest => some (acc.reverse, rest)
  | fuel + 1, acc, '\\' :: 'u' :: rest =>
    match unicodeEscape? rest with
    | some (c, after) => stringTail? fuel (c.getD '\uFFFD' :: acc) after
    | none => none
  | fuel + 1, acc, '\\' :: c :: rest =>
    match simpleEscape? c with
    | some d => stringTail? fuel (d :: acc) rest
    | none => none
  | fuel + 1, acc, c :: rest => if c.toNat < 0x20 then none else stringTail? fuel (c :: acc) rest

def hasHalf : Nat → Bool → List Char → Bool
  | 0, _, _ => false
  | _ + 1, _, [] => false
  | fuel + 1, quoted, '"' :: rest => hasHalf fuel (!quoted) rest
  | fuel + 1, true, '\\' :: 'u' :: rest =>
    match unicodeEscape? rest with
    | some (some _, after) => hasHalf fuel true after
    | some (none, _) => true
    | none => false
  | fuel + 1, true, '\\' :: _ :: rest => hasHalf fuel true rest
  | fuel + 1, quoted, _ :: rest => hasHalf fuel quoted rest

def wholeDigits? : List Char → Option (List Char × List Char)
  | '0' :: rest => some (['0'], rest)
  | cs =>
    match Decimal.takeDigits cs with
    | ([], _) => none
    | (digits, rest) => some (digits, rest)

def fractionDigits : List Char → List Char × List Char
  | '.' :: rest =>
    match Decimal.takeDigits rest with
    | ([], _) => ([], '.' :: rest)
    | (digits, after) => (digits, after)
  | cs => ([], cs)

def exponentDigits (cs : List Char) : Option (Bool × List Char × List Char) :=
  match cs with
  | c :: rest =>
    if c = 'e' ∨ c = 'E' then
      let (negative, more) := Decimal.takeSign rest
      match Decimal.takeDigits more with
      | ([], _) => none
      | (digits, after) => some (negative, digits, after)
    else none
  | [] => none

def whole (negative : Bool) (digits : List Char) : Except Problem Value :=
  if Integer.isTooLong 10 digits.length then .error (.fault (.longInteger (some digits.length)))
  else
    let n : Int := Decimal.digitsValue digits
    .ok (.int (if negative then -n else n))

def unsignedNumber (negative : Bool) (cs : List Char) : Except Problem (Value × List Char) :=
  match wholeDigits? cs with
  | none => .error .malformed
  | some (digits, rest) =>
    let (fraction, rest) := fractionDigits rest
    let significand := Decimal.digitsValue (digits ++ fraction)
    match exponentDigits rest with
    | some (down, exponent, rest) =>
      let e : Int := Decimal.digitsValue exponent
      let e := (if down then -e else e) - fraction.length
      .ok (.float (Double.ofDecimal negative significand e), rest)
    | none =>
      if fraction.isEmpty then (whole negative digits).map fun v => (v, rest)
      else .ok (.float (Double.ofDecimal negative significand (-(fraction.length : Int))), rest)

def number : List Char → Except Problem (Value × List Char)
  | '-' :: rest =>
    match rest with
    | 'I' :: 'n' :: 'f' :: 'i' :: 'n' :: 'i' :: 't' :: 'y' :: after =>
      .ok (.float (.infinite true), after)
    | _ => unsignedNumber true rest
  | cs => unsignedNumber false cs

mutual

def value : Nat → List Char → Except Problem (Value × List Char)
  | 0, _ => .error .malformed
  | fuel + 1, cs =>
    match cs with
    | '"' :: rest =>
      match stringTail? (rest.length + 1) [] rest with
      | some (s, after) => .ok (.str (String.ofList s), after)
      | none => .error .malformed
    | '{' :: rest =>
      match skipBlanks rest with
      | '}' :: after => .ok (.dict [], after)
      | body => members fuel [] body
    | '[' :: rest =>
      match skipBlanks rest with
      | ']' :: after => .ok (.list [], after)
      | body => items fuel [] body
    | 'n' :: 'u' :: 'l' :: 'l' :: after => .ok (.null, after)
    | 't' :: 'r' :: 'u' :: 'e' :: after => .ok (.bool true, after)
    | 'f' :: 'a' :: 'l' :: 's' :: 'e' :: after => .ok (.bool false, after)
    | 'N' :: 'a' :: 'N' :: after => .ok (.float (.nan 0), after)
    | 'I' :: 'n' :: 'f' :: 'i' :: 'n' :: 'i' :: 't' :: 'y' :: after =>
      .ok (.float (.infinite false), after)
    | cs => number cs

def members : Nat → List (Value × Value) → List Char → Except Problem (Value × List Char)
  | 0, _, _ => .error .malformed
  | fuel + 1, acc, cs =>
    match cs with
    | '"' :: rest =>
      match stringTail? (rest.length + 1) [] rest with
      | none => .error .malformed
      | some (key, after) =>
        match skipBlanks after with
        | ':' :: after =>
          match value fuel (skipBlanks after) with
          | .error p => .error p
          | .ok (v, after) =>
            let acc := Value.setEntry acc (.str (String.ofList key)) v
            match skipBlanks after with
            | ',' :: after => members fuel acc (skipBlanks after)
            | '}' :: after => .ok (.dict acc, after)
            | _ => .error .malformed
        | _ => .error .malformed
    | _ => .error .malformed

def items : Nat → List Value → List Char → Except Problem (Value × List Char)
  | 0, _, _ => .error .malformed
  | fuel + 1, acc, cs =>
    match value fuel cs with
    | .error p => .error p
    | .ok (v, after) =>
      match skipBlanks after with
      | ',' :: after => items fuel (v :: acc) (skipBlanks after)
      | ']' :: after => .ok (.list (v :: acc).reverse, after)
      | _ => .error .malformed

end

def parse (cs : List Char) : Except Problem Value :=
  match value (2 * cs.length + 2) (skipBlanks cs) with
  | .error p => .error p
  | .ok (v, rest) =>
    if !(skipBlanks rest).isEmpty then .error .malformed
    else if hasHalf (cs.length + 1) false cs then .error .halfPair
    else .ok v

end GuardedAutomata.Json
