import GuardedAutomata.Document.Yaml.Timestamp
import GuardedAutomata.Text.Split

/-!
# Tags

A tag says what a node stands for. A node without a tag gets one from its form, and a plain scalar from
its text: `12` is an integer, `yes` a truth value, `2001-12-14` a date, `a` text.
-/

set_option autoImplicit false

namespace GuardedAutomata.Yaml

inductive Tag where
  | null
  | bool
  | int
  | float
  | timestamp
  | binary
  | str
  | sequence
  | mapping
  | set
  | pairs
  | merge
  | value
  | other
  deriving DecidableEq, Repr

namespace Tag

def lead : List Char := "tag:yaml.org,2002:".toList

def ofName (name : List Char) : Tag :=
  if !lead.isPrefixOf name then other
  else
    match String.ofList (name.drop lead.length) with
    | "null" => null
    | "bool" => bool
    | "int" => int
    | "float" => float
    | "timestamp" => timestamp
    | "binary" => binary
    | "str" => str
    | "seq" => sequence
    | "map" => mapping
    | "set" => set
    | "omap" => pairs
    | "pairs" => pairs
    | "merge" => merge
    | "value" => value
    | _ => other

/-! ### Scalars -/

def truthWords : List String :=
  ["yes", "Yes", "YES", "no", "No", "NO", "true", "True", "TRUE", "false", "False", "FALSE", "on", "On",
    "ON", "off", "Off", "OFF"]

def nullWords : List String := ["", "~", "null", "Null", "NULL"]

def dropSign : List Char → List Char
  | '+' :: rest => rest
  | '-' :: rest => rest
  | cs => cs

def isDigitOrBar (c : Char) : Bool :=
  c.isDigit || c == '_'

def isWhole : List Char → Bool
  | [] => false
  | c :: rest => c.isDigit && rest.all isDigitOrBar

def isPositive (cs : List Char) : Bool :=
  isWhole cs && cs.head? != some '0'

def isSixtieth : List Char → Bool
  | [c] => c.isDigit
  | [c, d] => '0' ≤ c && c ≤ '5' && d.isDigit
  | _ => false

def isSexagesimal (isFirst : List Char → Bool) (cs : List Char) : Bool :=
  match Text.splitAt ':' cs with
  | first :: part :: parts => isFirst first && (part :: parts).all isSixtieth
  | _ => false

def isInt (cs : List Char) : Bool :=
  let body := dropSign cs
  body == ['0'] || isPositive body || isSexagesimal isPositive body ||
    match body with
    | '0' :: 'b' :: digits => !digits.isEmpty && digits.all fun c => c == '0' || c == '1' || c == '_'
    | '0' :: 'x' :: digits =>
      !digits.isEmpty && digits.all fun c =>
        isDigitOrBar c || ('a' ≤ c && c ≤ 'f') || ('A' ≤ c && c ≤ 'F')
    | '0' :: digits => !digits.isEmpty && digits.all fun c => ('0' ≤ c && c ≤ '7') || c == '_'
    | _ => false

def isExponent : List Char → Bool
  | [] => true
  | e :: sign :: digits =>
    (e == 'e' || e == 'E') && (sign == '+' || sign == '-') && !digits.isEmpty && digits.all Char.isDigit
  | _ => false

def isFloat (cs : List Char) : Bool :=
  let body := dropSign cs
  [".inf", ".Inf", ".INF"].contains (String.ofList body) ||
    [".nan", ".NaN", ".NAN"].contains (String.ofList cs) ||
    match body.span (· != '.') with
    | ([], '.' :: fraction) =>
      body == cs && isWhole (fraction.takeWhile isDigitOrBar) && isExponent (fraction.dropWhile isDigitOrBar)
    | (whole, '.' :: fraction) =>
      (isWhole whole && isExponent (fraction.dropWhile isDigitOrBar)) ||
        (isSexagesimal isWhole whole && fraction.all isDigitOrBar)
    | _ => false

def loneMarks : List String := ["!", "&", "*"]

def ofLine (cs : List Char) : Tag :=
  let text := String.ofList cs
  if truthWords.contains text then bool
  else if isFloat cs then float
  else if isInt cs then int
  else if text == "<<" then merge
  else if nullWords.contains text then null
  else if Timestamp.isEvident cs then timestamp
  else if text == "=" then value
  else if loneMarks.contains text then other
  else str

def dropLineEnd (cs : List Char) : List Char :=
  if cs.getLast? = some '\n' ∧ cs.length ≠ 1 then cs.dropLast else cs

def ofText (cs : List Char) : Tag :=
  ofLine (dropLineEnd cs)

end Tag

end GuardedAutomata.Yaml
