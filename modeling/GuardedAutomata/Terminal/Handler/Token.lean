import GuardedAutomata.Text.Quoted
import GuardedAutomata.Text.Word

/-!
# Tokens of handlers

An expression is a sequence of names, numbers, quoted texts and marks. White space stands between tokens, a
number sign starts a remark, and a line ends where no bracket is open. What is no token ends the sequence, and
so does a bracket that is never closed.
-/

set_option autoImplicit false

namespace GuardedAutomata.Terminal.Handler

inductive Token where
  | word (text : String)
  | number
  /-- A quoted text: whether it stands for bytes, and whether all of it is plain. -/
  | quoted (bytes plain : Bool)
  | mark (text : String)
  | lineEnd
  | indent
  | finish
  | unclosed (bracket : Char)
  /-- What is no token, and whether it is one of the problems that are looked for in all of a text. -/
  | broken (problem : String) (found : Bool)
  deriving DecidableEq, Repr

structure Placed where
  token : Token
  depth : Nat
  deriving DecidableEq, Repr

def isDigit (c : Char) : Bool :=
  '0' ≤ c && c ≤ '9'

def isOctalDigit (c : Char) : Bool :=
  '0' ≤ c && c ≤ '7'

def isBinaryDigit (c : Char) : Bool :=
  c == '0' || c == '1'

def isHexDigit (c : Char) : Bool :=
  isDigit c || ('a' ≤ c && c ≤ 'f') || ('A' ≤ c && c ≤ 'F')

def isNamePart (c : Char) : Bool :=
  isDigit c || ('a' ≤ c && c ≤ 'z') || ('A' ≤ c && c ≤ 'Z') || c == '_' || 128 ≤ c.toNat

def behindDigits (digit : Char → Bool) : List Char → Except (List Char) (List Char)
  | '_' :: d :: rest => if digit d then behindDigits digit rest else .error (d :: rest)
  | ['_'] => .error []
  | c :: rest => if digit c then behindDigits digit rest else .ok (c :: rest)
  | [] => .ok []

def startsWithJoint (cs : List Char) : Bool :=
  (["if", "in", "is"].any fun word => word.toList.isPrefixOf cs) ||
    ["and", "else", "for", "not", "or"].any fun word =>
      word.toList.isPrefixOf cs && !(cs.drop word.length).head?.any isNamePart

def numberEnd (kind : String) (rest : List Char) : Except String (List Char) :=
  if startsWithJoint rest then .ok rest
  else
    match rest with
    | c :: _ =>
      if isNamePart c && c.toNat < 128 then .error s!"invalid {kind} literal" else .ok rest
    | [] => .ok rest

structure Base where
  kind : String
  digit : Char → Bool

def base? (mark : Char) : Option Base :=
  if mark = 'x' ∨ mark = 'X' then some ⟨"hexadecimal", isHexDigit⟩
  else if mark = 'o' ∨ mark = 'O' then some ⟨"octal", isOctalDigit⟩
  else if mark = 'b' ∨ mark = 'B' then some ⟨"binary", isBinaryDigit⟩
  else none

def Base.problem (b : Base) : List Char → String
  | c :: _ =>
    if isDigit c then
      let digit := String.ofList [c]
      let kind := b.kind
      s!"invalid digit '{digit}' in {kind} literal"
    else "invalid " ++ b.kind ++ " literal"
  | [] => "invalid " ++ b.kind ++ " literal"

def Base.numberEnd (b : Base) (digits : List Char) : Except String (List Char) :=
  let start := if digits.head? = some '_' then digits else '_' :: digits
  match behindDigits b.digit start with
  | .error rest => .error (b.problem rest)
  | .ok rest =>
    if rest.head?.any isDigit then .error (b.problem rest) else Handler.numberEnd b.kind rest

def behindExponent? (rest : List Char) : Except String (Option (List Char)) :=
  let behind (digits : List Char) : Except String (Option (List Char)) :=
    match behindDigits isDigit digits with
    | .ok rest => .ok (some rest)
    | .error _ => .error "invalid decimal literal"
  match rest with
  | e :: more =>
    if e = 'e' ∨ e = 'E' then
      match more with
      | sign :: digits =>
        if sign = '+' ∨ sign = '-' then
          if digits.head?.any isDigit then behind digits else .error "invalid decimal literal"
        else if isDigit sign then behind more
        else .ok none
      | [] => .ok none
    else .ok none
  | [] => .ok none

def decimalEnd (zero : Bool) (digits : List Char) : Except String (List Char) :=
  match behindDigits isDigit digits with
  | .error _ => .error "invalid decimal literal"
  | .ok whole =>
    let fraction : Except (List Char) (List Char) :=
      match whole with
      | '.' :: more => if more.head?.any isDigit then behindDigits isDigit more else .ok more
      | _ => .ok whole
    match fraction with
    | .error _ => .error "invalid decimal literal"
    | .ok rest =>
      match behindExponent? rest with
      | .error problem => .error problem
      | .ok exponent =>
        match exponent.getD rest with
        | 'j' :: more => numberEnd "imaginary" more
        | 'J' :: more => numberEnd "imaginary" more
        | rest =>
          if zero && exponent.isNone && whole.head? != some '.' && !startsExponent whole then
            .error ("leading zeros in decimal integer literals are not permitted; " ++
              "use an 0o prefix for octal integers")
          else numberEnd "decimal" rest
where
  startsExponent (rest : List Char) : Bool :=
    rest.head? = some 'e' || rest.head? = some 'E'

def behindNumber (cs : List Char) : Except String (List Char) :=
  let digits := cs.takeWhile fun c => isDigit c || c == '_'
  let zero := digits.head? = some '0' && digits.any fun c => isDigit c && c != '0'
  match cs with
  | '0' :: mark :: more =>
    match base? mark with
    | some b => b.numberEnd more
    | none => decimalEnd zero cs
  | _ => decimalEnd zero cs

def behindShort (quote : Char) : Nat → List Char → Except Nat (List Char × Nat)
  | line, '\\' :: c :: rest => behindShort quote (if c = '\n' then line + 1 else line) rest
  | line, c :: rest =>
    if c = quote then .ok (rest, line)
    else if c = '\n' then .error line
    else behindShort quote line rest
  | line, [] => .error line

def behindLong (quote : Char) : Nat → List Char → Except Nat (List Char × Nat)
  | line, '\\' :: c :: rest => behindLong quote (if c = '\n' then line + 1 else line) rest
  | line, a :: b :: c :: rest =>
    if a = quote ∧ b = quote ∧ c = quote then .ok (rest, line)
    else behindLong quote (if a = '\n' then line + 1 else line) (b :: c :: rest)
  | line, rest => .error (line + rest.count '\n')

def behindQuoted (line : Nat) : List Char → Except String (List Char × Nat)
  | a :: b :: c :: rest =>
    if a = b ∧ b = c then
      match behindLong a line rest with
      | .ok behind => .ok behind
      | .error line =>
        .error s!"unterminated triple-quoted string literal (detected at line {line})"
    else short a (b :: c :: rest)
  | a :: rest => short a rest
  | [] => .ok ([], line)
where
  short (quote : Char) (rest : List Char) : Except String (List Char × Nat) :=
    match behindShort quote line rest with
    | .ok behind => .ok behind
    | .error line => .error s!"unterminated string literal (detected at line {line})"

def quotePrefixes : List String := ["", "b", "u", "r", "f", "br", "rb", "fr", "rf"]

def isBytesPrefix (word : String) : Bool :=
  word.toList.contains 'b'

def strangeCharacter (c : Char) : String :=
  let code := "U+" ++ String.ofList ((Text.hex 4 c.toNat).map Char.toUpper)
  if Text.isPrintable c then
    let character := String.ofList [c]
    s!"invalid character '{character}' ({code})"
  else "invalid non-printable character " ++ code

def strangeInWord? : List Char → Option Char
  | [] => none
  | c :: rest =>
    if Text.startsName c then rest.find? fun d => !Text.continuesName d else some c

def marks : List String := [
  "**=", "//=", ">>=", "<<=", "...", "!=", "%=", "&=", "**", "*=", "+=", "-=", "->", "//", "/=", ":=", "<<",
  "<=", "<>", "==", ">=", ">>", "@=", "^=", "|="]

def markAt (c : Char) (rest : List Char) : String :=
  (marks.find? fun m => m.toList.isPrefixOf (c :: rest)).getD (String.ofList [c])

def isLineBlank (c : Char) : Bool :=
  c == ' ' || c == '\t' || c == '\x0C'

def isIndented (line : List Char) : Bool :=
  match line with
  | c :: _ =>
    isLineBlank c && (line.dropWhile isLineBlank).head?.any fun d => d != '\n' && d != '#'
  | [] => false

structure Opened where
  bracket : Char
  line : Nat

def closingFor (bracket : Char) : Char :=
  if bracket = '(' then ')' else '\x7d'

def depthLimit : Nat := 200

def close (closing : Char) (line : Nat) : List Opened → Except String (List Opened)
  | [] =>
    let closing := String.ofList [closing]
    .error s!"unmatched '{closing}'"
  | opened :: others =>
    if closingFor opened.bracket = closing then .ok others
    else
      let bracket := String.ofList [opened.bracket]
      let closing := String.ofList [closing]
      let problem := s!"closing parenthesis '{closing}' does not match opening parenthesis '{bracket}'"
      let opening := toString opened.line
      .error (if opened.line = line then problem else problem ++ " on line " ++ opening)

def tokensFrom : Nat → Nat → List Opened → List Char → List Placed
  | 0, _, _, _ => []
  | _ + 1, _, opened, [] =>
    match opened with
    | [] => [⟨.finish, 0⟩]
    | last :: _ => [⟨.unclosed last.bracket, opened.length⟩]
  | fuel + 1, line, opened, c :: rest =>
    let depth := opened.length
    let broken (problem : String) : List Placed := [⟨.broken problem true, depth⟩]
    let quoted (word : String) (cs : List Char) : List Placed :=
      match behindQuoted line cs with
      | .error problem => broken problem
      | .ok (behind, line) =>
        let plain := (cs.take (cs.length - behind.length)).all fun d => d.toNat < 128
        ⟨.quoted (isBytesPrefix word) plain, depth⟩ :: tokensFrom fuel line opened behind
    if isLineBlank c then tokensFrom fuel line opened rest
    else if c = '\n' then
      let more := tokensFrom fuel (line + 1) opened rest
      if opened.isEmpty then
        ⟨.lineEnd, 0⟩ :: (if isIndented rest then ⟨.indent, 0⟩ :: more else more)
      else more
    else if c = '#' then tokensFrom fuel line opened (rest.dropWhile (· != '\n'))
    else if isDigit c || (c == '.' && rest.head?.any isDigit) then
      match behindNumber (c :: rest) with
      | .error problem => broken problem
      | .ok behind => ⟨.number, depth⟩ :: tokensFrom fuel line opened behind
    else if isNamePart c then
      let word := c :: rest.takeWhile isNamePart
      let behind := rest.dropWhile isNamePart
      let lower := String.ofList (word.map Char.toLower)
      if quotePrefixes.contains lower && behind.head?.any (fun d => d == '\'' || d == '"') then
        quoted lower behind
      else
        match if word.all (·.toNat < 128) then none else strangeInWord? word with
        | some strange => broken (strangeCharacter strange)
        | none => ⟨.word (String.ofList word), depth⟩ :: tokensFrom fuel line opened behind
    else if c = '\'' ∨ c = '"' then quoted "" (c :: rest)
    else if c = '\\' then
      match rest with
      | '\n' :: more => tokensFrom fuel (line + 1) opened more
      | _ => [⟨.broken "unexpected character after line continuation character" false, depth⟩]
    else if c = '(' ∨ c = '\x7b' then
      if depthLimit ≤ depth then broken "too many nested parentheses"
      else
        ⟨.mark (String.ofList [c]), depth + 1⟩ :: tokensFrom fuel line (⟨c, line⟩ :: opened) rest
    else if c = ')' ∨ c = '\x7d' then
      match close c line opened with
      | .error problem => broken problem
      | .ok others =>
        ⟨.mark (String.ofList [c]), others.length⟩ :: tokensFrom fuel line others rest
    else if Text.isPrintable c then
      let text := markAt c rest
      ⟨.mark text, depth⟩ :: tokensFrom fuel line opened (rest.drop (text.length - 1))
    else broken (strangeCharacter c)

def tokens (cs : List Char) : List Placed :=
  tokensFrom (cs.length + 1) 1 [] cs

end GuardedAutomata.Terminal.Handler
