import GuardedAutomata.Document.Json
import GuardedAutomata.Document.Yaml.Cursor

/-!
# Scalars in YAML text

Plain scalars, scalars in single and double quotes, and literal and folded blocks, each as the text it
stands for and the cursor behind it.
-/

set_option autoImplicit false

namespace GuardedAutomata.Yaml

inductive Flaw where
  | malformed
  | badCharacter
  deriving DecidableEq, Repr

namespace Flaw

def problem : Flaw → Problem
  | malformed => .malformed
  | badCharacter => .fault .badCharacter

def require {α : Type} : Option α → Except Flaw α
  | some a => .ok a
  | none => .error malformed

end Flaw

/-! ### Quoted scalars -/

def quotedBreaks : Nat → Cursor → Except Flaw (List Char × Cursor)
  | 0, _ => .error .malformed
  | fuel + 1, c =>
    if c.atDocumentMark then .error .malformed
    else
      let c := c.skip fun ch => ch == ' ' || ch == '\t'
      if isBreak c.peek then
        let (lineEnd, c) := c.lineBreak
        (quotedBreaks fuel c).map fun (more, c) => (lineEnd ++ more, c)
      else .ok ([], c)

def foldedBreaks (lineEnd breaks : List Char) : List Char :=
  if lineEnd != ['\n'] then lineEnd ++ breaks else if breaks.isEmpty then [' '] else breaks

def quotedBlanks (c : Cursor) : Except Flaw (List Char × Cursor) :=
  let (blanks, c) := c.span fun ch => ch == ' ' || ch == '\t'
  if c.peek == '\x00' then .error .malformed
  else if isBreak c.peek then
    let (lineEnd, c) := c.lineBreak
    (quotedBreaks (c.rest.length + 1) c).map fun (breaks, c) => (foldedBreaks lineEnd breaks, c)
  else .ok (blanks, c)

def simpleEscape? : Char → Option Char
  | '0' => some '\x00'
  | 'a' => some '\x07'
  | 'b' => some '\x08'
  | 't' => some '\t'
  | '\t' => some '\t'
  | 'n' => some '\n'
  | 'v' => some '\x0B'
  | 'f' => some '\x0C'
  | 'r' => some '\r'
  | 'e' => some '\x1B'
  | ' ' => some ' '
  | '"' => some '"'
  | '\\' => some '\\'
  | '/' => some '/'
  | 'N' => some '\x85'
  | '_' => some '\u00A0'
  | 'L' => some '\u2028'
  | 'P' => some '\u2029'
  | _ => none

def escapeWidth? : Char → Option Nat
  | 'x' => some 2
  | 'u' => some 4
  | 'U' => some 8
  | _ => none

def character (n : Nat) : Except Flaw (Option Char) :=
  if 0x110000 ≤ n then .error .badCharacter
  else if 0xD800 ≤ n ∧ n < 0xE000 then .ok none
  else .ok (some (Char.ofNat n))

def takeCharacter (c : Cursor) (width : Nat) : Option Char → List Char × Cursor
  | some ch => ([ch], c.advance width)
  | none => ([], { c.advance width with halved := true })

def quotedEscape (c : Cursor) : Except Flaw (List Char × Cursor) :=
  match simpleEscape? c.peek with
  | some ch => if c.rest.isEmpty then .error .malformed else .ok ([ch], c.forward)
  | none =>
    match escapeWidth? c.peek with
    | some width =>
      let c := c.forward
      match Json.hexNumber? width 0 c.rest with
      | some (n, _) => (character n).map (takeCharacter c width)
      | none => .error .malformed
    | none =>
      if isBreak c.peek then
        let c := c.lineBreak.2
        quotedBreaks (c.rest.length + 1) c
      else .error .malformed

def quotedText (double : Bool) : Nat → List Char → Cursor → Except Flaw (List Char × Cursor)
  | 0, _, _ => .error .malformed
  | fuel + 1, acc, c =>
    let continueWith (read : Except Flaw (List Char × Cursor)) : Except Flaw (List Char × Cursor) :=
      match read with
      | .ok (text, c) => quotedText double fuel (acc ++ text) c
      | .error flaw => .error flaw
    match c.rest with
    | [] => .error .malformed
    | '\'' :: rest =>
      if double then continueWith (.ok (['\''], c.forward))
      else if rest.headD '\x00' == '\'' then continueWith (.ok (['\''], c.advance 2))
      else .ok (acc, c.forward)
    | '"' :: _ => if double then .ok (acc, c.forward) else continueWith (.ok (['"'], c.forward))
    | '\\' :: _ =>
      if double then continueWith (quotedEscape c.forward)
      else continueWith (.ok (['\\'], c.forward))
    | ch :: _ =>
      if isGap ch then continueWith (quotedBlanks c)
      else
        continueWith
          (.ok (c.span fun ch => !isGap ch && ch != '\'' && ch != '"' && ch != '\\'))

def quotedScalar (double : Bool) (c : Cursor) : Except Flaw (List Char × Cursor) :=
  quotedText double (c.rest.length + 1) [] c.forward

/-! ### Plain scalars -/

def endsPlain (inFlow : Bool) (ch next : Char) : Bool :=
  isGap ch ||
    (ch == ':' && (isGap next || (inFlow && ",[]\x7b\x7d".toList.contains next))) ||
    (inFlow && ",?[]\x7b\x7d".toList.contains ch)

def plainLength (inFlow : Bool) : List Char → Nat
  | [] => 0
  | ch :: rest => if endsPlain inFlow ch (rest.headD '\x00') then 0 else plainLength inFlow rest + 1

def plainBreaks : Nat → Cursor → Option (List Char) × Cursor
  | 0, c => (some [], c)
  | fuel + 1, c =>
    let c := c.skipSpaces
    if isBreak c.peek then
      let (lineEnd, c) := c.lineBreak
      if c.atDocumentMark then (none, c)
      else
        match plainBreaks fuel c with
        | (some more, c) => (some (lineEnd ++ more), c)
        | (none, c) => (none, c)
    else (some [], c)

def plainBlanks (c : Cursor) : List Char × Bool × Cursor :=
  let (spaces, c) := c.span (· == ' ')
  if isBreak c.peek then
    let (lineEnd, c) := c.lineBreak
    if c.atDocumentMark then ([], true, c)
    else
      match plainBreaks (c.rest.length + 1) c with
      | (some breaks, c) => (foldedBreaks lineEnd breaks, true, c)
      | (none, c) => ([], true, c)
  else (spaces, false, c)

structure Plain where
  text : List Char
  lineEnded : Bool
  cursor : Cursor

def plainParts (inFlow : Bool) (indent : Nat) : Nat → List Char → List Char → Bool → Cursor → Plain
  | 0, acc, _, lineEnded, c => ⟨acc, lineEnded, c⟩
  | fuel + 1, acc, blanks, lineEnded, c =>
    let length := if c.peek == '#' then 0 else plainLength inFlow c.rest
    if length = 0 then ⟨acc, lineEnded, c⟩
    else
      let acc := acc ++ blanks ++ c.rest.take length
      let (blanks, lineEnded, c) := plainBlanks (c.advance length)
      if blanks.isEmpty || c.peek == '#' || (!inFlow && c.column < indent) then ⟨acc, lineEnded, c⟩
      else plainParts inFlow indent fuel acc blanks lineEnded c

def plainScalar (inFlow : Bool) (indent : Nat) (c : Cursor) : Plain :=
  plainParts inFlow indent (c.rest.length + 1) [] [] false c

/-! ### Block scalars -/

inductive Chomping where
  | clip
  | strip
  | keep
  deriving DecidableEq

def chomping? : Char → Option Chomping
  | '+' => some .keep
  | '-' => some .strip
  | _ => none

def indentDigit? (c : Char) : Option Nat :=
  if c.isDigit then some (c.toNat - '0'.toNat) else none

def blockIndicators? (c : Cursor) : Option (Chomping × Option Nat × Cursor) :=
  let finish (chomping : Chomping) (increment : Option Nat) (c : Cursor) :
      Option (Chomping × Option Nat × Cursor) :=
    if increment == some 0 || !isSpaceOrEnd c.peek then none else some (chomping, increment, c)
  match chomping? c.peek with
  | some chomping =>
    let c := c.forward
    match indentDigit? c.peek with
    | some n => finish chomping (some n) c.forward
    | none => finish chomping none c
  | none =>
    match indentDigit? c.peek with
    | some n =>
      let c := c.forward
      match chomping? c.peek with
      | some chomping => finish chomping (some n) c.forward
      | none => finish .clip (some n) c
    | none => finish .clip none c

def blockIndentation : Nat → Nat → Cursor → List Char × Nat × Cursor
  | 0, most, c => ([], most, c)
  | fuel + 1, most, c =>
    let c := c.skipSpaces
    let most := max most c.column
    if isBreak c.peek then
      let (lineEnd, c) := c.lineBreak
      let (more, most, c) := blockIndentation fuel most c
      (lineEnd ++ more, most, c)
    else ([], most, c)

def blockBreaks (indent : Nat) : Nat → Cursor → List Char × Cursor
  | 0, c => ([], c)
  | fuel + 1, c =>
    let c := c.skipIndent indent
    if isBreak c.peek then
      let (lineEnd, c) := c.lineBreak
      let (more, c) := blockBreaks indent fuel c
      (lineEnd ++ more, c)
    else ([], c)

def isIndented (c : Char) : Bool :=
  c == ' ' || c == '\t'

def blockLines (folded : Bool) (indent : Nat) :
    Nat → List Char → List Char → List Char → Cursor → List Char × List Char × List Char × Cursor
  | 0, acc, lineEnd, breaks, c => (acc, lineEnd, breaks, c)
  | fuel + 1, acc, lineEnd, breaks, c =>
    if c.column == indent && c.peek != '\x00' then
      let flush := !isIndented c.peek
      let (line, c) := c.span (!isBreakOrEnd ·)
      let acc := acc ++ breaks ++ line
      let (lineEnd, c) := c.lineBreak
      let (breaks, c) := blockBreaks indent (c.rest.length + 1) c
      if c.column == indent && c.peek != '\x00' then
        let joint :=
          if folded && lineEnd == ['\n'] && flush && !isIndented c.peek then
            (if breaks.isEmpty then [' '] else [])
          else lineEnd
        blockLines folded indent fuel (acc ++ joint) lineEnd breaks c
      else (acc, lineEnd, breaks, c)
    else (acc, lineEnd, breaks, c)

def blockScalar? (folded : Bool) (outer : Int) (c : Cursor) : Option (List Char × Cursor) := do
  let (chomping, increment, c) ← blockIndicators? c.forward
  let c ← c.restOfLine?
  let least := (outer + 1).toNat.max 1
  let (breaks, indent, c) :=
    match increment with
    | none =>
      let (breaks, most, c) := blockIndentation (c.rest.length + 1) 0 c
      (breaks, least.max most, c)
    | some n =>
      let indent := least + n - 1
      let (breaks, c) := blockBreaks indent (c.rest.length + 1) c
      (breaks, indent, c)
  let (text, lineEnd, breaks, c) := blockLines folded indent (c.rest.length + 1) [] [] breaks c
  match chomping with
  | .clip => some (text ++ lineEnd, c)
  | .strip => some (text, c)
  | .keep => some (text ++ lineEnd ++ breaks, c)

end GuardedAutomata.Yaml
