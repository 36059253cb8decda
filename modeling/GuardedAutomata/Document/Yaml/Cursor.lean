/-!
# Positions in YAML text

A cursor stands in front of the text still to be read and knows its line and column. The end of the text
reads as the character NUL, which YAML text cannot hold.
-/

set_option autoImplicit false

namespace GuardedAutomata.Yaml

def isBreak (c : Char) : Bool :=
  c == '\n' || c == '\r' || c == '\x85' || c == '\u2028' || c == '\u2029'

def isBreakOrEnd (c : Char) : Bool :=
  isBreak c || c == '\x00'

def isGap (c : Char) : Bool :=
  isBreakOrEnd c || c == ' ' || c == '\t'

def isSpaceOrEnd (c : Char) : Bool :=
  isBreakOrEnd c || c == ' '

def isAllowed (c : Char) : Bool :=
  let n := c.toNat
  n == 9 || n == 10 || n == 13 || (0x20 ≤ n && n ≤ 0x7E) || n == 0x85 || (0xA0 ≤ n && n ≤ 0xD7FF) ||
    (0xE000 ≤ n && n ≤ 0xFFFD) || 0x10000 ≤ n

structure Cursor where
  rest : List Char
  index : Nat
  line : Nat
  column : Nat
  halved : Bool

namespace Cursor

def start (cs : List Char) : Cursor := ⟨cs, 0, 0, 0, false⟩

def peek (c : Cursor) : Char :=
  c.rest.headD '\x00'

def peekAt (c : Cursor) (k : Nat) : Char :=
  (c.rest.drop k).headD '\x00'

def forward (c : Cursor) : Cursor :=
  match c.rest with
  | [] => c
  | ch :: rest =>
    let next := { c with rest := rest, index := c.index + 1 }
    if isBreak ch && !(ch == '\r' && rest.headD '\x00' == '\n') then
      { next with line := c.line + 1, column := 0 }
    else { next with column := if ch == '\uFEFF' then c.column else c.column + 1 }

def advance : Nat → Cursor → Cursor
  | 0, c => c
  | n + 1, c => advance n c.forward

def span (p : Char → Bool) (c : Cursor) : List Char × Cursor :=
  let taken := c.rest.takeWhile p
  (taken, c.advance taken.length)

def skip (p : Char → Bool) (c : Cursor) : Cursor :=
  (c.span p).2

def skipSpaces (c : Cursor) : Cursor :=
  c.skip (· == ' ')

def skipIndent (bound : Nat) (c : Cursor) : Cursor :=
  c.advance (min (c.rest.takeWhile (· == ' ')).length (bound - c.column))

def lineBreak (c : Cursor) : List Char × Cursor :=
  match c.rest with
  | '\r' :: '\n' :: _ => (['\n'], c.advance 2)
  | ch :: _ =>
    if ch == '\u2028' || ch == '\u2029' then ([ch], c.forward)
    else if isBreak ch then (['\n'], c.forward)
    else ([], c)
  | [] => ([], c)

def skipComment (c : Cursor) : Cursor :=
  if c.peek == '#' then c.skip (!isBreakOrEnd ·) else c

def restOfLine? (c : Cursor) : Option Cursor :=
  let c := c.skipSpaces.skipComment
  if isBreakOrEnd c.peek then some c.lineBreak.2 else none

def atMarks (mark : Char) (c : Cursor) : Bool :=
  c.rest.take 3 == [mark, mark, mark] && isGap (c.peekAt 3)

def atDocumentMark (c : Cursor) : Bool :=
  c.atMarks '-' || c.atMarks '.'

end Cursor

end GuardedAutomata.Yaml
