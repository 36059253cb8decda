import GuardedAutomata.Document.Yaml.Scalar

/-!
# Tokens of YAML text

The marks, names and scalars that YAML text consists of, with tokens for the starts and ends of blocks,
which the text shows by indentation only. A scalar or collection turns out to be a key when a colon
follows it on its line; the tokens in front of it are then put in afterwards, at the number it was given.
Where the text is not made of tokens any more, the last token says what is wrong with it.
-/

set_option autoImplicit false

namespace GuardedAutomata.Yaml

inductive Token where
  | streamEnd
  | broken (flaw : Flaw)
  | version (major : Nat)
  | tagLead (handle lead : List Char)
  | otherDirective
  | documentStart
  | documentEnd
  | blockSequenceStart
  | blockMappingStart
  | blockEnd
  | flowSequenceStart
  | flowMappingStart
  | flowSequenceEnd
  | flowMappingEnd
  | key
  | value
  | blockEntry
  | flowEntry
  | alias (name : List Char)
  | anchor (name : List Char)
  | tag (handle : Option (List Char)) (suffix : List Char)
  | scalar (text : List Char) (plain : Bool)
  deriving DecidableEq, Repr

structure KeyPlace where
  flowLevel : Nat
  number : Nat
  required : Bool
  index : Nat
  line : Nat
  column : Nat

structure Reading where
  cursor : Cursor
  tokens : List Token
  count : Nat
  flowLevel : Nat
  indent : Int
  indents : List Int
  keyAllowed : Bool
  keys : List KeyPlace

namespace Reading

def start (cs : List Char) : Reading :=
  ⟨.start cs, [], 0, 0, -1, [], true, []⟩

def push (r : Reading) (t : Token) : Reading :=
  { r with tokens := t :: r.tokens, count := r.count + 1 }

def insertAt (r : Reading) (number : Nat) (t : Token) : Reading :=
  let behind := r.count - number
  { r with tokens := r.tokens.take behind ++ t :: r.tokens.drop behind, count := r.count + 1 }

def inFlow (r : Reading) : Bool :=
  r.flowLevel != 0

def forward (r : Reading) (n : Nat) : Reading :=
  { r with cursor := r.cursor.advance n }

def allowKey (r : Reading) (allowed : Bool) : Reading :=
  { r with keyAllowed := allowed }

def isStale (r : Reading) (k : KeyPlace) : Bool :=
  k.line != r.cursor.line || 1024 < r.cursor.index - k.index

def dropStale? (r : Reading) : Option Reading :=
  if r.keys.any fun k => r.isStale k && k.required then none
  else some { r with keys := r.keys.filter fun k => !r.isStale k }

def dropKey? (r : Reading) : Option Reading :=
  if r.keys.any fun k => k.flowLevel == r.flowLevel && k.required then none
  else some { r with keys := r.keys.filter fun k => k.flowLevel != r.flowLevel }

def noteKey? (r : Reading) : Option Reading :=
  if r.keyAllowed then
    r.dropKey?.map fun r =>
      { r with
        keys := ⟨r.flowLevel, r.count, !r.inFlow && r.indent == r.cursor.column, r.cursor.index,
          r.cursor.line, r.cursor.column⟩ :: r.keys }
  else some r

def unwindTo (column : Int) : List Int → Reading → Reading
  | [], r => r
  | outer :: rest, r =>
    if column < r.indent then unwindTo column rest { r.push .blockEnd with indent := outer, indents := rest }
    else r

def unwind (r : Reading) (column : Int) : Reading :=
  if r.inFlow then r else unwindTo column r.indents r

def indentTo (r : Reading) (column : Nat) : Option Reading :=
  if r.indent < column then some { r with indents := r.indent :: r.indents, indent := column } else none

def openBlock (r : Reading) (t : Token) : Reading :=
  match r.indentTo r.cursor.column with
  | some r => r.push t
  | none => r

def toNextToken : Nat → Reading → Reading
  | 0, r => r
  | fuel + 1, r =>
    let c := r.cursor.skipSpaces.skipComment
    if isBreak c.peek then
      toNextToken fuel { r with cursor := c.lineBreak.2, keyAllowed := r.keyAllowed || !r.inFlow }
    else { r with cursor := c }

def skipOrderMark (r : Reading) : Reading :=
  if r.cursor.index == 0 && r.cursor.peek == '\uFEFF' then r.forward 1 else r

/-! ### Names, tags and directives -/

def isNameChar (c : Char) : Bool :=
  c.isAlphanum || c == '-' || c == '_'

def name? (c : Cursor) : Option (List Char × Cursor) :=
  let (name, c) := c.forward.span isNameChar
  if name.isEmpty then none
  else if isGap c.peek || "?:,]\x7d%@\x60".toList.contains c.peek then some (name, c)
  else none

def isUriChar (c : Char) : Bool :=
  c.isAlphanum || "-;/?:@&=+$,_.!~*'()[]".toList.contains c

def escapedBytes? : Nat → List Char → Option (List UInt8 × Nat)
  | 0, _ => some ([], 0)
  | fuel + 1, '%' :: rest =>
    match Json.hexNumber? 2 0 rest with
    | some (n, rest) =>
      (escapedBytes? fuel rest).map fun (bytes, length) => (n.toUInt8 :: bytes, length + 3)
    | none => none
  | _ + 1, _ => some ([], 0)

def uri? : Nat → List Char → Cursor → Option (List Char × Cursor)
  | 0, _, _ => none
  | fuel + 1, acc, c =>
    let (text, c) := c.span isUriChar
    let acc := acc ++ text
    if c.peek == '%' then
      match escapedBytes? c.rest.length c.rest with
      | some (bytes, length) =>
        match String.fromUTF8? ⟨bytes.toArray⟩ with
        | some s => uri? fuel (acc ++ s.toList) (c.advance length)
        | none => none
      | none => none
    else if acc.isEmpty then none
    else some (acc, c)

def tagUri? (c : Cursor) : Option (List Char × Cursor) :=
  uri? (c.rest.length + 1) [] c

def tagHandle? (c : Cursor) : Option (List Char × Cursor) :=
  if c.peek != '!' then none
  else if c.peekAt 1 == ' ' then some (['!'], c.forward)
  else
    let (name, d) := c.forward.span isNameChar
    if d.peek == '!' then some ('!' :: (name ++ ['!']), d.forward) else none

def hasHandle (c : Cursor) : Bool :=
  ((c.forward.rest.takeWhile fun ch => !isSpaceOrEnd ch)).contains '!'

def tagToken? (c : Cursor) : Option (Token × Cursor) := do
  let next := c.peekAt 1
  let (handle, suffix, c) ←
    if next == '<' then do
      let (suffix, c) ← tagUri? (c.advance 2)
      if c.peek == '>' then some (none, suffix, c.forward) else none
    else if isGap next then some (none, ['!'], c.forward)
    else if hasHandle c then do
      let (handle, c) ← tagHandle? c
      let (suffix, c) ← tagUri? c
      some (some handle, suffix, c)
    else do
      let (suffix, c) ← tagUri? c.forward
      some (some ['!'], suffix, c)
  if isSpaceOrEnd c.peek then some (.tag handle suffix, c) else none

def versionNumber? (c : Cursor) : Option (Nat × Cursor) :=
  let (digits, c) := c.span Char.isDigit
  if digits.isEmpty then none else some (Decimal.digitsValue digits, c)

def versionDirective? (c : Cursor) : Option (Token × Cursor) := do
  let (major, c) ← versionNumber? c.skipSpaces
  if c.peek != '.' then none
  else
    let (_, c) ← versionNumber? c.forward
    if isSpaceOrEnd c.peek then some (.version major, c) else none

def tagDirective? (c : Cursor) : Option (Token × Cursor) := do
  let (handle, c) ← tagHandle? c.skipSpaces
  if c.peek != ' ' then none
  else
    let (lead, c) ← tagUri? c.skipSpaces
    if isSpaceOrEnd c.peek then some (.tagLead handle lead, c) else none

def directive? (c : Cursor) : Option (Token × Cursor) := do
  let (name, c) := c.forward.span isNameChar
  if name.isEmpty || !isSpaceOrEnd c.peek then none
  else
    let (token, c) ←
      if name == "YAML".toList then versionDirective? c
      else if name == "TAG".toList then tagDirective? c
      else some (.otherDirective, c.skip (!isBreakOrEnd ·))
    let c ← c.restOfLine?
    some (token, c)

/-! ### Single tokens -/

def take (r : Reading) (read : Token × Cursor) : Reading :=
  { r.push read.1 with cursor := read.2 }

def documentMark? (r : Reading) (t : Token) : Option Reading := do
  let r ← (r.unwind (-1)).dropKey?
  some (((r.allowKey false).forward 3).push t)

def flowStart? (r : Reading) (t : Token) : Option Reading := do
  let r ← r.noteKey?
  some ((({ r with flowLevel := r.flowLevel + 1 }.allowKey true).forward 1).push t)

def flowEnd? (r : Reading) (t : Token) : Option Reading :=
  if r.flowLevel = 0 then none
  else do
    let r ← r.dropKey?
    some ((({ r with flowLevel := r.flowLevel - 1 }.allowKey false).forward 1).push t)

def flowEntry? (r : Reading) : Option Reading := do
  let r ← (r.allowKey true).dropKey?
  some ((r.forward 1).push .flowEntry)

def blockMark? (r : Reading) (start t : Token) (keyAfter : Bool) : Option Reading :=
  if !r.inFlow && !r.keyAllowed then none
  else do
    let r := if r.inFlow then r else r.openBlock start
    let r ← (r.allowKey keyAfter).dropKey?
    some ((r.forward 1).push t)

def valueMark? (r : Reading) : Option Reading :=
  match r.keys.find? (·.flowLevel == r.flowLevel) with
  | some k =>
    let r := { r with keys := r.keys.filter fun j => j.flowLevel != r.flowLevel }
    let r := r.insertAt k.number .key
    let r :=
      if r.inFlow then r
      else
        match r.indentTo k.column with
        | some r => r.insertAt k.number .blockMappingStart
        | none => r
    some (((r.allowKey false).forward 1).push .value)
  | none => r.blockMark? .blockMappingStart .value (!r.inFlow)

def keyed (r : Reading) (read : Except Flaw (Token × Cursor)) : Except Flaw Reading := do
  let r ← Flaw.require r.noteKey?
  let read ← read
  .ok ((r.allowKey false).take read)

def named (r : Reading) (token : List Char → Token) : Except Flaw Reading :=
  r.keyed (Flaw.require ((name? r.cursor).map fun (name, c) => (token name, c)))

def quoted (r : Reading) (double : Bool) : Except Flaw Reading :=
  r.keyed ((quotedScalar double r.cursor).map fun (text, c) => (.scalar text false, c))

def blockScalarToken? (r : Reading) (folded : Bool) : Option Reading := do
  let r ← (r.allowKey true).dropKey?
  let (text, c) ← blockScalar? folded r.indent r.cursor
  some (r.take (.scalar text false, c))

def plainToken? (r : Reading) : Option Reading := do
  let r ← r.noteKey?
  let p := plainScalar r.inFlow (r.indent + 1).toNat r.cursor
  some ((r.take (.scalar p.text true, p.cursor)).allowKey p.lineEnded)

def startsPlain (r : Reading) : Bool :=
  let ch := r.cursor.peek
  !(isGap ch || "-?:,[]\x7b\x7d#&*!|>'\"%@\x60".toList.contains ch) ||
    (!isGap (r.cursor.peekAt 1) && (ch == '-' || (!r.inFlow && (ch == '?' || ch == ':'))))

def bareToken? (r : Reading) : Option Reading :=
  let c := r.cursor
  let apart := isGap (c.peekAt 1)
  match c.peek with
  | '[' => r.flowStart? .flowSequenceStart
  | '{' => r.flowStart? .flowMappingStart
  | ']' => r.flowEnd? .flowSequenceEnd
  | '}' => r.flowEnd? .flowMappingEnd
  | ',' => r.flowEntry?
  | ch =>
    if ch == '-' && apart then r.blockMark? .blockSequenceStart .blockEntry true
    else if ch == '?' && (r.inFlow || apart) then r.blockMark? .blockMappingStart .key (!r.inFlow)
    else if ch == ':' && (r.inFlow || apart) then r.valueMark?
    else if ch == '|' && !r.inFlow then r.blockScalarToken? false
    else if ch == '>' && !r.inFlow then r.blockScalarToken? true
    else if r.startsPlain then r.plainToken?
    else none

def token (r : Reading) : Except Flaw Reading :=
  match r.cursor.peek with
  | '*' => r.named .alias
  | '&' => r.named .anchor
  | '!' => r.keyed (Flaw.require (tagToken? r.cursor))
  | '\'' => r.quoted false
  | '"' => r.quoted true
  | _ => Flaw.require r.bareToken?

def finish? (r : Reading) : Option Reading := do
  let r ← (r.unwind (-1)).dropKey?
  some (r.push .streamEnd)

def directiveToken? (r : Reading) : Option Reading := do
  let r ← (r.unwind (-1)).dropKey?
  let read ← directive? r.cursor
  some ((r.allowKey false).take read)

def next (r : Reading) : Except Flaw Reading := do
  let r := r.skipOrderMark
  let r ← Flaw.require (toNextToken (r.cursor.rest.length + 1) r).dropStale?
  let r := r.unwind r.cursor.column
  let c := r.cursor
  if c.rest.isEmpty then Flaw.require r.finish?
  else if c.peek == '%' && c.column == 0 then Flaw.require r.directiveToken?
  else if c.column == 0 && c.atMarks '-' then Flaw.require (r.documentMark? .documentStart)
  else if c.column == 0 && c.atMarks '.' then Flaw.require (r.documentMark? .documentEnd)
  else r.token

def readAll : Nat → Reading → Reading
  | 0, r => r.push (.broken .malformed)
  | fuel + 1, r =>
    match r.next with
    | .error flaw => r.push (.broken flaw)
    | .ok s => if s.tokens.head? = some .streamEnd then s else readAll fuel s

end Reading

def Token.scan (cs : List Char) : List Token × Bool :=
  if cs.all isAllowed then
    let r := Reading.readAll (cs.length + 2) (.start cs)
    (r.tokens.reverse, r.cursor.halved)
  else ([.broken .malformed], false)

end GuardedAutomata.Yaml
