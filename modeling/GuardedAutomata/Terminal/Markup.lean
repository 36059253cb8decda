import GuardedAutomata.Failure
import GuardedAutomata.Terminal.Emoji
import GuardedAutomata.Terminal.Handler
import GuardedAutomata.Terminal.Style

/-!
# Markup

Text for a terminal may hold tags in brackets, which style the text up to their closing tags and are not
shown themselves. A backslash in front of a tag makes it text; `escape` puts one in front of all tags.
A closing tag must close an open one. A tag may set its name to something: what a name that starts with an at
sign is set to is a handler, which must be readable once the tag is closed; of any other name it is more words
of a style. In the text between tags, names of pictographs stand for what they name.
-/

set_option autoImplicit false

namespace GuardedAutomata.Terminal.Markup

def startsTag (c : Char) : Bool :=
  ('a' ≤ c && c ≤ 'z') || c == '#' || c == '/' || c == '@'

def tagInside? : List Char → Option (List Char)
  | '[' :: c :: rest =>
    if startsTag c then
      let inside := rest.takeWhile fun d => d != ']' && d != '['
      if (rest.drop inside.length).head? = some ']' then some (c :: inside) else none
    else none
  | _ => none

def backslashes (cs : List Char) : Nat :=
  (cs.takeWhile (· == '\\')).length

def guardedTag? (cs : List Char) : Option (Nat × List Char) :=
  (tagInside? (cs.drop (backslashes cs))).map fun inside => (backslashes cs, inside)

inductive Piece where
  | text (cs : List Char)
  | tag (position : Nat) (inside : List Char)

def bareText : List Char → List Char
  | '\\' :: '[' :: rest => '[' :: bareText rest
  | c :: rest => c :: bareText rest
  | [] => []

def guardedPieces (position count : Nat) (inside : List Char) : List Piece :=
  let half := List.replicate (count / 2) '\\'
  .text half ::
    if count % 2 = 1 then [.text ('[' :: inside ++ [']'])]
    else [.tag (position + count) inside]

def piecesFrom : Nat → Nat → List Char → List Char → List Piece
  | 0, _, acc, _ => [.text (bareText acc.reverse)]
  | _ + 1, _, acc, [] => [.text (bareText acc.reverse)]
  | fuel + 1, position, acc, c :: rest =>
    match guardedTag? (c :: rest) with
    | some (count, inside) =>
      let length := count + inside.length + 2
      .text (bareText acc.reverse) ::
        (guardedPieces position count inside ++
          piecesFrom fuel (position + length) [] ((c :: rest).drop length))
    | none => piecesFrom fuel (position + 1) (c :: acc) rest

def pieces (cs : List Char) : List Piece :=
  piecesFrom (cs.length + 1) 0 [] cs

def tagName (inside : List Char) : List Char :=
  inside.takeWhile (· != '=')

def tagSetting? (inside : List Char) : Option (List Char) :=
  match inside.dropWhile (· != '=') with
  | [] => none
  | _ :: setting => some setting

structure OpenTag where
  name : String
  setting : Option (List Char)
  deriving DecidableEq, Repr

namespace OpenTag

def isHandler (t : OpenTag) : Bool :=
  t.name.toList.head? = some '@'

def failure? (t : OpenTag) : Option Failure :=
  if t.isHandler then
    match t.setting with
    | some setting => (Handler.problem? setting).map fun (part, problem) =>
        .badHandler (String.ofList part) (String.ofList setting) problem
    | none => none
  else none

def checkStyle (t : OpenTag) : Except Failure Unit :=
  if t.isHandler then .ok ()
  else
    match t.setting with
    | none => .ok ()
    | some setting =>
      match Style.ofText? (t.name.toList ++ ' ' :: setting) with
      | .ok _ => .ok ()
      | .error cause => .error (.fault cause)

end OpenTag

def closeLast? (name : String) : List OpenTag → Option (OpenTag × List OpenTag)
  | [] => none
  | t :: rest =>
    if t.name = name then some (t, rest)
    else (closeLast? name rest).map fun (closed, others) => (closed, t :: others)

def closed (t : OpenTag) (others : List OpenTag) : Except Failure (List OpenTag) :=
  match t.failure? with
  | some f => .error f
  | none => .ok others

def styleName (cs : List Char) : Except Failure String :=
  match Style.plainName cs with
  | .ok name => .ok name
  | .error cause => .error (.fault cause)

def closingName? (inside : List Char) : Option (List Char) :=
  match tagName inside with
  | '/' :: name => some (Text.trimBlanks name)
  | _ => none

def afterTag (position : Nat) (inside : List Char) (tags : List OpenTag) :
    Except Failure (List OpenTag) :=
  match closingName? inside with
  | some [] =>
    match tags with
    | [] => .error (.nothingToClose position)
    | t :: others => closed t others
  | some name =>
    match styleName name with
    | .error f => .error f
    | .ok plainName =>
      match closeLast? plainName tags with
      | some (t, others) => closed t others
      | none => .error (.unmatchedTag (String.ofList ('[' :: inside ++ [']'])) position)
  | none =>
    match styleName (tagName inside) with
    | .error f => .error f
    | .ok plainName => .ok (⟨plainName, tagSetting? inside⟩ :: tags)

def shown : List OpenTag → List Piece → Except Failure (List Char)
  | _, [] => .ok []
  | tags, .text cs :: rest =>
    match shown tags rest with
    | .ok more => .ok (Emoji.replace cs ++ more)
    | .error f => .error f
  | tags, .tag position inside :: rest =>
    match afterTag position inside tags with
    | .ok tags => shown tags rest
    | .error f => .error f

def checkStyles : List Piece → Except Failure Unit
  | [] => .ok ()
  | .text _ :: rest => checkStyles rest
  | .tag _ inside :: rest =>
    match closingName? inside with
    | some _ => checkStyles rest
    | none =>
      match styleName (tagName inside) with
      | .error f => .error f
      | .ok plainName =>
        match OpenTag.checkStyle ⟨plainName, tagSetting? inside⟩ with
        | .error f => .error f
        | .ok _ => checkStyles rest

def isDropped (c : Char) : Bool :=
  c == '\x07' || c == '\x08' || c == '\x0B' || c == '\x0C' || c == '\x0D'

def plain (cs : List Char) : Except Failure (List Char) :=
  match shown [] (pieces cs) with
  | .error f => .error f
  | .ok text =>
    match checkStyles (pieces cs) with
    | .error f => .error f
    | .ok _ => .ok (text.filter (!isDropped ·))

def escapeTags : Nat → List Char → List Char
  | 0, cs => cs
  | _ + 1, [] => []
  | fuel + 1, c :: rest =>
    match guardedTag? (c :: rest) with
    | some (count, inside) =>
      List.replicate (2 * count + 1) '\\' ++ '[' :: inside ++ ']' ::
        escapeTags fuel ((c :: rest).drop (count + inside.length + 2))
    | none => c :: escapeTags fuel rest

def escape (cs : List Char) : List Char :=
  let escaped := escapeTags (cs.length + 1) cs
  match escaped.reverse with
  | '\\' :: '\\' :: _ => escaped
  | '\\' :: _ => escaped ++ ['\\']
  | _ => escaped

end GuardedAutomata.Terminal.Markup
