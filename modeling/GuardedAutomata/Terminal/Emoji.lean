import GuardedAutomata.Terminal.EmojiNames
import GuardedAutomata.Text.Blank
import GuardedAutomata.Text.Lowercase

/-!
# Pictographs by name

The name of a pictograph between two colons stands for it. Behind the name may stand in which form it is shown,
as text or as a pictograph. A name that names nothing stays with its colons.
-/

set_option autoImplicit false

namespace GuardedAutomata.Terminal.Emoji

def pairs : List (List Char) → List (String × List Char)
  | name :: shown :: rest => (String.ofList name, shown) :: pairs rest
  | _ => []

def named : List (String × List Char) :=
  nameLines.flatMap fun line => pairs (Text.words line.toList)

inductive Form where
  | emoji
  | text
  deriving DecidableEq, Repr

namespace Form

def suffix : Form → List Char
  | emoji => "-emoji".toList
  | text => "-text".toList

def selector : Form → Char
  | emoji => '\uFE0F'
  | text => '\uFE0E'

def ofFront? (cs : List Char) : Option Form :=
  [emoji, text].find? fun f => (f.suffix ++ [':']).isPrefixOf cs

end Form

structure Code where
  name : List Char
  form : Option Form

namespace Code

def read? (name : List Char) : List Char → Option Code
  | [] => none
  | c :: rest =>
    match Form.ofFront? (c :: rest) with
    | some f => some ⟨name.reverse, some f⟩
    | none =>
      if c = ':' then some ⟨name.reverse, none⟩
      else if Text.isBlank c then none
      else read? (c :: name) rest

def written (code : Code) : List Char :=
  code.name ++ (code.form.toList.flatMap Form.suffix) ++ [':']

def shown (code : Code) : List Char :=
  match named.lookup (Text.lower (String.ofList code.name)) with
  | some cs => cs ++ code.form.toList.map Form.selector
  | none => ':' :: code.written

end Code

def replaceFrom : Nat → List Char → List Char
  | _, [] => []
  | skip + 1, _ :: rest => replaceFrom skip rest
  | 0, c :: rest =>
    if c = ':' then
      match Code.read? [] rest with
      | some code => code.shown ++ replaceFrom code.written.length rest
      | none => c :: replaceFrom 0 rest
    else c :: replaceFrom 0 rest

def replace (cs : List Char) : List Char :=
  replaceFrom 0 cs

end GuardedAutomata.Terminal.Emoji
