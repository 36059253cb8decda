import GuardedAutomata.Terminal.Color
import GuardedAutomata.Text.Lowercase

/-!
# Names of styles

The style that a tag names has one plainest name: its attributes in a fixed order under their long names,
then its color, its background and its link. Two names of one style open and close each other. What names
no style is its own name in lower case.
-/

set_option autoImplicit false

namespace GuardedAutomata.Terminal

inductive StyleAttribute where
  | bold
  | dim
  | italic
  | underline
  | blink
  | blink2
  | reverse
  | conceal
  | strike
  | underline2
  | frame
  | encircle
  | overline
  deriving DecidableEq, Repr

namespace StyleAttribute

def all : List StyleAttribute :=
  [bold, dim, italic, underline, blink, blink2, reverse, conceal, strike, underline2, frame, encircle,
    overline]

def name : StyleAttribute → String
  | bold => "bold"
  | dim => "dim"
  | italic => "italic"
  | underline => "underline"
  | blink => "blink"
  | blink2 => "blink2"
  | reverse => "reverse"
  | conceal => "conceal"
  | strike => "strike"
  | underline2 => "underline2"
  | frame => "frame"
  | encircle => "encircle"
  | overline => "overline"

def ofShortName? : String → Option StyleAttribute
  | "b" => some bold
  | "d" => some dim
  | "i" => some italic
  | "u" => some underline
  | "r" => some reverse
  | "c" => some conceal
  | "s" => some strike
  | "uu" => some underline2
  | "o" => some overline
  | _ => none

def ofName? (word : String) : Option StyleAttribute :=
  match all.find? (·.name == word) with
  | some a => some a
  | none => ofShortName? word

end StyleAttribute

structure Style where
  attributes : List (StyleAttribute × Bool)
  color : Option String
  background : Option String
  link : Option String

namespace Style

def blank : Style := ⟨[], none, none, none⟩

def withColor? (word : String) (put : String → Style) : Except Fault (Option Style) :=
  let lowered := Text.lower word
  match Color.isColor lowered.toList with
  | .ok true => .ok (some (put lowered))
  | .ok false => .ok none
  | .error cause => .error cause

def ofWords? : Style → List String → Except Fault (Option Style)
  | s, [] => .ok (some s)
  | s, first :: rest =>
    match Text.lower first, rest with
    | "on", [] => .ok none
    | "not", [] => .ok none
    | "link", [] => .ok none
    | "on", word :: rest =>
      match withColor? word fun c => { s with background := some c } with
      | .ok (some s) => ofWords? s rest
      | other => other
    | "not", word :: rest =>
      match StyleAttribute.ofName? word with
      | some a => ofWords? { s with attributes := (a, false) :: s.attributes } rest
      | none => .ok none
    | "link", word :: rest => ofWords? { s with link := some word } rest
    | word, rest =>
      match StyleAttribute.ofName? word with
      | some a => ofWords? { s with attributes := (a, true) :: s.attributes } rest
      | none =>
        match withColor? word fun c => { s with color := some c } with
        | .ok (some s) => ofWords? s rest
        | other => other

def attributeWords (s : Style) : List String :=
  StyleAttribute.all.filterMap fun a =>
    (s.attributes.lookup a).map fun on => if on then a.name else "not " ++ a.name

def name (s : Style) : String :=
  let words := s.attributeWords ++ s.color.toList ++ (s.background.toList.flatMap fun c => ["on", c]) ++
    (s.link.toList.flatMap fun l => ["link", l])
  if words.isEmpty then "none" else " ".intercalate words

def ofText? (cs : List Char) : Except Fault (Option Style) :=
  ofWords? blank ((Text.words cs).map String.ofList)

def plainName (cs : List Char) : Except Fault String :=
  match ofText? cs with
  | .ok (some s) => .ok s.name
  | .ok none => .ok (Text.lower (String.ofList (Text.trimBlanks cs)))
  | .error cause => .error cause

end Style

end GuardedAutomata.Terminal
