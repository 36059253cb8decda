import GuardedAutomata.Terminal.Grapheme
import GuardedAutomata.Text.Blank
import GuardedAutomata.Text.Split

/-!
# Lines of a width

Text is broken into lines at the blanks behind its words, and as many words go on a line as fit on it. A
word that fits on no line is folded, or cut off with an ellipsis. Blanks behind the last word of a line
stay as far as they fit.
-/

set_option autoImplicit false

namespace GuardedAutomata.Terminal

inductive Overflow where
  | fold
  | ellipsis
  deriving DecidableEq, Repr

def trimEnd (cs : List Char) : List Char :=
  (cs.reverse.dropWhile Text.isBlank).reverse

/-! ### Tabs -/

def fillTabs : Nat → List (List Char) → List Char
  | _, [] => []
  | _, [part] => part
  | column, part :: rest =>
    let reached := column + width (part ++ [' '])
    let stop := (reached + 7) / 8 * 8
    part ++ List.replicate (1 + stop - reached) ' ' ++ fillTabs stop rest

def expandTabs (line : List Char) : List Char :=
  fillTabs 0 (Text.splitAt '\t' line)

/-! ### Words -/

def wordsWithBlanks : Bool → List Char → List Char → List (List Char)
  | _, word, [] => if word.all Text.isBlank then [] else [word]
  | inBlanks, word, c :: rest =>
    if Text.isBlank c then wordsWithBlanks (!word.all Text.isBlank) (word ++ [c]) rest
    else if inBlanks then word :: wordsWithBlanks false [c] rest
    else wordsWithBlanks false (word ++ [c]) rest

def fillLines (most : Nat) (o : Overflow) : Nat → List Char → List (List Char) → List (List Char)
  | _, line, [] => [line]
  | used, line, word :: rest =>
    let length := width (trimEnd word)
    if used + length ≤ most then fillLines most o (used + width word) (line ++ word) rest
    else if length ≤ most then line :: fillLines most o (width word) word rest
    else
      match o with
      | .ellipsis =>
        (if line.isEmpty then [] else [line]) ++ fillLines most o (width word) word rest
      | .fold =>
        let parts := Grapheme.fold most 0 [] (Grapheme.ofText word)
        let last := parts.getLastD []
        (if line.isEmpty then [] else [line]) ++ parts.dropLast ++ fillLines most o (width last) last rest

/-! ### Lines -/

def trimBeyond (most : Nat) (line : List Char) : List Char :=
  let blanks := line.length - (trimEnd line).length
  line.take (line.length - min blanks (line.length - most))

def truncate (most : Nat) (o : Overflow) (line : List Char) : List Char :=
  if width line ≤ most then line
  else
    match o with
    | .fold => Grapheme.cut most (Grapheme.ofText line)
    | .ellipsis => Grapheme.cut (most - 1) (Grapheme.ofText line) ++ ['…']

def wrapLine (most : Nat) (o : Overflow) (line : List Char) : List (List Char) :=
  let line := expandTabs line
  match wordsWithBlanks false [] line with
  | [] => [trimBeyond most line]
  | words => (fillLines most o 0 [] words).map (trimBeyond most)

def wrap (most : Nat) (o : Overflow) (text : List Char) : List (List Char) :=
  ((Text.splitAt '\n' text).flatMap (wrapLine most o)).map (truncate most o)

def fill (most : Nat) (line : List Char) : List Char :=
  line ++ List.replicate (most - width line) ' '

/-- A line filled with blanks to a width. A joiner at its end joins the first blank, so the filled line is
measured and filled once more. -/
def padRight (most : Nat) (line : List Char) : List Char :=
  fill most (fill most line)

def center (most : Nat) (line : List Char) : List Char :=
  let line := trimEnd line
  fill most (List.replicate ((most - width line) / 2) ' ' ++ line)

end GuardedAutomata.Terminal
