import GuardedAutomata.Terminal.Width

/-!
# Graphemes

A text is made of graphemes: a character with those that combine with it, are joined to it or select its
form. A line is cut only between graphemes, and no character is lost or moved by taking a text apart.
-/

set_option autoImplicit false

namespace GuardedAutomata.Terminal

structure Grapheme where
  text : List Char
  width : Nat

namespace Grapheme

def start (c : Char) : Grapheme :=
  ⟨[c], charWidth c⟩

def extend (g : Grapheme) (cs : List Char) : Grapheme :=
  { g with text := g.text ++ cs }

def widen (g : Grapheme) (cells : Nat) : Grapheme :=
  { g with width := g.width + cells }

def behind (g : Grapheme) (last : Option Char) : List Char → List Grapheme
  | [] => [g]
  | [c] =>
    if c = joiner then [g.extend [c]]
    else if c = pictographSelector then [(g.extend [c]).widen (selectorWidth last)]
    else if charWidth c = 0 then [g.extend [c]]
    else [g, start c]
  | c :: d :: rest =>
    if c = joiner then behind (g.extend [c, d]) last rest
    else if c = pictographSelector then
      behind ((g.extend [c]).widen (selectorWidth last)) none (d :: rest)
    else if charWidth c = 0 then behind (g.extend [c]) last (d :: rest)
    else g :: behind (start c) (some c) (d :: rest)

def ofText : List Char → List Grapheme
  | [] => []
  | c :: rest => behind (start c) (if charWidth c = 0 then none else some c) rest

def toText (gs : List Grapheme) : List Char :=
  gs.flatMap text

theorem toText_behind (g : Grapheme) (last : Option Char) (cs : List Char) :
    toText (behind g last cs) = g.text ++ cs := by
  fun_induction behind g last cs with
  | case1 => simp [toText]
  | case2 => simp [toText, extend]
  | case3 => simp [toText, extend, widen]
  | case4 => simp [toText, extend]
  | case5 => simp [toText, start]
  | case6 g last d rest ih => simp_all [extend]
  | case7 g last d rest _ ih => simp_all [extend, widen]
  | case8 g last c d rest _ _ _ ih => simp_all [extend]
  | case9 g last c d rest _ _ _ ih => simp_all [toText, start]

theorem toText_ofText (cs : List Char) : toText (ofText cs) = cs := by
  cases cs with
  | nil => rfl
  | cons c rest => rw [ofText, toText_behind]; rfl

def cut : Nat → List Grapheme → List Char
  | 0, _ => []
  | _, [] => []
  | most + 1, g :: rest =>
    if g.width ≤ most + 1 then g.text ++ cut (most + 1 - g.width) rest else [' ']

def fold (most : Nat) : Nat → List Char → List Grapheme → List (List Char)
  | _, part, [] => [part]
  | used, part, g :: rest =>
    if most < used + g.width then part :: fold most g.width g.text rest
    else fold most (used + g.width) (part ++ g.text) rest

end Grapheme

end GuardedAutomata.Terminal
