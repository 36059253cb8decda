import GuardedAutomata.Terminal.Markup
import GuardedAutomata.Terminal.Wrap

/-!
# Trees

A tree shows its label and below it its branches, with guides that lead from a label to its branches. A
label is markup and may take several lines.
-/

set_option autoImplicit false

namespace GuardedAutomata.Terminal

inductive Tree where
  | node (label : List Char) (branches : List Tree)

namespace Tree

def firstGuide (last : Bool) : List Char :=
  if last then "└── ".toList else "├── ".toList

def nextGuide (last : Bool) : List Char :=
  if last then "    ".toList else "│   ".toList

def guideLines (first next : List Char) : List (List Char) → List (List Char)
  | [] => []
  | line :: rest => (first ++ line) :: rest.map (next ++ ·)

def labelLines (most : Nat) (label : List Char) : Except Failure (List (List Char)) :=
  match Markup.plain label with
  | .ok shown => .ok (wrap most .fold shown)
  | .error f => .error f

mutual

def render (most : Nat) : Tree → Except Failure (List (List Char))
  | node label branches =>
    match labelLines most label with
    | .error f => .error f
    | .ok own =>
      match renderBranches most branches with
      | .error f => .error f
      | .ok below => .ok (own ++ below)

def renderBranches (most : Nat) : List Tree → Except Failure (List (List Char))
  | [] => .ok []
  | branch :: rest =>
    match render (most - 4) branch with
    | .error f => .error f
    | .ok lines =>
      match renderBranches most rest with
      | .error f => .error f
      | .ok more => .ok (guideLines (firstGuide rest.isEmpty) (nextGuide rest.isEmpty) lines ++ more)

end

end Tree

end GuardedAutomata.Terminal
