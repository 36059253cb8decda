import GuardedAutomata.Document.Yaml.Construction

/-!
# Collections unfolded

Collections that refer to each other become one value. A collection that lies inside itself is unfolded as
far as a definition would look into it: an automaton until the same automaton stands inside it, and anything
that a definition does not look into until the same collection stands inside it. There
`Value.enclosing` stands for it.
-/

set_option autoImplicit false

namespace GuardedAutomata.Yaml

inductive Position where
  | automaton
  | states
  | state
  | markers
  | transitions
  | transition
  | fragments
  | fragment
  | inner
  deriving DecidableEq, Repr

namespace Position

def field (p : Position) (key : Value) : Position :=
  match p, key with
  | automaton, .str "states" => states
  | automaton, .str "transitions" => transitions
  | automaton, .str "fragments" => fragments
  | state, .str "markers" => markers
  | fragment, .str "automaton" => automaton
  | _, _ => inner

def item : Position → Position
  | states => state
  | transitions => transition
  | fragments => fragment
  | _ => inner

def isGuarded (p : Position) : Bool :=
  p = automaton || p = inner

end Position

namespace Collection

def container : Collection → Container
  | dict _ => .dict
  | _ => .list

end Collection

abbrev Collections := List (Nat × Collection)

namespace Collections

/-- Unfolds a part at a position; `around` holds the collections around it with their positions. Every
collection at an automaton's position or at an inner one is new among them, and at most two other collections
lie between such ones, so that `fuel` can be told from the number of collections. -/
def unfold (cs : Collections) : Nat → List (Position × Nat) → Position → Part → Value
  | _, _, _, .value v => v
  | 0, _, _, .node _ => .null
  | fuel + 1, around, p, .node id =>
    match cs.lookup id with
    | none => .null
    | some c =>
      if p.isGuarded && around.contains (p, id) then .enclosing c.container
      else
        let around := (p, id) :: around
        match c with
        | .list items => .list (items.map (unfold cs fuel around p.item))
        | .pairs items =>
          .list (items.map fun (x, y) =>
            .tuple [unfold cs fuel around .inner x, unfold cs fuel around .inner y])
        | .set items => .set items
        | .dict entries => .dict (entries.map fun (k, x) => (k, unfold cs fuel around (p.field k) x))

end Collections

def parse (cs : List Char) : Except Problem Value :=
  let (tokens, halved) := Token.scan cs
  match readDocument tokens with
  | .error p => .error p
  | .ok (root, g) =>
    match Construction.ofGraph root g with
    | .error p => .error p
    | .ok (x, made) =>
      if halved then .error .halfPair
      else .ok (Collections.unfold made (9 * (made.length + 1)) [] .automaton x)

end GuardedAutomata.Yaml
