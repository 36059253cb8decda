import GuardedAutomata.Document.Yaml.Content
import GuardedAutomata.Document.Yaml.Node

/-!
# Collections of nodes

The nodes of a text become collections. The root comes first, and then every collection in the order in
which it was first met as a part of another one, so of several faults the one in the collection met first is
told. A collection is made once, however often it is referred to, and may be a part of itself. The entries
of a mapping under the merge key are entries of the mapping around it, in front of its own.
-/

set_option autoImplicit false

namespace GuardedAutomata.Yaml

inductive Part where
  | value (v : Value)
  | node (id : Nat)

inductive Collection where
  | list (items : List Part)
  | pairs (items : List (Part × Part))
  | set (items : List Value)
  | dict (entries : List (Value × Part))

/-! ### Merging -/

namespace Graph

def entries (g : Graph) (id : Nat) : List (Nat × Nat) :=
  match g.node id with
  | .mapping _ es => es
  | _ => []

def setEntries (g : Graph) (id : Nat) (es : List (Nat × Nat)) : Graph :=
  match g.node id with
  | .mapping tag _ => g.setNode id (.mapping tag es)
  | _ => g

def hasTag (g : Graph) (tag : Tag) (id : Nat) : Bool :=
  (g.node id).tag = tag

def splitAtMerge? (g : Graph) : List (Nat × Nat) → Option (List (Nat × Nat) × Nat × List (Nat × Nat))
  | [] => none
  | (k, v) :: rest =>
    if g.hasTag .merge k then some ([], v, rest)
    else (g.splitAtMerge? rest).map fun (before, w, behind) => ((k, v) :: before, w, behind)

def plainKeys (g : Graph) (es : List (Nat × Nat)) : Graph :=
  es.foldl (fun g e => if g.hasTag .value e.1 then g.setNode e.1 ((g.node e.1).withTag .str) else g) g

def prepend (g : Graph) (id : Nat) (merged : List (Nat × Nat)) : Graph :=
  let g := g.plainKeys (g.entries id)
  if merged.isEmpty then g else g.setEntries id (merged ++ g.entries id)

def mergeCount (g : Graph) : Nat :=
  ((List.range g.size).map fun id => ((g.entries id).filter fun e => g.hasTag .merge e.1).length).foldr (· + ·) 0

mutual

/-- Replaces the entries of a mapping under the merge key by what they bring in; `merged` has been brought in
so far. Every step takes such an entry away, so there are no more steps than entries of the kind. -/
def merge : Nat → Nat → List (Nat × Nat) → Graph → Except Problem Graph
  | 0, id, merged, g => .ok (g.prepend id merged)
  | fuel + 1, id, merged, g =>
    match g.splitAtMerge? (g.entries id) with
    | none => .ok (g.prepend id merged)
    | some (before, v, behind) =>
      let g := g.setEntries id (before ++ behind)
      match g.node v with
      | .mapping _ _ =>
        match merge fuel v [] g with
        | .ok g => merge fuel id (merged ++ g.entries v) g
        | .error p => .error p
      | .sequence _ items =>
        match mergeAll fuel items g with
        | .ok (more, g) => merge fuel id (merged ++ more) g
        | .error p => .error p
      | .scalar _ _ => .error .malformed

def mergeAll : Nat → List Nat → Graph → Except Problem (List (Nat × Nat) × Graph)
  | _, [], g => .ok ([], g)
  | fuel, v :: rest, g =>
    match g.node v with
    | .mapping _ _ =>
      match merge fuel v [] g with
      | .ok g =>
        let own := g.entries v
        match mergeAll fuel rest g with
        | .ok (more, g) => .ok (more ++ own, g)
        | .error p => .error p
      | .error p => .error p
    | _ => .error .malformed

end

def text (g : Graph) : Nat → Nat → Except Problem (List Char)
  | 0, _ => .error (.fault .endless)
  | fuel + 1, id =>
    match g.node id with
    | .scalar _ text => .ok text
    | .sequence _ _ => .error .malformed
    | .mapping _ es =>
      match es.find? fun e => g.hasTag .value e.1 with
      | some (_, v) => g.text fuel v
      | none => .error .malformed

def scalar (g : Graph) (id : Nat) : Except Problem Value :=
  match g.text (g.size + 1) id with
  | .error p => .error p
  | .ok text =>
    match g.node id with
    | .mapping .timestamp _ => .error (.fault (.notText (Value.list []).typeName))
    | n => scalarValue (id + 1) n.tag text

end Graph

/-! ### Construction -/

structure Construction where
  graph : Graph
  met : List Nat
  waiting : List Nat
  made : List (Nat × Collection)

namespace Construction

def isCollection : Tag → Bool
  | .sequence => true
  | .mapping => true
  | .set => true
  | .pairs => true
  | _ => false

def part (c : Construction) (id : Nat) : Except Problem (Part × Construction) :=
  if isCollection (c.graph.node id).tag then
    .ok (.node id,
      if id ∈ c.met then c else { c with met := id :: c.met, waiting := c.waiting ++ [id] })
  else
    match c.graph.scalar id with
    | .ok v => .ok (.value v, c)
    | .error p => .error p

def parts : List Nat → Construction → Except Problem (List Part × Construction)
  | [], c => .ok ([], c)
  | id :: rest, c =>
    match c.part id with
    | .error p => .error p
    | .ok (x, c) =>
      match parts rest c with
      | .error p => .error p
      | .ok (xs, c) => .ok (x :: xs, c)

def setPart (entries : List (Value × Part)) (key : Value) (x : Part) : List (Value × Part) :=
  match entries with
  | [] => [(key, x)]
  | (k, y) :: rest => if k.same key then (k, x) :: rest else (k, y) :: setPart rest key x

def entries (acc : List (Value × Part)) :
    List (Nat × Nat) → Construction → Except Problem (List (Value × Part) × Construction)
  | [], c => .ok (acc, c)
  | (k, v) :: rest, c =>
    match c.part k with
    | .error p => .error p
    | .ok (.node _, _) => .error .malformed
    | .ok (.value key, c) =>
      match c.part v with
      | .error p => .error p
      | .ok (x, c) => entries (setPart acc key x) rest c

def pairs : List Nat → Construction → Except Problem (List (Part × Part) × Construction)
  | [], c => .ok ([], c)
  | id :: rest, c =>
    match c.graph.node id with
    | .mapping _ [(k, v)] =>
      match c.parts [k, v] with
      | .ok ([x, y], c) =>
        match pairs rest c with
        | .error p => .error p
        | .ok (xs, c) => .ok ((x, y) :: xs, c)
      | .ok _ => .error .malformed
      | .error p => .error p
    | _ => .error .malformed

def mergedEntries (id : Nat) (c : Construction) :
    Except Problem (List (Value × Part) × Construction) :=
  match c.graph.merge (c.graph.mergeCount + 1) id [] with
  | .error p => .error p
  | .ok g => entries [] (g.entries id) { c with graph := g }

def make (id : Nat) (c : Construction) : Except Problem (Collection × Construction) :=
  match c.graph.node id with
  | .sequence .sequence items => (parts items c).map fun (xs, c) => (.list xs, c)
  | .sequence .pairs items => (pairs items c).map fun (xs, c) => (.pairs xs, c)
  | .mapping .mapping _ => (mergedEntries id c).map fun (es, c) => (.dict es, c)
  | .mapping .set _ => (mergedEntries id c).map fun (es, c) => (.set (es.map Prod.fst), c)
  | _ => .error .malformed

def run : Nat → Construction → Except Problem Construction
  | 0, c => .ok c
  | fuel + 1, c =>
    match c.waiting with
    | [] => .ok c
    | id :: rest =>
      match make id { c with waiting := rest } with
      | .error p => .error p
      | .ok (made, c) => run fuel { c with made := (id, made) :: c.made }

def ofGraph (root : Nat) (g : Graph) : Except Problem (Part × List (Nat × Collection)) :=
  match part ⟨g, [], [], []⟩ root with
  | .error p => .error p
  | .ok (x, c) => (run (g.size + 1) c).map fun c => (x, c.made)

end Construction

end GuardedAutomata.Yaml
