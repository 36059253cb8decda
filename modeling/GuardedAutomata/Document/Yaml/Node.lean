import GuardedAutomata.Document.Yaml.Tag
import GuardedAutomata.Document.Yaml.Token

/-!
# Nodes

What tokens describe: scalars, sequences and mappings, each with its tag. The nodes of a text are numbered,
and a collection names its parts by their numbers. An alias is the number of the node that carries its
anchor, so a node may be a part of several collections, and of itself. A text holds one document, which may
be empty.
-/

set_option autoImplicit false

namespace GuardedAutomata.Yaml

inductive Node where
  | scalar (tag : Tag) (text : List Char)
  | sequence (tag : Tag) (items : List Nat)
  | mapping (tag : Tag) (entries : List (Nat × Nat))

namespace Node

def empty : Node := scalar .null []

def tag : Node → Tag
  | scalar tag _ => tag
  | sequence tag _ => tag
  | mapping tag _ => tag

def withTag (tag : Tag) : Node → Node
  | scalar _ text => scalar tag text
  | sequence _ items => sequence tag items
  | mapping _ entries => mapping tag entries

end Node

abbrev Graph := Array Node

namespace Graph

def node (g : Graph) (id : Nat) : Node :=
  g.getD id .empty

def setNode (g : Graph) (id : Nat) (n : Node) : Graph :=
  g.setIfInBounds id n

end Graph

abbrev Handles := List (List Char × List Char)

def standardHandles : Handles :=
  [(['!'], ['!']), (['!', '!'], Tag.lead)]

inductive Place where
  | flow
  | block
  | entry
  deriving DecidableEq

structure Remainder where
  tokens : List Token
  handles : Handles
  anchors : List (List Char × Nat)
  nodes : Graph

namespace Remainder

def start (tokens : List Token) (handles : Handles) : Remainder :=
  ⟨tokens, handles, [], #[]⟩

def peek (r : Remainder) : Token :=
  r.tokens.headD .streamEnd

def skip (r : Remainder) : Remainder :=
  { r with tokens := r.tokens.tail }

def skipIf (r : Remainder) (t : Token) : Remainder :=
  if r.peek = t then r.skip else r

def unexpected (r : Remainder) : Problem :=
  match r.peek with
  | .broken flaw => flaw.problem
  | _ => .malformed

structure Properties where
  anchor : Option (List Char)
  tagName : Option (List Char)

def fullName (handles : Handles) (handle : Option (List Char)) (suffix : List Char) :
    Except Problem (List Char) :=
  match handle with
  | none => .ok suffix
  | some h => Problem.required ((handles.lookup h).map (· ++ suffix))

def properties (r : Remainder) : Except Problem (Properties × Remainder) :=
  match r.tokens with
  | .anchor a :: .tag h s :: rest =>
    (fullName r.handles h s).map fun name => (⟨some a, some name⟩, { r with tokens := rest })
  | .tag h s :: .anchor a :: rest =>
    (fullName r.handles h s).map fun name => (⟨some a, some name⟩, { r with tokens := rest })
  | .anchor a :: rest => .ok (⟨some a, none⟩, { r with tokens := rest })
  | .tag h s :: rest =>
    (fullName r.handles h s).map fun name => (⟨none, some name⟩, { r with tokens := rest })
  | _ => .ok (⟨none, none⟩, r)

namespace Properties

def isEmpty (p : Properties) : Bool :=
  p.anchor.isNone && p.tagName.isNone

def tagOr (p : Properties) (own : Tag) : Tag :=
  match p.tagName with
  | none => own
  | some name => if name = ['!'] then own else Tag.ofName name

def scalarTag (p : Properties) (text : List Char) (plain : Bool) : Tag :=
  p.tagOr (if plain || p.tagName.isSome then Tag.ofText text else .str)

end Properties

def add (r : Remainder) (anchor : Option (List Char)) (n : Node) : Except Problem (Nat × Remainder) :=
  let id := r.nodes.size
  let added := { r with nodes := r.nodes.push n }
  match anchor with
  | none => .ok (id, added)
  | some a =>
    if (r.anchors.lookup a).isSome then .error .malformed
    else .ok (id, { added with anchors := (a, id) :: r.anchors })

def addEmpty (r : Remainder) : Nat × Remainder :=
  (r.nodes.size, { r with nodes := r.nodes.push .empty })

def fill (r : Remainder) (id : Nat) (n : Node) : Nat × Remainder :=
  (id, { r with nodes := r.nodes.setNode id n })

end Remainder

open Remainder

def endsBlockItem (t : Token) : Bool :=
  t == .blockEntry || t == .blockEnd

def endsBlockPart (t : Token) : Bool :=
  t == .key || t == .value || t == .blockEnd

def endsEntryItem (t : Token) : Bool :=
  endsBlockPart t || t == .blockEntry

def endsFlowPart (close t : Token) : Bool :=
  t == .flowEntry || t == close

inductive CollectionForm where
  | flowSequence
  | flowMapping
  | entrySequence
  | blockSequence
  | blockMapping

def CollectionForm.ofToken? (place : Place) (t : Token) : Option CollectionForm :=
  match t with
  | .flowSequenceStart => some flowSequence
  | .flowMappingStart => some flowMapping
  | .blockEntry => if place = .entry then some entrySequence else none
  | .blockSequenceStart => if place = .flow then none else some blockSequence
  | .blockMappingStart => if place = .flow then none else some blockMapping
  | _ => none

mutual

def readNode : Nat → Place → Remainder → Except Problem (Nat × Remainder)
  | 0, _, _ => .error .malformed
  | fuel + 1, place, r =>
    match r.peek with
    | .alias a => (Problem.required (r.anchors.lookup a)).map fun id => (id, r.skip)
    | _ => do
      let (p, r) ← r.properties
      match r.peek with
      | .scalar text plain => r.skip.add p.anchor (.scalar (p.scalarTag text plain) text)
      | t =>
        match CollectionForm.ofToken? place t with
        | some form => readCollection fuel form p r
        | none =>
          if p.isEmpty then .error r.unexpected
          else r.add p.anchor (.scalar (p.scalarTag [] true) [])

def readCollection : Nat → CollectionForm → Properties → Remainder → Except Problem (Nat × Remainder)
  | 0, _, _, _ => .error .malformed
  | fuel + 1, form, p, r => do
    let (id, r) ← r.add p.anchor .empty
    match form with
    | .flowSequence => do
      let (items, r) ← flowItems fuel r.skip
      .ok (r.fill id (.sequence (p.tagOr .sequence) items))
    | .entrySequence => do
      let (items, r) ← entryItems fuel r
      .ok (r.fill id (.sequence (p.tagOr .sequence) items))
    | .blockSequence => do
      let (items, r) ← blockItems fuel r.skip
      .ok (r.fill id (.sequence (p.tagOr .sequence) items))
    | .flowMapping => do
      let (entries, r) ← flowEntries fuel r.skip
      .ok (r.fill id (.mapping (p.tagOr .mapping) entries))
    | .blockMapping => do
      let (entries, r) ← blockEntries fuel r.skip
      .ok (r.fill id (.mapping (p.tagOr .mapping) entries))

def readUnless : Nat → Place → (Token → Bool) → Remainder → Except Problem (Nat × Remainder)
  | 0, _, _, _ => .error .malformed
  | fuel + 1, place, ends, r => if ends r.peek then .ok r.addEmpty else readNode fuel place r

def blockItems : Nat → Remainder → Except Problem (List Nat × Remainder)
  | 0, _ => .error .malformed
  | fuel + 1, r =>
    match r.peek with
    | .blockEnd => .ok ([], r.skip)
    | .blockEntry => do
      let (n, r) ← readUnless fuel .block endsBlockItem r.skip
      let (items, r) ← blockItems fuel r
      .ok (n :: items, r)
    | _ => .error r.unexpected

def entryItems : Nat → Remainder → Except Problem (List Nat × Remainder)
  | 0, _ => .error .malformed
  | fuel + 1, r =>
    if r.peek == .blockEntry then do
      let (n, r) ← readUnless fuel .block endsEntryItem r.skip
      let (items, r) ← entryItems fuel r
      .ok (n :: items, r)
    else .ok ([], r)

def blockEntries : Nat → Remainder → Except Problem (List (Nat × Nat) × Remainder)
  | 0, _ => .error .malformed
  | fuel + 1, r =>
    match r.peek with
    | .blockEnd => .ok ([], r.skip)
    | .key => do
      let (k, r) ← readUnless fuel .entry endsBlockPart r.skip
      let (v, r) ←
        if r.peek == .value then readUnless fuel .entry endsBlockPart r.skip else .ok r.addEmpty
      let (entries, r) ← blockEntries fuel r
      .ok ((k, v) :: entries, r)
    | _ => .error r.unexpected

def flowValue : Nat → Token → Remainder → Except Problem (Nat × Remainder)
  | 0, _, _ => .error .malformed
  | fuel + 1, close, r =>
    if r.peek == .value then readUnless fuel .flow (endsFlowPart close) r.skip else .ok r.addEmpty

def flowItems : Nat → Remainder → Except Problem (List Nat × Remainder)
  | 0, _ => .error .malformed
  | fuel + 1, r =>
    if r.peek == .flowSequenceEnd then .ok ([], r.skip)
    else do
      let (n, r) ←
        if r.peek == .key then do
          let (id, r) ← r.skip.add none .empty
          let (k, r) ←
            readUnless fuel .flow (fun t => t == .value || endsFlowPart .flowSequenceEnd t) r
          let (v, r) ← flowValue fuel .flowSequenceEnd r
          .ok (r.fill id (.mapping .mapping [(k, v)]))
        else readNode fuel .flow r
      if r.peek == .flowSequenceEnd || r.peek == .flowEntry then do
        let (items, r) ← flowItems fuel (r.skipIf .flowEntry)
        .ok (n :: items, r)
      else .error r.unexpected

def flowEntries : Nat → Remainder → Except Problem (List (Nat × Nat) × Remainder)
  | 0, _ => .error .malformed
  | fuel + 1, r =>
    if r.peek == .flowMappingEnd then .ok ([], r.skip)
    else do
      let (e, r) ←
        if r.peek == .key then do
          let (k, r) ←
            readUnless fuel .flow (fun t => t == .value || endsFlowPart .flowMappingEnd t) r.skip
          let (v, r) ← flowValue fuel .flowMappingEnd r
          .ok ((k, v), r)
        else do
          let (k, r) ← readNode fuel .flow r
          let (v, r) := r.addEmpty
          .ok ((k, v), r)
      if r.peek == .flowMappingEnd || r.peek == .flowEntry then do
        let (entries, r) ← flowEntries fuel (r.skipIf .flowEntry)
        .ok (e :: entries, r)
      else .error r.unexpected

end

/-! ### Documents -/

def directives (versioned : Bool) (handles : Handles) :
    List Token → Except Problem (Handles × List Token)
  | .version major :: rest =>
    if versioned || major != 1 then .error .malformed else directives true handles rest
  | .tagLead handle lead :: rest =>
    if (handles.lookup handle).isSome then .error .malformed
    else directives versioned ((handle, lead) :: handles) rest
  | .otherDirective :: rest => directives versioned handles rest
  | ts => .ok (handles, ts)

def endsDocument : Token → Bool
  | .version _ => true
  | .tagLead _ _ => true
  | .otherDirective => true
  | .documentStart => true
  | .documentEnd => true
  | .streamEnd => true
  | _ => false

def markedDocument (fuel : Nat) (ts : List Token) : Except Problem (Nat × Remainder) := do
  let (handles, ts) ← directives false [] ts
  match ts with
  | .documentStart :: rest =>
    readUnless fuel .block endsDocument (.start rest (handles ++ standardHandles))
  | ts => .error (Remainder.start ts []).unexpected

def readDocument (ts : List Token) : Except Problem (Nat × Graph) := do
  let fuel := 4 * ts.length + 4
  let first := ts.headD .streamEnd
  let (id, r) ←
    if first == .streamEnd then .ok (Remainder.start ts []).addEmpty
    else if first == .documentEnd || !endsDocument first then
      readNode fuel .block (.start ts standardHandles)
    else markedDocument fuel ts
  let r := { r with tokens := r.tokens.dropWhile (· == Token.documentEnd) }
  if r.peek == .streamEnd then .ok (id, r.nodes) else .error r.unexpected

end GuardedAutomata.Yaml
