import GuardedAutomata.Automaton.Debug

/-!
# Graph description

The text of an automaton as a directed graph. Accepting states are drawn as double circles with their
markers, active states are filled, and epsilon edges are labelled by the letter epsilon.

An identifier is written bare when it is a name, a numeral, or text in angle brackets, and otherwise
between double quotes in which every quote is escaped that is not so already.
-/

set_option autoImplicit false

namespace GuardedAutomata

namespace Dot

def isNameStart (c : Char) : Bool :=
  c.isAlpha || c == '_'

def isNameChar (c : Char) : Bool :=
  c.isAlphanum || c == '_'

def isName : List Char → Bool
  | [] => false
  | c :: rest => isNameStart c && rest.all isNameChar

def isUnsigned (cs : List Char) : Bool :=
  match cs with
  | '.' :: rest => !rest.isEmpty && rest.all Char.isDigit
  | cs =>
    let rest := cs.dropWhile Char.isDigit
    match cs.takeWhile Char.isDigit, rest with
    | [], _ => false
    | _, [] => true
    | _, '.' :: fraction => fraction.all Char.isDigit
    | _, _ => false

def isNumeral : List Char → Bool
  | '-' :: rest => isUnsigned rest
  | cs => isUnsigned cs

def dropLineEnd (cs : List Char) : List Char :=
  match cs.getLast? with
  | some '\n' => cs.dropLast
  | _ => cs

def keywords : List String :=
  ["node", "edge", "graph", "digraph", "subgraph", "strict"]

def isKeyword (cs : List Char) : Bool :=
  (keywords.map String.toList).contains (cs.map Char.toLower)

def isBare (cs : List Char) : Bool :=
  (isName (dropLineEnd cs) || isNumeral (dropLineEnd cs)) && !isKeyword cs

def isBracketed (cs : List Char) : Bool :=
  match dropLineEnd cs with
  | '<' :: rest => rest.getLast? == some '>'
  | _ => false

def escapeQuotes (odd : Bool) : List Char → List Char
  | [] => []
  | '"' :: rest => if odd then '"' :: escapeQuotes false rest else '\\' :: '"' :: escapeQuotes false rest
  | '\\' :: rest => '\\' :: escapeQuotes (!odd) rest
  | c :: rest => c :: escapeQuotes false rest

def identifierChars (cs : List Char) : List Char :=
  if isBracketed cs || isBare cs then cs else '"' :: (escapeQuotes false cs ++ ['"'])

def identifier (s : String) : String :=
  String.ofList (identifierChars s.toList)

def assignment (key value : String) : String :=
  identifier key ++ "=" ++ identifier value

def attributeList (attributes : List (String × String)) : String :=
  " [" ++ " ".intercalate (attributes.map fun a => assignment a.1 a.2) ++ "]"

def defaults (sort : String) (attributes : List (String × String)) : String :=
  if attributes.isEmpty then ""
  else "\t" ++ sort ++ attributeList (Text.sortByKey Prod.fst attributes) ++ "\n"

structure Options where
  name : Option Value := none
  comment : String := ""
  strict : Bool := false
  graphDefaults : List (String × String) := []
  nodeDefaults : List (String × String) := []
  edgeDefaults : List (String × String) := []
  body : List String := []

def nameText (name : Value) : Except Fault String :=
  match name with
  | .str s => .ok (if s.isEmpty then "" else identifier s ++ " ")
  | v => if v.truthy then .error (.notText v.fullTypeName) else .ok ""

def nodeName (i : Nat) : String :=
  let digits := Nat.toDigits 10 i
  "S_" ++ String.ofList (List.replicate (3 - digits.length) '0' ++ digits)

end Dot

namespace Automaton

def dotLabel (a : Automaton) (i : Nat) : String :=
  if (a.markersAt i).isEmpty then toString i else toString i ++ "\n" ++ a.markerText i

def dotNode (a : Automaton) (i : Nat) : String :=
  let fill := if i ∈ a.active then [("fillcolor", "lightgrey")] else []
  let shape := if (a.markersAt i).isEmpty then "circle" else "doublecircle"
  let style := if i ∈ a.active then [("style", "filled")] else []
  "\t" ++ Dot.nodeName i ++
    Dot.attributeList ([("label", a.dotLabel i)] ++ fill ++ [("shape", shape)] ++ style) ++ "\n"

def dotEdgeLabel (a : Automaton) : Guard → String
  | .epsilon => "ε"
  | .predicate p => a.factory.storeKind.format p

def dotEdge (a : Automaton) (source : Nat) (e : Edge) : String :=
  "\t" ++ Dot.nodeName source ++ " -> " ++ Dot.nodeName e.target ++
    Dot.attributeList [("label", a.dotEdgeLabel e.guard)] ++ "\n"

def dotLines (a : Automaton) : List String :=
  (List.range a.count).map a.dotNode ++
    (List.range a.count).flatMap fun i => (a.edgesOf i).map (a.dotEdge i)

def dotText (a : Automaton) (o : Dot.Options) : Except Fault String :=
  match Dot.nameText (o.name.getD a.name) with
  | .error cause => .error cause
  | .ok name =>
    .ok ((if o.comment.isEmpty then "" else "// " ++ o.comment ++ "\n") ++
      (if o.strict then "strict " else "") ++ "digraph " ++ name ++ "\x7b\n" ++
      Dot.defaults "graph" o.graphDefaults ++ Dot.defaults "node" o.nodeDefaults ++
      Dot.defaults "edge" o.edgeDefaults ++ String.join o.body ++ "\trankdir=LR\n" ++
      String.join a.dotLines ++ "\x7d\n")

def writeDot (a : Automaton) (o : Dot.Options) : Except Fault String :=
  match a.checkText with
  | .error cause => .error cause
  | .ok _ => a.dotText o

end Automaton

end GuardedAutomata
