import GuardedAutomata.Failure

/-!
# References to environment variables

Text of a definition may refer to a variable: `${N}` stands for its value, `${N:-D}` for its value or
else `D`, `${N:?M}` for its value and fails with `M` without one, and `$N` for its value if it has one.
A variable is looked up under its own name and then under its name behind a lead. What a reference
stands for is not looked at again.
-/

set_option autoImplicit false

namespace GuardedAutomata

structure Environment where
  settings : List (String × String)
  lead : String
  deriving Inhabited

inductive Reference where
  | plain
  | required (name : String)
  | defaulted (name fallback : String)
  | demanded (name text : String)
  | bare (name : String)
  deriving DecidableEq, Repr

namespace Reference

def splitAtPair (a b : Char) : List Char → Option (List Char × List Char)
  | [] => none
  | [_] => none
  | c :: d :: rest =>
    if c = a ∧ d = b then some ([], rest)
    else (splitAtPair a b (d :: rest)).map fun (before, after) => (c :: before, after)

def ofBraced (cs : List Char) : Reference :=
  match splitAtPair ':' '-' cs with
  | some (name, fallback) => defaulted (String.ofList name) (String.ofList fallback)
  | none =>
    match splitAtPair ':' '?' cs with
    | some (name, text) => demanded (String.ofList name) (String.ofList text)
    | none => required (String.ofList cs)

def ofChars : List Char → Reference
  | '$' :: '{' :: rest =>
    if rest.getLast? = some '}' then ofBraced rest.dropLast else bare (String.ofList ('{' :: rest))
  | '$' :: c :: rest => bare (String.ofList (c :: rest))
  | _ => plain

def ofText (s : String) : Reference :=
  ofChars s.toList

end Reference

namespace Environment

def find? (e : Environment) (name : String) : Option String :=
  match e.settings.lookup name with
  | some value => some value
  | none => e.settings.lookup (e.lead ++ name)

def resolveText (e : Environment) (s : String) : Except Failure String :=
  match Reference.ofText s with
  | .plain => .ok s
  | .required name =>
    match e.find? name with
    | some value => .ok value
    | none => .error (.variableUnset name e.lead)
  | .defaulted name fallback => .ok ((e.find? name).getD fallback)
  | .demanded name text =>
    match e.find? name with
    | some value => .ok value
    | none => .error (.variableRequired name text)
  | .bare name => .ok ((e.find? name).getD s)

mutual

def resolve (e : Environment) : Value → Except Failure Value
  | .str s =>
    match e.resolveText s with
    | .ok t => .ok (.str t)
    | .error f => .error f
  | .list items =>
    match e.resolveItems items with
    | .ok vs => .ok (.list vs)
    | .error f => .error f
  | .dict entries =>
    match e.resolveEntries entries with
    | .ok es => .ok (.dict es)
    | .error f => .error f
  | .enclosing _ => .error (.fault .endless)
  | v => .ok v

def resolveItems (e : Environment) : List Value → Except Failure (List Value)
  | [] => .ok []
  | v :: rest =>
    match e.resolve v with
    | .error f => .error f
    | .ok w =>
      match e.resolveItems rest with
      | .error f => .error f
      | .ok ws => .ok (w :: ws)

def resolveEntries (e : Environment) : List (Value × Value) → Except Failure (List (Value × Value))
  | [] => .ok []
  | (k, v) :: rest =>
    match e.resolve v with
    | .error f => .error f
    | .ok w =>
      match e.resolveEntries rest with
      | .error f => .error f
      | .ok ws => .ok ((k, w) :: ws)

end

end Environment

namespace Reference

def name? : Reference → Option String
  | plain => none
  | required name => some name
  | defaulted name _ => some name
  | demanded name _ => some name
  | bare name => some name

end Reference

namespace Environment

def defaultLead : String := "NFAKIT_"

mutual

def names : Value → List String
  | .str s => (Reference.ofText s).name?.toList
  | .list items => namesInItems items
  | .dict entries => namesInEntries entries
  | _ => []

def namesInItems : List Value → List String
  | [] => []
  | v :: rest => names v ++ namesInItems rest

def namesInEntries : List (Value × Value) → List String
  | [] => []
  | (_, v) :: rest => names v ++ namesInEntries rest

end

end Environment

end GuardedAutomata
