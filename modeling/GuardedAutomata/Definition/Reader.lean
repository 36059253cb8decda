import GuardedAutomata.Definition.Basic
import GuardedAutomata.Definition.Scalar
import GuardedAutomata.Failure
import GuardedAutomata.Value.Size

/-!
# Reading definitions

A value is read as a definition field by field. The issues of all fields are collected in the order of
the fields, and the rules between fields are looked at only when every field is fine. Unknown keys are
ignored. A definition must not lie inside itself, and definitions may only lie so deep inside one another.
-/

set_option autoImplicit false

namespace GuardedAutomata

abbrev Checked (α : Type) := Except (List Issue) α

namespace Checked

variable {α β : Type}

def both (a : Checked α) (b : Checked β) : Checked (α × β) :=
  match a, b with
  | .ok x, .ok y => .ok (x, y)
  | .ok _, .error es => .error es
  | .error es, .ok _ => .error es
  | .error es, .error fs => .error (es ++ fs)

def map (f : α → β) : Checked α → Checked β
  | .ok x => .ok (f x)
  | .error es => .error es

def obeying (path : List PathStep) (breach? : α → Option RuleBreach) : Checked α → Checked α
  | .ok x =>
    match breach? x with
    | some rule => .error [⟨.breach rule, path⟩]
    | none => .ok x
  | .error es => .error es

end Checked

namespace Definition

variable {α : Type}

def scalar (path : List PathStep) (read : Value → Except IssueKind α) (v : Value) : Checked α :=
  match read v with
  | .ok a => .ok a
  | .error k => .error [⟨k, path⟩]

def field (entries : List (Value × Value)) (path : List PathStep) (key : String)
    (read : Value → Except IssueKind α) (absent : α) : Checked α :=
  match Value.field? entries key with
  | some v => scalar (path ++ [.key key]) read v
  | none => .ok absent

def requiredField (entries : List (Value × Value)) (path : List PathStep) (key other : String)
    (read : Value → Except IssueKind α) : Checked α :=
  match Value.field? entries key with
  | some v => scalar (path ++ [.key key]) read v
  | none =>
    match Value.field? entries other with
    | some v => scalar (path ++ [.key other]) read v
    | none => .error [⟨.missing, path ++ [.key key]⟩]

def items (path : List PathStep) (read : List PathStep → Value → Checked α) :
    Nat → List Value → Checked (List α)
  | _, [] => .ok []
  | i, v :: rest =>
    ((read (path ++ [.index i]) v).both (items path read (i + 1) rest)).map fun (a, as) => a :: as

def sequence? : Value → Option (List Value)
  | .list vs => some vs
  | .tuple vs => some vs
  | .set vs => some vs
  | _ => none

def listField (entries : List (Value × Value)) (path : List PathStep) (key : String)
    (read : List PathStep → Value → Checked α) : Checked (List α) :=
  match Value.field? entries key with
  | none => .ok []
  | some v =>
    match sequence? v with
    | some vs => items (path ++ [.key key]) read 0 vs
    | none => .error [⟨.notList, path ++ [.key key]⟩]

def marker (path : List PathStep) : Value → Checked Value
  | .list _ => .error [⟨.unhashable, path⟩]
  | .set _ => .error [⟨.unhashable, path⟩]
  | .dict _ => .error [⟨.unhashable, path⟩]
  | .enclosing _ => .error [⟨.unhashable, path⟩]
  | v => .ok v

def readState (path : List PathStep) : Value → Checked StateEntry
  | .dict entries =>
    ((requiredField entries path "id" "id" Scalar.natural).both
      (listField entries path "markers" marker)).map fun (id, markers) => ⟨id, markers⟩
  | _ => .error [⟨.notRecord .state, path⟩]

def guardBreach (t : TransitionEntry) : Option RuleBreach :=
  match t.epsilon, t.guard with
  | true, .null => none
  | true, _ => some (.guardAndEpsilon t.source t.target)
  | false, .null => some (.noGuard t.source t.target)
  | false, _ => none

def readTransition (path : List PathStep) : Value → Checked TransitionEntry
  | .dict entries =>
    (((requiredField entries path "from" "source" Scalar.natural).both
      ((requiredField entries path "to" "target" Scalar.natural).both
        (field entries path "epsilon" Scalar.boolean false))).map fun (source, target, epsilon) =>
      ⟨source, target, (Value.field? entries "guard").getD .null, epsilon⟩).obeying path guardBreach
  | _ => .error [⟨.notRecord .transition, path⟩]

def sparseBreach : Nat → List StateEntry → Option RuleBreach
  | _, [] => none
  | i, s :: rest => if s.id = i then sparseBreach (i + 1) rest else some (.sparseIds i s.id)

def endpointBreach (n : Nat) : List TransitionEntry → Option RuleBreach
  | [] => none
  | t :: rest =>
    if n ≤ t.source then some (.undeclaredEndpoint t.source t.target t.source)
    else if n ≤ t.target then some (.undeclaredEndpoint t.source t.target t.target)
    else endpointBreach n rest

def fragmentBreach (n : Nat) (store : Option String) : List (Fragment Definition) → Option RuleBreach
  | [] => none
  | f :: rest =>
    match f.linkFrom.filter (n ≤ ·) with
    | some link => some (.undeclaredLink f.name link)
    | none =>
      match f.automaton.store, store with
      | some s, some parent =>
        if s = parent then fragmentBreach n store rest else some (.storeMismatch f.name s parent)
      | _, _ => fragmentBreach n store rest

def referenceBreach (d : Definition) : Option RuleBreach :=
  match endpointBreach d.states.length d.transitions with
  | some rule => some rule
  | none => fragmentBreach d.states.length d.store d.fragments

def readStates (entries : List (Value × Value)) (path : List PathStep) : Checked (List StateEntry) :=
  (listField entries path "states" readState).obeying (path ++ [.key "states"]) (sparseBreach 0)

def readOwn (entries : List (Value × Value)) (path : List PathStep) :
    Checked (String × Option String × Option String × List StateEntry × List TransitionEntry) :=
  (field entries path "name" Scalar.text "automaton").both
    ((field entries path "description" (Scalar.optional Scalar.text) none).both
      ((field entries path "store" (Scalar.optional Scalar.text) none).both
        ((readStates entries path).both (listField entries path "transitions" readTransition))))

def mostNested : Nat := 255

mutual

/-- Reads a definition that stands at a path; `room` is the number of definitions that may still be opened, this
one counted. -/
def readAt (room : Nat) (path : List PathStep) (v : Value) : Checked Definition :=
  match room, v with
  | 0, _ => .error [⟨.loop, path⟩]
  | room + 1, .dict entries =>
    let fragments : Checked (List (Fragment Definition)) :=
      match found : Value.field? entries "fragments" with
      | none => .ok []
      | some (.list vs) => readFragments room (path ++ [.key "fragments"]) 0 vs
      | some (.tuple vs) => readFragments room (path ++ [.key "fragments"]) 0 vs
      | some (.set vs) => readFragments room (path ++ [.key "fragments"]) 0 vs
      | some _ => .error [⟨.notList, path ++ [.key "fragments"]⟩]
    (((readOwn entries path).both fragments).map
      fun ((name, description, store, states, transitions), fragments) =>
        ⟨name, description, store, states, transitions, fragments⟩).obeying path referenceBreach
  | _ + 1, .enclosing _ => .error [⟨.loop, path⟩]
  | _ + 1, _ => .error [⟨.notRecord .automaton, path⟩]
termination_by v.size
decreasing_by
  all_goals
    have := Value.size_field found
    simp only [Value.size] at this ⊢
    omega

def readFragments (room : Nat) (path : List PathStep) (i : Nat) (vs : List Value) :
    Checked (List (Fragment Definition)) :=
  match vs with
  | [] => .ok []
  | v :: rest =>
    ((readFragment room (path ++ [.index i]) v).both (readFragments room path (i + 1) rest)).map
      fun (f, fs) => f :: fs
termination_by Value.itemsSize vs
decreasing_by
  all_goals
    simp only [Value.itemsSize]
    omega

def readFragment (room : Nat) (path : List PathStep) (v : Value) : Checked (Fragment Definition) :=
  match v with
  | .dict entries =>
    let automaton : Checked Definition :=
      match found : Value.field? entries "automaton" with
      | some d => readAt room (path ++ [.key "automaton"]) d
      | none => .error [⟨.missing, path ++ [.key "automaton"]⟩]
    ((field entries path "name" (Scalar.optional Scalar.text) none).both
      ((field entries path "link_from" (Scalar.optional Scalar.natural) none).both automaton)).map
        fun (name, linkFrom, automaton) => ⟨name, linkFrom, automaton⟩
  | _ => .error [⟨.notRecord .fragment, path⟩]
termination_by v.size
decreasing_by
  have := Value.size_field found
  simp only [Value.size]
  omega

end

def ofValue (v : Value) : Except Failure Definition :=
  match readAt mostNested [] v with
  | .ok d => .ok d
  | .error issues => .error (.invalidDefinition issues)

end Definition

end GuardedAutomata
