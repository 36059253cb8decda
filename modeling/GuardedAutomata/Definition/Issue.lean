import GuardedAutomata.Value.Text

/-!
# Issues of a definition

What a definition can be faulted for while it is read, each at a path of keys and positions.
-/

set_option autoImplicit false

namespace GuardedAutomata

inductive PathStep where
  | key (name : String)
  | index (position : Nat)
  deriving DecidableEq, Repr

inductive RecordKind where
  | state
  | transition
  | fragment
  | automaton
  deriving DecidableEq, Repr

inductive RuleBreach where
  | sparseIds (expected found : Nat)
  | guardAndEpsilon (source target : Nat)
  | noGuard (source target : Nat)
  | undeclaredEndpoint (source target endpoint : Nat)
  | undeclaredLink (fragment : Option String) (link : Nat)
  | storeMismatch (fragment : Option String) (store parent : String)
  deriving DecidableEq, Repr

inductive IssueKind where
  | notRecord (record : RecordKind)
  | missing
  | notText
  | undecodableText
  | notList
  | unhashable
  | notInteger
  | integerText
  | integerTooLarge
  | fractional
  | notFinite
  | negative
  | notBoolean
  | booleanText
  | loop
  | breach (rule : RuleBreach)
  deriving DecidableEq, Repr

structure Issue where
  kind : IssueKind
  path : List PathStep
  deriving DecidableEq, Repr

namespace RecordKind

def name : RecordKind → String
  | state => "StateConfig"
  | transition => "TransitionConfig"
  | fragment => "FragmentConfig"
  | automaton => "AutomatonConfig"

end RecordKind

def fragmentLabel (name : Option String) : String :=
  match name with
  | some s => Text.quoted s
  | none => Value.null.literal

def arrow (source target : Nat) : String :=
  toString source ++ "->" ++ toString target

def quotingIds (ids : List Nat) (message : String) : String :=
  if ids.all fun (id : Nat) => Integer.hasText id then message else Integer.tooLongText none

namespace RuleBreach

def message : RuleBreach → String
  | sparseIds expected found =>
    quotingIds [expected, found]
      ("State ids must be dense and ordered: expected " ++ toString expected ++ ", got " ++ toString found)
  | guardAndEpsilon source target =>
    quotingIds [source, target] ("Transition " ++ arrow source target ++ " has both a guard and epsilon")
  | noGuard source target =>
    quotingIds [source, target] ("Transition " ++ arrow source target ++ " needs a guard or 'epsilon: true'")
  | undeclaredEndpoint source target endpoint =>
    quotingIds [source, target, endpoint]
      ("Transition " ++ arrow source target ++ " references undeclared state " ++ toString endpoint)
  | undeclaredLink fragment link =>
    quotingIds [link]
      ("Fragment " ++ fragmentLabel fragment ++ " links from undeclared state " ++ toString link)
  | storeMismatch fragment store parent =>
    "Fragment " ++ fragmentLabel fragment ++ " uses store " ++ Text.quoted store ++
      ", parent uses " ++ Text.quoted parent

end RuleBreach

namespace IssueKind

def code : IssueKind → String
  | notRecord _ => "model_type"
  | missing => "missing"
  | notText => "string_type"
  | undecodableText => "string_unicode"
  | notList => "list_type"
  | unhashable => "is_hashable"
  | notInteger => "int_type"
  | integerText => "int_parsing"
  | integerTooLarge => "int_parsing_size"
  | fractional => "int_from_float"
  | notFinite => "finite_number"
  | negative => "greater_than_equal"
  | notBoolean => "bool_type"
  | booleanText => "bool_parsing"
  | loop => "recursion_loop"
  | breach _ => "value_error"

def message : IssueKind → String
  | notRecord record => "Input should be a valid dictionary or instance of " ++ record.name
  | missing => "Field required"
  | notText => "Input should be a valid string"
  | undecodableText => "Input should be a valid string, unable to parse raw data as a unicode string"
  | notList => "Input should be a valid list"
  | unhashable => "Input should be hashable"
  | notInteger => "Input should be a valid integer"
  | integerText => "Input should be a valid integer, unable to parse string as an integer"
  | integerTooLarge => "Unable to parse input string as an integer, exceeded maximum size"
  | fractional => "Input should be a valid integer, got a number with a fractional part"
  | notFinite => "Input should be a finite number"
  | negative => "Input should be greater than or equal to 0"
  | notBoolean => "Input should be a valid boolean"
  | booleanText => "Input should be a valid boolean, unable to interpret input"
  | loop => "Recursion error - cyclic reference detected"
  | breach rule => "Value error, " ++ rule.message

end IssueKind

namespace PathStep

def value : PathStep → Value
  | key name => .str name
  | index position => .int position

end PathStep

def Issue.value (i : Issue) : Value :=
  .dict [(.str "type", .str i.kind.code), (.str "loc", .list (i.path.map PathStep.value)),
    (.str "msg", .str i.kind.message)]

end GuardedAutomata
