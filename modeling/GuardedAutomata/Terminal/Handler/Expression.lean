import GuardedAutomata.Terminal.Handler.Grammar

/-!
# Expressions in handlers

The grammar of expressions: names, numbers, quoted texts, groups, tuples, sets and dictionaries, calls and
attributes, and operators from the loosest to the tightest. The hints say what is probably meant where
something else stands.
-/

set_option autoImplicit false

namespace GuardedAutomata.Terminal.Handler

inductive Rule where
  | whole | indented | values | expression | disjunction | conjunction | inversion | comparison
  | bitOr | bitXor | bitAnd | shift | sum | product | factor | power | primary | atom
  | named | item | items | starred | keyValue | keyValues
  | argument | keyword | arguments
  deriving DecidableEq, Repr

open Form

def softWords : Form Rule :=
  startOf ["match", "case", "_"]

def operations (kind : Kind) (operand : Rule) (operators : List (Form Rule)) : Form Rule :=
  chain (rule operand) (as kind (both (choice operators) (rule operand)))

def bareCalls : List String := ["print", "exec"]

def conditional : Form Rule :=
  both (rule .disjunction) (optional (as .conditional
    (seq [word "if", rule .disjunction, word "else", rule .expression])))

def missingComma : Form Rule :=
  hint (fun _ => "invalid syntax. Perhaps you forgot a comma?")
    (seq [without (either (both name quoted) softWords), rule .disjunction,
      without (named bareCalls), unaided conditional, bracketed])

def missingElse : Form Rule :=
  hint (fun _ => "expected 'else' after 'if' expression")
    (seq [rule .disjunction, word "if", rule .disjunction, without (either (word "else") (mark ":"))])

def missingBrackets : Form Rule :=
  hint (fun kind =>
      let word := kind.word
      s!"Missing parentheses in call to '{word}'. Did you mean {word}(...)?")
    (seq [name, without (mark "("), ahead (separated (choice [both (mark "*") (rule .bitOr), rule .expression])),
      named bareCalls])

def strayEquals : List (Form Rule) := [
  hint (fun kind => "cannot use assignment expressions with " ++ kind.noun)
    (both (rule .expression) (ahead (both (mark ":=") (rule .expression)))),
  hint (fun _ => "invalid syntax. Maybe you meant '==' or ':=' instead of '='?")
    (seq [name, mark "=", rule .bitOr, without (either (mark "=") (mark ":="))]),
  hint (fun kind => "cannot assign to " ++ kind.noun ++ " here. Maybe you meant '==' instead of '='?")
    (seq [without (choice [tuple, word "True", word "None", word "False"]), rule .bitOr,
      ahead (seq [mark "=", rule .bitOr, without (either (mark "=") (mark ":="))])])]
where
  tuple : Form Rule :=
    seq [mark "(", optional (seq [rule .item, mark ",", optional (rule .items)]), mark ")"]

def incompleteValue : List (Form Rule) := [
  refuse "cannot use a starred expression in a dictionary value"
    (seq [rule .expression, mark ":", mark "*", rule .bitOr]),
  refuse "expression expected after dictionary key and ':'"
    (seq [rule .expression, mark ":", ahead (either (mark "\x7d") (mark ","))])]

def badTarget : List (Form Rule) := [
  hint (fun _ => "iterable unpacking cannot be used in comprehension")
    (seq [either (mark "(") (mark "\x7b"), rule .starred, word "for"]),
  hint (fun _ => "did you forget parentheses around the comprehension target?")
    (seq [mark "\x7b", rule .item, mark ",", optional (rule .items), word "for"])]

def round : Form Rule :=
  choice ([
    seq [mark "(", mark ")"],
    both (mark "(") (both (rule .item) (as .sequence (seq [mark ",", optional (rule .items), mark ")"]))),
    seq [mark "(", rule .named, mark ")"],
    hint (fun _ => "cannot use starred expression here") (seq [mark "(", rule .starred, mark ")"]),
    hint (fun _ => "cannot use double starred expression here")
      (seq [mark "(", mark "**", rule .expression, mark ")"])] ++ badTarget)

def curly : Form Rule :=
  choice ([
    as .dictionary (seq [mark "\x7b", optional (rule .keyValues), mark "\x7d"]),
    both (mark "\x7b") (choice (
      seq [separated (rule .keyValue), mark ",", choice (
        refuse "':' expected after dictionary key" (both (rule .expression) (without (mark ":")))
          :: incompleteValue)] :: incompleteValue)),
    as .set (seq [mark "\x7b", rule .items, mark "\x7d"])] ++ badTarget)

def Rule.form : Rule → Form Rule
  | .whole => seq [rule .values, many lineEnd, finish]
  | .indented => seq [rule .values, many lineEnd, indent]
  | .values => both (separated (rule .expression)) (optional (mark ","))
  | .expression =>
    choice [missingComma, missingElse, missingBrackets, conditional]
  | .disjunction => operations .operation .conjunction [word "or"]
  | .conjunction => operations .operation .inversion [word "and"]
  | .inversion =>
    either (as .operation (both (word "not") (rule .inversion))) (rule .comparison)
  | .comparison =>
    operations .comparison .bitOr [mark "==", mark "!=", mark "<=", mark "<", mark ">=", mark ">",
      both (word "not") (word "in"), word "in", both (word "is") (word "not"), word "is"]
  | .bitOr => operations .operation .bitXor [mark "|"]
  | .bitXor => operations .operation .bitAnd [mark "^"]
  | .bitAnd => operations .operation .shift [mark "&"]
  | .shift => operations .operation .sum [mark "<<", mark ">>"]
  | .sum => operations .operation .product [mark "+", mark "-"]
  | .product => operations .operation .factor [mark "*", mark "//", mark "/", mark "%", mark "@"]
  | .factor =>
    either (as .operation (both (choice [mark "+", mark "-", mark "~"]) (rule .factor))) (rule .power)
  | .power =>
    both (rule .primary) (optional (as .operation (both (mark "**") (rule .factor))))
  | .primary =>
    chain (rule .atom) (choice ([as .member (both (mark ".") name)] ++ badTarget ++
      [as .call (seq [mark "(", optional (rule .arguments), mark ")"])]))
  | .atom =>
    choice [
      name,
      as (.constant "True") (word "True"), as (.constant "False") (word "False"),
      as (.constant "None") (word "None"),
      quoted, as .literal number,
      both (ahead (mark "(")) round,
      both (ahead (mark "\x7b")) curly,
      as (.constant "ellipsis") (mark "...")]
  | .named =>
    choice ([as .assignment (seq [name, mark ":=", rule .expression])] ++ strayEquals ++
      [both (rule .expression) (without (mark ":="))])
  | .item => either (both (mark "*") (rule .bitOr)) (rule .named)
  | .items => both (separated (rule .item)) (optional (mark ","))
  | .starred =>
    either (both (mark "*") (rule .expression)) (refuse "Invalid star expression" (mark "*"))
  | .keyValue =>
    either (both (mark "**") (rule .bitOr)) (seq [rule .expression, mark ":", rule .expression])
  | .keyValues => both (separated (rule .keyValue)) (optional (mark ","))
  | .argument =>
    choice [rule .starred,
      both (choice [seq [name, mark ":=", rule .expression], both (rule .expression) (without (mark ":="))])
        (without (mark "="))]
  | .keyword =>
    choice [
      hint (fun kind => "cannot assign to " ++ kind.noun)
        (both (choice [as (.constant "True") (word "True"), as (.constant "False") (word "False"),
          as (.constant "None") (word "None")]) (mark "=")),
      hint (fun _ => "expression cannot contain assignment, perhaps you meant \"==\"?")
        (seq [without (both name (mark "=")), rule .expression, mark "="]),
      seq [name, mark "=", rule .expression],
      both (mark "**") (rule .expression),
      rule .starred]
  | .arguments =>
    both (either
        (both (separated (rule .argument)) (optional (both (mark ",") (separated (rule .keyword)))))
        (separated (rule .keyword)))
      (both (optional (mark ",")) (ahead (mark ")")))

def Rule.isReadOnce : Rule → Bool
  | .expression | .disjunction | .conjunction | .inversion | .bitOr | .bitXor | .bitAnd | .shift | .sum
  | .product | .factor | .primary | .arguments => true
  | _ => false

def stepsPerToken : Nat := 300

def readRule (hints : Bool) (r : Rule) (tokens : List Placed) : Outcome Rule :=
  Form.read ⟨Rule.form, Rule.isReadOnce⟩ (stepsPerToken * (tokens.length + 1)) hints (.rule r)
    ⟨.none, 0, tokens⟩ []

end GuardedAutomata.Terminal.Handler
