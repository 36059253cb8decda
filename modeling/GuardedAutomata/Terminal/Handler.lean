import GuardedAutomata.Terminal.Handler.Expression
import GuardedAutomata.Text.Blank
import GuardedAutomata.Text.Utf8

/-!
# Handlers

A handler is a dotted name, which may have values in brackets behind it, or else values alone. The values must
be an expression that can be read.
-/

set_option autoImplicit false

namespace GuardedAutomata.Terminal.Handler

def brokenToken? (tokens : List Placed) : Option String :=
  tokens.findSome? fun placed =>
    match placed.token with
    | .broken problem true => some problem
    | _ => none

def isIndentedBehind (tokens : List Placed) : Bool :=
  match readRule false .indented tokens with
  | .ok (some _, _) => true
  | _ => false

def tokensProblem? (ts : List Placed) : Option String :=
  if isIndentedBehind ts then some "unexpected indent"
  else
    match brokenToken? ts with
    | some problem => some problem
    | none =>
      match readRule false .whole ts with
      | .ok (some _, _) => none
      | .error problem => some problem
      | .ok (none, _) =>
        match readRule true .whole ts with
        | .error problem => some problem
        | .ok _ => some "invalid syntax"

def expressionProblem? (cs : List Char) : Option String :=
  if cs.contains '\x00' then some "source code string cannot contain null bytes"
  else tokensProblem? (tokens cs)

def namedValues? (handler : List Char) : Option (List Char) :=
  let behind := handler.dropWhile fun c => Text.isWordPart c || c == '.'
  match behind with
  | [] => some ['(', ')']
  | '(' :: rest => if rest.getLast? = some ')' && !rest.contains '\n' then some behind else none
  | _ => none

def problem? (setting : List Char) : Option (List Char × String) :=
  if setting.isEmpty then none
  else
    let handler := Text.trimBlanks setting
    let values := (namedValues? handler).getD handler
    (expressionProblem? (Text.unifyLines (values.dropWhile fun c => c == ' ' || c == '\t'))).map
      fun problem => (values, problem)

end GuardedAutomata.Terminal.Handler
