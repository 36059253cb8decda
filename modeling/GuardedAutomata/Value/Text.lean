import GuardedAutomata.Number.Integer
import GuardedAutomata.Text.Quoted
import GuardedAutomata.Value.Equality

/-!
# Text of values

`Value.literal` writes a value so that its type shows, text in quotes; `Value.text` is the plain text of a
value, in which text stands for itself, a state is its number after a hash sign, and a range is its
bounds joined by a dash, or one bound when they are equal. Both are texts of the values that have one: neither an
integer with too many digits nor anything that holds one can be written.
-/

set_option autoImplicit false

namespace GuardedAutomata

namespace Container

def literal : Container → String
  | list => "[...]"
  | dict => "\x7b...\x7d"

end Container

namespace Value

def joined (texts : List String) : String :=
  ", ".intercalate texts

mutual

def literal : Value → String
  | null => "None"
  | bool b => if b then "True" else "False"
  | int n => toString n
  | float x => x.text
  | str s => Text.quoted s
  | bytes bs => Text.quotedBytes bs
  | date d => d.literal
  | moment m => m.literal
  | list items => "[" ++ joined (literals items) ++ "]"
  | set items => if items.isEmpty then "set()" else "\x7b" ++ joined (literals items) ++ "\x7d"
  | enclosing c => c.literal
  | tuple items => "(" ++ joined (literals items) ++ (if items.length = 1 then ",)" else ")")
  | dict entries => "\x7b" ++ joined (entryLiterals entries) ++ "\x7d"
  | epsilon => "EPSILON"
  | predicate v => "Predicate(value=" ++ literal v ++ ")"
  | range low high => "CharRange(low=" ++ literal low ++ ", high=" ++ literal high ++ ")"
  | state id => "State(id=" ++ toString id ++ ")"
  | function f => f.literal

def literals : List Value → List String
  | [] => []
  | v :: rest => literal v :: literals rest

def entryLiterals : List (Value × Value) → List String
  | [] => []
  | (k, v) :: rest => (literal k ++ ": " ++ literal v) :: entryLiterals rest

end

def text : Value → String
  | str s => s
  | date d => d.text
  | moment m => m.text
  | state id => "#" ++ toString id
  | range low high => if low.equal high then low.text else low.text ++ "-" ++ high.text
  | v => v.literal

mutual

def hasText : Value → Bool
  | int n => Integer.hasText n
  | list items => allHaveText items
  | tuple items => allHaveText items
  | set items => allHaveText items
  | dict entries => entriesHaveText entries
  | predicate v => hasText v
  | range low high => hasText low && hasText high
  | state id => Integer.hasText id
  | _ => true

def allHaveText : List Value → Bool
  | [] => true
  | v :: rest => hasText v && allHaveText rest

def entriesHaveText : List (Value × Value) → Bool
  | [] => true
  | (k, v) :: rest => hasText k && hasText v && entriesHaveText rest

end

end Value

end GuardedAutomata
