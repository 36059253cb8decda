import GuardedAutomata.Calendar.Moment
import GuardedAutomata.Number.Double

/-!
# Values

The values that guards, input sequences, markers and definitions are made of: scalars, text, dates,
sequences, sets, dictionaries, and the automaton's own objects. A test function of the callable store is
known by its number, so a function is a value like any other; what it answers is no part of it. A
collection may lie inside itself; where it is met again, `Value.enclosing` stands for it.
-/

set_option autoImplicit false

namespace GuardedAutomata

structure Matcher where
  serial : Nat
  name? : Option String
  literal : String
  deriving DecidableEq, Inhabited, Repr

inductive Container where
  | list
  | dict
  deriving DecidableEq, Inhabited, Repr

inductive Value where
  | null
  | bool (b : Bool)
  | int (n : Int)
  | float (x : Double)
  | str (s : String)
  | bytes (bs : List Nat)
  | date (d : Date)
  | moment (m : Moment)
  | list (items : List Value)
  | tuple (items : List Value)
  | set (items : List Value)
  | dict (entries : List (Value × Value))
  | enclosing (c : Container)
  | epsilon
  | predicate (value : Value)
  | range (low high : Value)
  | state (id : Nat)
  | function (f : Matcher)
  deriving Inhabited, BEq, Repr

namespace Container

def typeName : Container → String
  | list => "list"
  | dict => "dict"

end Container

namespace Value

def typeName : Value → String
  | null => "NoneType"
  | bool _ => "bool"
  | int _ => "int"
  | float _ => "float"
  | str _ => "str"
  | bytes _ => "bytes"
  | date _ => "date"
  | moment _ => "datetime"
  | list _ => "list"
  | tuple _ => "tuple"
  | set _ => "set"
  | dict _ => "dict"
  | enclosing c => c.typeName
  | epsilon => "Epsilon"
  | predicate _ => "Predicate"
  | range _ _ => "CharRange"
  | state _ => "State"
  | function _ => "function"

def fullTypeName : Value → String
  | date d => "datetime." ++ typeName (date d)
  | moment m => "datetime." ++ typeName (moment m)
  | v => v.typeName

def truthy : Value → Bool
  | null => false
  | bool b => b
  | int n => n != 0
  | float x => !x.isZero
  | str s => !s.isEmpty
  | bytes bs => !bs.isEmpty
  | list items => !items.isEmpty
  | tuple items => !items.isEmpty
  | set items => !items.isEmpty
  | dict entries => !entries.isEmpty
  | _ => true

def ofChar (c : Char) : Value :=
  str (String.singleton c)

def elements? : Value → Option (List Value)
  | str s => some (s.toList.map ofChar)
  | bytes bs => some (bs.map fun (b : Nat) => int b)
  | list items => some items
  | tuple items => some items
  | set items => some items
  | dict entries => some (entries.map Prod.fst)
  | _ => none

def field? (entries : List (Value × Value)) (key : String) : Option Value :=
  match entries with
  | [] => none
  | (str k, v) :: rest => if k = key then some v else field? rest key
  | _ :: rest => field? rest key

end Value

end GuardedAutomata
