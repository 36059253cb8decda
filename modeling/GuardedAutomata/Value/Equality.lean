import GuardedAutomata.Value.Basic

/-!
# Equality of values

Numbers are equal across their types when they stand for the same number, a boolean counting as 0 or
1; not-a-number equals nothing. Sequences are equal item by item within one type, dictionaries and sets
as maps and sets, and values of different types never. Inside a collection an item is also the same as
itself, though it may be unequal to itself (`Value.same`). Lists, sets and dictionaries cannot serve as
keys, and neither can anything that holds one.
-/

set_option autoImplicit false

namespace GuardedAutomata

inductive Number where
  | whole (n : Int)
  | double (x : Double)
  deriving DecidableEq, Repr

inductive Position where
  | bottom
  | at (units : Int)
  | top
  deriving DecidableEq, Repr

namespace Number

def position? : Number → Option Position
  | whole n => some (.at (n * (Double.unitsPerOne : Int)))
  | double (.finite u) => some (.at u)
  | double .negativeZero => some (.at 0)
  | double (.infinite negative) => some (if negative then .bottom else .top)
  | double (.nan _) => none

def equal : Number → Number → Bool
  | whole a, whole b => a == b
  | x, y =>
    match x.position?, y.position? with
    | some p, some q => p == q
    | _, _ => false

end Number

namespace Value

def number? : Value → Option Number
  | bool b => some (.whole (if b then 1 else 0))
  | int n => some (.whole n)
  | float x => some (.double x)
  | _ => none

def sameNumber (a b : Value) : Bool :=
  match a.number?, b.number? with
  | some x, some y => x.equal y
  | _, _ => false

def sameNan : Value → Value → Bool
  | float (.nan i), float (.nan j) => i == j
  | _, _ => false

mutual

def equal : Value → Value → Bool
  | null, null => true
  | str a, str b => a == b
  | bytes a, bytes b => a == b
  | date a, date b => a == b
  | moment a, moment b => a.same b
  | list a, list b => equalItems a b
  | tuple a, tuple b => equalItems a b
  | set a, set b => a.length == b.length && subset a b
  | dict a, dict b => a.length == b.length && equalEntries a b
  | enclosing c, enclosing d => c == d
  | epsilon, epsilon => true
  | predicate a, predicate b => equal a b || sameNan a b
  | range a b, range c d => (equal a c || sameNan a c) && (equal b d || sameNan b d)
  | state a, state b => a == b
  | function f, function g => f == g
  | a, b => sameNumber a b

def equalItems : List Value → List Value → Bool
  | [], [] => true
  | a :: as, b :: bs => (equal a b || sameNan a b) && equalItems as bs
  | _, _ => false

def subset : List Value → List Value → Bool
  | [], _ => true
  | a :: as, bs => bs.any (fun b => equal a b || sameNan a b) && subset as bs

def equalEntries : List (Value × Value) → List (Value × Value) → Bool
  | [], _ => true
  | (k, v) :: rest, es =>
    es.any (fun e => (equal k e.1 || sameNan k e.1) && (equal v e.2 || sameNan v e.2)) &&
      equalEntries rest es

end

def same (a b : Value) : Bool :=
  equal a b || sameNan a b

mutual

def unhashable? : Value → Option String
  | list _ => some "list"
  | set _ => some "set"
  | dict _ => some "dict"
  | enclosing .list => some "list"
  | enclosing .dict => some "dict"
  | tuple items => unhashableItem? items
  | predicate v => unhashable? v
  | range low high =>
    match unhashable? low with
    | some type => some type
    | none => unhashable? high
  | _ => none

def unhashableItem? : List Value → Option String
  | [] => none
  | v :: rest =>
    match unhashable? v with
    | some type => some type
    | none => unhashableItem? rest

end

def memberOf (v : Value) (vs : List Value) : Bool :=
  vs.any (same · v)

def insertInto (vs : List Value) (v : Value) : List Value :=
  if v.memberOf vs then vs else vs ++ [v]

theorem mem_insertInto {x v : Value} {vs : List Value} (h : x ∈ insertInto vs v) : x ∈ vs ∨ x = v := by
  unfold insertInto at h
  split at h
  · exact .inl h
  · simpa using h

def setEntry (entries : List (Value × Value)) (key v : Value) : List (Value × Value) :=
  match entries with
  | [] => [(key, v)]
  | (k, w) :: rest => if k.same key then (k, v) :: rest else (k, w) :: setEntry rest key v

end Value

end GuardedAutomata
