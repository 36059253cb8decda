import GuardedAutomata.Guard
import GuardedAutomata.Range
import GuardedAutomata.Text.Uppercase
import GuardedAutomata.Value.Matcher

/-!
# Kinds of stores

A store kind says what its predicates are and when one matches an input value: symbols match equal
values, ranges the values they contain, callables the values they answer truly. The upper-casing kind
matches symbols with the upper-case form of the input, and the unnamed one is a symbol kind without a
name.
-/

set_option autoImplicit false

namespace GuardedAutomata

inductive StoreKind where
  | symbol
  | range
  | callable
  | upper
  | unnamed
  deriving DecidableEq, Inhabited, Repr

namespace StoreKind

def name : StoreKind → String
  | symbol => "symbol"
  | range => "range"
  | callable => "callable"
  | upper => "upper"
  | unnamed => ""

def className : StoreKind → String
  | symbol => "SymbolTransitionStore"
  | range => "RangeTransitionStore"
  | callable => "CallableTransitionStore"
  | upper => "UpperStore"
  | unnamed => "NoKindStore"

def isGrouped : StoreKind → Bool
  | symbol => true
  | range => false
  | callable => false
  | upper => true
  | unnamed => true

def coerce (k : StoreKind) (v : Value) : Except Failure Value :=
  match k with
  | range => Range.parse v
  | callable =>
    match v with
    | .function f => .ok (.function f)
    | v => .error (.notCallable v.typeName)
  | _ => .ok v

def format (k : StoreKind) (v : Value) : String :=
  match k with
  | callable =>
    match v with
    | .function f => f.name?.getD f.literal
    | v => v.literal
  | _ => v.text

def writeFormat (k : StoreKind) (v : Value) : Except Fault String :=
  match v.checkText with
  | .ok _ => .ok (k.format v)
  | .error cause => .error cause

def parse (k : StoreKind) (raw : Value) : Except Failure Value :=
  match k with
  | range => Range.parse raw
  | callable => .error (.unreadableCallable raw)
  | _ => .ok raw

def dump (k : StoreKind) (v : Value) : Except Failure Value :=
  match k with
  | range =>
    match v with
    | .range low high => .ok (Range.dump low high)
    | v => .error (.fault (.noAttribute v.fullTypeName "low"))
  | callable =>
    match v.checkText with
    | .ok _ => .error (.unwritableCallable (callable.format v))
    | .error cause => .error (.fault cause)
  | _ => .ok v

def formatGuard (k : StoreKind) : Guard → String
  | .epsilon => "eps"
  | .predicate v => "'" ++ k.format v ++ "'"

def lookupKey (k : StoreKind) (v : Value) : Except Fault Value :=
  match k with
  | upper =>
    match v with
    | .str s => .ok (.str (Text.upper s))
    | v => .error (.noAttribute v.fullTypeName "upper")
  | _ => .ok v

def test [TestFunctions] (k : StoreKind) (p v : Value) : Except Fault Bool :=
  match k with
  | range =>
    match p with
    | .range low high => .ok (Range.contains low high v)
    | _ => .ok false
  | callable =>
    match p with
    | .function f =>
      match f.apply v with
      | .ok answer => .ok answer.truthy
      | .error cause => .error cause
    | _ => .ok false
  | _ => .ok (p.same v)

end StoreKind

end GuardedAutomata
