import GuardedAutomata.Number.Integer
import GuardedAutomata.Value.Text

/-!
# Faults of value operations

What can go wrong inside an operation on values: a value that cannot be a key, cannot be ordered, written,
walked through, or turned into a state or a range, and text that stands for no number or date.
-/

set_option autoImplicit false

namespace GuardedAutomata

inductive Fault where
  | unhashable (type : String)
  | unordered (sign left right : String)
  | notIterable (type : String)
  | noAttribute (type field : String)
  | notAddable (left right : String)
  | notText (type : String)
  | outOfRange
  | outOfText
  | badStateId (id : Value)
  | emptyRange (low high : Value)
  | mixedDates
  | mixedZones
  | badInteger (base : Nat) (text : String)
  | longInteger (digits : Option Nat)
  | badFloat (text : String)
  | largeInteger
  | badCharacter
  | missingKey (key : Value)
  | badDate (problem : CalendarProblem)
  | endless
  | raised (text : String)

namespace Fault

def shortened (s : String) : String :=
  String.ofList (s.toList.take 200)

def quoting (quoted : List Value) (message : String) : String :=
  if Value.allHaveText quoted then message else Integer.tooLongText none

def message : Fault → String
  | unhashable type => "unhashable type: '" ++ type ++ "'"
  | unordered sign left right =>
    "'" ++ sign ++ "' not supported between instances of '" ++ left ++ "' and '" ++ right ++ "'"
  | notIterable type => "'" ++ type ++ "' object is not iterable"
  | noAttribute type field =>
    "'" ++ type ++ "' object has no attribute '" ++ field ++ "'"
  | notAddable left right =>
    "unsupported operand type(s) for +: '" ++ left ++ "' and '" ++ right ++ "'"
  | notText type => "expected string or bytes-like object, got '" ++ type ++ "'"
  | outOfRange => "list index out of range"
  | outOfText => "string index out of range"
  | badStateId id => quoting [id] ("State id must be a non-negative int, got " ++ id.literal)
  | emptyRange low high => quoting [low, high] ("Empty range: " ++ low.literal ++ "-" ++ high.literal)
  | mixedDates => "can't compare datetime.datetime to datetime.date"
  | mixedZones => "can't compare offset-naive and offset-aware datetimes"
  | badInteger base text =>
    "invalid literal for int() with base " ++ toString base ++ ": " ++ shortened (Text.quoted text)
  | longInteger digits => Integer.tooLongText digits
  | badFloat text => "could not convert string to float: " ++ Text.quoted text
  | largeInteger => "int too large to convert to float"
  | badCharacter => "chr() arg not in range(0x110000)"
  | missingKey key => key.literal
  | badDate problem => problem.message
  | endless => "maximum recursion depth exceeded"
  | raised text => text

end Fault

namespace Value

def checkHashable (v : Value) : Except Fault Unit :=
  match v.unhashable? with
  | some type => .error (.unhashable type)
  | none => .ok ()

def checkText (v : Value) : Except Fault Unit :=
  if v.hasText then .ok () else .error (.longInteger none)

def checkTexts (vs : List Value) : Except Fault Unit :=
  if allHaveText vs then .ok () else .error (.longInteger none)

def elements (v : Value) : Except Fault (List Value) :=
  match v.elements? with
  | some items => .ok items
  | none => .error (.notIterable v.fullTypeName)

end Value

end GuardedAutomata
