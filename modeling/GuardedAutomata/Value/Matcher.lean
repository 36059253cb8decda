import GuardedAutomata.Value.Fault

/-!
# Test functions

What test functions answer is given from outside: a function's answer for a value is a value, of which a
store looks only at whether it counts as true. A small catalogue of functions stands ready.
-/

set_option autoImplicit false

namespace GuardedAutomata

/-- What every test function answers for every value. -/
class TestFunctions where
  apply : Matcher → Value → Except Fault Value

namespace Matcher

def apply [TestFunctions] (f : Matcher) (v : Value) : Except Fault Value :=
  TestFunctions.apply f v

def named (serial : Nat) (name : String) : Matcher :=
  ⟨serial, some name, "<function " ++ name ++ ">"⟩

def digit : Matcher := named 0 "is_digit"
def lower : Matcher := named 1 "is_lower"
def vowel : Matcher := named 2 "is_vowel"
def always : Matcher := named 3 "always"
def never : Matcher := named 4 "never"
def itself : Matcher := named 5 "itself"
def failing : Matcher := named 6 "boom"
def anonymous : Matcher := ⟨7, none, "<anon>"⟩

def isCharIn (p : Char → Bool) : Value → Bool
  | .str s =>
    match s.toList with
    | [c] => p c
    | _ => false
  | _ => false

@[reducible] def catalogue : TestFunctions where
  apply f v :=
    match f.serial with
    | 0 => .ok (.bool (isCharIn Char.isDigit v))
    | 1 => .ok (.bool (isCharIn Char.isLower v))
    | 2 => .ok (.bool (isCharIn (fun c => "aeiou".toList.contains c) v))
    | 3 => .ok (.bool true)
    | 4 => .ok (.bool false)
    | 5 => .ok v
    | 6 => .error (.raised "boom")
    | _ => .ok (.bool (v.equal (.str "?")))

end Matcher

end GuardedAutomata
