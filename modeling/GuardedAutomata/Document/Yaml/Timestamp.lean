import GuardedAutomata.Value.Basic

/-!
# Timestamps

A day, or a moment of a day, as YAML writes them: `2001-12-14`, or `2001-12-14 21:59:43.10 -5:30`. The letter
`T` or blanks stand between the day and the time, and at the end the letter `Z` or a distance from universal
time may follow.
-/

set_option autoImplicit false

namespace GuardedAutomata.Yaml

structure Clock where
  hour : Nat
  minute : Nat
  second : Nat
  microsecond : Nat
  zone : Option Int

structure Timestamp where
  year : Nat
  month : Nat
  day : Nat
  clock : Option Clock

namespace Timestamp

def number? (least most : Nat) (cs : List Char) : Option (Nat × List Char) :=
  let digits := (cs.take most).takeWhile Char.isDigit
  if digits.length < least then none else some (Decimal.digitsValue digits, cs.drop digits.length)

def behind? (mark : Char) (least most : Nat) : List Char → Option (Nat × List Char)
  | [] => none
  | c :: rest => if c = mark then number? least most rest else none

def isBlank (c : Char) : Bool :=
  c == ' ' || c == '\t'

def dropSeparator? : List Char → Option (List Char)
  | 'T' :: rest => some rest
  | 't' :: rest => some rest
  | c :: rest => if isBlank c then some (rest.dropWhile isBlank) else none
  | [] => none

def microseconds (digits : List Char) : Nat :=
  let shown := digits.take 6
  Decimal.digitsValue shown * Nat.pow 10 (6 - shown.length)

def fraction : List Char → Nat × List Char
  | '.' :: rest =>
    let (digits, rest) := Decimal.takeDigits rest
    (microseconds digits, rest)
  | cs => (0, cs)

def distance? (negative : Bool) (cs : List Char) : Option Int := do
  let (hours, rest) ← number? 1 2 cs
  let (minutes, rest) ← if rest.isEmpty then some (0, rest) else behind? ':' 2 2 rest
  let seconds : Int := (hours * 3600 + minutes * 60 : Nat)
  if rest.isEmpty then some (if negative then -seconds else seconds) else none

def zone? (cs : List Char) : Option (Option Int) :=
  if cs.isEmpty then some none
  else
    match cs.dropWhile isBlank with
    | ['Z'] => some (some 0)
    | '+' :: rest => (distance? false rest).map some
    | '-' :: rest => (distance? true rest).map some
    | _ => none

def clock? (cs : List Char) : Option Clock := do
  let (hour, rest) ← number? 1 2 cs
  let (minute, rest) ← behind? ':' 2 2 rest
  let (second, rest) ← behind? ':' 2 2 rest
  let (microsecond, rest) := fraction rest
  let zone ← zone? rest
  some ⟨hour, minute, second, microsecond, zone⟩

def parse? (cs : List Char) : Option Timestamp := do
  let (year, rest) ← number? 4 4 cs
  let (month, rest) ← behind? '-' 1 2 rest
  let (day, rest) ← behind? '-' 1 2 rest
  if rest.isEmpty then some ⟨year, month, day, none⟩
  else
    let rest ← dropSeparator? rest
    let clock ← clock? rest
    some ⟨year, month, day, some clock⟩

def isEvident (cs : List Char) : Bool :=
  match parse? cs with
  | none => false
  | some t => t.clock.isSome || cs.length == 10

def checkedZone (c : Clock) : Except CalendarProblem (Option Int) :=
  match c.zone with
  | none => .ok none
  | some seconds => (Moment.checkOffset seconds).map some

def value (t : Timestamp) : Except CalendarProblem Value :=
  match t.clock with
  | none => (Date.make t.year t.month t.day).map .date
  | some c => do
    let zone ← checkedZone c
    let date ← Date.make t.year t.month t.day
    (Moment.make date c.hour c.minute c.second c.microsecond zone).map .moment

end Timestamp

end GuardedAutomata.Yaml
