import GuardedAutomata.Number.Decimal

/-!
# Dates

Days of the calendar, from the year 1 to the year 9999. `Date.dayNumber` counts the days from the first one
on, by which dates are ordered.
-/

set_option autoImplicit false

namespace GuardedAutomata

inductive CalendarProblem where
  | year (n : Nat)
  | month
  | day
  | hour
  | minute
  | second
  | offset (seconds : Int)
  deriving DecidableEq, Repr

structure Date where
  year : Nat
  month : Nat
  day : Nat
  deriving DecidableEq, Inhabited, Repr

namespace Date

def padded (places n : Nat) : String :=
  let digits := Nat.toDigits 10 n
  String.ofList (List.replicate (places - digits.length) '0' ++ digits)

def isLeap (year : Nat) : Bool :=
  year % 4 == 0 && (year % 100 != 0 || year % 400 == 0)

def daysOfMonth (year month : Nat) : Nat :=
  if month = 2 then (if isLeap year then 29 else 28)
  else if month = 4 ∨ month = 6 ∨ month = 9 ∨ month = 11 then 30
  else 31

def make (year month day : Nat) : Except CalendarProblem Date :=
  if year = 0 ∨ 9999 < year then .error (.year year)
  else if month = 0 ∨ 12 < month then .error .month
  else if day = 0 ∨ daysOfMonth year month < day then .error .day
  else .ok ⟨year, month, day⟩

def daysBeforeYear (year : Nat) : Nat :=
  let past := year - 1
  past * 365 + past / 4 - past / 100 + past / 400

def daysBeforeMonth (year month : Nat) : Nat :=
  ((List.range (month - 1)).map fun m => daysOfMonth year (m + 1)).foldr (· + ·) 0

def dayNumber (d : Date) : Nat :=
  daysBeforeYear d.year + daysBeforeMonth d.year d.month + d.day

def text (d : Date) : String :=
  padded 4 d.year ++ "-" ++ padded 2 d.month ++ "-" ++ padded 2 d.day

def literal (d : Date) : String :=
  "datetime.date(" ++ toString d.year ++ ", " ++ toString d.month ++ ", " ++ toString d.day ++ ")"

end Date

end GuardedAutomata
