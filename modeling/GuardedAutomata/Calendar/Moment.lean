import GuardedAutomata.Calendar.Date

/-!
# Moments

A moment is a time of a day. It may say how far its clock is ahead of universal time; two such moments are
compared by their places in universal time, two others by what their clocks show.
-/

set_option autoImplicit false

namespace GuardedAutomata

structure Moment where
  date : Date
  hour : Nat
  minute : Nat
  second : Nat
  microsecond : Nat
  offset : Option Int
  deriving DecidableEq, Inhabited, Repr

namespace Moment

def secondsPerDay : Nat := 86400

def checkOffset (seconds : Int) : Except CalendarProblem Int :=
  if seconds.natAbs < secondsPerDay then .ok seconds else .error (.offset seconds)

def make (date : Date) (hour minute second microsecond : Nat) (offset : Option Int) :
    Except CalendarProblem Moment :=
  if 23 < hour then .error .hour
  else if 59 < minute then .error .minute
  else if 59 < second then .error .second
  else .ok ⟨date, hour, minute, second, microsecond, offset⟩

def instant (m : Moment) : Int :=
  let seconds : Int := (m.date.dayNumber * secondsPerDay + m.hour * 3600 + m.minute * 60 + m.second : Nat)
  (seconds - m.offset.getD 0) * 1000000 + m.microsecond

def comparable (a b : Moment) : Bool :=
  a.offset.isSome == b.offset.isSome

def same (a b : Moment) : Bool :=
  comparable a b && a.instant == b.instant

/-! ### Text -/

def fractionText (m : Moment) : String :=
  if m.microsecond = 0 then "" else "." ++ Date.padded 6 m.microsecond

def offsetText (m : Moment) : String :=
  match m.offset with
  | none => ""
  | some seconds =>
    let minutes := seconds.natAbs / 60
    (if seconds < 0 then "-" else "+") ++ Date.padded 2 (minutes / 60) ++ ":" ++
      Date.padded 2 (minutes % 60)

def text (m : Moment) : String :=
  m.date.text ++ " " ++ Date.padded 2 m.hour ++ ":" ++ Date.padded 2 m.minute ++ ":" ++
    Date.padded 2 m.second ++ m.fractionText ++ m.offsetText

def lengthLiteral (seconds : Int) : String :=
  let days := seconds.fdiv secondsPerDay
  let rest := seconds.fmod secondsPerDay
  let parts :=
    (if days = 0 then [] else ["days=" ++ toString days]) ++
      (if rest = 0 then [] else ["seconds=" ++ toString rest])
  "datetime.timedelta(" ++ (if parts.isEmpty then "0" else ", ".intercalate parts) ++ ")"

def zoneLiteral (seconds : Int) : String :=
  if seconds = 0 then "datetime.timezone.utc"
  else "datetime.timezone(" ++ lengthLiteral seconds ++ ")"

def shownNumbers (m : Moment) : List Nat :=
  [m.date.year, m.date.month, m.date.day, m.hour, m.minute] ++
    (if m.microsecond ≠ 0 then [m.second, m.microsecond]
    else if m.second ≠ 0 then [m.second]
    else [])

def literal (m : Moment) : String :=
  let zone := match m.offset with
    | none => ""
    | some seconds => ", tzinfo=" ++ zoneLiteral seconds
  "datetime.datetime(" ++ ", ".intercalate (m.shownNumbers.map toString) ++ zone ++ ")"

end Moment

namespace CalendarProblem

def message : CalendarProblem → String
  | year n => "year " ++ toString n ++ " is out of range"
  | month => "month must be in 1..12"
  | day => "day is out of range for month"
  | hour => "hour must be in 0..23"
  | minute => "minute must be in 0..59"
  | second => "second must be in 0..59"
  | offset seconds =>
    "offset must be a timedelta strictly between -timedelta(hours=24) and timedelta(hours=24), not " ++
      Moment.lengthLiteral seconds ++ "."

end CalendarProblem

end GuardedAutomata
