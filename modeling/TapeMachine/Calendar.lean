/-
  Calendar dates and moments.

  Dates follow the Gregorian calendar with years 1 to 9999.  A moment is a date
  with a time of day and, when it is known, an offset from universal time that is
  less than a day.
-/
set_option autoImplicit false

namespace TapeMachine.Calendar

/-! ## Dates -/

/-- A calendar date. -/
structure Date where
  year : Nat
  month : Nat
  day : Nat
  deriving DecidableEq, Repr, Inhabited

/-- A date with a time of day.  The offset is counted in minutes. -/
structure Moment where
  date : Date
  hour : Nat
  minute : Nat
  second : Nat
  microsecond : Nat
  offset : Option Int
  deriving DecidableEq, Repr, Inhabited

/-- Why a date or a moment does not exist. -/
inductive Error where
  /-- The year lies outside 1 to 9999. -/
  | year (value : Nat)
  /-- The month lies outside 1 to 12. -/
  | month
  /-- The month has no such day. -/
  | day
  /-- The hour lies outside 0 to 23. -/
  | hour
  /-- The minute lies outside 0 to 59. -/
  | minute
  /-- The second lies outside 0 to 59. -/
  | second
  /-- The offset, in minutes, is a day or more. -/
  | offset (minutes : Int)
  deriving DecidableEq, Repr

/-! ## Validation -/

/-- Whether a year has a twenty-ninth of February. -/
def isLeap (year : Nat) : Bool :=
  year % 4 == 0 && (year % 100 != 0 || year % 400 == 0)

/-- The number of days of a month. -/
def daysIn (year month : Nat) : Nat :=
  if month = 2 then if isLeap year then 29 else 28
  else if month = 4 ∨ month = 6 ∨ month = 9 ∨ month = 11 then 30
  else 31

/-- The date, when the calendar has it. -/
def date (year month day : Nat) : Except Error Date :=
  if year < 1 ∨ 9999 < year then .error (.year year)
  else if month < 1 ∨ 12 < month then .error .month
  else if day < 1 ∨ daysIn year month < day then .error .day
  else .ok ⟨year, month, day⟩

/-- The moment, when it exists. -/
def moment (year month day hour minute second microsecond : Nat) (offset : Option Int) :
    Except Error Moment := do
  if let some minutes := offset then
    if 1440 ≤ minutes.natAbs then throw (.offset minutes)
  let date ← date year month day
  if 24 ≤ hour then throw .hour
  if 60 ≤ minute then throw .minute
  if 60 ≤ second then throw .second
  return ⟨date, hour, minute, second, microsecond, offset⟩

/-! ## Comparison -/

/-- The number of days from the first day of the calendar to a date. -/
def Date.dayNumber (d : Date) : Nat :=
  let earlier := d.year - 1
  let months := (List.range (d.month - 1)).map fun month => daysIn d.year (month + 1)
  let before := months.foldl (· + ·) 0
  earlier * 365 + earlier / 4 - earlier / 100 + earlier / 400 + before + (d.day - 1)

/-- The time of a moment on its own clock, in microseconds. -/
def Moment.clock (m : Moment) : Int :=
  let minutes := (m.date.dayNumber * 24 + m.hour) * 60 + m.minute
  ((minutes * 60 + m.second) * 1000000 + m.microsecond : Nat)

/-- Whether two moments are one: with offsets they are compared by universal time, and
a moment without offset is none of those with one. -/
def Moment.same (a b : Moment) : Bool :=
  match a.offset, b.offset with
  | none, none => a.clock == b.clock
  | some s, some t => a.clock - s * 60000000 == b.clock - t * 60000000
  | _, _ => false

/-! ## Text -/

/-- A span of time of less than two days, counted in minutes: whole days, rounded
down, and the seconds beyond them. -/
def spanText (minutes : Int) : String :=
  let days := minutes / 1440
  let seconds := (minutes % 1440) * 60
  let parts :=
    (if days = 0 then [] else [s!"days={days}"]) ++
      (if seconds = 0 then [] else [s!"seconds={seconds}"])
  let inner := if parts.isEmpty then "0" else ", ".intercalate parts
  s!"datetime.timedelta({inner})"

/-- What is wrong with a date or a moment. -/
def Error.message : Error → String
  | .year value => s!"year {value} is out of range"
  | .month => "month must be in 1..12"
  | .day => "day is out of range for month"
  | .hour => "hour must be in 0..23"
  | .minute => "minute must be in 0..59"
  | .second => "second must be in 0..59"
  | .offset minutes =>
      "offset must be a timedelta strictly between -timedelta(hours=24) and " ++
        s!"timedelta(hours=24), not {spanText minutes}."

/-- A date as it is shown in messages. -/
def Date.shown (d : Date) : String :=
  s!"datetime.date({d.year}, {d.month}, {d.day})"

/-- An offset as it is shown in messages. -/
def offsetShown (minutes : Int) : String :=
  if minutes = 0 then "datetime.timezone.utc"
  else s!"datetime.timezone({spanText minutes})"

/-- A moment as it is shown in messages: seconds and microseconds are left out when
they are zero. -/
def Moment.shown (m : Moment) : String :=
  let time :=
    if m.microsecond ≠ 0 then [m.hour, m.minute, m.second, m.microsecond]
    else if m.second ≠ 0 then [m.hour, m.minute, m.second]
    else [m.hour, m.minute]
  let fields := [m.date.year, m.date.month, m.date.day] ++ time
  let zone :=
    match m.offset with
    | none => ""
    | some minutes => ", tzinfo=" ++ offsetShown minutes
  "datetime.datetime(" ++ ", ".intercalate (fields.map toString) ++ zone ++ ")"

end TapeMachine.Calendar
