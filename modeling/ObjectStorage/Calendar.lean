/-! Dates and times of day, with or without a distance from universal time. -/

namespace ObjectStorage

/-- A day of the proleptic Gregorian calendar. -/
structure Date where
  year : Nat
  month : Nat
  day : Nat
  deriving DecidableEq, Repr

/-- A time on a day; `offset?` is the distance from universal time in minutes. -/
structure Timestamp where
  date : Date
  hour : Nat
  minute : Nat
  second : Nat
  microsecond : Nat
  offset? : Option Int
  deriving DecidableEq, Repr

/-- Why numbers are not a date or a time. -/
inductive CalendarError where
  | year (n : Nat)
  | month
  | day
  | hour
  | minute
  | second
  /-- The distance from universal time, in minutes, is a day or more. -/
  | offset (minutes : Int)
  deriving DecidableEq, Repr

namespace Calendar

def isLeap (year : Nat) : Bool :=
  year % 4 == 0 && (year % 100 != 0 || year % 400 == 0)

def daysIn (year : Nat) : (month : Nat) → Nat
  | 2 => if isLeap year then 29 else 28
  | 4 | 6 | 9 | 11 => 30
  | _ => 31

/-- A number with at least `width` digits. -/
def padded (width n : Nat) : String :=
  let digits := Nat.toDigits 10 n
  String.ofList (List.replicate (width - digits.length) '0' ++ digits)

end Calendar

open Calendar

/-- The year is checked first, then the month, then the day. -/
def Date.check (d : Date) : Except CalendarError Date :=
  if d.year < 1 ∨ 9999 < d.year then .error (.year d.year)
  else if d.month < 1 ∨ 12 < d.month then .error .month
  else if d.day < 1 ∨ daysIn d.year d.month < d.day then .error .day
  else .ok d

/-- The distance from universal time is checked before the date, the time of day after it. -/
def Timestamp.check (t : Timestamp) : Except CalendarError Timestamp := do
  match t.offset? with
  | some minutes => if minutes.natAbs ≥ 24 * 60 then throw (.offset minutes)
  | none => pure ()
  let _ ← t.date.check
  if t.hour > 23 then throw .hour
  if t.minute > 59 then throw .minute
  if t.second > 59 then throw .second
  pure t

def Date.render (d : Date) : String :=
  s!"{padded 4 d.year}-{padded 2 d.month}-{padded 2 d.day}"

/-- A distance from universal time as a sign, hours and minutes. -/
def renderOffset (minutes : Int) : String :=
  let sign := if minutes < 0 then "-" else "+"
  s!"{sign}{padded 2 (minutes.natAbs / 60)}:{padded 2 (minutes.natAbs % 60)}"

def Timestamp.render (t : Timestamp) : String :=
  let fraction := if t.microsecond = 0 then "" else "." ++ padded 6 t.microsecond
  let offset := match t.offset? with
    | some minutes => renderOffset minutes
    | none => ""
  s!"{t.date.render} {padded 2 t.hour}:{padded 2 t.minute}:{padded 2 t.second}{fraction}{offset}"

/-- A distance in whole days and the seconds that remain, as the error about it shows it. -/
def renderDistance (minutes : Int) : String :=
  let days := Int.fdiv minutes (24 * 60)
  let seconds := Int.fmod minutes (24 * 60) * 60
  let parts := (if days = 0 then [] else [s!"days={days}"]) ++
    (if seconds = 0 then [] else [s!"seconds={seconds}"])
  "datetime.timedelta(" ++ ", ".intercalate parts ++ ")"

def CalendarError.message : CalendarError → String
  | .year n => s!"year {n} is out of range"
  | .month => "month must be in 1..12"
  | .day => "day is out of range for month"
  | .hour => "hour must be in 0..23"
  | .minute => "minute must be in 0..59"
  | .second => "second must be in 0..59"
  | .offset minutes =>
    "offset must be a timedelta strictly between -timedelta(hours=24) and timedelta(hours=24), " ++
      s!"not {renderDistance minutes}."

end ObjectStorage
