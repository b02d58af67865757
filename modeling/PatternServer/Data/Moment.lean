import PatternServer.Number.Shortest

/-!
# Dates and times

The dates and times that a configuration file can hold, their validity and the two forms in which
messages show them: the plain form and the constructor form.
-/

namespace PatternServer.Data

set_option autoImplicit false

open PatternServer.Number

structure Day where
  year : Nat
  month : Nat
  day : Nat
deriving Repr, DecidableEq, Inhabited

structure ClockTime where
  hour : Nat
  minute : Nat
  second : Nat
  microsecond : Nat
deriving Repr, DecidableEq, Inhabited

/-- A day, a time of day, or both with an optional offset from universal time in minutes. -/
inductive Moment where
  | day (d : Day)
  | time (t : ClockTime)
  | dateTime (d : Day) (t : ClockTime) (offset : Option Int)
deriving Repr, DecidableEq, Inhabited

def isLeapYear (y : Nat) : Bool :=
  y % 4 = 0 && (y % 100 ≠ 0 || y % 400 = 0)

def daysInMonth (y m : Nat) : Nat :=
  if m = 2 then (if isLeapYear y then 29 else 28)
  else if m = 4 ∨ m = 6 ∨ m = 9 ∨ m = 11 then 30
  else 31

/-- A day of the calendar, from the year 1 to the year 9999. -/
def Day.isValid (d : Day) : Bool :=
  1 ≤ d.year && d.year ≤ 9999 && 1 ≤ d.month && d.month ≤ 12 &&
    1 ≤ d.day && d.day ≤ daysInMonth d.year d.month

def ClockTime.isValid (t : ClockTime) : Bool :=
  t.hour < 24 && t.minute < 60 && t.second < 60 && t.microsecond < 1000000

def two (n : Nat) : List Char :=
  padZeros 2 (digitChars n)

def Day.chars (d : Day) : List Char :=
  padZeros 4 (digitChars d.year) ++ '-' :: two d.month ++ '-' :: two d.day

def ClockTime.chars (t : ClockTime) : List Char :=
  let fraction :=
    if t.microsecond = 0 then [] else '.' :: padZeros 6 (digitChars t.microsecond)
  two t.hour ++ ':' :: two t.minute ++ ':' :: two t.second ++ fraction

def offsetChars (minutes : Int) : List Char :=
  let sign := if minutes < 0 then '-' else '+'
  sign :: two (minutes.natAbs / 60) ++ ':' :: two (minutes.natAbs % 60)

def Moment.chars : Moment → List Char
  | .day d => d.chars
  | .time t => t.chars
  | .dateTime d t offset =>
    d.chars ++ ' ' :: t.chars ++ (offset.map offsetChars).getD []

def argumentChars (ns : List Nat) : List Char :=
  ((ns.map digitChars).intersperse [',', ' ']).flatten

/-- The seconds and microseconds as trailing arguments, of which zeros at the end are left out. -/
def ClockTime.tailArguments (t : ClockTime) : List Nat :=
  if t.microsecond = 0 then (if t.second = 0 then [] else [t.second])
  else [t.second, t.microsecond]

/-- The constructor form of an offset: a whole number of days, which may be negative, and a
number of seconds, which may not. -/
def offsetConstructor (minutes : Int) : List Char :=
  if minutes = 0 then
    "datetime.timezone.utc".toList
  else
    let days := if minutes < 0 then "days=-1, ".toList else []
    let seconds := (if minutes < 0 then minutes + 1440 else minutes).toNat * 60
    "datetime.timezone(datetime.timedelta(".toList ++ days ++ "seconds=".toList ++
      digitChars seconds ++ "))".toList

def Moment.constructorChars : Moment → List Char
  | .day d => "datetime.date(".toList ++ argumentChars [d.year, d.month, d.day] ++ [')']
  | .time t =>
    "datetime.time(".toList ++ argumentChars ([t.hour, t.minute] ++ t.tailArguments) ++ [')']
  | .dateTime d t offset =>
    "datetime.datetime(".toList ++
      argumentChars ([d.year, d.month, d.day, t.hour, t.minute] ++ t.tailArguments) ++
      (offset.map fun m => ", tzinfo=".toList ++ offsetConstructor m).getD [] ++ [')']

end PatternServer.Data
