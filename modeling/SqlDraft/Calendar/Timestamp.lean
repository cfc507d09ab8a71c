/-!
# Timestamps

A day of the proleptic Gregorian calendar and a time on it, down to the nanosecond. A leap second is
the second that follows second 59 of a minute; it is kept as second 59 with a billion nanoseconds or
more.
-/

namespace SqlDraft.Calendar

/-- Whether a year has a twenty-ninth of February. -/
def isLeapYear (year : Int) : Bool := year % 4 == 0 && (year % 100 != 0 || year % 400 == 0)

/-- The number of days of a month. -/
def daysIn (year : Int) (month : Nat) : Nat :=
  if month = 2 then (if isLeapYear year then 29 else 28)
  else if month = 4 ∨ month = 6 ∨ month = 9 ∨ month = 11 then 30 else 31

/-- Year, month and day, any numbers at all. -/
structure Day where
  year : Int
  month : Nat
  day : Nat
  deriving DecidableEq

/-- Hour, minute, second and nanosecond, any numbers at all. -/
structure Clock where
  hour : Nat
  minute : Nat
  second : Nat
  nano : Nat
  deriving DecidableEq

/-- The years that a timestamp may have. -/
def firstYear : Int := -262143

@[inherit_doc firstYear]
def lastYear : Int := 262142

/-- A day that exists, in one of the years that a timestamp may have. -/
def Day.Exists (d : Day) : Prop :=
  (firstYear ≤ d.year ∧ d.year ≤ lastYear) ∧ (1 ≤ d.month ∧ d.month ≤ 12) ∧
    (1 ≤ d.day ∧ d.day ≤ daysIn d.year d.month)

/-- A time that exists. A billion nanoseconds or more mark a leap second, which ends a minute. -/
def Clock.Exists (c : Clock) : Prop :=
  c.hour < 24 ∧ c.minute < 60 ∧ c.second < 60 ∧ c.nano < 2000000000 ∧ (1000000000 ≤ c.nano → c.second = 59)

instance (d : Day) : Decidable d.Exists := by unfold Day.Exists; infer_instance

instance (c : Clock) : Decidable c.Exists := by unfold Clock.Exists; infer_instance

/-- A moment that exists. -/
structure Timestamp where
  day : Day
  clock : Clock
  dayExists : day.Exists
  clockExists : clock.Exists
  deriving DecidableEq

/-- The moment on a day at a time, if both exist. -/
def Timestamp.of? (day : Day) (clock : Clock) : Option Timestamp :=
  if h : day.Exists ∧ clock.Exists then some ⟨day, clock, h.1, h.2⟩ else none

theorem Timestamp.of?_self (t : Timestamp) : Timestamp.of? t.day t.clock = some t := by
  simp [Timestamp.of?, t.dayExists, t.clockExists]

end SqlDraft.Calendar
