import SqlDraft.Calendar.Timestamp
import SqlDraft.Text.Digits

/-!
# Writing timestamps

A timestamp is written as its date, a mark, its time and as much of a fraction as it needs. Years from
0 to 9999 have four digits; all others carry a sign and at least four digits.
-/

namespace SqlDraft.Calendar

/-- A year: four digits, or a sign and at least four digits outside 0 to 9999. -/
def yearText (year : Int) : List Char :=
  if 0 ≤ year ∧ year ≤ 9999 then Text.padded 4 year.toNat
  else (if year < 0 then '-' else '+') :: Text.padded 4 year.natAbs

/-- The fraction of a second: nothing if it is zero, else the fewest of three, six or nine digits that
lose nothing. -/
def fractionText (nano : Nat) : List Char :=
  if nano = 0 then []
  else if nano % 1000000 = 0 then '.' :: Text.padded 3 (nano / 1000000)
  else if nano % 1000 = 0 then '.' :: Text.padded 6 (nano / 1000)
  else '.' :: Text.padded 9 nano

/-- A date as year, month and day. -/
def Day.text (d : Day) : List Char :=
  yearText d.year ++ '-' :: (Text.padded 2 d.month ++ '-' :: Text.padded 2 d.day)

/-- The second that a clock shows: a leap second is number 60. -/
def Clock.shownSecond (c : Clock) : Nat := if c.nano < 1000000000 then c.second else c.second + 1

/-- A time as hour, minute, second and fraction. -/
def Clock.text (c : Clock) : List Char :=
  Text.padded 2 c.hour ++ ':' :: (Text.padded 2 c.minute ++ ':' ::
    (Text.padded 2 c.shownSecond ++ fractionText (c.nano % 1000000000)))

/-- Date and time with a mark between them. -/
def Timestamp.textWith (mark : Char) (t : Timestamp) : String :=
  String.ofList (t.day.text ++ mark :: t.clock.text)

/-- The form that values take in statements and stores: a blank between date and time. -/
def Timestamp.text (t : Timestamp) : String := t.textWith ' '

end SqlDraft.Calendar
