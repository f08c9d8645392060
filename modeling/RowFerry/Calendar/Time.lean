import RowFerry.Calendar.Date

/-!
Times of day to the nanosecond, and dates with a time. The nanoseconds of a leap second go on from
those of the second before it. Any second may have one after it, but only the one after second 59
has a number on the clock that no other second has: 60.
-/

namespace RowFerry

namespace Calendar

def nanosPerSecond : Nat := 1000000000

/-- Do four numbers name a moment of the day? -/
def isMoment (hour minute second nano : Nat) : Bool :=
  hour ≤ 23 && minute ≤ 59 && second ≤ 59 && nano < 2 * nanosPerSecond

end Calendar

/-- A time of day. -/
structure Time where
  hour : Nat
  minute : Nat
  second : Nat
  nano : Nat
  isMoment : Calendar.isMoment hour minute second nano = true
  deriving Repr, DecidableEq

namespace Time

/-- The moment that four numbers name. -/
def of? (hour minute second nano : Nat) : Option Time :=
  if h : Calendar.isMoment hour minute second nano = true then
    some ⟨hour, minute, second, nano, h⟩
  else none

/-- The moment that a clock shows. Second 60 is the leap second after second 59. -/
def ofClock? (hour minute second nano : Nat) : Option Time :=
  if Calendar.nanosPerSecond ≤ nano then none
  else if second = 60 then of? hour minute 59 (Calendar.nanosPerSecond + nano)
  else of? hour minute second nano

/-- The second that the clock shows, which is the next one in a leap second. -/
def shownSecond (t : Time) : Nat := t.second + t.nano / Calendar.nanosPerSecond

/-- The nanoseconds since the second that the clock shows. -/
def shownNano (t : Time) : Nat := t.nano % Calendar.nanosPerSecond

/-- Hours, minutes and seconds with colons between them. -/
def clock (t : Time) : List Char :=
  Text.padded 2 t.hour ++ ':' :: Text.padded 2 t.minute ++ ':' :: Text.padded 2 t.shownSecond

/-- The fraction of the second in three, six or nine digits, the fewest that hold it. -/
def fraction (t : Time) : List Char :=
  if t.shownNano = 0 then []
  else if t.shownNano % 1000000 = 0 then '.' :: Text.padded 3 (t.shownNano / 1000000)
  else if t.shownNano % 1000 = 0 then '.' :: Text.padded 6 (t.shownNano / 1000)
  else '.' :: Text.padded 9 t.shownNano

/-- The clock with no more of a fraction than is needed. -/
def chars (t : Time) : List Char := t.clock ++ t.fraction

/-- The clock with six digits of a fraction; what is finer than a microsecond is cut off. -/
def microChars (t : Time) : List Char := t.clock ++ '.' :: Text.padded 6 (t.shownNano / 1000)

def text (t : Time) : String := String.ofList t.chars

end Time

/-- A date and a time of that day. -/
structure DateTime where
  date : Date
  time : Time
  deriving Repr, DecidableEq

namespace DateTime

/-- Date and time with `T` between them. -/
def text (m : DateTime) : String := String.ofList (m.date.chars ++ 'T' :: m.time.chars)

/-- Date and time with a blank between them, the time to the microsecond. -/
def microChars (m : DateTime) : List Char := m.date.chars ++ ' ' :: m.time.microChars

end DateTime

end RowFerry
