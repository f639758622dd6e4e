/-!
# Timestamps

A local date and time of the proleptic Gregorian calendar, years 0 to 9999, to the nanosecond,
with the offset of the local time from UTC in whole minutes, less than a day. A timestamp keeps its
offset: two timestamps of one instant with different offsets are different.

These are the dates and times that can be written as text. One of another year, or with seconds in
its offset, could be put into the fields of an order too, and writing the order would fail then;
that is left out, so writing a timestamp never fails here.
-/

namespace PaymentOrders

def isLeapYear (year : Nat) : Bool :=
  year % 4 == 0 && (year % 100 != 0 || year % 400 == 0)

/-- The number of days of a month, counted from 1 for January. -/
def daysInMonth (year month : Nat) : Nat :=
  match month with
  | 2 => if isLeapYear year then 29 else 28
  | 4 | 6 | 9 | 11 => 30
  | _ => 31

def daysInYear (year : Nat) : Nat :=
  if isLeapYear year then 366 else 365

def nanosPerSecond : Nat := 1000000000

/-- The largest offset from UTC in minutes, one minute short of a day. -/
def maxOffset : Nat := 24 * 60 - 1

structure Timestamp where
  year : Nat
  month : Nat
  day : Nat
  hour : Nat
  minute : Nat
  second : Nat
  nanosecond : Nat
  /-- The minutes by which the local time is ahead of UTC. -/
  offset : Int
  year_le : year ≤ 9999
  one_le_month : 1 ≤ month
  month_le : month ≤ 12
  one_le_day : 1 ≤ day
  day_le : day ≤ daysInMonth year month
  hour_le : hour ≤ 23
  minute_le : minute ≤ 59
  second_le : second ≤ 59
  nanosecond_lt : nanosecond < nanosPerSecond
  offset_le : offset.natAbs ≤ maxOffset
  deriving DecidableEq

namespace Timestamp

/-- Whether the instant, told in UTC, lies in the last minute of the last day of a month. The
offset is less than a day, so that day is the local one or the one before it. -/
def isInLastMinuteOfMonth (t : Timestamp) : Bool :=
  let minutes : Int := t.hour * 60 + t.minute - t.offset
  (minutes == 24 * 60 - 1 && t.day == daysInMonth t.year t.month) ||
    (minutes == -1 && t.day == 1)

/-- The date that lies a number of days after the first day of a month. -/
def monthAndDay (year month : Nat) : Nat → Nat → Nat × Nat
  | 0, days => (month, days + 1)
  | fuel + 1, days =>
      if days < daysInMonth year month then (month, days + 1)
      else monthAndDay year (month + 1) fuel (days - daysInMonth year month)

/-- The year, month and day that lie a number of days after the first day of a year. -/
def dateAfter (year : Nat) : Nat → Nat → Nat × Nat × Nat
  | 0, days => (year, monthAndDay year 1 11 days)
  | fuel + 1, days =>
      if days < daysInYear year then (year, monthAndDay year 1 11 days)
      else dateAfter (year + 1) fuel (days - daysInYear year)

/-- The timestamp in UTC of a date and of the seconds and nanoseconds that have passed of its
day, if there is such a date. -/
def inUtc? (year month day seconds nanoseconds : Nat) : Option Timestamp :=
  if h : year ≤ 9999 ∧ 1 ≤ month ∧ month ≤ 12 ∧ 1 ≤ day ∧ day ≤ daysInMonth year month then
    some {
      year, month, day
      hour := seconds / 3600 % 24
      minute := seconds / 60 % 60
      second := seconds % 60
      nanosecond := nanoseconds % nanosPerSecond
      offset := 0
      year_le := h.1
      one_le_month := h.2.1
      month_le := h.2.2.1
      one_le_day := h.2.2.2.1
      day_le := h.2.2.2.2
      hour_le := by omega
      minute_le := by omega
      second_le := by omega
      nanosecond_lt := Nat.mod_lt _ (by decide)
      offset_le := by decide }
  else
    none

/-- The timestamp in UTC of an instant, given in nanoseconds since 1970, if its year has four
digits. -/
def ofUnixNanos? (nanos : Nat) : Option Timestamp :=
  let seconds := nanos / nanosPerSecond
  let (year, month, day) := dateAfter 1970 (9999 - 1970) (seconds / 86400)
  inUtc? year month day (seconds % 86400) nanos

end Timestamp

end PaymentOrders
