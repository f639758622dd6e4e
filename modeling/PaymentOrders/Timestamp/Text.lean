import PaymentOrders.Text.Decimal
import PaymentOrders.Timestamp
/-!
# The text of a timestamp

The profile of ISO 8601 for the Internet: `2026-04-01T08:00:00.25+02:00`. A text is read from
left to right, and the first part that does not fit names the error; whether the parts make a
date and a time is judged when all of them are read. `toText` writes the one form without
trailing zeros in the fraction and with `Z` for UTC.
-/

namespace PaymentOrders.Timestamp

inductive Part where
  | year | month | day | separator | hour | minute | second | subsecond
  | offsetHour | offsetMinute
  deriving DecidableEq, Repr

def Part.name : Part → String
  | year => "year"
  | month => "month"
  | day => "day"
  | separator => "separator"
  | hour => "hour"
  | minute => "minute"
  | second => "second"
  | subsecond => "subsecond"
  | offsetHour => "offset hour"
  | offsetMinute => "offset minute"

inductive TextError where
  /-- The characters of a part are not there. -/
  | component (part : Part)
  /-- A fixed character between two parts is not there. -/
  | literal
  /-- Characters follow the timestamp. -/
  | trailing
  /-- A part was read but is out of its range. -/
  | range (part : Part)
  deriving DecidableEq, Repr

def TextError.text : TextError → String
  | component part => s!"the '{Part.name part}' component could not be parsed"
  | literal => "a character literal was not valid"
  | trailing => "unexpected trailing characters; the end of input was expected"
  | range part => s!"{Part.name part} was not in range"

/-- The parts of a text that has the right form; a second may still be 60, and a day may not be
in its month. -/
structure Parts where
  year : Nat
  month : Nat
  day : Nat
  hour : Nat
  minute : Nat
  second : Nat
  nanosecond : Nat
  offset : Int
  deriving DecidableEq, Repr

def readDigits (count : Nat) (part : Part) (cs : List Char) :
    Except TextError (Nat × List Char) :=
  if (cs.take count).length = count ∧ (cs.take count).all Char.isDigit then
    .ok (Text.decimalValue (cs.take count), cs.drop count)
  else
    .error (.component part)

def readChar (c : Char) : List Char → Except TextError (List Char)
  | d :: rest => if d = c then .ok rest else .error .literal
  | [] => .error .literal

/-- Reads the two digits of a month, which is never zero. -/
def readMonth (cs : List Char) : Except TextError (Nat × List Char) := do
  let (month, rest) ← readDigits 2 .month cs
  if month = 0 then .error (.component .month) else .ok (month, rest)

/-- Reads what stands between date and time: any one byte. A character of several bytes leaves
some of them where the hour has to be. -/
def readSeparator : List Char → Except TextError (List Char)
  | [] => .error (.component .separator)
  | c :: rest => if c.utf8Size = 1 then .ok rest else .error (.component .hour)

/-- The nanoseconds of the digits behind a point; digits after the ninth do not count. -/
def fractionNanos (ds : List Char) : Nat :=
  Text.decimalValue (ds.take 9 ++ List.replicate (9 - ds.length) '0')

/-- Reads the fraction of a second, where there is one. -/
def readFraction : List Char → Except TextError (Nat × List Char)
  | '.' :: rest =>
      match rest.takeWhile Char.isDigit with
      | [] => .error (.component .subsecond)
      | ds => .ok (fractionNanos ds, rest.dropWhile Char.isDigit)
  | cs => .ok (0, cs)

/-- Reads the hours and minutes of an offset behind its sign. -/
def readOffsetBody (sign : Int) (cs : List Char) : Except TextError (Int × List Char) := do
  let (hours, cs) ← readDigits 2 .offsetHour cs
  if hours > 23 then .error (.component .offsetHour) else
  let cs ← readChar ':' cs
  let (minutes, cs) ← readDigits 2 .offsetMinute cs
  if minutes > 59 then .error (.range .offsetMinute) else
  .ok (sign * (hours * 60 + minutes : Nat), cs)

def readOffset : List Char → Except TextError (Int × List Char)
  | 'Z' :: rest | 'z' :: rest => .ok (0, rest)
  | '+' :: rest => readOffsetBody 1 rest
  | '-' :: rest => readOffsetBody (-1) rest
  | _ => .error (.component .offsetHour)

def readParts (cs : List Char) : Except TextError Parts := do
  let (year, cs) ← readDigits 4 .year cs
  let cs ← readChar '-' cs
  let (month, cs) ← readMonth cs
  let cs ← readChar '-' cs
  let (day, cs) ← readDigits 2 .day cs
  let cs ← readSeparator cs
  let (hour, cs) ← readDigits 2 .hour cs
  let cs ← readChar ':' cs
  let (minute, cs) ← readDigits 2 .minute cs
  let cs ← readChar ':' cs
  let (second, cs) ← readDigits 2 .second cs
  let (nanosecond, cs) ← readFraction cs
  let (offset, cs) ← readOffset cs
  match cs with
  | [] => .ok { year, month, day, hour, minute, second, nanosecond, offset }
  | _ :: _ => .error .trailing

/-- The timestamp with the given parts, if they are in range. -/
def ofParts (p : Parts) : Except TextError Timestamp :=
  if month_le : p.month ≤ 12 then
    if day_ok : 1 ≤ p.day ∧ p.day ≤ daysInMonth p.year p.month then
      if hour_le : p.hour ≤ 23 then
        if minute_le : p.minute ≤ 59 then
          if second_le : p.second ≤ 59 then
            if rest_ok : p.year ≤ 9999 ∧ 1 ≤ p.month ∧ p.nanosecond < nanosPerSecond ∧
                p.offset.natAbs ≤ maxOffset then
              .ok {
                year := p.year, month := p.month, day := p.day, hour := p.hour
                minute := p.minute, second := p.second, nanosecond := p.nanosecond
                offset := p.offset
                year_le := rest_ok.1
                one_le_month := rest_ok.2.1
                month_le
                one_le_day := day_ok.1
                day_le := day_ok.2
                hour_le, minute_le, second_le
                nanosecond_lt := rest_ok.2.2.1
                offset_le := rest_ok.2.2.2 }
            else .error (.component .year)
          else .error (.range .second)
        else .error (.range .minute)
      else .error (.range .hour)
    else .error (.range .day)
  else .error (.range .month)

/-- Reads a timestamp. The second 60 stands for the last nanosecond of the second 59, and is in
range only where a leap second can be: at the end of a month in UTC. -/
def ofText (s : String) : Except TextError Timestamp := do
  let parts ← readParts s.toList
  if parts.second = 60 then
    let t ← ofParts { parts with second := 59, nanosecond := 999999999 }
    if t.isInLastMinuteOfMonth then .ok t else .error (.range .second)
  else
    ofParts parts

/-- The fraction of a second, without trailing zeros; nothing when it is zero. -/
def fractionText (nanosecond : Nat) : List Char :=
  if nanosecond = 0 then []
  else '.' :: ((Text.fixedDecimal 9 nanosecond).reverse.dropWhile (· == '0')).reverse

/-- The offset from UTC, `Z` for zero. -/
def offsetText (offset : Int) : List Char :=
  if offset = 0 then ['Z']
  else
    (if offset < 0 then '-' else '+') ::
      (Text.fixedDecimal 2 (offset.natAbs / 60) ++ ':' ::
        Text.fixedDecimal 2 (offset.natAbs % 60))

def toChars (t : Timestamp) : List Char :=
  Text.fixedDecimal 4 t.year ++ '-' :: (Text.fixedDecimal 2 t.month ++ '-' ::
    (Text.fixedDecimal 2 t.day ++ 'T' :: (Text.fixedDecimal 2 t.hour ++ ':' ::
      (Text.fixedDecimal 2 t.minute ++ ':' :: (Text.fixedDecimal 2 t.second ++
        (fractionText t.nanosecond ++ offsetText t.offset))))))

def toText (t : Timestamp) : String :=
  String.ofList (toChars t)

instance : ToString Timestamp := ⟨toText⟩

end PaymentOrders.Timestamp
