/-!
# Dates and moments

Calendar days, and moments of a day with an optional distance from universal time.
-/

namespace TypeReach

/-- A day of the calendar. -/
structure Day where
  year : Nat
  month : Nat
  day : Nat
  deriving DecidableEq, Repr, Inhabited

/-- A moment of a day; `offset` is the distance from universal time in minutes. -/
structure Moment extends Day where
  hour : Nat
  minute : Nat
  second : Nat
  micro : Nat
  offset : Option Int
  deriving DecidableEq, Repr, Inhabited

/-- The decimal digits of a number, at least `width` of them. -/
private def padded (width n : Nat) : String :=
  let ds := Nat.toDigits 10 n
  String.ofList (List.replicate (width - ds.length) '0' ++ ds)

/-- Whether a year has a twenty-ninth of February. -/
def isLeapYear (year : Nat) : Bool :=
  year % 4 == 0 && (year % 100 != 0 || year % 400 == 0)

/-- The number of days in a month. -/
def daysInMonth (year month : Nat) : Nat :=
  if month == 2 then (if isLeapYear year then 29 else 28)
  else if [4, 6, 9, 11].contains month then 30
  else 31

namespace Day

/-- The day as year, month and day of the month. -/
def text (d : Day) : String :=
  padded 4 d.year ++ "-" ++ padded 2 d.month ++ "-" ++ padded 2 d.day

/-- The day that is the given number of days after the first of 1970. Years are counted from March,
and four hundred of them have 146097 days. -/
def ofNumber (n : Nat) : Day :=
  let days := n + 719468
  let ofCycle := days % 146097
  let yearOfCycle := (ofCycle - ofCycle / 1460 + ofCycle / 36524 - ofCycle / 146096) / 365
  let dayOfYear := ofCycle - (365 * yearOfCycle + yearOfCycle / 4 - yearOfCycle / 100)
  let monthFromMarch := (5 * dayOfYear + 2) / 153
  let month := if monthFromMarch < 10 then monthFromMarch + 3 else monthFromMarch - 9
  { year := days / 146097 * 400 + yearOfCycle + (if month ≤ 2 then 1 else 0)
    month
    day := dayOfYear - (153 * monthFromMarch + 2) / 5 + 1 }

/-- The number of days from the first of March in the year 0 to the day. -/
def number (d : Day) : Nat :=
  let year := if d.month ≤ 2 then d.year - 1 else d.year
  let month := if d.month ≤ 2 then d.month + 9 else d.month - 3
  365 * year + year / 4 - year / 100 + year / 400 + (153 * month + 2) / 5 + d.day - 1

/-- The day as a constructor with its numbers. -/
def shown (d : Day) : String :=
  s!"datetime.date({d.year}, {d.month}, {d.day})"

end Day

namespace Moment

/-- The microseconds from the first of March in the year 0 to the moment, by its own clock. -/
def microseconds (m : Moment) : Nat :=
  (((m.toDay.number * 24 + m.hour) * 60 + m.minute) * 60 + m.second) * 1000000 + m.micro

/-- Whether two moments are the same: with the distance from universal time, two clocks may show it
differently; without it, the clocks are compared. -/
def same (m n : Moment) : Bool :=
  match m.offset, n.offset with
  | none, none => m.microseconds == n.microseconds
  | some a, some b =>
    (m.microseconds : Int) - a * 60000000 == (n.microseconds : Int) - b * 60000000
  | _, _ => false

private def offsetText (minutes : Int) : String :=
  let size := minutes.natAbs
  (if minutes < 0 then "-" else "+") ++ padded 2 (size / 60) ++ ":" ++ padded 2 (size % 60)

/-- The moment as day, time, and distance from universal time. -/
def text (m : Moment) : String :=
  m.toDay.text ++ " " ++ padded 2 m.hour ++ ":" ++ padded 2 m.minute ++ ":" ++ padded 2 m.second
    ++ (if m.micro == 0 then "" else "." ++ padded 6 m.micro)
    ++ (match m.offset with
      | none => ""
      | some minutes => offsetText minutes)

/-- The moment that is the given number of seconds after the beginning of 1970. -/
def ofSeconds (seconds : Nat) : Moment :=
  let rest := seconds % 86400
  { Day.ofNumber (seconds / 86400) with
    hour := rest / 3600, minute := rest / 60 % 60, second := rest % 60, micro := 0, offset := none }

/-- A span of minutes as a constructor; a negative one counts back from whole days. -/
def shownSpan (minutes : Int) : String :=
  let days := minutes.fdiv 1440
  let seconds := (minutes.fmod 1440) * 60
  let inner :=
    if days == 0 && seconds == 0 then "0"
    else if days == 0 then s!"seconds={seconds}"
    else if seconds == 0 then s!"days={days}"
    else s!"days={days}, seconds={seconds}"
  "datetime.timedelta(" ++ inner ++ ")"

/-- The distance from universal time as a constructor. -/
private def shownOffset (minutes : Int) : String :=
  if minutes == 0 then "datetime.timezone.utc"
  else "datetime.timezone(" ++ shownSpan minutes ++ ")"

/-- The moment as a constructor with its numbers; zero microseconds, and then zero seconds, are
left out. -/
def shown (m : Moment) : String :=
  s!"datetime.datetime({m.year}, {m.month}, {m.day}, {m.hour}, {m.minute}"
    ++ (if m.micro == 0 then (if m.second == 0 then "" else s!", {m.second}")
        else s!", {m.second}, {m.micro}")
    ++ (match m.offset with
      | none => ""
      | some minutes => ", tzinfo=" ++ shownOffset minutes)
    ++ ")"

end Moment

end TypeReach
