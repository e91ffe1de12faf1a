import TypeReach.Data.Moment
import TypeReach.Yaml.Token

/-!
# Timestamps of YAML

A timestamp is a day, or a day with a time, an optional fraction of a second and an optional
distance from universal time.
-/

namespace TypeReach.Yaml

/-- The time of a timestamp as it is written: fraction digits, and the distance from universal time
in minutes. -/
structure TimeText where
  hour : Nat
  minute : Nat
  second : Nat
  fraction : List Char
  offset : Option Int
  deriving DecidableEq, Repr

/-- A timestamp as it is written; `full` tells whether month and day have two digits each. -/
structure TimestampText where
  year : Nat
  month : Nat
  day : Nat
  full : Bool
  time : Option TimeText
  deriving DecidableEq, Repr

private def numberOf (ds : List Char) : Nat := ds.foldl (fun n d => 10 * n + (d.toNat - 48)) 0

/-- Between `least` and two digits, as a number with their count, and the rest. -/
private def digits? (least : Nat) (cs : List Char) : Option (Nat × Nat × List Char) :=
  let ds := (cs.takeWhile Char.isDigit).take 2
  if least ≤ ds.length then some (numberOf ds, ds.length, cs.drop ds.length) else none

/-- The rest behind a character. -/
private def behind? (ch : Char) : List Char → Option (List Char)
  | [] => none
  | c :: rest => if c = ch then some rest else none

private def isSpace (c : Char) : Bool := c == ' ' || c == '\t'

/-- The distance from universal time at the end, if there is one. -/
private def offset? (cs : List Char) : Option (Option Int) :=
  match cs.dropWhile isSpace with
  | [] => if cs.isEmpty then some none else none
  | ['Z'] => some (some 0)
  | sign :: rest => do
    let negative ← if sign == '-' then some true else if sign == '+' then some false else none
    let (hours, _, rest) ← digits? 1 rest
    let minutes ← match rest with
      | [] => some 0
      | rest => do
        let (minutes, _, rest) ← digits? 2 (← behind? ':' rest)
        if rest.isEmpty then some minutes else none
    let size : Int := (60 * hours + minutes : Nat)
    return some (if negative then -size else size)

/-- The time behind a day. -/
private def time? (cs : List Char) : Option TimeText := do
  let cs ← match cs with
    | 'T' :: rest => some rest
    | 't' :: rest => some rest
    | c :: rest => if isSpace c then some (rest.dropWhile isSpace) else none
    | [] => none
  let (hour, _, cs) ← digits? 1 cs
  let (minute, _, cs) ← digits? 2 (← behind? ':' cs)
  let (second, _, cs) ← digits? 2 (← behind? ':' cs)
  let (fraction, cs) := match cs with
    | '.' :: rest => (rest.takeWhile Char.isDigit, rest.dropWhile Char.isDigit)
    | cs => ([], cs)
  return { hour, minute, second, fraction, offset := ← offset? cs }

/-- The parts of a timestamp. -/
def timestampText? (cs : List Char) : Option TimestampText := do
  let ys := cs.take 4
  if ys.length != 4 || !ys.all Char.isDigit then none
  else
    let (month, monthSize, cs) ← digits? 1 (← behind? '-' (cs.drop 4))
    let (day, daySize, cs) ← digits? 1 (← behind? '-' cs)
    let full := monthSize == 2 && daySize == 2
    let time ← if cs.isEmpty then some none else (time? cs).map some
    return { year := numberOf ys, month, day, full, time }

/-- Whether a plain scalar is a timestamp; one without time needs two digits for month and day. -/
def isTimestamp (cs : List Char) : Bool :=
  match timestampText? cs with
  | some t => t.full || t.time.isSome
  | none => false

/-- A refusal of a number in a timestamp. -/
private def refuse {β : Type} (message : String) : Except YamlError β :=
  .error (.unreadable .value message)

/-- The day of a timestamp, if there is such a day. -/
private def dayOf (t : TimestampText) : Except YamlError Day :=
  if t.year == 0 then refuse "year 0 is out of range"
  else if t.month == 0 || 12 < t.month then refuse "month must be in 1..12"
  else if t.day == 0 || daysInMonth t.year t.month < t.day then
    refuse "day is out of range for month"
  else .ok { year := t.year, month := t.month, day := t.day }

/-- A distance from universal time of less than a day. -/
private def offsetOf : Option Int → Except YamlError (Option Int)
  | none => .ok none
  | some minutes =>
    if minutes.natAbs < 1440 then .ok (some minutes)
    else
      refuse ("offset must be a timedelta strictly between -timedelta(hours=24) and "
        ++ "timedelta(hours=24), not " ++ Moment.shownSpan minutes ++ ".")

/-- The characters without a line end behind them. -/
def dropLineEnd (cs : List Char) : List Char :=
  if cs.getLast? == some '\n' then cs.dropLast else cs

/-- What a timestamp stands for: a day, or a moment. -/
def readTimestamp (text : String) : Except YamlError (Day ⊕ Moment) :=
  match timestampText? (dropLineEnd text.toList) with
  | none => .error (.unreadable .attribute "'NoneType' object has no attribute 'groupdict'")
  | some t =>
    match t.time with
    | none => do return .inl (← dayOf t)
    | some time => do
      let offset ← offsetOf time.offset
      let day ← dayOf t
      if 23 < time.hour then refuse "hour must be in 0..23"
      else if 59 < time.minute then refuse "minute must be in 0..59"
      else if 59 < time.second then refuse "second must be in 0..59"
      else
        let micro := numberOf ((time.fraction ++ List.replicate 6 '0').take 6)
        return .inr {
          day with hour := time.hour, minute := time.minute, second := time.second, micro, offset }

end TypeReach.Yaml
