import ChunkRelay.Number.Numeral

/-! # Days and points in time

A calendar day, and a point in time as a day, a time of the day and possibly the distance from
universal time. Two points in time that have such a distance are told apart by the instant they
name and not by how they are written. Points with and without a distance have nothing to do with
each other.
-/

namespace ChunkRelay

structure Day where
  year : Nat
  month : Nat
  day : Nat
  deriving Repr, DecidableEq

namespace Day

def isLeap (year : Nat) : Bool := year % 4 = 0 && (year % 100 ≠ 0 || year % 400 = 0)

def daysIn (year month : Nat) : Nat :=
  if month = 2 then if isLeap year then 29 else 28
  else if month = 4 || month = 6 || month = 9 || month = 11 then 30
  else 31

/-- Whether the calendar has the day. -/
def exists? (d : Day) : Bool :=
  1 ≤ d.year && 1 ≤ d.month && d.month ≤ 12 && 1 ≤ d.day && d.day ≤ daysIn d.year d.month

/-- How many days lie between the start of the calendar and the day. -/
def number (d : Day) : Nat :=
  let before := d.year - 1
  let inYear := (List.range (d.month - 1)).foldl (fun n m => n + daysIn d.year (m + 1)) 0
  before * 365 + before / 4 - before / 100 + before / 400 + inYear + (d.day - 1)

/-- A number filled with zeros to a width. -/
def padded (width n : Nat) : String :=
  let digits := Nat.toDigits 10 n
  String.ofList (List.replicate (width - digits.length) '0' ++ digits)

/-- The year, the month and the day, with dashes between them. -/
def text (d : Day) : String :=
  padded 4 d.year ++ "-" ++ padded 2 d.month ++ "-" ++ padded 2 d.day

def shown (d : Day) : String := s!"datetime.date({d.year}, {d.month}, {d.day})"

end Day

/-- A point in time. -/
structure Moment where
  day : Day
  hour : Nat
  minute : Nat
  second : Nat
  microsecond : Nat
  /-- The distance from universal time in minutes, if there is one. -/
  offset? : Option Int
  deriving Repr, DecidableEq

namespace Moment

/-- Whether there is such a time of a day. Distances of a whole day are too great. -/
def exists? (m : Moment) : Bool :=
  m.day.exists? && m.hour < 24 && m.minute < 60 && m.second < 60
    && (m.offset?.getD 0).natAbs < 1440

/-- The microseconds since the start of the calendar. -/
def instant (m : Moment) : Int :=
  let minutes : Int := (m.day.number * 24 + m.hour) * 60 + m.minute
  ((minutes - m.offset?.getD 0) * 60 + m.second) * 1000000 + m.microsecond

def isComparable (a b : Moment) : Bool := a.offset?.isSome = b.offset?.isSome

def isSame (a b : Moment) : Bool := isComparable a b && a.instant = b.instant

/-- How messages show a distance from universal time. -/
def shownOffset (minutes : Int) : String :=
  if minutes = 0 then "datetime.timezone.utc"
  else
    let days := minutes.fdiv 1440
    let seconds := minutes.fmod 1440 * 60
    let parts := (if days = 0 then [] else [s!"days={days}"]) ++
      (if seconds = 0 then [] else [s!"seconds={seconds}"])
    "datetime.timezone(datetime.timedelta(" ++ String.intercalate ", " parts ++ "))"

/-- How messages show a point in time. Seconds and their fraction are left out where they are
zero. -/
def shown (m : Moment) : String :=
  let parts := [m.day.year, m.day.month, m.day.day, m.hour, m.minute] ++
    (if m.microsecond ≠ 0 then [m.second, m.microsecond]
    else if m.second ≠ 0 then [m.second] else [])
  let texts := parts.map toString ++
    (m.offset?.map fun minutes => "tzinfo=" ++ shownOffset minutes).toList
  "datetime.datetime(" ++ String.intercalate ", " texts ++ ")"

/-- A distance from universal time with its sign. -/
def offsetText (minutes : Int) : String :=
  (if minutes < 0 then "-" else "+") ++ Day.padded 2 (minutes.natAbs / 60) ++ ":" ++
    Day.padded 2 (minutes.natAbs % 60)

/-- The day, the time and the distance from universal time. -/
def text (m : Moment) : String :=
  m.day.text ++ " " ++ Day.padded 2 m.hour ++ ":" ++ Day.padded 2 m.minute ++ ":" ++
    Day.padded 2 m.second ++
    (if m.microsecond = 0 then "" else "." ++ Day.padded 6 m.microsecond) ++
    (m.offset?.map offsetText).getD ""

end Moment

/-! ## Reading -/

/-- A day alone, or a day with a time. -/
inductive WrittenMoment where
  | day (day : Day)
  | moment (moment : Moment)
  deriving Repr, DecidableEq

namespace WrittenMoment

/-- Spaces and tabs. -/
def isGap (c : Char) : Bool := c = ' ' || c = '\t'

/-- The number that ASCII digits write. -/
def numberOf (digits : List Char) : Nat :=
  digits.foldl (fun n c => n * 10 + (c.toNat - '0'.toNat)) 0

/-- Between `least` and `most` digits at the start of a text, as many as there are, and the
rest. -/
def digits? (least most : Nat) (text : List Char) : Option (Nat × List Char) :=
  let run := (text.take most).takeWhile Char.isDigit
  if run.length < least then none else some (numberOf run, text.drop run.length)

/-- A mark and then digits. -/
def markedDigits? (mark : Char) (least most : Nat) (text : List Char) :
    Option (Nat × List Char) :=
  match text with
  | c :: rest => if c = mark then digits? least most rest else none
  | [] => none

/-- What may stand between the day and the time. -/
def pastDay? (text : List Char) : Option (List Char) :=
  match text with
  | c :: rest =>
    if c = 'T' || c = 't' then some rest
    else if isGap c then some (rest.dropWhile isGap)
    else none
  | [] => none

/-- The microseconds that the digits of a fraction write; further digits do not count. -/
def microseconds (fraction : List Char) : Nat :=
  let digits := fraction.take 6
  numberOf digits * Nat.pow 10 (6 - digits.length)

/-- The distance from universal time at the end of a text. -/
def offset? (text : List Char) : Option (Option Int) :=
  match text.dropWhile isGap with
  | [] => if text.isEmpty then some none else none
  | ['Z'] => some (some 0)
  | sign :: rest =>
    if sign ≠ '+' && sign ≠ '-' then none
    else do
      let (hours, rest) ← digits? 1 2 rest
      let (minutes, rest) ←
        match rest with
        | [] => some (0, [])
        | _ => markedDigits? ':' 2 2 rest
      if rest.isEmpty then
        let minutes : Int := hours * 60 + minutes
        some (some (if sign = '-' then -minutes else minutes))
      else none

/-- What a text writes. Whether there is such a day or time is not looked at. -/
def read? (text : List Char) : Option WrittenMoment := do
  let (year, rest) ← digits? 4 4 text
  let (month, rest) ← markedDigits? '-' 1 2 rest
  let (date, rest) ← markedDigits? '-' 1 2 rest
  if rest.isEmpty then some (.day ⟨year, month, date⟩)
  else
    let (hour, rest) ← digits? 1 2 (← pastDay? rest)
    let (minute, rest) ← markedDigits? ':' 2 2 rest
    let (second, rest) ← markedDigits? ':' 2 2 rest
    let (fraction, rest) := match rest with
      | '.' :: rest => rest.span Char.isDigit
      | _ => ([], rest)
    let offset? ← offset? rest
    some (.moment ⟨⟨year, month, date⟩, hour, minute, second, microseconds fraction, offset?⟩)

end WrittenMoment

end ChunkRelay
