import NodeFeatureOperator.Text.Blank

/-!
# Moments

A moment is a calendar time given in a document or a reading of the operator's clock. Calendar
times are kept in UTC to the nanosecond. They are read from the loose form of RFC 3339 (blanks
around the parts, a blank or a `t` between date and time, an offset with or without its colon) and
written in the strict one. A reading of the clock is written with the number of the step that took
it.
-/

namespace NodeFeatureOperator

/-- A calendar time in UTC. A leap second has the last second of its minute and a nanosecond count
of at least one second. -/
structure CalendarTime where
  year : Int
  month : Nat
  day : Nat
  hour : Nat
  minute : Nat
  second : Nat
  nanos : Nat
deriving DecidableEq, Repr, Inhabited

namespace CalendarTime

/-- Whether a year has 366 days. -/
def isLeap (year : Int) : Bool :=
  Int.emod year 4 = 0 && (Int.emod year 100 ≠ 0 || Int.emod year 400 = 0)

/-- The number of days of a month. -/
def daysIn (year : Int) (month : Nat) : Nat :=
  if month = 2 then (if isLeap year then 29 else 28)
  else if month = 4 ∨ month = 6 ∨ month = 9 ∨ month = 11 then 30
  else 31

/-- Whether the calendar reaches to a year. -/
def inReach (year : Int) : Bool := -262143 ≤ year && year ≤ 262142

/-- The same time of the next day. -/
def nextDay (t : CalendarTime) : CalendarTime :=
  if t.day < daysIn t.year t.month then { t with day := t.day + 1 }
  else if t.month < 12 then { t with month := t.month + 1, day := 1 }
  else { t with year := t.year + 1, month := 1, day := 1 }

/-- The same time of the day before. -/
def previousDay (t : CalendarTime) : CalendarTime :=
  if t.day > 1 then { t with day := t.day - 1 }
  else if t.month > 1 then { t with month := t.month - 1, day := daysIn t.year (t.month - 1) }
  else { t with year := t.year - 1, month := 12, day := 31 }

/-- The time in UTC of a local time that is `offset` minutes ahead of UTC, for offsets of less than
a day. -/
def toUtc (t : CalendarTime) (offset : Int) : CalendarTime :=
  let minutes : Int := t.hour * 60 + t.minute - offset
  let inDay := Int.emod minutes 1440
  let t' := { t with hour := (inDay / 60).toNat, minute := (Int.emod inDay 60).toNat }
  if minutes < 0 then t'.previousDay
  else if minutes ≥ 1440 then t'.nextDay
  else t'

/-! ## Writing -/

/-- A number with zeros in front up to a width. -/
def padded (width n : Nat) : List Char :=
  let digits := Nat.toDigits 10 n
  List.replicate (width - digits.length) '0' ++ digits

/-- Four digits, or a sign and at least four digits outside the years 0 to 9999. -/
def yearText (year : Int) : List Char :=
  if 0 ≤ year ∧ year ≤ 9999 then padded 4 year.toNat
  else if year < 0 then '-' :: padded 4 year.natAbs
  else '+' :: padded 4 year.natAbs

/-- Date and time to the second. -/
def secondsText (t : CalendarTime) : List Char :=
  yearText t.year ++ '-' :: padded 2 t.month ++ '-' :: padded 2 t.day ++ 'T' :: padded 2 t.hour
    ++ ':' :: padded 2 t.minute ++ ':' :: padded 2 (t.second + t.nanos / 1000000000)

/-- The text with 0, 3, 6 or 9 decimals, whichever are the fewest that lose nothing. -/
def toText (t : CalendarTime) : String :=
  let part := t.nanos % 1000000000
  let fraction :=
    if part = 0 then []
    else if part % 1000000 = 0 then '.' :: padded 3 (part / 1000000)
    else if part % 1000 = 0 then '.' :: padded 6 (part / 1000)
    else '.' :: padded 9 part
  String.ofList (t.secondsText ++ fraction ++ ['Z'])

/-- The text with six decimals. -/
def toMicroText (t : CalendarTime) : String :=
  String.ofList (t.secondsText ++ '.' :: padded 6 (t.nanos % 1000000000 / 1000) ++ ['Z'])

/-- The time without its fraction of a second. -/
def wholeSeconds (t : CalendarTime) : CalendarTime :=
  { t with nanos := t.nanos / 1000000000 * 1000000000 }

/-! ## Reading -/

/-- One to `limit` digits, and what follows them. -/
def digits? (limit : Nat) (cs : List Char) : Option (Nat × List Char) :=
  let taken := (cs.take limit).takeWhile Char.isDigit
  if taken.isEmpty then none
  else some (taken.foldl (fun n c => n * 10 + (c.toNat - '0'.toNat)) 0, cs.drop taken.length)

/-- A number of at most two digits after optional blanks. -/
def pair? (cs : List Char) : Option (Nat × List Char) := digits? 2 (Text.skipBlank cs)

/-- What follows a given character. -/
def expect? (c : Char) : List Char → Option (List Char)
  | d :: cs => if d = c then some cs else none
  | [] => none

/-- What follows the mark between date and time. -/
def expectMark? : List Char → Option (List Char)
  | c :: cs => if c = 'T' ∨ c = 't' ∨ c = ' ' then some cs else none
  | [] => none

/-- A year: up to four digits, or a sign and any number of digits. -/
def year? (cs : List Char) : Option (Int × List Char) :=
  match Text.skipBlank cs with
  | '-' :: r => (digits? r.length r).map fun (n, r) => (-(n : Int), r)
  | '+' :: r => (digits? r.length r).map fun (n, r) => ((n : Int), r)
  | r => (digits? 4 r).map fun (n, r) => ((n : Int), r)

/-- An optional fraction of a second, in nanoseconds. Digits after the ninth are dropped. -/
def nanos? : List Char → Option (Nat × List Char)
  | '.' :: r =>
    match digits? 9 r with
    | none => none
    | some (n, _) =>
      let taken := ((r.take 9).takeWhile Char.isDigit).length
      some (n * Nat.pow 10 (9 - taken), r.dropWhile Char.isDigit)
  | cs => some (0, cs)

/-- Exactly two digits, and what follows them. -/
def twoDigits? : List Char → Option (Nat × List Char)
  | a :: b :: r =>
    if a.isDigit ∧ b.isDigit then
      some ((a.toNat - '0'.toNat) * 10 + (b.toNat - '0'.toNat), r)
    else none
  | _ => none

/-- An offset from UTC in minutes: `UTC` or `Z` in any case, or a sign, hours and minutes. -/
def offset? (cs : List Char) : Option (Int × List Char) :=
  match cs with
  | u :: t :: c :: r =>
    if u.toUpper = 'U' ∧ t.toUpper = 'T' ∧ c.toUpper = 'C' then some (0, r) else signed cs
  | _ => signed cs
where
  /-- `Z`, or a sign followed by hours and minutes. -/
  signed : List Char → Option (Int × List Char)
    | 'Z' :: r => some (0, r)
    | 'z' :: r => some (0, r)
    | s :: r =>
      if s = '+' ∨ s = '-' ∨ s.toNat = 0x2212 then do
        let (hours, r) ← twoDigits? r
        let (minutes, r) ← twoDigits? (r.dropWhile fun c => c = ':' || Text.isBlank c)
        if minutes ≥ 60 ∨ hours ≥ 24 then none
        else
          let n : Int := hours * 60 + minutes
          return (if s = '+' then n else -n, r)
      else none
    | [] => none

/-- The time in UTC of a local time that is `offset` minutes ahead of UTC, if there is such a time.
The second 60 is a leap second. -/
def ofLocal? (year : Int) (month day hour minute second nanos : Nat) (offset : Int) :
    Option CalendarTime :=
  if month < 1 ∨ month > 12 ∨ day < 1 ∨ day > daysIn year month then none
  else if hour ≥ 24 ∨ minute ≥ 60 ∨ second > 60 ∨ ¬ inReach year then none
  else
    let leap := second = 60
    let t : CalendarTime :=
      { year, month, day, hour, minute
        second := if leap then 59 else second
        nanos := if leap then nanos + 1000000000 else nanos }
    let utc := t.toUtc offset
    if inReach utc.year then some utc else none

/-- The calendar time that a text gives. -/
def parse? (text : String) : Option CalendarTime := do
  let (year, cs) ← year? text.toList
  let cs ← expect? '-' (Text.skipBlank cs)
  let (month, cs) ← pair? cs
  let cs ← expect? '-' (Text.skipBlank cs)
  let (day, cs) ← pair? cs
  let cs ← expectMark? cs
  let (hour, cs) ← pair? cs
  let cs ← expect? ':' (Text.skipBlank cs)
  let (minute, cs) ← pair? cs
  let cs ← expect? ':' (Text.skipBlank cs)
  let (second, cs) ← pair? cs
  let (nanos, cs) ← nanos? cs
  let (offset, cs) ← offset? (Text.skipBlank cs)
  if (Text.skipBlank cs).isEmpty then ofLocal? year month day hour minute second nanos offset
  else none

end CalendarTime

/-- A moment in time. -/
inductive Moment where
  /-- A calendar time given in a document. -/
  | calendar (time : CalendarTime)
  /-- The clock as the step of this number read it. -/
  | reading (step : Nat)
deriving DecidableEq, Repr, Inhabited

namespace Moment

/-- The text of a moment. -/
def toText : Moment → String
  | calendar t => t.toText
  | reading n => "step:" ++ toString n

/-- The text of a moment, with six digits behind the second of a calendar time. -/
def toMicroText : Moment → String
  | calendar t => t.toMicroText
  | reading n => "step:" ++ toString n

end Moment

end NodeFeatureOperator
