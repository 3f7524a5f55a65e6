import PageBuilder.Decimal.Reading
import PageBuilder.Text.Blank

/-!
# Timestamps

The texts that name a moment: a date, one of `t`, `T` and a space, a time of day and an offset from
universal time.  Blanks may stand before each number and mark, and at the end.  The year has one to
four digits, or a sign and any number of digits; the other numbers have one or two digits.  Seconds
may have a fraction.  The offset is `Z`, `UTC` in any case, or a sign with two digits of hours and
two of minutes, which colons and blanks may separate.  The day in universal time must be a day of
the calendar too.
-/

namespace PageBuilder.Timestamp

/-! ## Calendar -/

/-- Whether a year has a 29th of February. -/
def isLeapYear (year : Int) : Bool := year % 4 = 0 && (year % 100 ≠ 0 || year % 400 = 0)

/-- How many days a month has. -/
def daysInMonth (year : Int) (month : Nat) : Nat :=
  if month = 2 then if isLeapYear year then 29 else 28
  else if month = 4 || month = 6 || month = 9 || month = 11 then 30
  else 31

/-- A day. -/
structure Day where
  year : Int
  month : Nat
  day : Nat
deriving DecidableEq, Repr

/-- The first day of the calendar. -/
def Day.first : Day := ⟨-262143, 1, 1⟩

/-- The last day of the calendar. -/
def Day.last : Day := ⟨262142, 12, 31⟩

/-- Whether there is such a day. -/
def Day.isDate (d : Day) : Bool :=
  Day.first.year ≤ d.year && d.year ≤ Day.last.year && 1 ≤ d.month && d.month ≤ 12 &&
    1 ≤ d.day && d.day ≤ daysInMonth d.year d.month

/-- Whether there is such a time of day; a minute may have a leap second. -/
def isTime (hour minute second : Nat) : Bool := hour ≤ 23 && minute ≤ 59 && second ≤ 60

/-! ## Reading -/

/-- Drops blanks at the start. -/
def skipBlanks (cs : List Char) : List Char := cs.dropWhile Text.isBlank

/-- Reads a number of at most `width` digits. -/
def digits? (width : Nat) (cs : List Char) : Option (Nat × List Char) :=
  let digits := (cs.take width).takeWhile Char.isDigit
  if digits.isEmpty then none else some (Decimal.ofDigits digits, cs.drop digits.length)

/-- Reads a number of at most two digits after blanks. -/
def number? (cs : List Char) : Option (Nat × List Char) := digits? 2 (skipBlanks cs)

/-- Reads a year after blanks. -/
def year? (cs : List Char) : Option (Int × List Char) :=
  match skipBlanks cs with
  | '-' :: rest => (digits? rest.length rest).map fun (n, rest) => (-(n : Int), rest)
  | '+' :: rest => (digits? rest.length rest).map fun (n, rest) => ((n : Int), rest)
  | rest => (digits? 4 rest).map fun (n, rest) => ((n : Int), rest)

/-- Reads a mark after blanks. -/
def mark? (mark : Char) (cs : List Char) : Option (List Char) :=
  match skipBlanks cs with
  | [] => none
  | c :: rest => if c = mark then some rest else none

/-- Reads the fraction of a second, if there is one. -/
def fraction? : List Char → Option (List Char)
  | '.' :: rest =>
      if (rest.takeWhile Char.isDigit).isEmpty then none else some (rest.dropWhile Char.isDigit)
  | cs => some cs

/-- Reads hours and minutes of an offset after its sign, and returns it in minutes; it is less than
a day. -/
def hoursAndMinutes? : List Char → Option (Nat × List Char)
  | a :: b :: rest =>
      let hours := Decimal.ofDigits [a, b]
      match rest.dropWhile fun c => c == ':' || Text.isBlank c with
      | c :: d :: tail =>
          let minutes := Decimal.ofDigits [c, d]
          if [a, b, c, d].all Char.isDigit && hours < 24 && minutes < 60 then
            some (60 * hours + minutes, tail)
          else none
      | _ => none
  | _ => none

/-- Reads an offset from universal time, in minutes. -/
def offset? (cs : List Char) : Option (Int × List Char) :=
  if (cs.take 3).map Char.toLower = ['u', 't', 'c'] then some (0, cs.drop 3)
  else
    match cs with
    | c :: rest =>
        if c = 'Z' || c = 'z' then some (0, rest)
        else if c = '+' then (hoursAndMinutes? rest).map fun (n, tail) => ((n : Int), tail)
        else if c = '-' || c = '\u2212' then
          (hoursAndMinutes? rest).map fun (n, tail) => (-(n : Int), tail)
        else none
    | [] => none

/-- Reads a day. -/
def day? (cs : List Char) : Option (Day × List Char) := do
  let (year, cs) ← year? cs
  let (month, cs) ← number? (← mark? '-' cs)
  let (day, cs) ← number? (← mark? '-' cs)
  let d : Day := ⟨year, month, day⟩
  if d.isDate then some (d, cs) else none

/-- Reads a time of day, and returns the minute of the day. -/
def time? (cs : List Char) : Option (Nat × List Char) := do
  let (hour, cs) ← number? cs
  let (minute, cs) ← number? (← mark? ':' cs)
  let (second, cs) ← number? (← mark? ':' cs)
  let cs ← fraction? cs
  if isTime hour minute second then some (60 * hour + minute, cs) else none

/-- Whether a minute of a day is in the calendar when it is counted from the start of the day in
universal time. -/
def inCalendar (d : Day) (minute : Int) : Bool :=
  !(d == Day.first && minute < 0) && !(d == Day.last && minute ≥ 24 * 60)

/-- Whether a text names a moment. -/
def isMoment (s : String) : Bool :=
  match day? s.toList with
  | some (d, c :: cs) =>
      (c == 't' || c == 'T' || c == ' ') &&
        match time? cs with
        | none => false
        | some (minute, cs) =>
            match offset? (skipBlanks cs) with
            | none => false
            | some (offset, cs) => inCalendar d (minute - offset) && (skipBlanks cs).isEmpty
  | _ => false

/-! ## Examples -/

example : isMoment "2025-01-01T00:00:00Z" = true := by decide +kernel

example : isMoment "2024-2-29 23:59:60.5 +05:30" = true := by decide +kernel

example : isMoment "2025-02-29T00:00:00Z" = false := by decide +kernel

example : isMoment "-262143-01-01T00:00:00+00:01" = false := by decide +kernel

end PageBuilder.Timestamp
