/-
Points in time, written as date, time of day and distance from universal time.
The calendar ends somewhere in both directions, and a point in time must lie in it
both where it was written and in universal time.
-/
import Credence.Json.Numeral
import Credence.Text.CharClass

namespace Credence

/-- A point in time in its written form. -/
structure Timestamp where
  text : String
deriving DecidableEq, Repr

/-- A day by year, month and number within the month. -/
structure Day where
  year : Int
  month : Nat
  number : Nat
deriving DecidableEq, Repr

namespace Day

def first : Day := ⟨-262143, 1, 1⟩

def last : Day := ⟨262142, 12, 31⟩

def isLeap (year : Int) : Bool :=
  year % 4 == 0 && (year % 100 != 0 || year % 400 == 0)

def monthLength (year : Int) (month : Nat) : Nat :=
  if month = 2 then if isLeap year then 29 else 28
  else if month = 4 ∨ month = 6 ∨ month = 9 ∨ month = 11 then 30
  else 31

/-- Whether the calendar has such a day. -/
def isValid (d : Day) : Bool :=
  decide (first.year ≤ d.year) && decide (d.year ≤ last.year)
    && decide (1 ≤ d.month) && decide (d.month ≤ 12) && decide (1 ≤ d.number)
    && decide (d.number ≤ monthLength d.year d.month)

def minutes : Nat := 1440

/-- Whether the calendar holds the minute that lies `minute` minutes behind the
beginning of a day, for a minute of this day, the day before or the day after. -/
def holds (d : Day) (minute : Int) : Bool :=
  if minute < 0 then d != first
  else if minutes ≤ minute then d != last
  else true

end Day

namespace Timestamp

def skipBlanks (s : List Char) : List Char := s.dropWhile Text.isBlank

/-- A number of at most `width` digits, behind blanks. -/
def number? (width : Nat) (s : List Char) : Option (Nat × List Char) :=
  let s := skipBlanks s
  let digits := (s.take width).takeWhile Char.isDigit
  if digits.isEmpty then none
  else some (Numeral.ofDigits digits, s.drop digits.length)

/-- What is left behind a mark, which may have blanks in front. -/
def mark? (c : Char) (s : List Char) : Option (List Char) :=
  match skipBlanks s with
  | d :: rest => if d = c then some rest else none
  | [] => none

/-- A year: four digits at most, or any number of them behind a sign. -/
def year? (s : List Char) : Option (Int × List Char) :=
  match skipBlanks s with
  | '-' :: rest =>
      if rest.head?.any Char.isDigit then
        (number? rest.length rest).map fun (n, rest) => (-(n : Int), rest)
      else none
  | '+' :: rest =>
      if rest.head?.any Char.isDigit then
        (number? rest.length rest).map fun (n, rest) => ((n : Int), rest)
      else none
  | s => (number? 4 s).map fun (n, rest) => ((n : Int), rest)

def date? (s : List Char) : Option (Day × List Char) := do
  let (year, s) ← year? s
  let s ← mark? '-' s
  let (month, s) ← number? 2 s
  let s ← mark? '-' s
  let (number, s) ← number? 2 s
  let day : Day := ⟨year, month, number⟩
  if day.isValid then return (day, s) else none

/-- What is left behind a fraction of a second, if there is one. -/
def fraction? : List Char → Option (List Char)
  | '.' :: rest =>
      if rest.head?.any Char.isDigit then some (rest.dropWhile Char.isDigit)
      else none
  | s => some s

/-- The minute of the day that a time of day lies in.  Any minute may have a leap
second. -/
def time? (s : List Char) : Option (Nat × List Char) := do
  let (hour, s) ← number? 2 s
  let s ← mark? ':' s
  let (minute, s) ← number? 2 s
  let s ← mark? ':' s
  let (second, s) ← number? 2 s
  let s ← fraction? s
  if hour ≤ 23 ∧ minute ≤ 59 ∧ second ≤ 60 then
    return (60 * hour + minute, skipBlanks s)
  else none

/-- A number of exactly two digits, not above `limit`. -/
def pair? (limit : Nat) : List Char → Option (Nat × List Char)
  | a :: b :: rest =>
      let n := Numeral.ofDigits [a, b]
      if a.isDigit && b.isDigit && decide (n ≤ limit) then some (n, rest)
      else none
  | _ => none

/-- Whether hours and minutes may have this between them. -/
def isDivider (c : Char) : Bool := c == ':' || Text.isBlank c

/-- The number of minutes by which a clock is ahead of universal time. -/
def offset? (s : List Char) : Option (Int × List Char) :=
  match s with
  | a :: rest =>
      if (s.take 3).map Char.toLower = ['u', 't', 'c'] then some (0, s.drop 3)
      else if a = 'Z' ∨ a = 'z' then some (0, rest)
      else if a = '+' ∨ a = '-' ∨ a = '−' then do
        let (hours, rest) ← pair? 23 rest
        let (minutes, rest) ← pair? 59 (rest.dropWhile isDivider)
        let distance : Int := 60 * hours + minutes
        return (if a = '+' then distance else -distance, rest)
      else none
  | [] => none

/-- The point in time that a text stands for. -/
def read? (text : String) : Option Timestamp := do
  let (day, s) ← date? text.toList
  let s ←
    match s with
    | c :: rest => if c = 'T' ∨ c = 't' ∨ c = ' ' then some rest else none
    | [] => none
  let (minute, s) ← time? s
  let (ahead, s) ← offset? s
  if (skipBlanks s).isEmpty && day.holds (minute - ahead) then return ⟨text⟩
  else none

def padded (width n : Nat) : String :=
  let digits := Number.digitsOf n
  String.ofList (List.replicate (width - digits.length) '0' ++ digits)

/-- Year, month and day of a day, counted from the first of March of the year
zero in eras of four hundred years. -/
def civil (days : Nat) : Nat × Nat × Nat :=
  let era := days / 146097
  let day := days % 146097
  let year := (day - day / 1460 + day / 36524 - day / 146096) / 365
  let dayOfYear := day - (365 * year + year / 4 - year / 100)
  let month := (5 * dayOfYear + 2) / 153
  let dayOfMonth := dayOfYear - (153 * month + 2) / 5 + 1
  if month < 10 then (400 * era + year, month + 3, dayOfMonth)
  else (400 * era + year + 1, month - 9, dayOfMonth)

/-- The point in time that lies so many nanoseconds behind the beginning of the
year 1970. -/
def ofNanoseconds (n : Nat) : Timestamp :=
  let seconds := n / 1000000000
  let (year, month, day) := civil (seconds / 86400 + 719468)
  let clock := seconds % 86400
  ⟨padded 4 year ++ "-" ++ padded 2 month ++ "-" ++ padded 2 day ++ "T"
    ++ padded 2 (clock / 3600) ++ ":" ++ padded 2 (clock / 60 % 60) ++ ":"
    ++ padded 2 (clock % 60) ++ "." ++ padded 9 (n % 1000000000) ++ "Z"⟩

end Timestamp

end Credence
