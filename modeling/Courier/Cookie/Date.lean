import Courier.Text.Ascii
import Courier.Text.Split
/-!
Dates in cookies. A text is cut into words; the first word that can be a time of day, a day of the
month, a month or a year is taken as such, in whatever order they stand. A date counts as seconds
since the start of 1970, so dates compare as numbers.
-/
namespace Courier.Cookie

structure Date where
  year : Nat
  /-- Months are counted from one. -/
  month : Nat
  day : Nat
  hour : Nat
  minute : Nat
  second : Nat
  deriving DecidableEq, Repr

namespace Date

/-- The days before a month in a year that begins with March, months counted from zero. -/
def daysBefore (month : Nat) : Nat := (153 * month + 2) / 5

def dayNumber (year month day : Nat) : Nat :=
  let year := if month ≤ 2 then year - 1 else year
  let shifted := (month + 9) % 12
  year * 365 + year / 4 - year / 100 + year / 400 + daysBefore shifted + (day - 1)

def seconds (date : Date) : Int :=
  ((dayNumber date.year date.month date.day : Int) - dayNumber 1970 1 1) * 86400 +
    (date.hour * 3600 + date.minute * 60 + date.second : Nat)

def isWordChar (c : Char) : Bool := isAsciiAlphanum c || c = ':' || !isAscii c || c.toNat < 0x20

def wordsAfter (word : List Char) : List Char → List (List Char)
  | [] => if word.isEmpty then [] else [word]
  | c :: rest =>
    if isWordChar c then wordsAfter (word ++ [c]) rest
    else if word.isEmpty then wordsAfter [] rest
    else word :: wordsAfter [] rest

def leadingNumber? (least most : Nat) (word : List Char) : Option Nat :=
  let digits := word.takeWhile isAsciiDigit
  if least ≤ digits.length && digits.length ≤ most then readDigits 10 digits 0 else none

def time? (word : List Char) : Option (Nat × Nat × Nat) :=
  match splitAt ':' word with
  | [hour, minute, second] => do
    let hour ← if hour.all isAsciiDigit then leadingNumber? 1 2 hour else none
    let minute ← if minute.all isAsciiDigit then leadingNumber? 1 2 minute else none
    let second ← leadingNumber? 1 2 second
    return (hour, minute, second)
  | _ => none

def monthNames : List String :=
  ["jan", "feb", "mar", "apr", "may", "jun", "jul", "aug", "sep", "oct", "nov", "dec"]

def month? (word : List Char) : Option Nat :=
  (monthNames.findIdx? (·.toList == (word.take 3).map asciiLower)).map (· + 1)

structure Known where
  time : Option (Nat × Nat × Nat) := none
  day : Option Nat := none
  month : Option Nat := none
  year : Option Nat := none

def Known.add (known : Known) (word : List Char) : Known :=
  match known.time.isNone, time? word with
  | true, some time => { known with time := some time }
  | _, _ =>
    match known.day.isNone, leadingNumber? 1 2 word with
    | true, some day => { known with day := some day }
    | _, _ =>
      match known.month.isNone, month? word with
      | true, some month => { known with month := some month }
      | _, _ =>
        match known.year.isNone, leadingNumber? 2 4 word with
        | true, some year => { known with year := some year }
        | _, _ => known

/-- A year written with two digits stands for one between 1970 and 2069. -/
def fullYear (year : Nat) : Nat :=
  if 70 ≤ year && year ≤ 99 then year + 1900 else if year ≤ 69 then year + 2000 else year

def Known.date? (known : Known) : Option Date := do
  let (hour, minute, second) ← known.time
  let day ← known.day
  let month ← known.month
  let year := fullYear (← known.year)
  if 1 ≤ day ∧ day ≤ 31 ∧ 1601 ≤ year ∧ hour ≤ 23 ∧ minute ≤ 59 ∧ second ≤ 59 then
    return { year, month, day, hour, minute, second }
  else none

def ofText? (text : List Char) : Option Date := ((wordsAfter [] text).foldl Known.add {}).date?

end Date
end Courier.Cookie
