import DocAnalytics.Text.Integer
import DocAnalytics.Text.Trim

/-!
# DocAnalytics.Store.Timestamp

Points in time as texts: a date, a time of day and an offset from UTC. `isTimestamp` accepts the
spellings that snapshots may hold, and `Timestamp.ofSeconds` writes one.
-/

namespace DocAnalytics
namespace Timestamp

/-- Reads a number of at most `width` digits, blanks before it left aside. -/
def readNumber (width : Nat) (cs : List Char) : Option (Nat × List Char) :=
  let cs := Text.trimStart cs
  let digits := (cs.take width).takeWhile Char.isDigit
  (Text.natural? digits).map fun n => (n, cs.drop digits.length)

def readMark (mark : Char) (cs : List Char) : Option (List Char) :=
  match Text.trimStart cs with
  | c :: rest => if c = mark then some rest else none
  | [] => none

/-- Reads a number of any length that begins at the first character. -/
def readLongNumber (cs : List Char) : Option (Nat × List Char) :=
  let digits := cs.takeWhile Char.isDigit
  (Text.natural? digits).map fun n => (n, cs.dropWhile Char.isDigit)

def readYear (cs : List Char) : Option (Int × List Char) :=
  match Text.trimStart cs with
  | '-' :: rest => (readLongNumber rest).map fun (n, rest) => (-(n : Int), rest)
  | '+' :: rest => (readLongNumber rest).map fun (n, rest) => ((n : Int), rest)
  | rest => (readNumber 4 rest).map fun (n, rest) => ((n : Int), rest)

def isLeap (year : Int) : Bool := year % 4 = 0 && (year % 100 ≠ 0 || year % 400 = 0)

def daysIn (year : Int) (month : Nat) : Nat :=
  match month with
  | 2 => if isLeap year then 29 else 28
  | 4 | 6 | 9 | 11 => 30
  | _ => 31

structure Date where
  year : Int
  month : Nat
  day : Nat
deriving DecidableEq, Repr

namespace Date

/-- The first date that can be told. -/
def first : Date := ⟨-262143, 1, 1⟩

/-- The last date that can be told. -/
def last : Date := ⟨262142, 12, 31⟩

def isValid (d : Date) : Bool :=
  first.year ≤ d.year && d.year ≤ last.year && 1 ≤ d.month && d.month ≤ 12 && 1 ≤ d.day &&
    d.day ≤ daysIn d.year d.month

/-- Whether a number of seconds from the beginning of a date leads to a date that can be told; it is
no more than a day before or behind the date. -/
def reaches (d : Date) (seconds : Int) : Bool :=
  if seconds < 0 then d ≠ first else seconds < 86400 || d ≠ last

end Date

/-- Drops a fraction of a second; a point needs digits behind it. -/
def dropFraction : List Char → Option (List Char)
  | '.' :: rest =>
    if (rest.takeWhile Char.isDigit).isEmpty then none else some (rest.dropWhile Char.isDigit)
  | cs => some cs

def readTwoDigits : List Char → Option (Nat × List Char)
  | a :: b :: rest => (Text.natural? [a, b]).map (·, rest)
  | _ => none

/-- The seconds of an offset below a day, given by hours and minutes with blanks behind them. -/
def offsetSeconds? (cs : List Char) : Option Int :=
  (readTwoDigits cs).bind fun (hours, rest) =>
  (readTwoDigits (rest.dropWhile fun c => c = ':' || Unicode.isBlank c)).bind fun (minutes, rest) =>
  if hours < 24 && minutes < 60 && rest.all Unicode.isBlank then
    some ((hours * 3600 + minutes * 60 : Nat) : Int)
  else none

def readOffset (cs : List Char) : Option Int :=
  let cs := Text.trimStart cs
  match cs with
  | '+' :: rest => offsetSeconds? rest
  | '-' :: rest => (offsetSeconds? rest).map fun seconds => -seconds
  | '−' :: rest => (offsetSeconds? rest).map fun seconds => -seconds
  | c :: rest =>
    let isZero :=
      if (cs.take 3).map Char.toLower = ['u', 't', 'c'] then (cs.drop 3).all Unicode.isBlank
      else (c = 'z' || c = 'Z') && rest.all Unicode.isBlank
    if isZero then some 0 else none
  | [] => none

def readDate (cs : List Char) : Option (Date × List Char) :=
  (readYear cs).bind fun (year, rest) =>
  (readMark '-' rest).bind fun rest =>
  (readNumber 2 rest).bind fun (month, rest) =>
  (readMark '-' rest).bind fun rest =>
  (readNumber 2 rest).bind fun (day, rest) =>
  match rest with
  | c :: rest =>
    let date : Date := ⟨year, month, day⟩
    if (c = 't' || c = 'T' || c = ' ') && date.isValid then some (date, rest) else none
  | [] => none

/-- Reads a time of day, in whole seconds; a minute may have a leap second, which counts as the
second before it. -/
def readTime (cs : List Char) : Option (Nat × List Char) :=
  (readNumber 2 cs).bind fun (hour, rest) =>
  (readMark ':' rest).bind fun rest =>
  (readNumber 2 rest).bind fun (minute, rest) =>
  (readMark ':' rest).bind fun rest =>
  (readNumber 2 rest).bind fun (second, rest) =>
  if hour < 24 && minute < 60 && second ≤ 60 then
    (dropFraction rest).map fun rest => (hour * 3600 + minute * 60 + min second 59, rest)
  else none

/-- Whether a text is a point in time whose date can be told in UTC too. -/
def isTimestamp (text : String) : Bool :=
  match readDate text.toList with
  | none => false
  | some (date, rest) =>
    match readTime rest with
    | none => false
    | some (seconds, rest) =>
      match readOffset rest with
      | none => false
      | some offset => date.reaches ((seconds : Int) - offset)

/-- A number of at least `width` digits. -/
def padded (width n : Nat) : String :=
  let digits := Nat.toDigits 10 n
  String.ofList (List.replicate (width - digits.length) '0' ++ digits)

/-- The point in time that lies a number of seconds after the beginning of 1970, in UTC. Days are
counted from the first of March of the year zero, so that leap days come last. -/
def ofSeconds (seconds : Nat) : String :=
  let days := seconds / 86400 + 719468
  let era := days / 146097
  let dayOfEra := days % 146097
  let yearOfEra := (dayOfEra - dayOfEra / 1460 + dayOfEra / 36524 - dayOfEra / 146096) / 365
  let dayOfYear := dayOfEra - (365 * yearOfEra + yearOfEra / 4 - yearOfEra / 100)
  let monthFromMarch := (5 * dayOfYear + 2) / 153
  let day := dayOfYear - (153 * monthFromMarch + 2) / 5 + 1
  let month := if monthFromMarch < 10 then monthFromMarch + 3 else monthFromMarch - 9
  let year := yearOfEra + era * 400 + (if month ≤ 2 then 1 else 0)
  let time := seconds % 86400
  padded 4 year ++ "-" ++ padded 2 month ++ "-" ++ padded 2 day ++ "T" ++
    padded 2 (time / 3600) ++ ":" ++ padded 2 (time / 60 % 60) ++ ":" ++ padded 2 (time % 60) ++ "Z"

end Timestamp
end DocAnalytics
