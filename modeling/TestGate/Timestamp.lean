import TestGate.Text.Blank
import TestGate.Text.Number

/-!
Instants of universal time, written as in `2024-06-15T10:30:00Z`. Reading is lenient: numbers may be
short, blanks may stand around the separators, and any offset from universal time is taken off.
-/

namespace TestGate

open Text

/-- An instant: a day counted from 1970-01-01, a second of that day, and nanoseconds. From one
billion nanoseconds on the instant lies in a leap second. -/
structure Timestamp where
  day : Int
  second : Nat
  nanosecond : Nat
deriving DecidableEq, Repr, Inhabited

namespace Timestamp

/-! ## Calendar -/

/-- The first and the last year that a timestamp may lie in. -/
def firstYear : Int := -262143

def lastYear : Int := 262142

/-- A day of the calendar. -/
structure Date where
  year : Int
  month : Nat
  day : Nat
deriving DecidableEq, Repr

def isLeapYear (year : Int) : Bool :=
  year % 4 == 0 && (year % 100 != 0 || year % 400 == 0)

def monthLength (year : Int) (month : Nat) : Nat :=
  if month = 2 then
    if isLeapYear year then 29 else 28
  else if [4, 6, 9, 11].contains month then 30
  else 31

def Date.isValid (date : Date) : Bool :=
  firstYear ≤ date.year && date.year ≤ lastYear && 1 ≤ date.month && date.month ≤ 12
    && 1 ≤ date.day && date.day ≤ monthLength date.year date.month

def daysOfEra : Int := 146097

/-- The days from the first of March of the year zero to 1970-01-01. -/
def daysToEpoch : Int := 719468

/-- The day's number. Years are counted from March on, so that a leap day comes last. -/
def Date.toDay (date : Date) : Int :=
  let year := if date.month ≤ 2 then date.year - 1 else date.year
  let era := year.fdiv 400
  let yearOfEra := year - era * 400
  let month := if date.month ≤ 2 then date.month + 9 else date.month - 3
  let dayOfYear : Int := ((153 * month + 2) / 5 + date.day : Nat) - 1
  let dayOfEra := yearOfEra * 365 + yearOfEra.fdiv 4 - yearOfEra.fdiv 100 + dayOfYear
  era * daysOfEra + dayOfEra - daysToEpoch

def Date.ofDay (day : Int) : Date :=
  let shifted := day + daysToEpoch
  let era := shifted.fdiv daysOfEra
  let dayOfEra := (shifted - era * daysOfEra).toNat
  let yearOfEra := (dayOfEra - dayOfEra / 1460 + dayOfEra / 36524 - dayOfEra / 146096) / 365
  let dayOfYear := dayOfEra - (365 * yearOfEra + yearOfEra / 4 - yearOfEra / 100)
  let month := (5 * dayOfYear + 2) / 153
  let year : Int := yearOfEra + era * 400
  { year := if month < 10 then year else year + 1
    month := if month < 10 then month + 3 else month - 9
    day := dayOfYear - (153 * month + 2) / 5 + 1 }

/-! ## Writing -/

def billion : Nat := 1000000000

/-- The text of a year: four digits, or beyond them a sign and at least four digits. -/
def yearText (year : Int) : String :=
  if 0 ≤ year ∧ year ≤ 9999 then
    paddedNat 4 year.toNat
  else
    (if year < 0 then "-" else "+") ++ paddedNat 4 year.natAbs

/-- The fraction of a second: no digits, or three, six or nine as needed. -/
def fractionText (nanosecond : Nat) : String :=
  if nanosecond = 0 then ""
  else if nanosecond % 1000000 = 0 then "." ++ paddedNat 3 (nanosecond / 1000000)
  else if nanosecond % 1000 = 0 then "." ++ paddedNat 6 (nanosecond / 1000)
  else "." ++ paddedNat 9 nanosecond

/-- The text of an instant. A leap second has the number sixty. -/
def toText (timestamp : Timestamp) : String :=
  let date := Date.ofDay timestamp.day
  let leap := timestamp.nanosecond / billion
  yearText date.year ++ "-" ++ paddedNat 2 date.month ++ "-" ++ paddedNat 2 date.day
    ++ "T" ++ paddedNat 2 (timestamp.second / 3600)
    ++ ":" ++ paddedNat 2 (timestamp.second / 60 % 60)
    ++ ":" ++ paddedNat 2 (timestamp.second % 60 + leap)
    ++ fractionText (timestamp.nanosecond % billion) ++ "Z"

/-! ## Reading -/

/-- A reader takes something off the front of a text, or refuses it. -/
abbrev Reader (α : Type) := StateT (List Char) Option α

def passBlanks : Reader Unit :=
  modify fun chars => chars.dropWhile isBlank

def passChar (accepts : Char → Bool) : Reader Unit := do
  match ← get with
  | c :: rest => if accepts c then set rest else failure
  | [] => failure

/-- Reads at least one and at most `most` digits. -/
def readDigits (most : Option Nat) : Reader Nat := do
  let chars ← get
  let all := chars.takeWhile Char.isDigit
  let digits :=
    match most with
    | some most => all.take most
    | none => all
  if digits.isEmpty then
    failure
  set (chars.drop digits.length)
  return digitsValue digits

/-- Reads a number of one or two digits behind blanks, up to `largest`. -/
def readShort (largest : Nat) : Reader Nat := do
  passBlanks
  let value ← readDigits (some 2)
  if value ≤ largest then return value else failure

/-- Reads a year behind blanks: up to four digits, or any number of them behind a sign. -/
def readYear : Reader Int := do
  passBlanks
  match ← get with
  | '-' :: rest =>
    set rest
    return -(← readDigits none)
  | '+' :: rest =>
    set rest
    return ← readDigits none
  | _ => return ← readDigits (some 4)

/-- Reads the fraction of a second in nanoseconds; digits behind the ninth are dropped. -/
def readFraction : Reader Nat := do
  match ← get with
  | '.' :: rest =>
    let digits := rest.takeWhile Char.isDigit
    if digits.isEmpty then
      failure
    set (rest.dropWhile Char.isDigit)
    let kept := digits.take 9
    return digitsValue kept * Nat.pow 10 (9 - kept.length)
  | _ => return 0

/-- Reads the two digits of an offset; the first is at most `largest`. -/
def readPair (largest : Char) : Reader Nat := do
  match ← get with
  | first :: second :: rest =>
    if '0' ≤ first ∧ first ≤ largest ∧ second.isDigit then
      set rest
      return digitsValue [first, second]
    else
      failure
  | _ => failure

/-- Reads hours and minutes of an offset, in seconds. -/
def readHoursMinutes : Reader Nat := do
  let hours ← readPair '9'
  modify fun chars => chars.dropWhile fun c => c == ':' || isBlank c
  let minutes ← readPair '5'
  return hours * 3600 + minutes * 60

/-- Reads an offset from universal time in seconds: none, or a sign with hours and minutes. -/
def readOffset : Reader Int := do
  match ← get with
  | 'Z' :: rest | 'z' :: rest =>
    set rest
    return 0
  | '+' :: rest =>
    set rest
    return ← readHoursMinutes
  | '-' :: rest | '−' :: rest =>
    set rest
    return -(← readHoursMinutes)
  | u :: t :: c :: rest =>
    if [u, t, c].map Char.toUpper = ['U', 'T', 'C'] then
      set rest
      return 0
    else
      failure
  | _ => failure

def secondsOfDay : Int := 86400

def read : Reader Timestamp := do
  let year ← readYear
  passBlanks
  passChar (· == '-')
  let month ← readShort 12
  passBlanks
  passChar (· == '-')
  let day ← readShort 31
  passChar fun c => c == 't' || c == 'T' || c == ' '
  let hour ← readShort 23
  passBlanks
  passChar (· == ':')
  let minute ← readShort 59
  passBlanks
  passChar (· == ':')
  let second ← readShort 60
  let fraction ← readFraction
  passBlanks
  let offset ← readOffset
  let date : Date := ⟨year, month, day⟩
  if !date.isValid || secondsOfDay ≤ offset.natAbs then
    failure
  let leap := second / 60
  let clock : Int := hour * 3600 + minute * 60 + (second - leap : Nat)
  let moment := clock - offset
  let universal := date.toDay + moment.fdiv secondsOfDay
  let shifted := Date.ofDay universal
  if shifted.year < firstYear ∨ lastYear < shifted.year then
    failure
  return {
    day := universal
    second := (moment - moment.fdiv secondsOfDay * secondsOfDay).toNat
    nanosecond := fraction + leap * billion }

/-- The instant that lies so many nanoseconds behind the start of 1970. -/
def ofNanoseconds (nanoseconds : Int) : Timestamp :=
  let seconds := nanoseconds.fdiv billion
  let day := seconds.fdiv secondsOfDay
  { day := day
    second := (seconds - day * secondsOfDay).toNat
    nanosecond := (nanoseconds - seconds * billion).toNat }

/-- The instant that a whole text stands for. -/
def parse? (text : String) : Option Timestamp :=
  match read.run text.toList with
  | some (timestamp, []) => some timestamp
  | _ => none

end Timestamp

end TestGate
