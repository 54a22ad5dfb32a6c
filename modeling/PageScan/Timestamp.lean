import PageScan.Text.Blank
import PageScan.Json.Decoder

/-!
# Points in time

A `Timestamp` is a day of the Gregorian calendar, a second of that day and a fraction of that
second, in UTC. It is read from a date and a time with an offset, generously about white space and
leading zeros, and written in one form.
-/

namespace PageScan

namespace Calendar

/-- The days from 1 March of the year 0 to the given date. Years start in March here, so that the
leap day is the last day of its year. -/
def dayNumber (year : Int) (month day : Nat) : Int :=
  let y := if month ≤ 2 then year - 1 else year
  let m := (month + 9) % 12
  365 * y + y.fdiv 4 - y.fdiv 100 + y.fdiv 400 + ((153 * m + 2) / 5 : Nat) + (day : Int) - 1

/-- The date with the given day number. -/
def ofDayNumber (n : Int) : Int × Nat × Nat :=
  let era := n.fdiv 146097
  let dayOfEra := (n - era * 146097).toNat
  let yearOfEra :=
    (dayOfEra - dayOfEra / 1460 + dayOfEra / 36524 - dayOfEra / 146096) / 365
  let dayOfYear := dayOfEra - (365 * yearOfEra + yearOfEra / 4 - yearOfEra / 100)
  let m := (5 * dayOfYear + 2) / 153
  let day := dayOfYear - (153 * m + 2) / 5 + 1
  let month := if m < 10 then m + 3 else m - 9
  let year := (yearOfEra : Int) + era * 400
  (if month ≤ 2 then year + 1 else year, month, day)

/-- A year with a leap day. -/
def isLeap (year : Int) : Bool :=
  year % 4 = 0 && (year % 100 ≠ 0 || year % 400 = 0)

/-- The days of a month. -/
def monthLength (year : Int) (month : Nat) : Nat :=
  if month = 2 then (if isLeap year then 29 else 28)
  else if month = 4 ∨ month = 6 ∨ month = 9 ∨ month = 11 then 30
  else 31

/-- The first and the last year that can be told. -/
def years : Int × Int := (-262143, 262142)

end Calendar

/-- A point in time. -/
structure Timestamp where
  /-- The day number of the date. -/
  day : Int
  /-- The second of the day. -/
  second : Nat
  /-- The nanoseconds behind that second; a leap second shows as a thousand million more. -/
  nanos : Nat
  deriving DecidableEq

namespace Timestamp

/-- Why a text is no point in time. -/
inductive Error
  | outOfRange
  | impossible
  | invalid
  | tooShort
  | tooLong
  deriving DecidableEq, Repr

/-- The wording of an error. -/
def Error.message : Error → String
  | .outOfRange => "input is out of range"
  | .impossible => "no possible date and time matching input"
  | .invalid => "input contains invalid characters"
  | .tooShort => "premature end of input"
  | .tooLong => "trailing input"

/-- A digit. -/
def isDigit (c : Char) : Bool :=
  '0' ≤ c && c ≤ '9'

/-- The number at the head of a text, of one digit at least and `width` at most. -/
def number (width : Option Nat) (cs : List Char) : Except Error (Nat × List Char) :=
  let digits := (match width with
    | some w => cs.take w
    | none => cs).takeWhile isDigit
  if cs.isEmpty then .error .tooShort
  else if digits.isEmpty then .error .invalid
  else
    let n := digits.foldl (fun n c => 10 * n + (c.toNat - 48)) 0
    if n ≥ Nat.pow 2 63 then .error .outOfRange else .ok (n, cs.drop digits.length)

/-- A number in a range, with white space before it. -/
def numberWithin (low high : Nat) (cs : List Char) : Except Error (Nat × List Char) := do
  let (n, cs) ← number (some 2) (Text.trimLeft cs)
  if low ≤ n ∧ n ≤ high then return (n, cs) else .error .outOfRange

/-- A character that has to come, with white space before it. -/
def expect (c : Char) (cs : List Char) : Except Error (List Char) :=
  match Text.trimLeft cs with
  | [] => .error .tooShort
  | d :: rest => if c = d then .ok rest else .error .invalid

/-- A year: four digits, or any number with a sign. -/
def year (cs : List Char) : Except Error (Int × List Char) := do
  let (y, rest) ← (match Text.trimLeft cs with
    | '-' :: cs => do
      let (n, cs) ← number none cs
      return (-(n : Int), cs)
    | '+' :: cs => do
      let (n, cs) ← number none cs
      return ((n : Int), cs)
    | cs => do
      let (n, cs) ← number (some 4) cs
      return ((n : Int), cs))
  if -2147483648 ≤ y ∧ y ≤ 2147483647 then return (y, rest) else .error .outOfRange

/-- A fraction of a second in nanoseconds, if there is one. Digits beyond the ninth are dropped. -/
def fraction (cs : List Char) : Except Error (Nat × List Char) :=
  match cs with
  | '.' :: cs => do
    let (n, rest) ← number (some 9) cs
    let width := cs.length - rest.length
    return (n * Nat.pow 10 (9 - width), rest.dropWhile isDigit)
  | cs => .ok (0, cs)

/-- Two digits, the first at most `high`. -/
def twoDigits (cs : List Char) : Except Error (Nat × List Char) :=
  match cs with
  | a :: b :: rest =>
    if isDigit a ∧ isDigit b then .ok (10 * (a.toNat - 48) + (b.toNat - 48), rest)
    else .error .invalid
  | [c] => .error (if c.utf8Size < 2 then .tooShort else .invalid)
  | [] => .error .tooShort

/-- An offset from UTC in seconds. -/
def offset (cs : List Char) : Except Error (Int × List Char) := do
  match cs with
  | [] => .error .tooShort
  | c :: rest =>
    if c = 'Z' ∨ c = 'z' then return (0, rest)
    else if c = '+' ∨ c = '-' ∨ c = '−' then do
      let (hours, rest) ← twoDigits rest
      let (minutes, rest) ← twoDigits (rest.dropWhile fun c => c = ':' || Text.isBlank c)
      if minutes ≥ 60 then .error .outOfRange
      else
        let seconds : Int := 3600 * hours + 60 * minutes
        return (if c = '+' then seconds else -seconds, rest)
    else .error .invalid

/-- The offset, or the name of UTC, with white space before it. -/
def zone (cs : List Char) : Except Error (Int × List Char) :=
  match Text.trimLeft cs with
  | a :: b :: c :: rest =>
    if a.toUpper = 'U' ∧ b.toUpper = 'T' ∧ c.toUpper = 'C' then .ok (0, rest)
    else offset (a :: b :: c :: rest)
  | cs => offset cs

/-- Reads a date, a time and an offset. -/
def ofChars (cs : List Char) : Except Error Timestamp := do
  let (y, cs) ← year cs
  let cs ← expect '-' cs
  let (month, cs) ← numberWithin 1 12 cs
  let cs ← expect '-' cs
  let (day, cs) ← numberWithin 1 31 cs
  let cs ← (match cs with
    | [] => .error .tooShort
    | c :: rest => if c = 'T' ∨ c = 't' ∨ c = ' ' then .ok rest else .error .invalid)
  let (hour, cs) ← numberWithin 0 23 cs
  let cs ← expect ':' cs
  let (minute, cs) ← numberWithin 0 59 cs
  let cs ← expect ':' cs
  let (second, cs) ← numberWithin 0 60 cs
  let (nanos, cs) ← fraction cs
  let (shift, cs) ← zone cs
  if ¬ (Text.trimLeft cs).isEmpty then .error .tooLong
  else if day > Calendar.monthLength y month ∨ y < Calendar.years.1 ∨ y > Calendar.years.2 ∨
      shift.natAbs ≥ 86400 then .error .outOfRange
  else
    let leap := second = 60
    let ofDay : Int := 3600 * hour + 60 * minute + (if leap then 59 else second : Nat) - shift
    let n := Calendar.dayNumber y month day + ofDay.fdiv 86400
    let (y, _, _) := Calendar.ofDayNumber n
    if y < Calendar.years.1 ∨ y > Calendar.years.2 then .error .impossible
    else return ⟨n, (ofDay.fmod 86400).toNat, if leap then nanos + 1000000000 else nanos⟩

/-- Reads a point in time. -/
def ofText (s : String) : Except Error Timestamp :=
  ofChars s.toList

/-- A number with zeros in front of it, up to a width. -/
def padded (width n : Nat) : List Char :=
  let digits := (Nat.repr n).toList
  List.replicate (width - digits.length) '0' ++ digits

/-- A year: four digits, and a sign if four are not enough or it lies before the year 0. -/
def yearChars (y : Int) : List Char :=
  if 0 ≤ y ∧ y ≤ 9999 then padded 4 y.toNat
  else (if y < 0 then '-' else '+') :: padded 4 y.natAbs

/-- A fraction of a second in three, six or nine digits, or in none if there is no fraction. -/
def fractionChars (nanos : Nat) : List Char :=
  let n := nanos % 1000000000
  if n = 0 then []
  else if n % 1000000 = 0 then '.' :: padded 3 (n / 1000000)
  else if n % 1000 = 0 then '.' :: padded 6 (n / 1000)
  else '.' :: padded 9 n

/-- The date and time in front of an offset. -/
def chars (t : Timestamp) (suffix : List Char) : List Char :=
  let (y, month, day) := Calendar.ofDayNumber t.day
  let second := t.second % 60 + t.nanos / 1000000000
  yearChars y ++ '-' :: padded 2 month ++ '-' :: padded 2 day ++ 'T' ::
    padded 2 (t.second / 3600) ++ ':' :: padded 2 (t.second / 60 % 60) ++ ':' ::
    padded 2 second ++ fractionChars t.nanos ++ suffix

/-- The form in documents, which ends in `Z`. -/
def text (t : Timestamp) : String :=
  String.ofList (t.chars ['Z'])

/-- The form with a numeric offset. -/
def offsetText (t : Timestamp) : String :=
  String.ofList (t.chars "+00:00".toList)

/-- Reads a point in time from a document. -/
def decoder : Json.Decoder Timestamp :=
  .parsed "an RFC 3339 formatted date and time string" fun s => (ofText s).mapError Error.message

/-- The point in time as a document. -/
def toJson (t : Timestamp) : Json.Value :=
  .string t.text

instance : Json.Document Timestamp := ⟨decoder, toJson⟩

end Timestamp

end PageScan
