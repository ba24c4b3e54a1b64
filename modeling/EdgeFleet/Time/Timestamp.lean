import EdgeFleet.Text.Blank
import EdgeFleet.Text.Decimal
import EdgeFleet.Time.Calendar
import EdgeFleet.Time.Instant
/-!
# Timestamps

The written form of an instant is RFC 3339 in UTC: `YYYY-MM-DDTHH:MM:SSZ`, with a fraction of
three, six or nine digits, the fewest that are exact, when it is not zero. Years outside 0 to 9999
carry a sign. Reading is wider: blanks between the parts, any number of fraction digits, a space
for the `T`, and an offset from UTC. A timestamp may name an inserted second, `:60`.
-/

namespace EdgeFleet

/-- An instant, or the inserted second that follows the second of an instant. -/
structure Timestamp where
  instant : Instant
  inserted : Bool
deriving DecidableEq, Repr

namespace Timestamp

/-- The timestamp of an instant. -/
def ofInstant (t : Instant) : Timestamp := ⟨t, false⟩

/-! ## Writing -/

/-- At least a width of digits. -/
def padded (width n : Nat) : List Char :=
  let d := Decimal.digits n
  List.replicate (width - d.length) '0' ++ d

/-- A year: four digits, with a sign when it is negative or has more. -/
def writeYear (y : Int) : List Char :=
  if 0 ≤ y ∧ y ≤ 9999 then padded 4 y.toNat
  else (if y < 0 then '-' else '+') :: padded 4 y.natAbs

/-- A fraction of a second in nanoseconds, behind its point. -/
def writeFraction (n : Nat) : List Char :=
  if n = 0 then []
  else if n % 1000000 = 0 then '.' :: padded 3 (n / 1000000)
  else if n % 1000 = 0 then '.' :: padded 6 (n / 1000)
  else '.' :: padded 9 n

def write (t : Timestamp) : List Char :=
  let s := t.instant.seconds
  let date := Date.ofDays (s / 86400)
  let ofDay := (s % 86400).toNat
  writeYear date.year ++ '-' :: padded 2 date.month ++ '-' :: padded 2 date.day ++
    'T' :: padded 2 (ofDay / 3600) ++ ':' :: padded 2 (ofDay / 60 % 60) ++
    ':' :: padded 2 (ofDay % 60 + if t.inserted then 1 else 0) ++
    writeFraction t.instant.fraction ++ ['Z']

def text (t : Timestamp) : String := String.ofList t.write

/-! ## Reading -/

/-- The number of a list of digits. -/
def number (s : List Char) : Nat := s.foldl (fun n c => n * 10 + (c.toNat - 48)) 0

/-- Whether a character is a decimal digit. -/
def isDigit (c : Char) : Bool := 48 ≤ c.toNat && c.toNat ≤ 57

/-- Reads a non-empty run of digits. -/
def readDigits (s : List Char) : Option (Nat × List Char) :=
  match s.takeWhile isDigit with
  | [] => none
  | ds => some (number ds, s.dropWhile isDigit)

/-- Reads at most a width of digits, at least one, behind any blanks. -/
def readField (width : Nat) (s : List Char) : Option (Nat × List Char) :=
  let s := Text.trimStart s
  match (s.take width).takeWhile isDigit with
  | [] => none
  | ds => some (number ds, s.drop ds.length)

/-- Reads a year: four digits at most, or any number behind a sign. -/
def readYear (s : List Char) : Option (Int × List Char) :=
  match Text.trimStart s with
  | '-' :: r => (readDigits r).map (fun p => (-(p.1 : Int), p.2))
  | '+' :: r => (readDigits r).map (fun p => ((p.1 : Int), p.2))
  | s => (readField 4 s).map (fun p => ((p.1 : Int), p.2))

/-- Reads one character. -/
def readMark (c : Char) : List Char → Option (List Char)
  | [] => none
  | d :: r => if d = c then some r else none

/-- Reads the fraction behind its point: nine digits count, more are passed over. -/
def readFraction : List Char → Option (Nat × List Char)
  | '.' :: s =>
    match (s.take 9).takeWhile isDigit with
    | [] => none
    | ds => some (number ds * Nat.pow 10 (9 - ds.length), s.dropWhile isDigit)
  | s => some (0, s)

/-- Reads two digits. -/
def readPair : List Char → Option (Nat × List Char)
  | a :: b :: r => if isDigit a && isDigit b then some (number [a, b], r) else none
  | _ => none

/-- Reads an offset from UTC in seconds that is a signed count of hours and minutes. -/
def readSignedOffset : List Char → Option (Int × List Char)
  | [] => none
  | c :: r =>
    if c = '+' ∨ c = '-' ∨ c = '\u2212' then do
      let (hours, r) ← readPair r
      let (minutes, r) ← readPair (r.dropWhile (fun c => c = ':' || Text.isBlank c))
      if minutes < 60 then
        let seconds : Int := hours * 3600 + minutes * 60
        some (if c = '+' then seconds else -seconds, r)
      else none
    else none

/-- Reads an offset from UTC in seconds: `UTC`, `Z`, or a signed count of hours and minutes. -/
def readOffset (s : List Char) : Option (Int × List Char) :=
  if (s.take 3).map Char.toUpper = ['U', 'T', 'C'] then some (0, s.drop 3)
  else match s with
    | 'Z' :: r => some (0, r)
    | 'z' :: r => some (0, r)
    | s => readSignedOffset s

/-- The timestamp of the parts that were read, if there is one: the date must exist, the offset
be less than a day, and the calendar must have the result. -/
def ofParts (date : Date) (hour minute second nanos : Nat) (offset : Int) : Option Timestamp :=
  let inserted := second = 60
  let second := if inserted then 59 else second
  let seconds := date.toDays * 86400 + hour * 3600 + minute * 60 + second - offset
  let instant : Instant := ⟨seconds * 1000000000 + nanos⟩
  if date.isValid && -262143 ≤ date.year && date.year ≤ 262142 && hour < 24 && minute < 60 &&
      second < 60 && -86400 < offset && offset < 86400 && instant.onCalendar then
    some ⟨instant, inserted⟩
  else none

/-- Reads a timestamp, nothing but blanks following it. -/
def read? (s : List Char) : Option Timestamp := do
  let (year, s) ← readYear s
  let s ← readMark '-' (Text.trimStart s)
  let (month, s) ← readField 2 s
  let s ← readMark '-' (Text.trimStart s)
  let (day, s) ← readField 2 s
  let s ← match s with
    | [] => none
    | c :: r => if c = 'T' ∨ c = 't' ∨ c = ' ' then some r else none
  let (hour, s) ← readField 2 s
  let s ← readMark ':' (Text.trimStart s)
  let (minute, s) ← readField 2 s
  let s ← readMark ':' (Text.trimStart s)
  let (second, s) ← readField 2 s
  let (nanos, s) ← readFraction s
  let (offset, s) ← readOffset (Text.trimStart s)
  if (Text.trimStart s).isEmpty then ofParts ⟨year, month, day⟩ hour minute second nanos offset else none

/-! ## The forms that databases write -/

/-- Whether nothing is left behind a time but the mark of UTC or an offset. -/
def isZone (s : List Char) : Bool :=
  s.isEmpty || s = ['Z'] ||
    (match readSignedOffset (Text.trimStart s) with
      | some (_, r) => r.isEmpty
      | none => false)

/-- Whether a text is a date and a time of day without a zone that matters: the seconds may be
missing, blanks or a `T` stand between the two, and an offset is passed over. -/
def isCivil (s : List Char) : Bool :=
  let parts := do
    let (year, s) ← readYear s
    let s ← readMark '-' s
    let (month, s) ← readField 2 s
    let s ← readMark '-' s
    let (day, s) ← readField 2 s
    let s := match s with
      | 'T' :: r => r
      | s => Text.trimStart s
    let (hour, s) ← readField 2 s
    let s ← readMark ':' s
    let (minute, s) ← readField 2 s
    let (second, s) ← match s with
      | ':' :: r => do
        let (second, r) ← readField 2 r
        let (_, r) ← readFraction r
        some (second, r)
      | s => some (0, s)
    if isZone s then ofParts ⟨year, month, day⟩ hour minute second 0 0 else none
  parts.isSome

/-- The date and the time of day in the strict form. -/
def strictShape : List Char := "0000-00-00t00:00:00".toList

/-- Whether a character may stand where the strict form has another. -/
def fitsShape (shape c : Char) : Bool :=
  if shape = '0' then isDigit c else if shape = 't' then c = 'T' || c = 't' || c = ' ' else c = shape

/-- Whether a text is a timestamp without blanks, every field of which has its full width. -/
def isStrict (s : List Char) : Bool :=
  let zone := match readFraction (s.drop strictShape.length) with
    | some (_, ['Z']) | some (_, ['z']) | some (_, [_, _, _, ':', _, _]) => true
    | _ => false
  zone && strictShape.length ≤ s.length && (strictShape.zip s).all (fun p => fitsShape p.1 p.2) &&
    (read? s).isSome

/-- Whether a text is a time as databases write it. -/
def isPlain (s : List Char) : Bool := isStrict s || isCivil s

end Timestamp

end EdgeFleet
