import DocumentQuery.Number.Decimal
import DocumentQuery.Time.Calendar

/-!
# Timestamps as text

A point in time is a count of milliseconds from 1970-01-01T00:00:00Z. Its text has the form
`2024-02-29T23:59:60.25+01:30`: date, a separator, time of day, any fraction of a second, and `Z`
or an offset.

* `Timestamp.parse?`  : the milliseconds that a text denotes, rounded down;
* `Timestamp.render?` : the text in UTC, for the years 1970 to 9999.
-/

namespace DocumentQuery.Time.Timestamp

open Number (isDigit digits digitsValue toDigits)

/-- Exactly `count` digits, and what follows them. -/
def fixedNumber? (count : Nat) (s : List Char) : Option (Nat × List Char) :=
  let lead := s.take count
  if lead.length = count ∧ lead.all isDigit then some (digitsValue lead, s.drop count) else none

/-- Skips the character `c`. -/
def skip? (c : Char) : List Char → Option (List Char)
  | d :: rest => if d = c then some rest else none
  | [] => none

def date? (s : List Char) : Option (Date × List Char) := do
  let (year, s) ← fixedNumber? 4 s
  let (month, s) ← fixedNumber? 2 (← skip? '-' s)
  let (day, s) ← fixedNumber? 2 (← skip? '-' s)
  let date : Date := ⟨year, month, day⟩
  if date.isValid then some (date, s) else none

/-- A time of day. The second 60 is a leap second. -/
structure Clock where
  hour : Nat
  minute : Nat
  second : Nat
  deriving DecidableEq, Repr

namespace Clock

def isValid (c : Clock) : Bool := c.hour ≤ 23 && c.minute ≤ 59 && c.second ≤ 60

/-- The seconds since midnight, with second 60 as the one after second 59. -/
def seconds (c : Clock) : Nat := 3600 * c.hour + 60 * c.minute + c.second

end Clock

def clock? (s : List Char) : Option (Clock × List Char) := do
  let (hour, s) ← fixedNumber? 2 s
  let (minute, s) ← fixedNumber? 2 (← skip? ':' s)
  let (second, s) ← fixedNumber? 2 (← skip? ':' s)
  let clock : Clock := ⟨hour, minute, second⟩
  if clock.isValid then some (clock, s) else none

/-- A fraction of a second, cut after `places` digits and counted in units of the last of them. No
point, no fraction. -/
def fraction? (places : Nat) : List Char → Option (Nat × List Char)
  | '.' :: s =>
    let (fraction, rest) := digits s
    if fraction.isEmpty then none
    else
      let filled := fraction.take places ++ List.replicate (places - fraction.length) '0'
      some (digitsValue filled, rest)
  | s => some (0, s)

/-- The seconds by which local time is ahead of UTC: `Z`, or a sign, hours and minutes that make
less than a day. `isMinus` tells the signs of a negative offset. -/
def offset? (isMinus : Char → Bool) (s : List Char) : Option Int :=
  match s with
  | 'Z' :: [] => some 0
  | 'z' :: [] => some 0
  | c :: rest => do
    let negative ←
      if c = '+' then some false else if isMinus c then some true else none
    let (hours, rest) ← fixedNumber? 2 rest
    let (minutes, rest) ← fixedNumber? 2 (← skip? ':' rest)
    if rest.isEmpty ∧ minutes ≤ 59 ∧ hours < 24 then
      let seconds : Int := (3600 * hours + 60 * minutes : Nat)
      some (if negative then -seconds else seconds)
    else none
  | [] => none

def isSeparator (c : Char) : Bool := c == 'T' || c == 't' || c == ' '

/-- The hyphen, and the minus sign U+2212. -/
def isMinus (c : Char) : Bool := c == '-' || c == '\u2212'

/-- The milliseconds since 1970 that a text denotes. -/
def parse? (text : String) : Option Int := do
  let (date, s) ← date? text.toList
  match s with
  | c :: s =>
    if isSeparator c then
      let (clock, s) ← clock? s
      let (milliseconds, s) ← fraction? 3 s
      let ahead ← offset? isMinus s
      some (1000 * (86400 * date.toDays + clock.seconds - ahead) + milliseconds)
    else none
  | [] => none

/-- `n` in at least `width` digits. -/
def padded (width n : Nat) : List Char :=
  let body := toDigits n
  List.replicate (width - body.length) '0' ++ body

/-- A fraction of a second without trailing zeros, nothing for zero. -/
def renderFraction (milliseconds : Nat) : List Char :=
  if milliseconds = 0 then []
  else '.' :: ((padded 3 milliseconds).reverse.dropWhile (· = '0')).reverse

/-- The text in UTC of a time in the years 1970 to 9999. -/
def render? (milliseconds : Int) : Option String :=
  let seconds := milliseconds / 1000
  let date := Date.ofDays (seconds / 86400)
  if milliseconds < 0 ∨ 9999 < date.year then none
  else
    let clock := (seconds % 86400).toNat
    some <| String.ofList <|
      padded 4 date.year.toNat ++ '-' :: padded 2 date.month ++ '-' :: padded 2 date.day ++
        'T' :: padded 2 (clock / 3600) ++ ':' :: padded 2 (clock / 60 % 60) ++
        ':' :: padded 2 (clock % 60) ++ renderFraction (milliseconds % 1000).toNat ++ ['Z']

end DocumentQuery.Time.Timestamp
