import DocumentQuery.Time.Timestamp

/-!
# Dates as stored text

The text by which a document spells a date. It has the form of a timestamp, read by rules of its
own: any ASCII character may separate date and time of day, the only sign of a negative offset is
the hyphen, and a leap second has to be one that the calendar allows, at the end of a month in
UTC. It stands for the last nanosecond before it.

* `StoredDate.parse?` : the milliseconds that a text denotes, rounded toward 1970.
-/

namespace DocumentQuery.Time.StoredDate

open Timestamp (Clock)

/-- The place between date and time of day. -/
def skipSeparator? : List Char → Option (List Char)
  | c :: rest => if c.toNat < 0x80 then some rest else none
  | [] => none

def nanosPerSecond : Nat := 1000000000

def nanosPerMilli : Nat := 1000000

/-- The second is the last one of a month, in UTC. -/
def endsMonth (seconds : Int) : Bool :=
  let date := Date.ofDays (seconds / 86400)
  seconds % 86400 == 86399 && date.day == daysInMonth date.year date.month

/-- The nanoseconds since 1970 of a time of day, `nanos` past a full second. -/
def instant? (date : Date) (clock : Clock) (nanos : Nat) (ahead : Int) : Option Int :=
  let seconds : Int := 86400 * date.toDays + clock.seconds - ahead
  if clock.second < 60 then some (nanosPerSecond * seconds + nanos)
  else if endsMonth (seconds - 1) then some (nanosPerSecond * seconds - 1)
  else none

/-- The milliseconds since 1970 that a text denotes. -/
def parse? (text : String) : Option Int := do
  let (date, s) ← Timestamp.date? text.toList
  let (clock, s) ← Timestamp.clock? (← skipSeparator? s)
  let (nanos, s) ← Timestamp.fraction? 9 s
  let ahead ← Timestamp.offset? (· == '-') s
  let instant ← instant? date clock nanos ahead
  some (instant.tdiv nanosPerMilli)

end DocumentQuery.Time.StoredDate
