import PolicyHost.Calendar.Instant

/-!
# Timestamps in RFC 3339

A timestamp is a date, a separator, a time of day with an optional fraction
of a second, and an offset from universal time. The parts are read from left
to right, and each of the three is checked as soon as it is read whole, so the
first fault decides what is reported. A text that is too short for a date and
a time of day is too short in the first place.

A second of 60 is the one after second 59. Digits of the fraction past the
ninth have no effect.
-/

namespace PolicyHost.Calendar

/-- What is wrong with a timestamp. -/
inductive TimestampFault where
  /-- Something else stands where a part is expected. -/
  | invalid
  | outOfRange
  | tooShort
  | tooLong
deriving DecidableEq, Repr

def TimestampFault.message : TimestampFault → String
  | .invalid => "input contains invalid characters"
  | .outOfRange => "input is out of range"
  | .tooShort => "premature end of input"
  | .tooLong => "trailing input"

namespace Rfc3339

/-- A reader takes a part off the front of the bytes of a text. -/
abbrev Reader (α : Type) := List UInt8 → Except TimestampFault (α × List UInt8)

def isDigit (b : UInt8) : Bool :=
  '0'.toUInt8 ≤ b && b ≤ '9'.toUInt8

def number (ds : List UInt8) : Nat :=
  ds.foldl (fun n b => 10 * n + (b.toNat - 48)) 0

/-- A number of exactly `width` digits. -/
def digits (width : Nat) : Reader Nat := fun bs =>
  if bs.length < width then .error .tooShort
  else if (bs.take width).all isDigit then .ok (number (bs.take width), bs.drop width)
  else .error .invalid

def oneOf (cs : List Char) : Reader Unit
  | [] => .error .tooShort
  | b :: rest => if cs.any (·.toUInt8 == b) then .ok ((), rest) else .error .invalid

/-- The fraction of a second in nanoseconds, zero if there is none. -/
def fraction : Reader Nat
  | 0x2e :: bs =>
      let ds := bs.takeWhile isDigit
      match bs, ds with
      | [], _ => .error .tooShort
      | _, [] => .error .invalid
      | _, ds =>
          -- Digits past the ninth are read and dropped.
          let counted := ds.take 9
          .ok (number counted * 10 ^ (9 - counted.length), bs.dropWhile isDigit)
  | bs => .ok (0, bs)

/-- The sign of an offset; a minus sign may be the hyphen or the sign of its
own. -/
def sign : Reader Int
  | [] => .error .tooShort
  | 0x2b :: rest => .ok (1, rest)
  | 0x2d :: rest => .ok (-1, rest)
  | 0xe2 :: 0x88 :: 0x92 :: rest => .ok (-1, rest)
  | _ => .error .invalid

/-- The minutes of an offset: two digits below 60. -/
def offsetMinutes : Reader Nat
  | a :: b :: rest =>
      if isDigit a && isDigit b then
        let n := number [a, b]
        if n < 60 then .ok (n, rest) else .error .outOfRange
      else .error .invalid
  | _ => .error .tooShort

/-- The offset from universal time in seconds: the letter `Z`, or a sign,
hours and minutes of less than a day. -/
def offset : Reader Int
  | 0x5a :: rest => .ok (0, rest)
  | 0x7a :: rest => .ok (0, rest)
  | bs => do
      let (sign, bs) ← sign bs
      let (hours, bs) ← digits 2 bs
      let ((), bs) ← oneOf [':'] bs
      let (minutes, bs) ← offsetMinutes bs
      if hours < 24 then .ok (sign * (hours * 3600 + minutes * 60 : Nat), bs)
      else .error .outOfRange

/-- A date, which has to be one of the calendar. -/
def date : Reader Date := fun bs => do
  let (year, bs) ← digits 4 bs
  let ((), bs) ← oneOf ['-'] bs
  let (month, bs) ← digits 2 bs
  let ((), bs) ← oneOf ['-'] bs
  let (dayOfMonth, bs) ← digits 2 bs
  let date : Date := ⟨year, month, dayOfMonth⟩
  if date.Valid then .ok (date, bs) else .error .outOfRange

/-- A time of day, in nanoseconds. -/
def timeOfDay : Reader Nat := fun bs => do
  let (hour, bs) ← digits 2 bs
  let ((), bs) ← oneOf [':'] bs
  let (minute, bs) ← digits 2 bs
  let ((), bs) ← oneOf [':'] bs
  let (sec, bs) ← digits 2 bs
  let (nanos, bs) ← fraction bs
  if hour < 24 ∧ minute < 60 ∧ sec ≤ 60 then
    .ok ((hour * 3600 + minute * 60 + sec) * 10 ^ 9 + nanos, bs)
  else .error .outOfRange

/-- The number of bytes of a date and a time of day. -/
def fixedLength : Nat := 19

/-- The instant that a timestamp denotes, as nanoseconds without bounds. -/
def instant (bs : List UInt8) : Except TimestampFault Int := do
  if bs.length < fixedLength then throw .tooShort
  let (date, bs) ← date bs
  let ((), bs) ← oneOf ['t', 'T', ' '] bs
  let (time, bs) ← timeOfDay bs
  let (offset, bs) ← offset bs
  if bs ≠ [] then throw .tooLong
  return date.dayNumber * day + time - offset * second

end Rfc3339

end PolicyHost.Calendar
