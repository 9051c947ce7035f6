import PolicyHost.Proofs.Calendar.Instant
import PolicyHost.Proofs.Guest.Encoding
import PolicyHost.Calendar.Rfc3339

/-!
# Timestamps that are read back

A timestamp that is written as RFC 3339 has it, with a fraction of up to nine digits and
any offset, is read as the instant that it denotes (`Timestamp.instant_text`). The text is
put together from fields of fixed width, so every part is read off the front whatever
comes after it. The fraction is the exception, its digits end where something else
begins: that is the offset, and no offset begins with a digit or a point
(`Offset.exists_head`).
-/

namespace PolicyHost.Calendar.Rfc3339

open Guest (bytesOf bytesOf_cons bytesOf_append utf8EncodeChar_of_ascii)

/-! ## Digits -/

/-- A number in decimal with a fixed number of digits. -/
def fixedDigits : (width n : Nat) → List Char
  | 0, _ => []
  | width + 1, n => fixedDigits width (n / 10) ++ [Decimal.digitChar (n % 10)]

variable {width n : Nat}

theorem utf8EncodeChar_digitChar : ∀ d < 10,
    String.utf8EncodeChar (Decimal.digitChar d) = [UInt8.ofNat (48 + d)] := by
  decide

theorem bytesOf_fixedDigits_succ (width n : Nat) :
    bytesOf (fixedDigits (width + 1) n) =
      bytesOf (fixedDigits width (n / 10)) ++ [UInt8.ofNat (48 + n % 10)] := by
  have hdigit := utf8EncodeChar_digitChar (n % 10) (Nat.mod_lt _ (by decide))
  rw [fixedDigits, bytesOf_append, bytesOf_cons, hdigit]
  rfl

theorem length_bytesOf_fixedDigits (width n : Nat) :
    (bytesOf (fixedDigits width n)).length = width := by
  induction width generalizing n with
  | zero => rfl
  | succ width ih => rw [bytesOf_fixedDigits_succ, List.length_append, ih, List.length_singleton]

theorem isDigit_of_lt : ∀ d < 10, isDigit (UInt8.ofNat (48 + d)) = true := by
  decide

theorem all_isDigit_fixedDigits (width n : Nat) :
    (bytesOf (fixedDigits width n)).all isDigit = true := by
  induction width generalizing n with
  | zero => rfl
  | succ width ih =>
      have hlast := isDigit_of_lt (n % 10) (Nat.mod_lt _ (by decide))
      rw [bytesOf_fixedDigits_succ, List.all_append, ih, List.all_cons, hlast, List.all_nil]
      rfl

theorem number_concat (ds : List UInt8) (b : UInt8) :
    number (ds ++ [b]) = 10 * number ds + (b.toNat - 48) := by
  simp [number]

theorem number_fixedDigits (h : n < 10 ^ width) : number (bytesOf (fixedDigits width n)) = n := by
  induction width generalizing n with
  | zero =>
      have hzero : n = 0 := by omega
      rw [hzero]
      rfl
  | succ width ih =>
      have hfront : n / 10 < 10 ^ width := by omega
      have hlast : (UInt8.ofNat (48 + n % 10)).toNat = 48 + n % 10 :=
        UInt8.toNat_ofNat_of_lt' (by have : UInt8.size = 256 := rfl; omega)
      rw [bytesOf_fixedDigits_succ, number_concat, ih hfront, hlast]
      omega

/-- A number is read back from its digits, whatever comes after them. -/
theorem digits_fixedDigits (width n : Nat) (h : n < 10 ^ width) (rest : List UInt8) :
    digits width (bytesOf (fixedDigits width n) ++ rest) = .ok (n, rest) := by
  have hlength := length_bytesOf_fixedDigits width n
  have htake : (bytesOf (fixedDigits width n) ++ rest).take width =
      bytesOf (fixedDigits width n) := by
    rw [List.take_append_of_le_length (by omega), List.take_of_length_le (by omega)]
  have hdrop : (bytesOf (fixedDigits width n) ++ rest).drop width = rest := by
    rw [List.drop_append_of_le_length (by omega), List.drop_of_length_le (by omega)]
    rfl
  have hlong : ¬ (bytesOf (fixedDigits width n) ++ rest).length < width := by
    rw [List.length_append]
    omega
  rw [digits, if_neg hlong, htake, hdrop, if_pos (all_isDigit_fixedDigits width n),
    number_fixedDigits h]

/-! ## Dates -/

theorem bytesOf_ascii {c : Char} (h : c.toNat < 128) : bytesOf [c] = [c.toUInt8] := by
  rw [bytesOf_cons, utf8EncodeChar_of_ascii h]
  rfl

theorem oneOf_of_mem {c : Char} {cs : List Char} (hascii : c.toNat < 128) (hmem : c ∈ cs)
    (rest : List UInt8) : oneOf cs (bytesOf [c] ++ rest) = .ok ((), rest) := by
  have hany : cs.any (·.toUInt8 == c.toUInt8) = true :=
    List.any_eq_true.mpr ⟨c, hmem, beq_self_eq_true _⟩
  rw [bytesOf_ascii hascii, List.singleton_append, oneOf, if_pos hany]

theorem oneOf_self {c : Char} (hascii : c.toNat < 128) (rest : List UInt8) :
    oneOf [c] (bytesOf [c] ++ rest) = .ok ((), rest) :=
  oneOf_of_mem hascii (List.mem_singleton_self c) rest

/-- A date, year first. -/
def dateText (d : Date) : List Char :=
  fixedDigits 4 d.year.toNat ++ ['-'] ++ fixedDigits 2 d.month ++ ['-'] ++ fixedDigits 2 d.day

theorem date_dateText {d : Date} (hvalid : d.Valid) (hyear : 0 ≤ d.year ∧ d.year ≤ 9999)
    (rest : List UInt8) : date (bytesOf (dateText d) ++ rest) = .ok (d, rest) := by
  have hmost := hvalid.day_le.1
  obtain ⟨-, hmonth, -, -⟩ := id hvalid
  have hwhole : (⟨(d.year.toNat : Int), d.month, d.day⟩ : Date) = d := by
    rw [Int.toNat_of_nonneg hyear.1]
  have hyears := digits_fixedDigits 4 d.year.toNat (by omega)
  have hmonths := digits_fixedDigits 2 d.month (by omega)
  have hdays := digits_fixedDigits 2 d.day (by omega)
  have hdash := oneOf_self (show '-'.toNat < 128 by decide)
  simp only [date, dateText, bytesOf_append, List.append_assoc, hyears, hdash, hmonths, hdays,
    bind, Except.bind, hwhole, if_pos hvalid]

/-! ## Times of day -/

theorem fraction_digits {ds : List UInt8} {first : UInt8} (hsome : ds ≠ [])
    (hall : ds.all isDigit = true) (hdigit : isDigit first = false) (rest : List UInt8) :
    fraction (0x2e :: (ds ++ first :: rest)) =
      .ok (number (ds.take 9) * 10 ^ (9 - (ds.take 9).length), first :: rest) := by
  have hdigits := List.all_eq_true.mp hall
  have hfirst : ¬ isDigit first = true := by simp [hdigit]
  have htake : (ds ++ first :: rest).takeWhile isDigit = ds := by
    rw [List.takeWhile_append_of_pos hdigits, List.takeWhile_cons_of_neg hfirst, List.append_nil]
  have hdrop : (ds ++ first :: rest).dropWhile isDigit = first :: rest := by
    rw [List.dropWhile_append_of_pos hdigits, List.dropWhile_cons_of_neg hfirst]
  obtain ⟨d, more, rfl⟩ := List.exists_cons_of_ne_nil hsome
  rw [List.cons_append] at *
  simp only [fraction, htake, hdrop]

/-- A time of day with a fraction of a second. -/
structure Clock where
  hour : Nat
  minute : Nat
  second : Nat
  /-- The number of digits of the fraction; without a digit there is no point either. -/
  places : Nat
  /-- The number that the digits of the fraction spell. -/
  fraction : Nat
  hour_lt : hour < 24
  minute_lt : minute < 60
  second_lt : second < 60
  places_le : places ≤ 9
  fraction_lt : fraction < 10 ^ places

namespace Clock

/-- The whole seconds since midnight. -/
def seconds (c : Clock) : Nat :=
  c.hour * 3600 + c.minute * 60 + c.second

/-- The nanoseconds of the fraction. -/
def nanoseconds (c : Clock) : Nat :=
  c.fraction * 10 ^ (9 - c.places)

/-- The fraction as it is written. -/
def fractionText (c : Clock) : List Char :=
  if c.places = 0 then [] else '.' :: fixedDigits c.places c.fraction

/-- A time of day as it is written. -/
def text (c : Clock) : List Char :=
  fixedDigits 2 c.hour ++ [':'] ++ fixedDigits 2 c.minute ++ [':'] ++ fixedDigits 2 c.second ++
    c.fractionText

variable (c : Clock) {first : UInt8} (hdigit : isDigit first = false)

theorem seconds_lt : c.seconds < 86400 := by
  have hhour := c.hour_lt
  have hminute := c.minute_lt
  have hsecond := c.second_lt
  rw [seconds]
  omega

theorem nanoseconds_lt : c.nanoseconds < 10 ^ 9 := by
  have hscale : 10 ^ c.places * 10 ^ (9 - c.places) = 10 ^ 9 := by
    rw [← Nat.pow_add, Nat.add_sub_cancel' c.places_le]
  rw [nanoseconds, ← hscale]
  exact Nat.mul_lt_mul_of_pos_right c.fraction_lt (Nat.pow_pos (by decide))

include hdigit

theorem fraction_fractionText (hpoint : first ≠ 0x2e) (rest : List UInt8) :
    Rfc3339.fraction (bytesOf c.fractionText ++ first :: rest) =
      .ok (c.nanoseconds, first :: rest) := by
  rw [fractionText]
  by_cases hplaces : c.places = 0
  · have hnone : c.nanoseconds = 0 := by
      have hfraction := c.fraction_lt
      rw [hplaces] at hfraction
      rw [nanoseconds, Nat.lt_one_iff.mp hfraction, Nat.zero_mul]
    rw [if_pos hplaces, hnone]
    change Rfc3339.fraction (first :: rest) = _
    rw [Rfc3339.fraction.eq_def]
    split
    · next hpoint' => exact absurd (List.cons.inj hpoint').1 hpoint
    · rfl
  · rw [if_neg hplaces]
    have hlength := length_bytesOf_fixedDigits c.places c.fraction
    have hsome : bytesOf (fixedDigits c.places c.fraction) ≠ [] := by
      rw [← List.length_pos_iff, hlength]
      exact Nat.pos_of_ne_zero hplaces
    have hcounted : (bytesOf (fixedDigits c.places c.fraction)).take 9 =
        bytesOf (fixedDigits c.places c.fraction) :=
      List.take_of_length_le (hlength.trans_le c.places_le)
    have hread := fraction_digits hsome (all_isDigit_fixedDigits c.places c.fraction) hdigit rest
    rw [hcounted, hlength, number_fixedDigits c.fraction_lt] at hread
    exact hread

theorem timeOfDay_text (hpoint : first ≠ 0x2e) (rest : List UInt8) :
    timeOfDay (bytesOf c.text ++ first :: rest) =
      .ok (c.seconds * 10 ^ 9 + c.nanoseconds, first :: rest) := by
  have hhours := digits_fixedDigits 2 c.hour (Nat.lt_trans c.hour_lt (by decide))
  have hminutes := digits_fixedDigits 2 c.minute (Nat.lt_trans c.minute_lt (by decide))
  have hseconds := digits_fixedDigits 2 c.second (Nat.lt_trans c.second_lt (by decide))
  have hcolon := oneOf_self (show ':'.toNat < 128 by decide)
  have hrange : c.hour < 24 ∧ c.minute < 60 ∧ c.second ≤ 60 :=
    ⟨c.hour_lt, c.minute_lt, Nat.le_of_lt c.second_lt⟩
  simp only [timeOfDay, text, bytesOf_append, List.append_assoc, hhours, hcolon, hminutes,
    hseconds, c.fraction_fractionText hdigit hpoint, bind, Except.bind, if_pos hrange, seconds]

end Clock

/-! ## Offsets -/

/-- How far local time is from universal time. -/
inductive Offset where
  /-- Not at all, which a letter says. -/
  | universal (letter : Char) (hletter : letter ∈ ['Z', 'z'])
  /-- Some hours and minutes, behind universal time or ahead of it. -/
  | shifted (behind : Bool) (hours minutes : Nat) (hhours : hours < 24) (hminutes : minutes < 60)

namespace Offset

/-- The seconds that local time is ahead of universal time. -/
def seconds : Offset → Int
  | .universal _ _ => 0
  | .shifted behind hours minutes _ _ =>
      if behind then -(hours * 3600 + minutes * 60) else hours * 3600 + minutes * 60

/-- An offset as it is written. -/
def text : Offset → List Char
  | .universal letter _ => [letter]
  | .shifted behind hours minutes _ _ =>
      [if behind then '-' else '+'] ++ fixedDigits 2 hours ++ [':'] ++ fixedDigits 2 minutes

theorem seconds_bounds (o : Offset) : -86400 < o.seconds ∧ o.seconds < 86400 := by
  cases o with
  | universal => simp [seconds]
  | shifted behind hours minutes hhours hminutes =>
      rw [seconds]
      split <;> omega

theorem offsetMinutes_fixedDigits {minutes : Nat} (h : minutes < 60) :
    offsetMinutes (bytesOf (fixedDigits 2 minutes)) = .ok (minutes, []) := by
  have hall := all_isDigit_fixedDigits 2 minutes
  have hnumber := number_fixedDigits (show minutes < 10 ^ 2 by omega)
  obtain ⟨a, b, hdigits⟩ := List.length_eq_two.mp (length_bytesOf_fixedDigits 2 minutes)
  rw [hdigits] at hall hnumber ⊢
  have hboth : (isDigit a && isDigit b) = true := by simpa using hall
  simp only [offsetMinutes, if_pos hboth, hnumber, if_pos h]

theorem offset_text (o : Offset) : offset (bytesOf o.text) = .ok (o.seconds, []) := by
  cases o with
  | universal letter hletter =>
      simp only [List.mem_cons, List.not_mem_nil, or_false] at hletter
      rcases hletter with rfl | rfl <;> rfl
  | shifted behind hours minutes hhours hminutes =>
      have hhour := digits_fixedDigits 2 hours (Nat.lt_trans hhours (by decide))
      have hcolon := oneOf_self (show ':'.toNat < 128 by decide)
      have hsign (rest : List UInt8) : sign (bytesOf [if behind then '-' else '+'] ++ rest) =
          .ok (if behind then -1 else 1, rest) := by
        cases behind <;> rfl
      rw [offset.eq_def]
      split
      · next h => cases behind <;> cases h
      · next h => cases behind <;> cases h
      · simp only [text, bytesOf_append, List.append_assoc, hsign, hhour, hcolon,
          offsetMinutes_fixedDigits hminutes, bind, Except.bind, if_pos hhours]
        cases behind <;> simp [seconds]

/-- What an offset begins with is no digit and no point. -/
theorem exists_head (o : Offset) : ∃ first rest, bytesOf o.text = first :: rest ∧
    isDigit first = false ∧ first ≠ 0x2e := by
  cases o with
  | universal letter hletter =>
      simp only [List.mem_cons, List.not_mem_nil, or_false] at hletter
      rcases hletter with rfl | rfl
      · exact ⟨0x5a, [], rfl, rfl, by decide⟩
      · exact ⟨0x7a, [], rfl, rfl, by decide⟩
  | shifted behind hours minutes hhours hminutes =>
      cases behind
      · exact ⟨0x2b, _, rfl, rfl, by decide⟩
      · exact ⟨0x2d, _, rfl, rfl, by decide⟩

end Offset

/-! ## Timestamps -/

/-- A timestamp of a year of four digits. -/
structure Timestamp where
  date : Date
  separator : Char
  clock : Clock
  offset : Offset
  valid_date : date.Valid
  year_range : 0 ≤ date.year ∧ date.year ≤ 9999
  mem_separator : separator ∈ ['t', 'T', ' ']

namespace Timestamp

/-- A timestamp as it is written. -/
def text (t : Timestamp) : List Char :=
  dateText t.date ++ [t.separator] ++ t.clock.text ++ t.offset.text

/-- The instant of a timestamp. -/
def instant (t : Timestamp) : Int :=
  (t.date.dayNumber * 86400 + t.clock.seconds - t.offset.seconds) * 10 ^ 9 + t.clock.nanoseconds

/-- A timestamp is read as the instant that it denotes. -/
theorem instant_text (t : Timestamp) : Rfc3339.instant (bytesOf t.text) = .ok t.instant := by
  obtain ⟨first, rest, hhead, hdigit, hpoint⟩ := t.offset.exists_head
  have hdate := date_dateText t.valid_date t.year_range
  have hseparator : t.separator.toNat < 128 := by
    have h := t.mem_separator
    simp only [List.mem_cons, List.not_mem_nil, or_false] at h
    rcases h with h | h | h <;> rw [h] <;> decide
  have hclock := t.clock.timeOfDay_text hdigit hpoint rest
  have hoffset := t.offset.offset_text
  have hlong : ¬ (bytesOf t.text).length < fixedLength := by
    simp only [text, dateText, Clock.text, bytesOf_append, List.length_append,
      length_bytesOf_fixedDigits, fixedLength]
    rw [bytesOf_ascii hseparator, List.length_singleton]
    have hdash : (bytesOf ['-']).length = 1 := rfl
    have hcolon : (bytesOf [':']).length = 1 := rfl
    omega
  rw [Rfc3339.instant, if_neg hlong]
  simp only [text, bytesOf_append, List.append_assoc, hdate,
    oneOf_of_mem hseparator t.mem_separator, hhead, hclock, bind, Except.bind]
  rw [← hhead, hoffset]
  simp only [pure, Except.pure]
  rw [if_neg (not_not_intro rfl), instant, day, second]
  refine congrArg Except.ok ?_
  omega

/-- In the years that lie whole in the range of timestamps no offset leads out of it. -/
theorem instant_range (t : Timestamp) (hyear : 1678 ≤ t.date.year ∧ t.date.year ≤ 2261) :
    -2 ^ 63 ≤ t.instant ∧ t.instant < 2 ^ 63 := by
  have hdays := Date.dayNumber_range t.valid_date hyear
  have hoffset := t.offset.seconds_bounds
  have hseconds := t.clock.seconds_lt
  have hfraction := t.clock.nanoseconds_lt
  rw [instant]
  omega

theorem dateOf_instant (t : Timestamp) (huniversal : t.offset.seconds = 0) :
    dateOf t.instant = t.date := by
  have hseconds := t.clock.seconds_lt
  have hfraction := t.clock.nanoseconds_lt
  have hday : t.instant / day = t.date.dayNumber := by
    rw [instant, huniversal, day_eq]
    omega
  rw [dateOf, hday, Date.ofDayNumber_dayNumber t.valid_date]

end Timestamp

end PolicyHost.Calendar.Rfc3339
