/-
# Calendar dates

Seconds since the start of 1970, read as a date of the Gregorian calendar and written in the form
that HTTP headers use: `Sun, 06 Nov 1994 08:49:37 GMT`.  That form has four digits for the year, and
it is not written for a moment before 1970 or behind the year 9999 (`Calendar.httpDate`).
-/
import Gatehouse.Time.Duration

namespace Gatehouse
namespace Calendar

/-- A day of the calendar. -/
structure Day where
  year : Nat
  month : Nat
  day : Nat
deriving DecidableEq, Repr

/-- The day that lies `n` days after 1970-01-01.

Years are counted from 1 March, so that a leap day is the last day of its year, in eras of 400
years.  An era has 146097 days, and 719468 days lie between 0000-03-01 and 1970-01-01. -/
def Day.ofCount (n : Nat) : Day :=
  let z := n + 719468
  let era := z / 146097
  let dayOfEra := z % 146097
  let yearOfEra := (dayOfEra - dayOfEra / 1460 + dayOfEra / 36524 - dayOfEra / 146096) / 365
  let dayOfYear := dayOfEra - (365 * yearOfEra + yearOfEra / 4 - yearOfEra / 100)
  let shifted := (5 * dayOfYear + 2) / 153
  let month := if shifted < 10 then shifted + 3 else shifted - 9
  { year := yearOfEra + era * 400 + (if month ≤ 2 then 1 else 0)
    month := month
    day := dayOfYear - (153 * shifted + 2) / 5 + 1 }

/-- The short name of the day that lies `n` days after 1970-01-01, a Thursday. -/
def weekday (n : Nat) : String :=
  match (n + 4) % 7 with
  | 0 => "Sun" | 1 => "Mon" | 2 => "Tue" | 3 => "Wed" | 4 => "Thu" | 5 => "Fri" | _ => "Sat"

def monthName : Nat → String
  | 1 => "Jan" | 2 => "Feb" | 3 => "Mar" | 4 => "Apr" | 5 => "May" | 6 => "Jun" | 7 => "Jul"
  | 8 => "Aug" | 9 => "Sep" | 10 => "Oct" | 11 => "Nov" | _ => "Dec"

/-- A date in HTTP's form, for a moment in whole seconds. -/
def dateText (seconds : Nat) : String :=
  let count := seconds / 86400
  let day := Day.ofCount count
  let second := seconds % 86400
  let two := Duration.padded 2
  s!"{weekday count}, {two day.day} {monthName day.month} {Duration.padded 4 day.year} " ++
    s!"{two (second / 3600)}:{two (second / 60 % 60)}:{two (second % 60)} GMT"

example : dateText 784111777 = "Sun, 06 Nov 1994 08:49:37 GMT" := by decide +kernel
example : dateText 951868799 = "Tue, 29 Feb 2000 23:59:59 GMT" := by decide +kernel

/-- Why no date is written for a moment. -/
inductive Undated
  /-- It lies so long before 1970. -/
  | early (ago : Duration)
  /-- It lies behind the year 9999. -/
  | late
deriving DecidableEq, Repr

def Undated.message : Undated → String
  | early ago => "all times should be after the epoch: SystemTimeError(" ++ ago.text ++ ")"
  | late => "date must be before year 9999"

/-- The first second that has no date: it begins the year 10000. -/
def secondsBound : Nat := 253402300800

/-- The date of a moment in nanoseconds from the start of 1970, in HTTP's form. -/
def httpDate : Int → Except Undated String
  | .ofNat t =>
    if t / 1000000000 < secondsBound then .ok (dateText (t / 1000000000)) else .error .late
  | .negSucc t => .error (.early (.ofNanos (t + 1)))

/-- The moments that a date is written for. -/
def Covers (t : Int) : Prop := 0 ≤ t ∧ t < secondsBound * 1000000000

theorem httpDate_of_covers {t : Int} (h : Covers t) :
    httpDate t = .ok (dateText (t.toNat / 1000000000)) := by
  obtain ⟨hearly, hlate⟩ := h
  obtain ⟨n, rfl⟩ := Int.eq_ofNat_of_zero_le hearly
  have hbound : n / 1000000000 < secondsBound := by omega
  exact if_pos hbound

/-- **A moment outside of these years has no date.** -/
theorem httpDate_of_not_covers {t : Int} (h : ¬ Covers t) : ∃ why, httpDate t = .error why := by
  cases t with
  | ofNat n =>
    have hbound : ¬ n / 1000000000 < secondsBound := by
      intro hsecond
      have hnanos : (n : Int) < secondsBound * 1000000000 := by omega
      exact h ⟨Int.natCast_nonneg n, hnanos⟩
    exact ⟨.late, if_neg hbound⟩
  | negSucc n => exact ⟨_, rfl⟩

end Calendar
end Gatehouse
