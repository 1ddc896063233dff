import ConversionRelay.Number.Decimal
import ConversionRelay.Text.Pieces
/-!
Points in time.

A point in time counts seconds and microseconds from the beginning of 1970 in universal time. It is
written as a date and a time of day; a fraction of a second is written only if there is one. Its
whole seconds are those of the binary number that seconds and microseconds add up to.
-/
namespace ConversionRelay

/-- A time since the beginning of 1970 in universal time, as the sum of its two counts. -/
structure Instant where
  seconds : Int
  micros : Int
  deriving DecidableEq, Repr

namespace Instant

/-- All of a point in time in microseconds. -/
def allMicros (t : Instant) : Int := t.seconds * 1000000 + t.micros

/-- The whole seconds of a point in time. Each count is a binary number before the two are added. -/
def unixSeconds (t : Instant) : Int :=
  let fraction := Binary64.ofRatio (t.micros < 0) t.micros.natAbs 1000000
  (Binary64.sum (Binary64.ofInt t.seconds) fraction).truncated

/-- A date of the calendar. -/
structure Date where
  year : Int
  month : Int
  day : Int
  deriving DecidableEq, Repr

/--
The date that lies some days after the first of March of year zero. Years begin in March here, so
that a leap day is the last of its year; four hundred years have 146097 days.
-/
def Date.ofDays (days : Int) : Date :=
  let cycle := days.fdiv 146097
  let day := days - cycle * 146097
  let year := (day - day / 1460 + day / 36524 - day / 146096) / 365
  let dayOfYear := day - (365 * year + year / 4 - year / 100)
  let month := (5 * dayOfYear + 2) / 153
  { year := year + cycle * 400 + (if month < 10 then 0 else 1)
    month := if month < 10 then month + 3 else month - 9
    day := dayOfYear - (153 * month + 2) / 5 + 1 }

/-- A count with zeros in front up to a width. -/
def padded (width : Nat) (n : Int) : Text := Decimal.padded width n.toNat

/-- The days from the first of March of year zero to the beginning of 1970. -/
def daysBefore1970 : Int := 719468

/-- The fraction of a second of a point in time, with its point; nothing if there is none. -/
def fraction (micros : Int) : Text := if micros = 0 then "" else "." ++ padded 6 micros

/-- A point in time as text. -/
def text (t : Instant) : Text :=
  let seconds := t.allMicros.fdiv 1000000
  let days := seconds.fdiv 86400
  let second := seconds - days * 86400
  let date := Date.ofDays (days + daysBefore1970)
  padded 4 date.year ++ "-" ++ padded 2 date.month ++ "-" ++ padded 2 date.day ++ "T" ++
    padded 2 (second / 3600) ++ ":" ++ padded 2 (second / 60 % 60) ++ ":" ++
    padded 2 (second % 60) ++ fraction (t.allMicros - seconds * 1000000) ++ "+00:00"

end Instant

end ConversionRelay
