import MediaPerimeter.Text.Decimal
import MediaPerimeter.Time.Instant

/-!
# Dates as text

The date and the time of day of an instant in universal time, written as `2024-02-29T12:30:00.5Z`
with three, six or nine digits of a second, or none if they are zero.
-/
namespace MediaPerimeter

structure Date where
  year : Int
  month : Nat
  day : Nat
deriving DecidableEq

namespace Date

/-- The date so many days after the first of January 1970. Years are counted from March on, so that
the leap day comes last; four hundred of them have 146097 days. -/
def ofDays (days : Int) : Date :=
  let shifted := days + 719468
  let era := shifted.fdiv 146097
  let inEra := (shifted - era * 146097).toNat
  let years := (inEra - inEra / 1460 + inEra / 36524 - inEra / 146096) / 365
  let inYear := inEra - (365 * years + years / 4 - years / 100)
  let fromMarch := (5 * inYear + 2) / 153
  let month := if fromMarch < 10 then fromMarch + 3 else fromMarch - 9
  ⟨years + era * 400 + (if month ≤ 2 then 1 else 0), month,
    inYear - (153 * fromMarch + 2) / 5 + 1⟩

def padded (width n : Nat) : Text :=
  let ds := Decimal.text n
  List.replicate (width - ds.length) '0' ++ ds

/-- A year in four digits; one that needs more, or is negative, has a sign. -/
def yearText (year : Int) : Text :=
  if 0 ≤ year ∧ year ≤ 9999 then padded 4 year.toNat
  else (if year < 0 then '-' else '+') :: padded 4 year.natAbs

def text (d : Date) : Text := yearText d.year ++ '-' :: padded 2 d.month ++ '-' :: padded 2 d.day

end Date

namespace Instant

def date (i : Instant) : Date := .ofDays (i.secs.fdiv 86400)

def fractionText (nanos : Nat) : Text :=
  if nanos = 0 then []
  else if nanos % 1000000 = 0 then '.' :: Date.padded 3 (nanos / 1000000)
  else if nanos % 1000 = 0 then '.' :: Date.padded 6 (nanos / 1000)
  else '.' :: Date.padded 9 nanos

def text (i : Instant) : Text :=
  let inDay := (i.secs - i.secs.fdiv 86400 * 86400).toNat
  i.date.text ++ 'T' :: Date.padded 2 (inDay / 3600) ++
    ':' :: Date.padded 2 (inDay / 60 % 60) ++ ':' :: Date.padded 2 (inDay % 60) ++
    fractionText i.nanos ++ ['Z']

end Instant
end MediaPerimeter
