/-!
# Instants

Points of time as seconds since the beginning of 1970, leap seconds left out, and a part of a
second. Dates reach from the year -262143 to the year 262142. An instant can be moved by a span,
which may be negative and need not be a whole number of seconds.
-/
namespace MediaPerimeter

/-- A length of time: whole seconds, rounded down, and the nanoseconds above them. -/
structure Span where
  secs : Int
  nanos : Fin 1000000000
deriving DecidableEq

namespace Span

instance : Coe Int Span := ⟨fun secs => ⟨secs, 0⟩⟩

def inNanos (d : Span) : Int := d.secs * 1000000000 + d.nanos.val

end Span

structure Instant where
  secs : Int
  nanos : Fin 1000000000
deriving DecidableEq

namespace Instant

def firstSecond : Int := -8334601228800

def lastSecond : Int := 8210266876799

def HasDate (i : Instant) : Prop := firstSecond ≤ i.secs ∧ i.secs ≤ lastSecond

instance (i : Instant) : Decidable i.HasDate :=
  inferInstanceAs (Decidable (firstSecond ≤ i.secs ∧ i.secs ≤ lastSecond))

def plus (i : Instant) (d : Span) : Instant :=
  let nanos := i.nanos.val + d.nanos.val
  ⟨i.secs + d.secs + (nanos / 1000000000 : Nat), Fin.ofNat _ nanos⟩

/-- The instant so much later, or earlier, if it still has a date. -/
def later? (i : Instant) (d : Span) : Option Instant :=
  if (i.plus d).HasDate then some (i.plus d) else none

def inNanos (i : Instant) : Int := i.secs * 1000000000 + i.nanos.val

theorem inNanos_injective {i j : Instant} (h : i.inNanos = j.inNanos) : i = j := by
  obtain ⟨secs, nanos⟩ := i
  obtain ⟨secs', nanos'⟩ := j
  have hlt := nanos.isLt
  have hlt' := nanos'.isLt
  simp only [inNanos] at h
  have hsecs : secs = secs' := by omega
  have hnanos : nanos = nanos' := Fin.ext (by omega)
  rw [hsecs, hnanos]

/-- An instant is moved by counting nanoseconds. -/
theorem inNanos_plus (i : Instant) (d : Span) : (i.plus d).inNanos = i.inNanos + d.inNanos := by
  simp only [inNanos, plus, Span.inNanos, Fin.ofNat]
  omega

theorem later?_eq_some_iff {i j : Instant} {d : Span} :
    i.later? d = some j ↔ j.HasDate ∧ j.inNanos = i.inNanos + d.inNanos := by
  rw [later?, Option.ite_none_right_eq_some, Option.some.injEq, ← inNanos_plus]
  constructor
  · rintro ⟨hdate, rfl⟩
    exact ⟨hdate, rfl⟩
  · rintro ⟨hdate, h⟩
    rw [← inNanos_injective h]
    exact ⟨hdate, rfl⟩

theorem later?_eq_none_iff {i : Instant} {d : Span} :
    i.later? d = none ↔ ¬ ∃ j : Instant, j.HasDate ∧ j.inNanos = i.inNanos + d.inNanos := by
  rw [Option.eq_none_iff_forall_ne_some]
  simp only [← later?_eq_some_iff, not_exists, Ne]

/-- A number of whole seconds leaves the part of a second alone. -/
theorem later?_secs {i : Instant} {secs : Int}
    (h : firstSecond ≤ i.secs + secs ∧ i.secs + secs ≤ lastSecond) :
    i.later? secs = some ⟨i.secs + secs, i.nanos⟩ := by
  refine later?_eq_some_iff.mpr ⟨h, ?_⟩
  simp only [inNanos, Span.inNanos, Fin.val_zero]
  omega

end Instant
end MediaPerimeter
