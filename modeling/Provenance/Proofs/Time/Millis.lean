import Provenance.Time.Instant

/-!
# Instants and their milliseconds

A store keeps an instant as its count of milliseconds.  An instant made of that count has the same
count again, unless the count lies outside of the calendar; then the start of 1970 takes its place.
A leap second counts as the second after it, and after the last second of the calendar there is
none: this is the one second of which a store does not give back the count.

## Main definitions

* `Instant.kept` — an instant as a store gives it back.
* `Instant.SameMillis` — having the same count of milliseconds.
* `Instant.isStorable` — whether the count of an instant lies in the calendar.

## Main results

* `Instant.millis_addMillis` — a count of milliseconds after some more.
* `Instant.sameMillis_kept_iff` — a count is given back if and only if it lies in the calendar.
* `Instant.isStorable_iff` — which instants of the calendar those are.
-/

namespace Provenance.Instant

/-- A time from its milliseconds. -/
def kept (t : Instant) : Instant := .ofMillis t.millis

/-- Instants with the same count of milliseconds. -/
def SameMillis (t u : Instant) : Prop := t.millis = u.millis

instance (t u : Instant) : Decidable (t.SameMillis u) := inferInstanceAs (Decidable (_ = _))

/-- Whether the milliseconds of an instant lie on a day of the calendar. -/
def isStorable (t : Instant) : Bool := isCalendarDay (t.millis / 1000 / secondsPerDay)

theorem millis_ofMillis {m : Int} (h : isCalendarDay (m / 1000 / secondsPerDay) = true) :
    (ofMillis m).millis = m := by
  have hpos : 0 < nanosPerMilli := by decide
  have hnanos : (m % 1000).toNat * nanosPerMilli / nanosPerMilli = (m % 1000).toNat :=
    Nat.mul_div_cancel _ hpos
  simp only [ofMillis, h, if_true, millis, hnanos]
  omega

/-- Outside of leap seconds, milliseconds are added to the count of milliseconds. -/
theorem millis_addMillis {t : Instant} (h : t.nanosecond < nanosPerSecond) (d : Nat) :
    (t.addMillis d).millis = t.millis + d := by
  have hnot : ¬nanosPerSecond ≤ t.nanosecond := Nat.not_le.2 h
  have hadd : t.addMillis d =
      ⟨t.second + (d / 1000 : Nat) +
          ((t.nanosecond + d % 1000 * nanosPerMilli) / nanosPerSecond : Nat),
        (t.nanosecond + d % 1000 * nanosPerMilli) % nanosPerSecond⟩ := by
    unfold addMillis
    rw [if_neg fun hleap => hnot hleap.1, if_neg hnot]
  rw [hadd]
  simp only [millis, nanosPerSecond, nanosPerMilli]
  omega

/-- **A store gives back the milliseconds that lie in the calendar**, and no others. -/
theorem sameMillis_kept_iff (t : Instant) : t.SameMillis t.kept ↔ t.isStorable = true := by
  constructor
  · intro h
    by_cases hday : isCalendarDay (t.millis / 1000 / secondsPerDay) = true
    · exact hday
    · -- the count would be the one of the start of 1970, which lies in the calendar
      have hzero : t.millis = 0 := by
        have hkept : t.kept = epoch := if_neg hday
        rw [SameMillis, hkept] at h
        exact h
      rw [isStorable, hzero]
      decide
  · intro h
    exact (millis_ofMillis h).symm

/-- **An instant of the calendar can be stored** unless it lies in a leap second after the last
second. -/
theorem isStorable_iff {t : Instant} (hday : t.isInCalendar = true)
    (hnano : t.nanosecond < 2 * nanosPerSecond) :
    t.isStorable = true ↔
      (t.nanosecond < nanosPerSecond ∨ t.second + 1 < (lastDay + 1) * secondsPerDay) := by
  have hfirst : firstDay = -96465292 := by decide
  have hlast : lastDay = 95026236 := by decide
  simp only [isInCalendar, isStorable, isCalendarDay, day, millis, nanosPerSecond, nanosPerMilli,
    secondsPerDay, hfirst, hlast, Bool.and_eq_true, decide_eq_true_eq] at *
  omega

end Provenance.Instant
