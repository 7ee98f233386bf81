import Provenance.Proofs.Subscription.Listing
import Provenance.Proofs.Time.Calendar
import Provenance.Subscription.Json

/-!
# When schedules are due

A schedule covers the seconds at which the clock and the calendar show numbers that its six fields
cover.  In JSON it keeps the texts of the fields only, and these tell the ranges again.

## Main results

* `Schedule.covers_iff` — **a schedule covers what calendar and clock show.**
* `Schedule.reread_ofJson_toJson` — a schedule that was read is the same after JSON.
* `Schedule.read_means` — **what the texts of a schedule mean.**
-/

namespace Provenance

open Text (trimmed)
open Time (Date daysOfDate weekday)

namespace Schedule

/-! ### Clock and calendar -/

/-- **A schedule covers what calendar and clock show**, if each field does. -/
theorem covers_iff (s : Schedule) (t : Instant) : s.covers t = true ↔
    ∃ date hour minute second, t.ReadsAs date hour minute second ∧
      s.second.covers second = true ∧ s.minute.covers minute = true ∧
      s.hour.covers hour = true ∧ s.dayOfMonth.covers date.day = true ∧
      s.month.covers date.month = true ∧
      s.dayOfWeek.covers (weekday (daysOfDate date)) = true := by
  simp only [covers, Bool.and_eq_true]
  constructor
  · rintro ⟨⟨⟨⟨⟨hsecond, hminute⟩, hhour⟩, hday⟩, hmonth⟩, hweekday⟩
    have hcount : daysOfDate t.fields.date = t.day := (Time.isValid_dateOfDays t.day).2
    have hreads : t.fields =
        ⟨t.fields.date, t.fields.hour, t.fields.minute, t.fields.second,
          weekday (daysOfDate t.fields.date)⟩ := by
      rw [hcount]
      rfl
    refine ⟨_, _, _, _, Instant.readsAs_iff.2 hreads, hsecond, hminute, hhour, hday, hmonth, ?_⟩
    rw [hcount]
    exact hweekday
  · rintro ⟨date, hour, minute, second, hreads, hsecond, hminute, hhour, hday, hmonth, hweekday⟩
    rw [Instant.readsAs_iff.1 hreads]
    exact ⟨⟨⟨⟨⟨hsecond, hminute⟩, hhour⟩, hday⟩, hmonth⟩, hweekday⟩

/-! ### Schedules in JSON -/

/-- What is read of a field in JSON is its text. -/
theorem ofJson_toJson_field (f : ScheduleField) :
    ScheduleField.ofJson f.toJson = some ⟨f.source, []⟩ := by
  obtain ⟨source, ranges⟩ := f
  cases source <;> rfl

/-- What is read of a schedule in JSON has the texts of its fields. -/
theorem ofJson_toJson (s : Schedule) :
    ∃ decoded, ofJson s.toJson = some decoded ∧ decoded.source = s.source := by
  refine ⟨⟨⟨s.second.source, []⟩, ⟨s.minute.source, []⟩, ⟨s.hour.source, []⟩,
    ⟨s.dayOfMonth.source, []⟩, ⟨s.month.source, []⟩, ⟨s.dayOfWeek.source, []⟩⟩, ?_, rfl⟩
  simp [ofJson, toJson, Json.required, Json.member?, Json.members?, Json.lookUp, ofJson_toJson_field]

/-- **A schedule that was read is the same after JSON**, once its texts are read again. -/
theorem reread_ofJson_toJson {source : ScheduleSource} {s : Schedule} (h : read source = .ok s) :
    ∃ decoded, ofJson s.toJson = some decoded ∧ decoded.reread = .ok s := by
  obtain ⟨decoded, hjson, hsource⟩ := ofJson_toJson s
  refine ⟨decoded, hjson, ?_⟩
  rw [reread, hsource]
  exact reread_of_read h

/-! ### The meaning of the texts -/

open ScheduleField in
/-- **What the texts of a schedule mean.**  The text of a field is read just if it is that of a
wildcard or a list of ranges between the bounds; a wildcard covers every number, and a list what
lies in one of its ranges, of which there is some between the bounds and nothing outside of them.
Six fields that were read are the same after JSON, and cover an instant just if they cover what
calendar and clock show at it, which is the same all through a second. -/
theorem read_means :
    (∀ (source : Option String) (low high : Nat) (f : ScheduleField),
      ScheduleField.read source low high = .ok f ↔
        (IsWildcardText source ∧ f = wildcard) ∨
        ∃ s ranges, source = some s ∧ IsListing low high ranges s.toList ∧
          f = ⟨some (trimmed s), ranges⟩) ∧
    (∀ n, wildcard.covers n = true) ∧
    (∀ (low high : Nat) (ranges : List (Nat × Nat)) (cs : List Char) (text : Option String),
      IsListing low high ranges cs →
        (∀ n, ScheduleField.covers ⟨text, ranges⟩ n = true ↔
          ∃ r ∈ ranges, r.1 ≤ n ∧ n ≤ r.2) ∧
        (∃ n, low ≤ n ∧ n ≤ high ∧ ScheduleField.covers ⟨text, ranges⟩ n = true) ∧
        ∀ n, ScheduleField.covers ⟨text, ranges⟩ n = true → low ≤ n ∧ n ≤ high) ∧
    ∀ (source : ScheduleSource) (s : Schedule), read source = .ok s →
      (∃ decoded, ofJson s.toJson = some decoded ∧ decoded.reread = .ok s) ∧
      (∀ t : Instant, s.covers t = true ↔
        ∃ date hour minute second, t.ReadsAs date hour minute second ∧
          s.second.covers second = true ∧ s.minute.covers minute = true ∧
          s.hour.covers hour = true ∧ s.dayOfMonth.covers date.day = true ∧
          s.month.covers date.month = true ∧
          s.dayOfWeek.covers (weekday (daysOfDate date)) = true) ∧
      ∀ t u : Instant, t.second = u.second → s.covers t = s.covers u := by
  refine ⟨fun _ _ _ _ => read_eq_ok_iff, covers_wildcard, fun _ _ _ _ text h => ?_,
    fun _ s h => ⟨reread_ofJson_toJson h, s.covers_iff, fun _ _ => s.covers_congr⟩⟩
  exact covers_of_isListing h text

/-- The seconds of working days that a schedule with blanks and brackets in its texts covers. -/
theorem read_means_workdays :
    let source : ScheduleSource :=
      ⟨some " 0, [15 - +45]]", some "", none, some "*", some "1-6,[8]", some "[1-5]"⟩
    let s : Schedule :=
      ⟨⟨some "0, [15 - +45]]", [(0, 0), (15, 45)]⟩, .wildcard, .wildcard, .wildcard,
        ⟨some "1-6,[8]", [(1, 6), (8, 8)]⟩, ⟨some "[1-5]", [(1, 5)]⟩⟩
    read source = .ok s ∧
      ScheduleField.IsListing 0 59 [(0, 0), (15, 45)] " 0, [15 - +45]]".toList ∧
      (∀ n, s.second.covers n = true ↔ ∃ r ∈ [(0, 0), (15, 45)], r.1 ≤ n ∧ n ≤ r.2) ∧
      (∃ decoded, ofJson s.toJson = some decoded ∧ decoded.reread = .ok s) ∧
      s.covers ⟨20, 0⟩ = s.covers ⟨20, 999999999⟩ := by
  intro source s
  have hread : read source = .ok s := by rfl
  have hlisting : ScheduleField.IsListing 0 59 [(0, 0), (15, 45)] " 0, [15 - +45]]".toList := by
    have hfield : ScheduleField.read source.second 0 59 = .ok s.second := by rfl
    rcases (read_means.1 _ _ _ _).1 hfield with ⟨-, hwild⟩ | ⟨_, _, hsource, h, hs⟩
    · exact absurd hwild (by decide)
    · obtain rfl := Option.some.inj hsource
      obtain ⟨-, rfl⟩ := ScheduleField.mk.inj hs
      exact h
  obtain ⟨hjson, -, hsecond⟩ := read_means.2.2.2 _ _ hread
  exact ⟨hread, hlisting, (read_means.2.2.1 _ _ _ _ _ hlisting).1, hjson, hsecond _ _ rfl⟩

end Schedule

end Provenance
