import Mathlib.Data.List.Induction
import Provenance.Proofs.Time.Millis
import Provenance.Subscription.Backoff

/-!
# How long a retry waits

After each failure in a row the wait is meant to be twice the one before, up to the cap, and to
start anew when the failures are forgotten.  The count of failures is a function of the calls: it is
that of the failures since the last time they were forgotten, and it stops at the limit.

The waits depart from this in two ways.  The factor of the doubling stays below `2 ^ 32`, so from
the thirty-third failure in a row on the wait does not double any more, whether it has come to the
cap or not.  And a wait that the calendar cannot add is no wait at all: the retry is allowed at
once, which also makes the waits fall where they should grow.

## Main definitions

* `RetryPolicy.doubled`, `RetryPolicy.wait` — the wait as it is meant, and as it is.
* `RetryPolicy.Doubles` — the factor of the doubling is not cut short, or does not matter.
* `BackoffCall`, `Backoff.run` — counting and forgetting failures.
* `failuresSinceReset` — the failures since they were last forgotten.

## Main results

* `RetryPolicy.wait_eq_doubled_iff` — when a wait is the one that is meant.
* `RetryPolicy.wait_le_wait_iff` — when waits do not fall.
* `RetryPolicy.forall_wait_eq_doubled_iff` — the policies with no other waits.
* `Backoff.recordFailure_run` — **what a failure leads to after any calls.**
-/

namespace Provenance

open Text (maxWord32)

/-! ### The factor -/

theorem doubling_of_lt {k : Nat} (h : k < 32) : doubling k = Nat.pow 2 k := if_pos h

theorem doubling_of_le {k : Nat} (h : 32 ≤ k) : doubling k = maxWord32 :=
  if_neg (Nat.not_lt.2 h)

theorem maxWord32_lt_pow {k : Nat} (h : 32 ≤ k) : maxWord32 < Nat.pow 2 k := by
  have hpow : Nat.pow 2 32 ≤ Nat.pow 2 k := Nat.pow_le_pow_right (by decide) h
  have hword : maxWord32 + 1 = Nat.pow 2 32 := rfl
  omega

theorem doubling_mono {j k : Nat} (h : j ≤ k) : doubling j ≤ doubling k := by
  by_cases hk : k < 32
  · rw [doubling_of_lt hk, doubling_of_lt (Nat.lt_of_le_of_lt h hk)]
    exact Nat.pow_le_pow_right (by decide) h
  · rw [doubling_of_le (Nat.not_lt.1 hk)]
    by_cases hj : j < 32
    · have hpow : Nat.pow 2 j ≤ Nat.pow 2 31 :=
        Nat.pow_le_pow_right (by decide) (Nat.le_of_lt_succ hj)
      have hword : Nat.pow 2 31 ≤ maxWord32 := by decide
      rw [doubling_of_lt hj]
      exact Nat.le_trans hpow hword
    · exact Nat.le_of_eq (doubling_of_le (Nat.not_lt.1 hj))

namespace RetryPolicy

/-! ### Waits -/

/-- The wait after a number of failures as it is meant: twice as long after each of them, up to the
cap. -/
def doubled (p : RetryPolicy) (k : Nat) : Nat := min (p.initialDelay * Nat.pow 2 k) p.maxDelay

/-- The wait after a number of failures as it is added to the time of the next one. -/
def wait (p : RetryPolicy) (k : Nat) : Nat := if p.delay k ≤ longestDelay then p.delay k else 0

/-- That the factor of the doubling fits into a word, or does not matter: either there is nothing to
double, or the cap is reached with the greatest factor. -/
def Doubles (p : RetryPolicy) (k : Nat) : Prop :=
  k < 32 ∨ p.initialDelay = 0 ∨ p.maxDelay ≤ p.initialDelay * maxWord32

variable {p : RetryPolicy} {j k : Nat}

theorem delay_le_maxDelay : p.delay k ≤ p.maxDelay := Nat.min_le_right _ _

theorem delay_mono (h : j ≤ k) : p.delay j ≤ p.delay k := by
  have hfactor : p.initialDelay * doubling j ≤ p.initialDelay * doubling k :=
    Nat.mul_le_mul_left _ (doubling_mono h)
  unfold delay
  omega

/-- Where the factor is not cut short, the delay doubles. -/
theorem delay_of_doubles (h : p.Doubles k) : p.delay k = p.doubled k := by
  unfold delay doubled
  rcases h with hk | hzero | hcap
  · rw [doubling_of_lt hk]
  · rw [hzero, Nat.zero_mul, Nat.zero_mul]
  · by_cases hk : k < 32
    · rw [doubling_of_lt hk]
    · -- both factors bring the delay to the cap
      have hpow : p.initialDelay * maxWord32 ≤ p.initialDelay * Nat.pow 2 k :=
        Nat.mul_le_mul_left _ (Nat.le_of_lt (maxWord32_lt_pow (Nat.not_lt.1 hk)))
      rw [doubling_of_le (Nat.not_lt.1 hk)]
      omega

/-- Where it is cut short, the delay stays below the one that is meant. -/
theorem delay_lt_doubled (h : ¬p.Doubles k) : p.delay k < p.doubled k := by
  unfold Doubles at h
  rw [not_or, not_or] at h
  obtain ⟨hk, hzero, hcap⟩ := h
  have hpow : p.initialDelay * maxWord32 < p.initialDelay * Nat.pow 2 k :=
    Nat.mul_lt_mul_of_pos_left (maxWord32_lt_pow (Nat.not_lt.1 hk)) (Nat.pos_of_ne_zero hzero)
  unfold delay doubled
  rw [doubling_of_le (Nat.not_lt.1 hk)]
  omega

theorem wait_le_delay : p.wait k ≤ p.delay k := by
  unfold wait
  split
  · exact Nat.le_refl _
  · exact Nat.zero_le _

/-- No wait is longer than the cap. -/
theorem wait_le_maxDelay : p.wait k ≤ p.maxDelay := Nat.le_trans wait_le_delay delay_le_maxDelay

/-- **When a wait is the one that is meant**: the factor is not cut short, and the calendar can add
the wait. -/
theorem wait_eq_doubled_iff :
    p.wait k = p.doubled k ↔ p.Doubles k ∧ p.doubled k ≤ longestDelay := by
  constructor
  · intro h
    by_cases hdoubles : p.Doubles k
    · refine ⟨hdoubles, ?_⟩
      rw [wait, delay_of_doubles hdoubles] at h
      split at h
      · assumption
      · exact h ▸ Nat.zero_le _
    · have hlt := delay_lt_doubled hdoubles
      have hle : p.wait k ≤ p.delay k := wait_le_delay
      omega
  · rintro ⟨hdoubles, hlong⟩
    rw [wait, delay_of_doubles hdoubles, if_pos hlong]

/-- **When a retry is allowed at once**: the wait is meant to be none, or the calendar cannot add
it. -/
theorem wait_eq_zero_iff :
    p.wait k = 0 ↔ p.initialDelay = 0 ∨ p.maxDelay = 0 ∨ longestDelay < p.delay k := by
  have hfactor : 0 < doubling k := Nat.lt_of_lt_of_le (by decide) (doubling_mono (Nat.zero_le k))
  have hdelay : p.delay k = 0 ↔ p.initialDelay = 0 ∨ p.maxDelay = 0 := by
    unfold delay
    rw [Nat.min_eq_zero_iff, Nat.mul_eq_zero]
    omega
  rw [← or_assoc, ← hdelay]
  unfold wait
  split <;> omega

/-- **When waits do not fall**: the earlier one is none, or the calendar can add the later one. -/
theorem wait_le_wait_iff (h : j ≤ k) :
    p.wait j ≤ p.wait k ↔ p.wait j = 0 ∨ p.delay k ≤ longestDelay := by
  have hle : p.wait j ≤ p.delay k := Nat.le_trans wait_le_delay (delay_mono h)
  have hwait : p.wait k = if p.delay k ≤ longestDelay then p.delay k else 0 := rfl
  rw [hwait]
  split <;> omega

/-- **The policies with no other waits than those that are meant**: there is nothing to double, or
the cap is reached with the greatest factor and the calendar can add it. -/
theorem forall_wait_eq_doubled_iff :
    (∀ k, p.wait k = p.doubled k) ↔
      p.initialDelay = 0 ∨ p.maxDelay ≤ p.initialDelay * maxWord32 ∧ p.maxDelay ≤ longestDelay := by
  constructor
  · intro h
    by_cases hzero : p.initialDelay = 0
    · exact .inl hzero
    · obtain ⟨hword | hzero' | hcap, -⟩ := wait_eq_doubled_iff.1 (h 32)
      · exact absurd hword (Nat.lt_irrefl 32)
      · exact absurd hzero' hzero
      · -- after as many failures as the cap has milliseconds, the cap is reached
        have hlast : p.doubled p.maxDelay = p.maxDelay := by
          have hpow : p.maxDelay < Nat.pow 2 p.maxDelay := Nat.lt_two_pow_self
          have hfirst : Nat.pow 2 p.maxDelay ≤ p.initialDelay * Nat.pow 2 p.maxDelay :=
            Nat.le_mul_of_pos_left _ (Nat.pos_of_ne_zero hzero)
          unfold doubled
          omega
        obtain ⟨-, hlong⟩ := wait_eq_doubled_iff.1 (h p.maxDelay)
        exact .inr ⟨hcap, hlast ▸ hlong⟩
  · rintro (hzero | ⟨hcap, hlong⟩) k
    · refine wait_eq_doubled_iff.2 ⟨.inr (.inl hzero), ?_⟩
      unfold doubled
      rw [hzero, Nat.zero_mul, Nat.zero_min]
      exact Nat.zero_le _
    · exact wait_eq_doubled_iff.2
        ⟨.inr (.inr hcap), Nat.le_trans (Nat.min_le_right _ _) hlong⟩

end RetryPolicy

/-! ### Calls -/

/-- What is done with a count of failures. -/
inductive BackoffCall
  | fail (now : Instant)
  | reset
  deriving DecidableEq, Repr

/-- Whether a call tells of a failure. -/
def BackoffCall.isFailure : BackoffCall → Bool
  | fail _ => true
  | reset => false

/-- The failures since they were last forgotten. -/
def failuresSinceReset (cs : List BackoffCall) : Nat :=
  (cs.reverse.takeWhile BackoffCall.isFailure).length

@[simp] theorem failuresSinceReset_nil : failuresSinceReset [] = 0 := rfl

@[simp] theorem failuresSinceReset_fail (cs : List BackoffCall) (now : Instant) :
    failuresSinceReset (cs ++ [.fail now]) = failuresSinceReset cs + 1 := by
  have hfail : (BackoffCall.fail now).isFailure = true := rfl
  simp [failuresSinceReset, hfail]

@[simp] theorem failuresSinceReset_reset (cs : List BackoffCall) :
    failuresSinceReset (cs ++ [.reset]) = 0 := by
  have hreset : BackoffCall.reset.isFailure = false := rfl
  simp [failuresSinceReset, hreset]

/-- The failures that are counted: no more than the limit. -/
def RetryPolicy.counted (p : RetryPolicy) (k : Nat) : Nat :=
  match p.limit with
  | some limit => min k limit
  | none => k

namespace RetryPolicy

variable {p : RetryPolicy} {k : Nat}

theorem counted_of_limit {L : Nat} (h : p.limit = some L) : p.counted k = min k L := by
  unfold counted
  rw [h]

/-- All failures are counted while there are fewer than the limit. -/
theorem counted_of_left (h : ∀ L, p.limit = some L → k ≤ L) : p.counted k = k := by
  cases hlimit : p.limit with
  | none =>
    unfold counted
    rw [hlimit]
  | some L => rw [counted_of_limit hlimit, Nat.min_eq_left (h L hlimit)]

theorem counted_zero : p.counted 0 = 0 := counted_of_left fun L _ => Nat.zero_le L

end RetryPolicy

namespace Backoff

variable {p : RetryPolicy} {k : Nat}

/-- Does what a call says. -/
def call (b : Backoff) : BackoffCall → Backoff
  | .fail now => (b.recordFailure now).1
  | .reset => b.reset

/-- Does what calls say, one after the other. -/
def run (b : Backoff) (cs : List BackoffCall) : Backoff := cs.foldl call b

theorem run_concat (b : Backoff) (cs : List BackoffCall) (c : BackoffCall) :
    b.run (cs ++ [c]) = (b.run cs).call c := List.foldl_append

/-- A failure that finds the retries spent is not counted, and allows no attempt. -/
theorem recordFailure_of_spent {L : Nat} (hlimit : p.limit = some L) (h : L ≤ k) (now : Instant) :
    (⟨p, k⟩ : Backoff).recordFailure now = (⟨p, k⟩, none) := by
  have hspent : (⟨p, k⟩ : Backoff).isSpent = true := by
    unfold isSpent
    rw [hlimit]
    exact decide_eq_true h
  rw [recordFailure, if_pos hspent]

/-- Any other failure is counted, and allows an attempt after the wait. -/
theorem recordFailure_of_left (h : ∀ L, p.limit = some L → k < L) (now : Instant) :
    (⟨p, k⟩ : Backoff).recordFailure now = (⟨p, k + 1⟩, some (now.addMillis (p.wait k))) := by
  have hspent : ¬(⟨p, k⟩ : Backoff).isSpent = true := by
    unfold isSpent
    cases hlimit : p.limit with
    | none => exact Bool.false_ne_true
    | some L =>
      have hlt := h L hlimit
      exact fun hle => absurd (of_decide_eq_true hle) (Nat.not_le.2 hlt)
  rw [recordFailure, if_neg hspent]
  rfl

/-- A failure counts until the limit is reached. -/
theorem call_fail_counted (now : Instant) :
    (⟨p, p.counted k⟩ : Backoff).call (.fail now) = ⟨p, p.counted (k + 1)⟩ := by
  show ((⟨p, p.counted k⟩ : Backoff).recordFailure now).1 = ⟨p, p.counted (k + 1)⟩
  by_cases hspent : ∃ L, p.limit = some L ∧ L ≤ k
  · obtain ⟨L, hlimit, hle⟩ := hspent
    have hcount : p.counted k = L := by rw [RetryPolicy.counted_of_limit hlimit]; omega
    have hstill : p.counted (k + 1) = L := by rw [RetryPolicy.counted_of_limit hlimit]; omega
    rw [hcount, hstill, recordFailure_of_spent hlimit (Nat.le_refl L)]
  · have hleft : ∀ L, p.limit = some L → k < L := by
      intro L hlimit
      by_contra hle
      exact hspent ⟨L, hlimit, Nat.not_lt.1 hle⟩
    rw [RetryPolicy.counted_of_left fun L hL => Nat.le_of_lt (hleft L hL),
      RetryPolicy.counted_of_left hleft, recordFailure_of_left hleft]

/-- **The count is that of the failures since they were last forgotten**, up to the limit. -/
theorem run_start (p : RetryPolicy) (cs : List BackoffCall) :
    (start p).run cs = ⟨p, p.counted (failuresSinceReset cs)⟩ := by
  induction cs using List.reverseRecOn with
  | nil =>
    rw [failuresSinceReset_nil, RetryPolicy.counted_zero]
    rfl
  | append_singleton cs c ih =>
    rw [run_concat, ih]
    cases c with
    | fail now => rw [call_fail_counted, failuresSinceReset_fail]
    | reset =>
      rw [failuresSinceReset_reset, RetryPolicy.counted_zero]
      rfl

/-- **What a failure leads to after any calls**, where `k` failures came since they were last
forgotten.

* If `k` is the limit or more, there is no next attempt, and the count stays what it is.
* Otherwise the failure is counted and the next attempt is allowed after the wait, which is added
  to the count of milliseconds; it is never longer than the cap.
* The wait is the first one doubled `k` times, up to the cap, exactly if the factor is not cut short
  and the calendar can add the wait.  It is not shorter than an earlier one exactly if that one is
  none or the calendar can add this one; and it is none exactly if none is meant or the calendar
  cannot add it.
* All waits of the policy are those that are meant exactly if there is nothing to double, or the
  greatest factor leads to the cap and the calendar can add the cap. -/
theorem recordFailure_run (p : RetryPolicy) (cs : List BackoffCall) (now : Instant) :
    let b := (start p).run cs
    let k := failuresSinceReset cs
    (∀ L, p.limit = some L → L ≤ k → b.failures = L ∧ b.recordFailure now = (b, none)) ∧
    ((∀ L, p.limit = some L → k < L) →
      b.failures = k ∧
        b.recordFailure now = (⟨p, k + 1⟩, some (now.addMillis (p.wait k))) ∧
        (now.nanosecond < Instant.nanosPerSecond →
          (now.addMillis (p.wait k)).millis = now.millis + p.wait k)) ∧
    p.wait k ≤ p.maxDelay ∧
    (p.wait k = min (p.initialDelay * Nat.pow 2 k) p.maxDelay ↔
      p.Doubles k ∧ min (p.initialDelay * Nat.pow 2 k) p.maxDelay ≤ longestDelay) ∧
    (∀ j ≤ k, p.wait j ≤ p.wait k ↔ p.wait j = 0 ∨ p.delay k ≤ longestDelay) ∧
    (p.wait k = 0 ↔ p.initialDelay = 0 ∨ p.maxDelay = 0 ∨ longestDelay < p.delay k) ∧
    ((∀ n, p.wait n = min (p.initialDelay * Nat.pow 2 n) p.maxDelay) ↔
      p.initialDelay = 0 ∨
        p.maxDelay ≤ p.initialDelay * maxWord32 ∧ p.maxDelay ≤ longestDelay) := by
  intro b k
  have hb : b = ⟨p, p.counted k⟩ := run_start p cs
  refine ⟨fun L hlimit hle => ?_, fun hleft => ?_, RetryPolicy.wait_le_maxDelay,
    RetryPolicy.wait_eq_doubled_iff, fun j hj => RetryPolicy.wait_le_wait_iff hj,
    RetryPolicy.wait_eq_zero_iff, RetryPolicy.forall_wait_eq_doubled_iff⟩
  · have hcount : p.counted k = L := by
      rw [RetryPolicy.counted_of_limit hlimit, Nat.min_eq_right hle]
    rw [hb, hcount]
    exact ⟨rfl, recordFailure_of_spent hlimit (Nat.le_refl L) now⟩
  · have hcount : p.counted k = k :=
      RetryPolicy.counted_of_left fun L hL => Nat.le_of_lt (hleft L hL)
    rw [hb, hcount]
    exact ⟨rfl, recordFailure_of_left hleft now, fun h => Instant.millis_addMillis h _⟩

/-- Retries that start after a millisecond, with a cap that takes very many failures to reach. -/
def patientPolicy : RetryPolicy := ⟨1, Nat.pow 2 40, none⟩

/-- Retries that start after more milliseconds than the calendar can add. -/
def endlessPolicy : RetryPolicy := ⟨Nat.pow 2 63, Nat.pow 2 64 - 1, some 1⟩

/-- The thirty-third failure in a row waits for a millisecond less than twice the wait before it;
the one before it still doubles.  A wait that the calendar cannot add is none, and after the only
retry there is no further one. -/
theorem recordFailure_patient :
    let before := List.replicate 32 (BackoffCall.fail .epoch)
    (((start patientPolicy).run before).recordFailure .epoch).2 =
        some (Instant.epoch.addMillis (Nat.pow 2 32 - 1)) ∧
      patientPolicy.wait 31 = min (1 * Nat.pow 2 31) (Nat.pow 2 40) ∧
      patientPolicy.wait 32 ≠ min (1 * Nat.pow 2 32) (Nat.pow 2 40) ∧
      (((start endlessPolicy).run []).recordFailure .epoch).2 = some .epoch ∧
      (((start endlessPolicy).run [.fail .epoch]).recordFailure .epoch).2 = none := by
  intro before
  obtain ⟨-, hnext, -⟩ := recordFailure_run patientPolicy before .epoch
  obtain ⟨-, -, -, hlast, -⟩ := recordFailure_run patientPolicy (before.take 31) .epoch
  obtain ⟨-, -, -, hless, -⟩ := recordFailure_run patientPolicy before .epoch
  obtain ⟨-, hnone, -⟩ := recordFailure_run endlessPolicy [] .epoch
  obtain ⟨hspent, -⟩ := recordFailure_run endlessPolicy [.fail .epoch] .epoch
  refine ⟨?_, hlast.2 ?_, fun h => ?_, ?_, ?_⟩
  · obtain ⟨-, hrecord, -⟩ := hnext fun L hL => absurd hL (by simp [patientPolicy])
    rw [hrecord]
    decide
  · exact ⟨.inl (by decide), by decide⟩
  · obtain ⟨hdoubles, -⟩ := hless.1 h
    revert hdoubles
    unfold RetryPolicy.Doubles
    decide
  · obtain ⟨-, hrecord, -⟩ := hnone fun L hL => by
      obtain rfl := Option.some.inj hL
      decide
    rw [hrecord]
    decide
  · obtain ⟨-, hrecord⟩ := hspent 1 rfl (by decide)
    rw [hrecord]

end Backoff

end Provenance
