import Provenance.Text.Blank
import Provenance.Text.Numeral

/-!
# Numerals that are written

A number that is written in decimal digits is read back as itself, if it is not greater than a
reader may accept.  There are no blanks among the digits, so trimming leaves the numeral as it is.

## Main results

* `readNat_toDigits` — **a numeral is read as the number that it was written for.**
* `trimmed_toString` — a numeral has no blanks at its ends.
-/

namespace Provenance.Text

theorem digitsValueFrom_append (m : Nat) (cs ds : List Char) :
    digitsValueFrom m (cs ++ ds) =
      (digitsValueFrom m cs).bind fun n => digitsValueFrom n ds := by
  induction cs generalizing m with
  | nil => rfl
  | cons c cs ih =>
    rw [List.cons_append, digitsValueFrom, digitsValueFrom]
    cases digitValue c with
    | none => rfl
    | some d => exact ih (10 * m + d)

theorem digitValue_digitChar {d : Nat} (h : d < 10) : digitValue d.digitChar = some d := by
  have hall : ∀ d < 10, digitValue d.digitChar = some d := by decide
  exact hall d h

theorem digitsValueFrom_toDigits (n : Nat) : digitsValueFrom 0 (Nat.toDigits 10 n) = some n := by
  induction n using Nat.strongRecOn with
  | ind n ih =>
    by_cases hsmall : n < 10
    · rw [Nat.toDigits_of_lt_base hsmall]
      simp only [digitsValueFrom, digitValue_digitChar hsmall]
      rw [Nat.mul_zero, Nat.zero_add]
    · -- the last digit stands behind those of a smaller number
      have hpos : 0 < n / 10 := by omega
      have hlast : n % 10 < 10 := Nat.mod_lt n (by decide)
      have hdigits : Nat.toDigits 10 (n / 10) ++ [(n % 10).digitChar] = Nat.toDigits 10 n := by
        rw [← Nat.toDigits_of_lt_base hlast, Nat.toDigits_append_toDigits (by decide) hpos hlast,
          Nat.div_add_mod]
      rw [← hdigits, digitsValueFrom_append, ih (n / 10) (by omega)]
      simp only [Option.bind_some, digitsValueFrom, digitValue_digitChar hlast, Nat.div_add_mod]

/-- **A numeral is read as the number that it was written for.** -/
theorem readNat_toDigits {bound n : Nat} (h : n ≤ bound) :
    readNat bound (Nat.toDigits 10 n) = some n := by
  have hsign : dropPlus (Nat.toDigits 10 n) = Nat.toDigits 10 n := by
    cases hdigits : Nat.toDigits 10 n with
    | nil => rfl
    | cons c cs =>
      have hdigit : c.isDigit = true :=
        Nat.isDigit_of_mem_toDigits (by decide) (by decide) (hdigits ▸ List.mem_cons_self)
      have hplus : c ≠ '+' := by
        rintro rfl
        exact absurd hdigit (by decide)
      simp [dropPlus, hplus]
  have hvalue : digitsValue (Nat.toDigits 10 n) = some n := by
    rw [← digitsValueFrom_toDigits n]
    cases hdigits : Nat.toDigits 10 n with
    | nil => exact absurd hdigits Nat.toDigits_ne_nil
    | cons c cs => rfl
  rw [readNat, hsign, hvalue, Option.filter_some, if_pos (decide_eq_true h)]

/-- A text without blanks is left as it is. -/
theorem trim_eq_self {cs : List Char} (h : ∀ c ∈ cs, isBlank c = false) : trim cs = cs := by
  have hkept {ds : List Char} (hds : ∀ c ∈ ds, isBlank c = false) : ds.dropWhile isBlank = ds := by
    cases ds with
    | nil => rfl
    | cons d ds => rw [List.dropWhile_cons_of_neg (by rw [hds d List.mem_cons_self]; decide)]
  rw [trim, trimStart, hkept h, trimEnd, dropEndWhile,
    hkept fun c hc => h c (List.mem_reverse.1 hc), List.reverse_reverse]

theorem isBlank_of_isDigit {c : Char} (h : c.isDigit = true) : isBlank c = false := by
  have hbounds : 48 ≤ c.toNat ∧ c.toNat ≤ 57 := by
    simp only [Char.isDigit, Bool.and_eq_true, decide_eq_true_eq] at h
    exact h
  simp only [isBlank, Bool.or_eq_false_iff, Bool.and_eq_false_iff, decide_eq_false_iff_not,
    beq_eq_false_iff_ne]
  omega

/-- **A numeral has no blanks at its ends.** -/
theorem trimmed_toString (n : Nat) : trimmed (toString n) = toString n := by
  rw [trimmed, Nat.toString_eq_ofList_toDigits, String.toList_ofList, trim_eq_self fun c hc => ?_]
  exact isBlank_of_isDigit (Nat.isDigit_of_mem_toDigits (by decide) (by decide) hc)

end Provenance.Text
