import Mathlib.Data.List.TakeWhile
import Provenance.Proofs.Text.Numeral
import Provenance.Text.Split

/-!
# Blanks around texts, lists and numerals

The readers of this library drop blanks, cut at separators and read numerals one after the other.
What they accept is said here without the order in which they work: a text with blanks around it,
texts with a separator between them, and digits that denote a number.

Whether blanks at the ends of a list are dropped before it is cut or after makes no difference,
since they can only belong to the first part and to the last one.

## Main definitions

* `Blanks`, `Padded` — a text of blanks, and a text with blanks around another one.
* `IsNumeral` — a numeral for a number.

## Main results

* `trim_of_padded`, `padded_trim` — what trimming drops is blanks around a text.
* `splitAll_eq_iff` — **the parts of a list are what the separators stand between.**
* `map_trim_splitAll_trim` — trimming a list changes none of its trimmed parts.
* `readNat_eq_some_iff` — **what is read is numerals.**
-/

namespace Provenance.Text

/-! ### Blanks -/

/-- A text of blanks only. -/
def Blanks (cs : List Char) : Prop := ∀ c ∈ cs, isBlank c = true

/-- A text with blanks around another one. -/
def Padded (inner cs : List Char) : Prop := ∃ l r, Blanks l ∧ Blanks r ∧ cs = l ++ inner ++ r

theorem blanks_nil : Blanks [] := fun _ h => nomatch h

theorem Blanks.append {l r : List Char} (hl : Blanks l) (hr : Blanks r) : Blanks (l ++ r) :=
  fun c hc => (List.mem_append.1 hc).elim (hl c) (hr c)

theorem Blanks.reverse {cs : List Char} (h : Blanks cs) : Blanks cs.reverse :=
  fun c hc => h c (List.mem_reverse.1 hc)

theorem padded_refl (cs : List Char) : Padded cs cs := ⟨[], [], blanks_nil, blanks_nil, by simp⟩

theorem Padded.trans {cs ds es : List Char} (h : Padded cs ds) (h' : Padded ds es) :
    Padded cs es := by
  obtain ⟨l, r, hl, hr, rfl⟩ := h
  obtain ⟨l', r', hl', hr', rfl⟩ := h'
  exact ⟨l' ++ l, r ++ r', hl'.append hl, hr.append hr', by simp⟩

/-- Characters that are dropped in front. -/
theorem eq_append_dropWhile (p : Char → Bool) (cs : List Char) :
    ∃ l, (∀ c ∈ l, p c = true) ∧ cs = l ++ cs.dropWhile p :=
  ⟨cs.takeWhile p, fun _ hc => List.mem_takeWhile_imp hc, List.takeWhile_append_dropWhile.symm⟩

/-- Characters that are dropped at the end. -/
theorem eq_dropEndWhile_append (p : Char → Bool) (cs : List Char) :
    ∃ r, (∀ c ∈ r, p c = true) ∧ cs = dropEndWhile p cs ++ r := by
  obtain ⟨l, hl, heq⟩ := eq_append_dropWhile p cs.reverse
  refine ⟨l.reverse, fun c hc => hl c (List.mem_reverse.1 hc), ?_⟩
  rw [dropEndWhile, ← List.reverse_append, ← heq, List.reverse_reverse]

/-- Trimming drops blanks. -/
theorem padded_trim (cs : List Char) : Padded (trim cs) cs := by
  obtain ⟨l, hl, hstart⟩ := eq_append_dropWhile isBlank cs
  obtain ⟨r, hr, hend⟩ := eq_dropEndWhile_append isBlank (trimStart cs)
  refine ⟨l, r, hl, hr, ?_⟩
  rw [List.append_assoc]
  exact hstart.trans (congrArg (l ++ ·) hend)

theorem trimStart_append {l : List Char} (hl : Blanks l) (cs : List Char) :
    trimStart (l ++ cs) = trimStart cs := List.dropWhile_append_of_pos hl

theorem trimEnd_append (cs : List Char) {r : List Char} (hr : Blanks r) :
    trimEnd (cs ++ r) = trimEnd cs := by
  rw [trimEnd, dropEndWhile, List.reverse_append,
    List.dropWhile_append_of_pos hr.reverse]
  rfl

/-- Trimming drops all blanks around a text. -/
theorem trim_of_padded {inner cs : List Char} (h : Padded inner cs) : trim cs = trim inner := by
  obtain ⟨l, r, hl, hr, rfl⟩ := h
  have hnone : trimStart r = [] := List.dropWhile_eq_nil_iff.2 hr
  rw [trim, trim, List.append_assoc, trimStart_append hl, trimStart, List.dropWhile_append]
  split
  · next hempty =>
    have hinner : trimStart inner = [] := List.isEmpty_iff.1 hempty
    rw [hinner]
    exact congrArg trimEnd hnone
  · exact trimEnd_append _ hr

/-- Nothing is left to trim of what was trimmed. -/
theorem trim_trim (cs : List Char) : trim (trim cs) = trim cs :=
  (trim_of_padded (padded_trim cs)).symm

/-- What a text without blanks is the trimmed form of. -/
theorem trim_eq_iff_padded {inner cs : List Char} (h : ∀ c ∈ inner, isBlank c = false) :
    trim cs = inner ↔ Padded inner cs := by
  constructor
  · rintro rfl
    exact padded_trim cs
  · intro hpadded
    rw [trim_of_padded hpadded, trim_eq_self h]

/-! ### Parts of a list -/

section Parts

variable {sep : Char}

theorem splitAll_cons_of_ne {c : Char} (h : c ≠ sep) {cs piece : List Char}
    {pieces : List (List Char)} (hcs : splitAll sep cs = piece :: pieces) :
    splitAll sep (c :: cs) = (c :: piece) :: pieces := by
  rw [splitAll, if_neg h, hcs]

theorem splitAll_eq_splitOn (cs : List Char) : splitAll sep cs = cs.splitOn sep := by
  induction cs with
  | nil => rfl
  | cons c cs ih =>
    rw [List.splitOn_cons_eq_if_modifyHead, ← ih]
    by_cases hsep : c = sep
    · rw [splitAll, if_pos hsep, if_pos (beq_iff_eq.2 hsep)]
    · obtain ⟨piece, pieces, hcs⟩ := List.exists_cons_of_ne_nil (splitAll_ne_nil sep cs)
      rw [splitAll_cons_of_ne hsep hcs, if_neg (mt beq_iff_eq.1 hsep), hcs]
      rfl

theorem not_mem_of_mem_splitAll {cs part : List Char} (h : part ∈ splitAll sep cs) :
    sep ∉ part := by
  induction cs generalizing part with
  | nil => simp [List.mem_singleton.1 h]
  | cons c cs ih =>
    obtain ⟨piece, pieces, hcs⟩ := List.exists_cons_of_ne_nil (splitAll_ne_nil sep cs)
    rw [hcs] at ih
    by_cases hsep : c = sep
    · rw [splitAll, if_pos hsep, hcs] at h
      obtain rfl | h := List.mem_cons.1 h
      · exact List.not_mem_nil
      · exact ih h
    · rw [splitAll_cons_of_ne hsep hcs] at h
      obtain rfl | h := List.mem_cons.1 h
      · have hpiece := ih List.mem_cons_self
        simp [hpiece, Ne.symm hsep]
      · exact ih (List.mem_cons_of_mem _ h)

/-- **The parts of a list are what the separators stand between.** -/
theorem splitAll_eq_iff {cs : List Char} {parts : List (List Char)} :
    splitAll sep cs = parts ↔
      parts ≠ [] ∧ (∀ part ∈ parts, sep ∉ part) ∧ cs = [sep].intercalate parts := by
  constructor
  · rintro rfl
    refine ⟨splitAll_ne_nil sep cs, fun _ => not_mem_of_mem_splitAll, ?_⟩
    rw [splitAll_eq_splitOn, List.intercalate_splitOn]
  · rintro ⟨hne, hparts, rfl⟩
    rw [splitAll_eq_splitOn, List.splitOn_intercalate sep hparts hne]

theorem splitFirst_eq_none_iff {cs : List Char} : splitFirst sep cs = none ↔ sep ∉ cs := by
  induction cs with
  | nil => simp [splitFirst]
  | cons c cs ih =>
    rw [splitFirst]
    by_cases hc : c = sep
    · simp [hc]
    · rw [if_neg hc, Option.map_eq_none_iff, ih]
      simp [Ne.symm hc]

/-- Blanks in front of a list belong to its first part. -/
theorem map_trim_splitAll_trimStart (hsep : isBlank sep = false) (cs : List Char) :
    (splitAll sep (trimStart cs)).map trim = (splitAll sep cs).map trim := by
  induction cs with
  | nil => rfl
  | cons c cs ih =>
    by_cases hblank : isBlank c = true
    · have hc : c ≠ sep := by
        rintro rfl
        exact absurd hblank (by rw [hsep]; decide)
      obtain ⟨piece, pieces, hcs⟩ := List.exists_cons_of_ne_nil (splitAll_ne_nil sep cs)
      have hpiece : trim (c :: piece) = trim piece :=
        trim_of_padded ⟨[c], [], by simpa [Blanks] using hblank, blanks_nil, by simp⟩
      rw [trimStart, List.dropWhile_cons_of_pos hblank, splitAll_cons_of_ne hc hcs, List.map_cons,
        hpiece, ← List.map_cons, ← hcs]
      exact ih
    · rw [trimStart, List.dropWhile_cons_of_neg hblank]

theorem trimEnd_cons (c : Char) (cs : List Char) :
    trimEnd (c :: cs) = trimEnd (c :: trimEnd cs) := by
  obtain ⟨r, hr, heq⟩ := eq_dropEndWhile_append isBlank cs
  have hcs : c :: cs = c :: trimEnd cs ++ r := congrArg (c :: ·) heq
  rw [hcs, trimEnd_append _ hr]

/-- Blanks behind a list belong to its last part. -/
theorem map_trimEnd_splitAll_append (hsep : isBlank sep = false) (cs : List Char) {r : List Char}
    (hr : Blanks r) :
    (splitAll sep (cs ++ r)).map trimEnd = (splitAll sep cs).map trimEnd := by
  induction cs with
  | nil =>
    have hnot : sep ∉ r := fun h => absurd (hr sep h) (by rw [hsep]; decide)
    have hone : splitAll sep r = [r] :=
      splitAll_eq_iff.2 ⟨List.cons_ne_nil _ _, by simpa using hnot, by simp⟩
    rw [List.nil_append, hone, splitAll_nil, List.map_singleton, List.map_singleton]
    exact congrArg (fun cs => [cs]) (trimEnd_append [] hr)
  | cons c cs ih =>
    rw [List.cons_append]
    by_cases hc : c = sep
    · simp only [splitAll, if_pos hc, List.map_cons, ih]
    · obtain ⟨piece, pieces, hcs⟩ := List.exists_cons_of_ne_nil (splitAll_ne_nil sep cs)
      obtain ⟨piece', pieces', hcs'⟩ := List.exists_cons_of_ne_nil (splitAll_ne_nil sep (cs ++ r))
      rw [hcs, hcs', List.map_cons, List.map_cons, List.cons.injEq] at ih
      rw [splitAll_cons_of_ne hc hcs, splitAll_cons_of_ne hc hcs', List.map_cons, List.map_cons,
        trimEnd_cons, ih.1, ih.2, ← trimEnd_cons]

/-- **Trimming a list changes none of its trimmed parts.** -/
theorem map_trim_splitAll_trim (hsep : isBlank sep = false) (cs : List Char) :
    (splitAll sep (trim cs)).map trim = (splitAll sep cs).map trim := by
  obtain ⟨r, hr, hend⟩ := eq_dropEndWhile_append isBlank (trimStart cs)
  have htrimEnd (ds : List Char) : trim (trimEnd ds) = trim ds := by
    obtain ⟨r, hr, hend⟩ := eq_dropEndWhile_append isBlank ds
    exact (trim_of_padded ⟨[], r, blanks_nil, hr, hend⟩).symm
  have htrim (parts : List (List Char)) : parts.map trim = (parts.map trimEnd).map trim := by
    rw [List.map_map]
    exact List.map_congr_left fun ds _ => (htrimEnd ds).symm
  rw [← map_trim_splitAll_trimStart hsep cs, htrim (splitAll sep (trimStart cs)), hend,
    map_trimEnd_splitAll_append hsep _ hr, ← htrim]
  rfl

end Parts

/-! ### Numerals -/

/-- A numeral for a number that is not greater than a bound: digits, and maybe a plus sign in front
of them. -/
def IsNumeral (bound n : Nat) (cs : List Char) : Prop :=
  ∃ ds ≠ [], (∀ c ∈ ds, c.isDigit = true) ∧ (cs = ds ∨ cs = '+' :: ds) ∧
    Nat.ofDigitChars 10 ds 0 = n ∧ n ≤ bound

theorem digitValue_eq (c : Char) :
    digitValue c = if c.isDigit = true then some (c.toNat - '0'.toNat) else none := by
  have hdigit : ('0' ≤ c ∧ c ≤ '9') ↔ c.isDigit = true := by
    simp [Char.isDigit, Char.le_def]
  simp only [digitValue, hdigit]

theorem digitsValueFrom_eq_some_iff {m n : Nat} {cs : List Char} :
    digitsValueFrom m cs = some n ↔
      (∀ c ∈ cs, c.isDigit = true) ∧ Nat.ofDigitChars 10 cs m = n := by
  induction cs generalizing m with
  | nil => simp [Nat.ofDigitChars]
  | cons c cs ih =>
    rw [digitsValueFrom, digitValue_eq]
    by_cases hdigit : c.isDigit = true
    · rw [if_pos hdigit]
      simp [ih, hdigit, Nat.ofDigitChars]
    · rw [if_neg hdigit]
      simp [hdigit]

theorem ne_plus_of_isDigit {c : Char} (h : c.isDigit = true) : c ≠ '+' := by
  rintro rfl
  exact absurd h (by decide)

/-- **What is read is numerals.** -/
theorem readNat_eq_some_iff {bound n : Nat} {cs : List Char} :
    readNat bound cs = some n ↔ IsNumeral bound n cs := by
  have hvalue {ds : List Char} : digitsValue ds = some n ↔
      ds ≠ [] ∧ (∀ c ∈ ds, c.isDigit = true) ∧ Nat.ofDigitChars 10 ds 0 = n := by
    cases ds with
    | nil => simp
    | cons d ds => simp [digitsValue, digitsValueFrom_eq_some_iff]
  rw [readNat, Option.filter_eq_some_iff, hvalue, decide_eq_true_iff]
  constructor
  · rintro ⟨⟨hne, hdigits, hn⟩, hle⟩
    refine ⟨dropPlus cs, hne, hdigits, ?_, hn, hle⟩
    unfold dropPlus
    split
    · exact .inr rfl
    · exact .inl rfl
  · rintro ⟨ds, hne, hdigits, hcs, hn, hle⟩
    have hsign : dropPlus cs = ds := by
      rcases hcs with rfl | rfl
      · cases cs with
        | nil => rfl
        | cons c cs => simp [dropPlus, ne_plus_of_isDigit (hdigits c List.mem_cons_self)]
      · rfl
    rw [hsign]
    exact ⟨⟨hne, hdigits, hn⟩, hle⟩

/-- There are digits and a sign in a numeral, and nothing else. -/
theorem IsNumeral.isDigit_or_eq_plus {bound n : Nat} {cs : List Char} (h : IsNumeral bound n cs) :
    cs ≠ [] ∧ ∀ c ∈ cs, c.isDigit = true ∨ c = '+' := by
  obtain ⟨ds, hne, hdigits, rfl | rfl, -, -⟩ := h
  · exact ⟨hne, fun c hc => .inl (hdigits c hc)⟩
  · refine ⟨List.cons_ne_nil _ _, fun c hc => ?_⟩
    exact (List.mem_cons.1 hc).elim .inr fun hc => .inl (hdigits c hc)

end Provenance.Text
