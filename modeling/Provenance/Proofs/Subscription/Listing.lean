import Mathlib.Data.List.Forall2
import Provenance.Proofs.Subscription.RoundTrip
import Provenance.Proofs.Text.Padding

/-!
# Texts of schedule fields

A field of a schedule is a list of numbers and ranges with commas between them.  Any number of
opening brackets may stand in front of a part and any number of closing ones behind it, whether they
match or not, with blanks on both sides of each row of brackets and of each number.  A field is read
just if its text has this form, and then it covers what lies in one of the ranges.

A list has at least one part, so a field that is read from one is no wildcard.

## Main definitions

* `IsBound`, `IsRange`, `IsPart`, `IsListing` — the texts of numbers, ranges, parts and lists.
* `IsWildcardText` — the texts of wildcards.

## Main results

* `readRange_eq_some_iff` — **a part is read just if it is a range in brackets.**
* `isListing_iff` — the parts of a list one by one, with or without the blanks around it.
* `read_eq_ok_iff` — **what is read as a field.**
* `covers_of_isListing` — **a field covers the union of its ranges**, which is not empty.
-/

namespace Provenance

open Text

namespace ScheduleField

/-! ### The form of a text -/

/-- The text of a number at an end of a range. -/
def IsBound (n : Nat) (cs : List Char) : Prop := ∃ ds, IsNumeral maxWord32 n ds ∧ Padded ds cs

/-- The text of a range: one number, or two with a dash between them. -/
inductive IsRange : Nat × Nat → List Char → Prop
  | single {n : Nat} {cs : List Char} : IsBound n cs → IsRange (n, n) cs
  | between {a b : Nat} {cs ds : List Char} : IsBound a cs → IsBound b ds →
      IsRange (a, b) (cs ++ '-' :: ds)

/-- The text of a part: a range with opening brackets in front and closing ones behind. -/
def IsPart (r : Nat × Nat) (part : List Char) : Prop :=
  ∃ inner i j, IsRange r inner ∧
    Padded (List.replicate i '[' ++ inner ++ List.replicate j ']') part

/-- **The text of a list of ranges** that lie between two bounds. -/
def IsListing (low high : Nat) (ranges : List (Nat × Nat)) (cs : List Char) : Prop :=
  (∃ parts ≠ [], cs = [','].intercalate parts ∧ List.Forall₂ IsPart ranges parts) ∧
    ∀ r ∈ ranges, low ≤ r.1 ∧ r.1 ≤ r.2 ∧ r.2 ≤ high

/-- **The texts of wildcards**: none, an empty one and a star. -/
def IsWildcardText (source : Option String) : Prop :=
  ∀ s ∈ source, Padded [] s.toList ∨ Padded ['*'] s.toList

/-! ### Numbers -/

theorem IsBound.pad {n : Nat} {cs ds : List Char} (h : IsBound n cs) (hds : Padded cs ds) :
    IsBound n ds := by
  obtain ⟨es, hes, hcs⟩ := h
  exact ⟨es, hes, hcs.trans hds⟩

/-- The characters of a numeral. -/
def IsNumeralChar (c : Char) : Prop := c.isDigit = true ∨ c = '+'

theorem IsNumeralChar.isBlank {c : Char} (h : IsNumeralChar c) : isBlank c = false := by
  rcases h with h | rfl
  · exact isBlank_of_isDigit h
  · decide

theorem IsNumeralChar.ne {c d : Char} (h : IsNumeralChar c) (hd : d.isDigit = false)
    (hplus : d ≠ '+') : c ≠ d := by
  rintro rfl
  rcases h with h | h
  · exact absurd h (by rw [hd]; decide)
  · exact hplus h

/-- There are numerals and blanks in the text of a number. -/
theorem IsBound.mem {n : Nat} {cs : List Char} (h : IsBound n cs) {c : Char} (hc : c ∈ cs) :
    IsNumeralChar c ∨ isBlank c = true := by
  obtain ⟨ds, hds, l, r, hl, hr, rfl⟩ := h
  rcases List.mem_append.1 hc with hc | hc
  · rcases List.mem_append.1 hc with hc | hc
    · exact .inr (hl c hc)
    · exact .inl (hds.isDigit_or_eq_plus.2 c hc)
  · exact .inr (hr c hc)

theorem readBound_eq_some_iff {n : Nat} {cs : List Char} :
    readBound cs = some n ↔ IsBound n cs := by
  rw [readBound, readNat_eq_some_iff]
  constructor
  · exact fun h => ⟨trim cs, h, padded_trim cs⟩
  · rintro ⟨ds, hds, hpadded⟩
    have hclean : ∀ c ∈ ds, isBlank c = false := fun c hc =>
      IsNumeralChar.isBlank (hds.isDigit_or_eq_plus.2 c hc)
    rw [(trim_eq_iff_padded hclean).2 hpadded]
    exact hds

/-! ### Ranges -/

variable {r : Nat × Nat} {cs : List Char}

theorem IsRange.pad {ds : List Char} (h : IsRange r cs) (hds : Padded cs ds) : IsRange r ds := by
  cases h with
  | single hn => exact .single (hn.pad hds)
  | @between a b before after ha hb =>
    -- the blanks in front belong to the first number, and those behind to the second one
    obtain ⟨x, y, hx, hy, rfl⟩ := hds
    have hleft : IsBound a (x ++ before) := ha.pad ⟨x, [], hx, blanks_nil, by simp⟩
    have hright : IsBound b (after ++ y) := hb.pad ⟨[], y, blanks_nil, hy, by simp⟩
    have hboth : x ++ (before ++ '-' :: after) ++ y = (x ++ before) ++ '-' :: (after ++ y) := by
      simp
    rw [hboth]
    exact .between hleft hright

/-- The characters in the text of a range. -/
theorem IsRange.mem (h : IsRange r cs) {c : Char} (hc : c ∈ cs) :
    IsNumeralChar c ∨ isBlank c = true ∨ c = '-' := by
  cases h with
  | single hn => exact (hn.mem hc).imp_right .inl
  | between ha hb =>
    rcases List.mem_append.1 hc with hc | hc
    · exact (ha.mem hc).imp_right .inl
    · rcases List.mem_cons.1 hc with rfl | hc
      · exact .inr (.inr rfl)
      · exact (hb.mem hc).imp_right .inl

/-- No dash stands in the text of a number. -/
theorem IsBound.dash_not_mem {n : Nat} (h : IsBound n cs) : '-' ∉ cs := by
  intro hdash
  rcases h.mem hdash with hchar | hblank
  · exact hchar.ne (by decide) (by decide) rfl
  · exact absurd hblank (by decide)

/-- A range is read from what is left of a part without brackets. -/
theorem readRange_eq_some_iff_isRange {part : List Char} :
    readRange part = some r ↔ IsRange r (core part) := by
  obtain ⟨a, b⟩ := r
  rw [readRange]
  constructor
  · intro h
    split at h
    · next before after hsplit =>
      simp only [Option.bind_eq_bind, Option.bind_eq_some_iff, Option.some.injEq,
        Prod.mk.injEq] at h
      obtain ⟨_, ha, _, hb, rfl, rfl⟩ := h
      rw [(splitFirst_eq_some_iff.1 hsplit).1]
      exact .between (readBound_eq_some_iff.1 ha) (readBound_eq_some_iff.1 hb)
    · obtain ⟨n, hn, heq⟩ := Option.map_eq_some_iff.1 h
      obtain ⟨rfl, rfl⟩ := Prod.mk.inj heq
      exact .single (readBound_eq_some_iff.1 hn)
  · intro h
    generalize core part = cs at h
    cases h with
    | single hn =>
      rw [splitFirst_eq_none_iff.2 hn.dash_not_mem]
      simp [readBound_eq_some_iff.2 hn]
    | between ha hb =>
      rw [splitFirst_eq_some_iff.2 ⟨rfl, ha.dash_not_mem⟩]
      simp [readBound_eq_some_iff.2 ha, readBound_eq_some_iff.2 hb]

/-! ### Brackets

Blanks and brackets are dropped in turns at the start and at the end of a part.  They are dropped up
to the first and the last character of a numeral. -/

/-- A text that begins and ends with characters of numerals. -/
structure IsSolid (cs : List Char) : Prop where
  first : ∃ c ds, cs = c :: ds ∧ IsNumeralChar c
  last : ∃ c ds, cs = ds ++ [c] ∧ IsNumeralChar c

theorem IsSolid.reverse (h : IsSolid cs) : IsSolid cs.reverse := by
  obtain ⟨⟨c, cs', hc, hchar⟩, ⟨d, ds, hd, hdchar⟩⟩ := h
  exact ⟨⟨d, ds.reverse, by simp [hd], hdchar⟩, ⟨c, cs'.reverse, by simp [hc], hchar⟩⟩

theorem IsSolid.dropWhile (h : IsSolid cs) {p : Char → Bool}
    (hp : ∀ c, IsNumeralChar c → p c = false) (x y : List Char) :
    (x ++ cs ++ y).dropWhile p = x.dropWhile p ++ cs ++ y := by
  obtain ⟨⟨c, ds, rfl, hc⟩, -⟩ := h
  have hkept : (c :: ds ++ y).dropWhile p = c :: ds ++ y :=
    List.dropWhile_cons_of_neg (by rw [hp c hc]; decide)
  rw [List.append_assoc, List.dropWhile_append, hkept, List.append_assoc]
  split
  · next hempty => rw [List.isEmpty_iff.1 hempty, List.nil_append]
  · rfl

theorem IsSolid.dropEndWhile (h : IsSolid cs) {p : Char → Bool}
    (hp : ∀ c, IsNumeralChar c → p c = false) (x y : List Char) :
    dropEndWhile p (x ++ cs ++ y) = x ++ cs ++ dropEndWhile p y := by
  have hreverse : (x ++ cs ++ y).reverse = y.reverse ++ cs.reverse ++ x.reverse := by simp
  rw [Text.dropEndWhile, hreverse, h.reverse.dropWhile hp]
  simp [Text.dropEndWhile]

/-- A row of brackets is dropped with the blanks on both sides of it. -/
theorem dropWhile_brackets (bracket : Char) (hbracket : isBlank bracket = false) {x y : List Char}
    (hx : Blanks x) (hy : Blanks y) (i : Nat) :
    (((x ++ (List.replicate i bracket ++ y)).dropWhile isBlank).dropWhile
      (· == bracket)).dropWhile isBlank = [] := by
  rw [List.dropWhile_append_of_pos hx, List.dropWhile_eq_nil_iff]
  intro c hc
  cases i with
  | zero =>
    have hnone : (List.replicate 0 bracket ++ y).dropWhile isBlank = [] :=
      List.dropWhile_eq_nil_iff.2 hy
    rw [hnone] at hc
    exact absurd hc List.not_mem_nil
  | succ i =>
    have hkept : (List.replicate (i + 1) bracket ++ y).dropWhile isBlank =
        List.replicate (i + 1) bracket ++ y :=
      List.dropWhile_cons_of_neg (by rw [hbracket]; decide)
    rw [hkept, List.dropWhile_append_of_pos fun c hc => by
      rw [List.eq_of_mem_replicate hc, beq_self_eq_true]] at hc
    exact hy c ((List.dropWhile_sublist _).subset hc)

/-- What is left of a part is what stands between the brackets. -/
theorem core_eq (h : IsSolid cs) {inner part : List Char} (hinner : Padded cs inner) {i j : Nat}
    (hpart : Padded (List.replicate i '[' ++ inner ++ List.replicate j ']') part) :
    core part = cs := by
  obtain ⟨l, r, hl, hr, rfl⟩ := hinner
  obtain ⟨l', r', hl', hr', rfl⟩ := hpart
  have hblank : ∀ c, IsNumeralChar c → isBlank c = false := fun c hc => hc.isBlank
  have hopen : ∀ c, IsNumeralChar c → (c == '[') = false := fun c hc =>
    beq_eq_false_iff_ne.2 (hc.ne (by decide) (by decide))
  have hclose : ∀ c, IsNumeralChar c → (c == ']') = false := fun c hc =>
    beq_eq_false_iff_ne.2 (hc.ne (by decide) (by decide))
  have hsides : l' ++ (List.replicate i '[' ++ (l ++ cs ++ r) ++ List.replicate j ']') ++ r' =
      l' ++ (List.replicate i '[' ++ l) ++ cs ++ (r ++ List.replicate j ']' ++ r') := by simp
  have hfront := dropWhile_brackets '[' (by decide) hl' hl i
  have hback := dropWhile_brackets ']' (by decide) hr'.reverse hr.reverse j
  have hreverse : (r ++ List.replicate j ']' ++ r').reverse =
      r'.reverse ++ (List.replicate j ']' ++ r.reverse) := by simp
  have hend : dropEndWhile isBlank (dropEndWhile (· == ']')
      (dropEndWhile isBlank (r ++ List.replicate j ']' ++ r'))) = [] := by
    simp only [Text.dropEndWhile, List.reverse_reverse, hreverse, hback, List.reverse_nil]
  rw [hsides]
  simp only [core, trim, trimStart, trimEnd, h.dropWhile hblank, h.dropWhile hopen,
    h.dropEndWhile hblank, h.dropEndWhile hclose, hfront, hend]
  simp

/-- What is dropped from a part is brackets and blanks. -/
theorem padded_core (part : List Char) : ∃ inner i j, Padded (core part) inner ∧
    Padded (List.replicate i '[' ++ inner ++ List.replicate j ']') part := by
  obtain ⟨x, hx, hfront⟩ := eq_append_dropWhile (· == '[') (trim part)
  obtain ⟨y, hy, hback⟩ := eq_dropEndWhile_append (· == ']') ((trim part).dropWhile (· == '['))
  have hopen : x = List.replicate x.length '[' :=
    List.eq_replicate_of_mem fun c hc => beq_iff_eq.1 (hx c hc)
  have hclose : y = List.replicate y.length ']' :=
    List.eq_replicate_of_mem fun c hc => beq_iff_eq.1 (hy c hc)
  refine ⟨_, x.length, y.length, padded_trim _, ?_⟩
  rw [← hopen, ← hclose, List.append_assoc, ← hback, ← hfront]
  exact padded_trim part

/-- The text of a number is a numeral, but for the blanks around it. -/
theorem IsBound.exists_isSolid {n : Nat} (h : IsBound n cs) :
    ∃ ds l r, cs = l ++ ds ++ r ∧ Blanks l ∧ Blanks r ∧ IsBound n ds ∧ IsSolid ds := by
  obtain ⟨ds, hds, l, r, hl, hr, rfl⟩ := h
  obtain ⟨hne, hchars⟩ := hds.isDigit_or_eq_plus
  refine ⟨ds, l, r, rfl, hl, hr, ⟨ds, hds, padded_refl ds⟩, ?_, ?_⟩
  · obtain ⟨c, es, rfl⟩ := List.exists_cons_of_ne_nil hne
    exact ⟨c, es, rfl, hchars c List.mem_cons_self⟩
  · exact ⟨ds.getLast hne, ds.dropLast, (List.dropLast_append_getLast hne).symm,
      hchars _ (List.getLast_mem hne)⟩

/-- The text of a range begins and ends with numerals, but for the blanks around it. -/
theorem IsRange.exists_isSolid (h : IsRange r cs) :
    ∃ ds, Padded ds cs ∧ IsRange r ds ∧ IsSolid ds := by
  cases h with
  | single hn =>
    obtain ⟨ds, x, y, rfl, hx, hy, hds, hsolid⟩ := hn.exists_isSolid
    exact ⟨ds, ⟨x, y, hx, hy, rfl⟩, .single hds, hsolid⟩
  | between ha hb =>
    obtain ⟨ds, x, y, rfl, hx, hy, hds, ⟨c, ds', rfl, hc⟩, -⟩ := ha.exists_isSolid
    obtain ⟨es, x', y', rfl, hx', hy', hes, -, ⟨d, es', rfl, hd⟩⟩ := hb.exists_isSolid
    refine ⟨c :: ds' ++ y ++ '-' :: (x' ++ (es' ++ [d])), ⟨x, y', hx, hy', by simp⟩, ?_, ?_, ?_⟩
    · exact .between (hds.pad ⟨[], y, blanks_nil, hy, by simp⟩)
        (hes.pad ⟨x', [], hx', blanks_nil, by simp⟩)
    · exact ⟨c, ds' ++ y ++ '-' :: (x' ++ (es' ++ [d])), by simp, hc⟩
    · exact ⟨d, c :: ds' ++ y ++ '-' :: (x' ++ es'), by simp, hd⟩

/-- **A part is read just if it is a range in brackets.** -/
theorem readRange_eq_some_iff {part : List Char} : readRange part = some r ↔ IsPart r part := by
  rw [readRange_eq_some_iff_isRange]
  constructor
  · intro h
    obtain ⟨inner, i, j, hinner, hpart⟩ := padded_core part
    exact ⟨inner, i, j, h.pad hinner, hpart⟩
  · rintro ⟨inner, i, j, hinner, hpart⟩
    obtain ⟨ds, hpadded, hds, hsolid⟩ := hinner.exists_isSolid
    rw [core_eq hsolid hpadded hpart]
    exact hds

/-! ### Lists -/

/-- Blanks around a part do not matter. -/
theorem isPart_trim {part : List Char} : IsPart r (trim part) ↔ IsPart r part := by
  rw [← readRange_eq_some_iff, ← readRange_eq_some_iff, readRange, readRange, core, core, trim_trim]

theorem IsPart.comma_not_mem {part : List Char} (h : IsPart r part) : ',' ∉ part := by
  obtain ⟨inner, i, j, hinner, l, r, hl, hr, rfl⟩ := h
  have hblank {cs : List Char} (hcs : Blanks cs) : ',' ∉ cs := fun hc =>
    absurd (hcs _ hc) (by decide)
  have hrange : ',' ∉ inner := by
    intro hc
    rcases hinner.mem hc with hchar | hc | hc
    · exact hchar.ne (by decide) (by decide) rfl
    · exact absurd hc (by decide)
    · exact absurd hc (by decide)
  simp [hblank hl, hblank hr, hrange, List.mem_replicate]

variable {low high : Nat} {ranges : List (Nat × Nat)}

/-- **The parts of a list of ranges**, one by one. -/
theorem isListing_iff : IsListing low high ranges cs ↔
    List.Forall₂ IsPart ranges (splitAll ',' cs) ∧
      ∀ r ∈ ranges, low ≤ r.1 ∧ r.1 ≤ r.2 ∧ r.2 ≤ high := by
  refine and_congr_left fun _ => ?_
  constructor
  · rintro ⟨parts, hne, hcs, hparts⟩
    have hcommas : ∀ part ∈ parts, ',' ∉ part := by
      intro part hpart
      obtain ⟨i, hi, rfl⟩ := List.mem_iff_getElem.1 hpart
      exact IsPart.comma_not_mem (hparts.get (hparts.length_eq ▸ hi) hi)
    rw [splitAll_eq_iff.2 ⟨hne, hcommas, hcs⟩]
    exact hparts
  · intro h
    obtain ⟨hne, -, hcs⟩ := splitAll_eq_iff.1 (rfl : splitAll ',' cs = splitAll ',' cs)
    exact ⟨_, hne, hcs, h⟩

/-- Blanks around a list do not matter. -/
theorem isListing_trim : IsListing low high ranges (trim cs) ↔ IsListing low high ranges cs := by
  have hparts (parts : List (List Char)) :
      List.Forall₂ IsPart ranges (parts.map trim) ↔ List.Forall₂ IsPart ranges parts := by
    rw [List.forall₂_map_right_iff]
    simp only [isPart_trim]
  rw [isListing_iff, isListing_iff, ← hparts, map_trim_splitAll_trim (by decide), hparts]

theorem readRanges_eq_ok_iff {source : String} {parts : List (List Char)} :
    readRanges source low high parts = .ok ranges ↔
      List.Forall₂ IsPart ranges parts ∧ ∀ r ∈ ranges, low ≤ r.1 ∧ r.1 ≤ r.2 ∧ r.2 ≤ high := by
  induction parts generalizing ranges with
  | nil =>
    rw [readRanges, Except.ok.injEq, List.forall₂_nil_right_iff]
    constructor
    · rintro rfl
      exact ⟨rfl, fun r hr => absurd hr List.not_mem_nil⟩
    · exact fun h => h.1.symm
  | cons part parts ih =>
    rw [readRanges, List.forall₂_cons_right_iff]
    constructor
    · intro h
      split at h
      · simp at h
      · next a b hpart =>
        by_cases hbounds : b < a ∨ a < low ∨ high < b
        · rw [if_pos hbounds] at h
          simp at h
        · rw [if_neg hbounds] at h
          split at h
          · simp at h
          · next rest hrest =>
            obtain rfl := Except.ok.inj h
            obtain ⟨hparts, hinside⟩ := ih.1 hrest
            refine ⟨⟨(a, b), rest, readRange_eq_some_iff.1 hpart, hparts, rfl⟩, fun r hr => ?_⟩
            rcases List.mem_cons.1 hr with rfl | hr
            · exact ⟨by omega, by omega, by omega⟩
            · exact hinside r hr
    · rintro ⟨⟨⟨a, b⟩, rest, hpart, hparts, rfl⟩, hinside⟩
      have hrest := ih.2 ⟨hparts, fun r hr => hinside r (List.mem_cons_of_mem _ hr)⟩
      have hbounds := hinside (a, b) List.mem_cons_self
      simp only [readRange_eq_some_iff.2 hpart, hrest]
      exact if_neg (by omega)

/-! ### Fields -/

theorem isWildcardText_some_iff {s : String} :
    IsWildcardText (some s) ↔ trim s.toList = [] ∨ trim s.toList = ['*'] := by
  have hstar : ∀ c ∈ ['*'], isBlank c = false := by
    intro c hc
    rw [List.mem_singleton.1 hc]
    decide
  rw [trim_eq_iff_padded (fun c hc => absurd hc List.not_mem_nil), trim_eq_iff_padded hstar]
  exact ⟨fun h => h s rfl, fun h t ht => Option.some.inj ht ▸ h⟩

/-- A list of ranges is no text of a wildcard. -/
theorem IsListing.not_isWildcardText {s : String} (h : IsListing low high ranges s.toList) :
    ¬ IsWildcardText (some s) := by
  -- a wildcard is one part, which is no range
  have hnone {part : List Char} (hsplit : splitAll ',' (trim s.toList) = [part]) :
      readRange part ≠ none := by
    obtain ⟨hparts, -⟩ := isListing_iff.1 (isListing_trim.2 h)
    rw [hsplit, List.forall₂_cons_right_iff] at hparts
    obtain ⟨r, _, hpart, -, -⟩ := hparts
    rw [readRange_eq_some_iff.2 hpart]
    exact Option.some_ne_none r
  rw [isWildcardText_some_iff]
  rintro (htrim | htrim)
  · rw [htrim] at hnone
    exact hnone rfl (by decide)
  · rw [htrim] at hnone
    exact hnone rfl (by decide)

/-- **What is read as a field**: wildcards, and lists of ranges that lie between the bounds. -/
theorem read_eq_ok_iff {source : Option String} {f : ScheduleField} :
    read source low high = .ok f ↔
      (IsWildcardText source ∧ f = wildcard) ∨
      ∃ s ranges, source = some s ∧ IsListing low high ranges s.toList ∧
        f = ⟨some (trimmed s), ranges⟩ := by
  cases source with
  | none =>
    have hread : read none low high = .ok wildcard := rfl
    have hwild : IsWildcardText none := fun _ h => absurd h (Option.not_mem_none _)
    simp [hread, hwild, eq_comm]
  | some s =>
    by_cases hwild : IsWildcardText (some s)
    · rw [read_some_of_wild (isWildcardText_some_iff.1 hwild), Except.ok.injEq]
      constructor
      · exact fun h => .inl ⟨hwild, h.symm⟩
      · rintro (⟨-, rfl⟩ | ⟨t, _, hsource, hlisting, -⟩)
        · rfl
        · obtain rfl := Option.some.inj hsource
          exact absurd hwild hlisting.not_isWildcardText
    · rw [read_some_of_not_wild (mt isWildcardText_some_iff.2 hwild), map_eq_ok_iff]
      have hranges (ranges : List (Nat × Nat)) :
          readRanges (trimmed s) low high (splitAll ',' (trim s.toList)) = .ok ranges ↔
            IsListing low high ranges s.toList := by
        rw [readRanges_eq_ok_iff, ← isListing_iff, isListing_trim]
      simp only [hranges, hwild, false_and, false_or, Option.some.injEq]
      constructor
      · rintro ⟨ranges, hlisting, rfl⟩
        exact ⟨s, ranges, rfl, hlisting, rfl⟩
      · rintro ⟨_, ranges, rfl, hlisting, rfl⟩
        exact ⟨ranges, hlisting, rfl⟩

/-! ### What a field covers -/

/-- There is a range in each list. -/
theorem IsListing.ne_nil (h : IsListing low high ranges cs) : ranges ≠ [] := by
  rintro rfl
  obtain ⟨⟨parts, hne, -, hparts⟩, -⟩ := h
  exact hne (List.forall₂_nil_left_iff.1 hparts)

/-- **A field covers the union of its ranges**, in which there is a number, and which lies between
the bounds. -/
theorem covers_of_isListing (h : IsListing low high ranges cs) (text : Option String) :
    (∀ n, covers ⟨text, ranges⟩ n = true ↔ ∃ r ∈ ranges, r.1 ≤ n ∧ n ≤ r.2) ∧
      (∃ n, low ≤ n ∧ n ≤ high ∧ covers ⟨text, ranges⟩ n = true) ∧
      ∀ n, covers ⟨text, ranges⟩ n = true → low ≤ n ∧ n ≤ high := by
  have hunion (n : Nat) : covers ⟨text, ranges⟩ n = true ↔ ∃ r ∈ ranges, r.1 ≤ n ∧ n ≤ r.2 := by
    simp [covers, isWildcard, h.ne_nil]
  have hinside := h.2
  obtain ⟨r, rest, rfl⟩ := List.exists_cons_of_ne_nil h.ne_nil
  refine ⟨hunion, ⟨r.1, ?_, ?_, ?_⟩, ?_⟩
  · exact (hinside r List.mem_cons_self).1
  · have := hinside r List.mem_cons_self
    omega
  · exact (hunion r.1).2 ⟨r, List.mem_cons_self, Nat.le_refl _,
      (hinside r List.mem_cons_self).2.1⟩
  · intro n hn
    obtain ⟨q, hq, hlow, hhigh⟩ := (hunion n).1 hn
    have := hinside q hq
    omega

end ScheduleField

end Provenance
