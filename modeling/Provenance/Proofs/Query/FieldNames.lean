import Provenance.Proofs.Query.Reading

/-!
# Parameters named after custom fields

A custom field is written as its marks, its namespace, a number sign and its name, and a parameter
that asks something of it has the word of an operation in front.  Such a name could be taken for
another one: for a name that stands for itself, for a kind of transaction, source or destination, or
for a field with a further mark.  It is not if the namespace does not begin with one of a few words,
whatever else it contains.

So the name that is written for an operation and a custom field is read as that operation on that
field.  And there are no other names of this kind: a parameter that is read as a predicate on a
custom field has the name that is written for the field.

## Main definitions

* `FieldOperation` — what can be asked of a custom field, with its word and its predicate.
* `FieldSelector.written` — a custom field as it is written.
* `FieldSelector.IsWritable` — custom fields whose written names are not taken for others.
* `Parameter.MeansOther`, `Parameter.MeansCustom` — whether a parameter is about a custom field.

## Main results

* `FieldSelector.IsWritable.names` — the written name names the field.
* `Parameter.clause_of_written`, `Parameter.written_of_clause` — reading a written name, and the
  name that was read.
* `Parameter.means_of_clause` — what a parameter that filters can mean.
* `EventPlan.ofParameters_insert_filter` — what a filter adds to a plan.
* `EventPlan.ofParameters_written` — **the parameters on custom fields.**
-/

namespace Provenance

open Text (dropWord dropWord_toList_eq_none_iff dropWord_toList_eq_some_iff splitFirst
  splitFirst_eq_some_iff)

/-! ### Operations -/

/-- What a parameter can ask of a custom field. -/
inductive FieldOperation
  | compare (comparator : Comparator)
  | presence
  deriving DecidableEq, Repr

/-- The custom field that a predicate asks for. -/
def Predicate.selector? : Predicate → Option FieldSelector
  | customIn s _ => some s
  | customCompare s _ _ => some s
  | customExists s => some s
  | _ => none

namespace FieldOperation

/-- The word of an operation in front of the name. -/
def word : FieldOperation → String
  | compare c => c.word
  | presence => "EXISTS_"

/-- The predicate of an operation on a custom field, with the values of a parameter.  To be equal is
to have one of the values as a text; in all other relations the value has to be a number or a
time. -/
def predicate (p : Parameter) (s : FieldSelector) : FieldOperation → Except ParameterFault Predicate
  | compare .equal => .ok (.customIn s p.values)
  | compare c => p.comparable.map (.customCompare s c)
  | presence => .ok (.customExists s)

/-- That an operation can do with the values of a parameter. -/
def Accepts (p : Parameter) : FieldOperation → Prop
  | compare .equal | presence => True
  | compare _ => (∃ x, p.Says Binary64.read x) ∨ ∃ t, p.Says Instant.read t

variable {p : Parameter} {s : FieldSelector} {op : FieldOperation} {f : Predicate}

/-- The predicate asks for the custom field. -/
theorem selector?_predicate (h : op.predicate p s = .ok f) : f.selector? = some s := by
  unfold predicate at h
  split at h
  · obtain rfl := Except.ok.inj h
    rfl
  · obtain ⟨v, -, rfl⟩ := map_eq_ok_iff.1 h
    rfl
  · obtain rfl := Except.ok.inj h
    rfl

theorem exists_comparable_iff :
    (∃ v, p.comparable = .ok v) ↔
      (∃ x, p.Says Binary64.read x) ∨ ∃ t, p.Says Instant.read t := by
  constructor
  · rintro ⟨v, hv⟩
    rcases Parameter.says_of_comparable hv with ⟨x, hx, -⟩ | ⟨-, t, ht, -⟩
    · exact .inl ⟨x, hx⟩
    · exact .inr ⟨t, ht⟩
  · intro h
    obtain ⟨v, hv, hread⟩ : ∃ v, p.values = [v] ∧
        ((∃ x, Binary64.read (Text.trimmed v).toList = some x) ∨
          ∃ t, Instant.read (Text.trimmed v).toList = some t) := by
      rcases h with ⟨x, v, hv, hx⟩ | ⟨t, v, hv, ht⟩
      · exact ⟨v, hv, .inl ⟨x, hx⟩⟩
      · exact ⟨v, hv, .inr ⟨t, ht⟩⟩
    cases hnumber : Binary64.read (Text.trimmed v).toList with
    | some x =>
      refine ⟨.number x, Parameter.readSingle_eq_ok_iff.2 ⟨v, hv, ?_⟩⟩
      rw [hnumber]
    | none =>
      rcases hread with ⟨x, hx⟩ | ⟨t, ht⟩
      · exact absurd (hnumber.symm.trans hx) (by simp)
      · refine ⟨.time t, Parameter.readSingle_eq_ok_iff.2 ⟨v, hv, ?_⟩⟩
        rw [hnumber, ht]
        rfl

/-- An operation has a predicate if it can do with the values. -/
theorem exists_predicate_iff : (∃ f, op.predicate p s = .ok f) ↔ op.Accepts p := by
  have hcompared (c : Comparator) :
      (∃ f, p.comparable.map (Predicate.customCompare s c) = .ok f) ↔
        (∃ x, p.Says Binary64.read x) ∨ ∃ t, p.Says Instant.read t := by
    rw [← exists_comparable_iff]
    constructor
    · rintro ⟨f, hf⟩
      obtain ⟨v, hv, -⟩ := map_eq_ok_iff.1 hf
      exact ⟨v, hv⟩
    · rintro ⟨v, hv⟩
      exact ⟨_, map_eq_ok_iff.2 ⟨v, hv, rfl⟩⟩
  cases op with
  | presence => exact iff_of_true ⟨_, rfl⟩ trivial
  | compare c =>
    cases c with
    | equal => exact iff_of_true ⟨_, rfl⟩ trivial
    | less => exact hcompared .less
    | atMost => exact hcompared .atMost
    | greater => exact hcompared .greater
    | atLeast => exact hcompared .atLeast

end FieldOperation

/-! ### Written names -/

/-- The words that carry a kind behind the word of a comparison. -/
def kindWords : List String := ["bizTransaction_", "source_", "destination_"]

/-- The words with which a namespace may not begin. -/
def reservedWords : List String := ["INNER_", "ILMD_"] ++ kindWords

/-- A text with no number sign in front of a qualified name stands in front of its namespace. -/
theorem prefix_of_prefix_append_cons {word front back : List Char} (hword : '#' ∉ word)
    (h : word <+: front ++ '#' :: back) : word <+: front := by
  rcases List.prefix_or_prefix_of_prefix h (List.prefix_append front _) with hle | ⟨rest, rfl⟩
  · exact hle
  · -- the word would go on with the number sign
    rw [List.prefix_append_right_inj] at h
    cases rest with
    | nil => exact ⟨[], by rw [List.append_nil, List.append_nil]⟩
    | cons c rest =>
      obtain ⟨rfl, -⟩ := List.cons_prefix_cons.1 h
      exact absurd (List.mem_append_right front List.mem_cons_self) hword

namespace FieldSelector

/-- A custom field as it is written: its marks, its namespace, a number sign and its name. -/
def written (s : FieldSelector) : String :=
  (if s.inner then "INNER_" else "") ++ ((if s.origin = .ilmd then "ILMD_" else "") ++
    (s.space ++ "#" ++ s.name))

/-- That the name of a custom field cannot be taken for another one. -/
structure IsWritable (s : FieldSelector) : Prop where
  origin : s.origin = .extension ∨ s.origin = .ilmd
  space : s.space ≠ ""
  name : s.name ≠ ""
  separator : '#' ∉ s.name.toList
  not_reserved : ∀ word ∈ reservedWords, ∀ rest, s.space ≠ word ++ rest

variable {s : FieldSelector}

theorem toList_written (s : FieldSelector) :
    s.written.toList = (if s.inner then "INNER_".toList else []) ++
      ((if s.origin = .ilmd then "ILMD_".toList else []) ++ s.qualified) := by
  unfold written qualified
  cases s.inner <;> by_cases ho : s.origin = .ilmd <;> simp [ho]

/-- The qualified name of a writable field does not begin with a reserved word. -/
theorem IsWritable.not_prefix_qualified (h : s.IsWritable) {word : String}
    (hword : word ∈ reservedWords) : ¬word.toList <+: s.qualified := by
  intro hle
  have hnot : ∀ word ∈ reservedWords, '#' ∉ word.toList := by decide
  obtain ⟨rest, hrest⟩ := prefix_of_prefix_append_cons (hnot word hword) hle
  refine h.not_reserved word hword (String.ofList rest) ?_
  rw [← String.toList_inj, String.toList_append, String.toList_ofList, hrest]

/-- **The written name names the field.** -/
theorem IsWritable.names (h : s.IsWritable) : s.Names s.written.toList where
  origin := h.origin
  space := h.space
  name := h.name
  separator := h.separator
  written := toList_written s
  not_inner := by
    intro hinner
    rw [toList_written, hinner]
    rcases h.origin with ho | ho
    · rw [ho]
      exact h.not_prefix_qualified (by decide)
    · rw [ho]
      intro hle
      simp at hle
  not_ilmd _ := h.not_prefix_qualified (by decide)

/-- It does not begin with a word that carries a kind. -/
theorem IsWritable.written_ne (h : s.IsWritable) {word : String} (hword : word ∈ kindWords)
    (rest : String) : s.written ≠ word ++ rest := by
  intro heq
  have hle : word.toList <+: s.written.toList := by
    rw [heq, String.toList_append]
    exact List.prefix_append _ _
  rw [toList_written] at hle
  have hmark : ∀ word ∈ kindWords, ∀ cs : List Char, ¬word.toList <+: 'I' :: cs := by
    intro word hword cs hle
    simp only [kindWords, List.mem_cons, List.not_mem_nil, or_false] at hword
    rcases hword with rfl | rfl | rfl <;> simp at hle
  cases hinner : s.inner with
  | true =>
    rw [hinner] at hle
    exact hmark word hword _ hle
  | false =>
    rw [hinner] at hle
    by_cases ho : s.origin = .ilmd
    · rw [if_pos ho] at hle
      exact hmark word hword _ hle
    · rw [if_neg ho] at hle
      exact h.not_prefix_qualified (List.mem_append_right _ hword) hle

end FieldSelector

/-! ### Reading a written name -/

namespace Parameter

variable {p : Parameter} {op : FieldOperation} {s : FieldSelector}

/-- The words of the families that a name can belong to. -/
def familyWords : List String :=
  ["EQ_bizTransaction_", "EQ_source_", "EQ_destination_", "EQATTR_", "HASATTR_"]

/-- A written name does not belong to another family. -/
theorem ne_family_of_written (hname : p.name = op.word ++ s.written) (hs : s.IsWritable)
    {word : String} (hword : word ∈ familyWords) (rest : String) : p.name ≠ word ++ rest := by
  intro heq
  have htransaction : s.written ≠ "bizTransaction_" ++ rest := hs.written_ne (by decide) rest
  have hsource : s.written ≠ "source_" ++ rest := hs.written_ne (by decide) rest
  have hdestination : s.written ≠ "destination_" ++ rest := hs.written_ne (by decide) rest
  rw [hname] at heq
  simp only [familyWords, List.mem_cons, List.not_mem_nil, or_false] at hword
  cases op with
  | presence => rcases hword with rfl | rfl | rfl | rfl | rfl <;>
      simp [FieldOperation.word, ← String.toList_inj] at heq
  | compare c => cases c <;> rcases hword with rfl | rfl | rfl | rfl | rfl <;>
      simp_all [FieldOperation.word, Comparator.word, ← String.toList_inj]

/-- The word of a comparison is cut off at the first underscore. -/
theorem splitFirst_word (c : Comparator) (rest : String) :
    ∃ front, splitFirst '_' (c.word ++ rest).toList = some (front, rest.toList) ∧
      Comparator.ofName front = some c := by
  have hcut (front : String) (hfront : '_' ∉ front.toList) :
      splitFirst '_' (front ++ "_" ++ rest).toList = some (front.toList, rest.toList) :=
    splitFirst_eq_some_iff.2 ⟨by simp, hfront⟩
  cases c with
  | equal => exact ⟨_, hcut "EQ" (by decide), rfl⟩
  | less => exact ⟨_, hcut "LT" (by decide), rfl⟩
  | atMost => exact ⟨_, hcut "LE" (by decide), rfl⟩
  | greater => exact ⟨_, hcut "GT" (by decide), rfl⟩
  | atLeast => exact ⟨_, hcut "GE" (by decide), rfl⟩

/-- **A written name is read as the operation on the field.** -/
theorem clause_of_written (hname : p.name = op.word ++ s.written) (hs : s.IsWritable) :
    p.clause = (op.predicate p s).map .filter := by
  cases op with
  | presence => exact clause_of_existence hname hs.names
  | compare c =>
    obtain ⟨hexact, hroles⟩ := exactClause_of_mem (p := p)
      (by rw [hname, String.toList_append]; exact List.mem_append_right _ hs.names.mem)
    have hother (word : String) (hword : word ∈ familyWords) :
        dropWord word.toList p.name.toList = none :=
      dropWord_toList_eq_none_iff.2 (ne_family_of_written hname hs hword)
    have hexists : dropWord "EXISTS_".toList p.name.toList = none :=
      dropWord_toList_eq_none_iff.2 fun rest heq =>
        c.word_append_ne s.written rest (hname.symm.trans heq)
    obtain ⟨front, hsplit, hfront⟩ := splitFirst_word c s.written
    replace hsplit : splitFirst '_' p.name.toList = some (front, s.written.toList) := by
      rw [hname]
      exact hsplit
    simp only [clause, hexact, familyClause, hroles, hother "EQ_bizTransaction_" (by decide),
      hother "EQ_source_" (by decide), hother "EQ_destination_" (by decide),
      hother "EQATTR_" (by decide), hother "HASATTR_" (by decide), hexists, customClause, hsplit,
      hfront, hs.names.ofName_eq]
    cases c with
    | equal => rfl
    | _ =>
      show Except.map _ p.comparable = Except.map _ (Except.map _ p.comparable)
      cases p.comparable <;> rfl

/-! ### The name that was read -/

/-- That a parameter means a predicate that is about no custom field; if it has values, the
predicate chooses from something. -/
structure MeansOther (p : Parameter) (f : Predicate) : Prop where
  selector : f.selector? = none
  chooses : p.values ≠ [] → f.extent.isEmptyChoice = false

/-- A name that stands for itself is about no custom field. -/
theorem meansOther_of_exactClause {f : Predicate} (h : p.exactClause = some (.ok (.filter f))) :
    p.MeansOther f := by
  have hmap {α : Type} {x : Except ParameterFault α} {g : α → Predicate}
      (hx : x.map (fun a => .filter (g a)) = .ok (Clause.filter f))
      (hg : ∀ a, p.MeansOther (g a)) : p.MeansOther f := by
    obtain ⟨a, -, ha⟩ := map_eq_ok_iff.1 hx
    obtain rfl := Clause.filter.inj ha
    exact hg a
  unfold exactClause at h
  split at h
  · obtain rfl := Clause.filter.inj (Except.ok.inj (Option.some.inj h))
    refine ⟨rfl, fun hvalues => ?_⟩
    rw [Predicate.isEmptyChoice_fieldIn]
    simpa [operands] using hvalues
  · split at h
    · exact hmap (Option.some.inj h) fun _ => ⟨rfl, fun _ => rfl⟩
    · split at h
      · exact hmap (Option.some.inj h) fun _ => ⟨rfl, fun _ => rfl⟩
      · -- one case for each of the remaining words
        unfold wordClause at h
        split at h
        case h_1 | h_2 =>
          obtain ⟨_, hcodes, h⟩ := bind_eq_ok_iff.1 (Option.some.inj h)
          obtain rfl := Clause.filter.inj (Except.ok.inj h)
          exact ⟨rfl, chooses_of_each hcodes⟩
        case h_3 | h_4 | h_5 | h_6 | h_7 =>
          obtain rfl := Clause.filter.inj (Except.ok.inj (Option.some.inj h))
          exact ⟨rfl, fun _ => rfl⟩
        case h_8 | h_9 | h_10 | h_11 =>
          obtain ⟨_, -, h⟩ := map_eq_ok_iff.1 (Option.some.inj h)
          exact absurd h (by simp)
        case h_12 => exact absurd h (by simp)

/-- A field that is read from a name is one that the name is written for. -/
theorem eq_written_of_ofName {cs : List Char} (h : FieldSelector.ofName cs = some s) :
    String.ofList cs = s.written := by
  rw [← String.toList_inj, String.toList_ofList, FieldSelector.toList_written]
  exact (FieldSelector.names_of_ofName h).written

/-- That a parameter means an operation on a custom field, and has the name that is written for
it. -/
def MeansCustom (p : Parameter) (f : Predicate) : Prop :=
  ∃ (op : FieldOperation) (s : FieldSelector), p.name = op.word ++ s.written ∧
    op.predicate p s = .ok f ∧ s.Names s.written.toList

theorem meansCustom_of_customClause {f : Predicate} (h : p.customClause = .ok (.filter f)) :
    p.MeansCustom f := by
  unfold customClause at h
  split at h
  · exact absurd h (by simp)
  · next front rest hsplit =>
    have hname {c : Comparator} {sel : FieldSelector} (hc : Comparator.ofName front = some c)
        (hsel : FieldSelector.ofName rest = some sel) :
        p.name = c.word ++ sel.written ∧ sel.Names sel.written.toList := by
      have hwritten := Comparator.eq_word_append_of_splitFirst hsplit hc
      rw [eq_written_of_ofName hsel] at hwritten
      exact ⟨hwritten, eq_written_of_ofName hsel ▸ FieldSelector.names_ofList hsel⟩
    split at h
    · next sel hfront hsel =>
      obtain rfl := Clause.filter.inj (Except.ok.inj h)
      obtain ⟨hwritten, hnames⟩ := hname hfront hsel
      exact ⟨.compare .equal, sel, hwritten, rfl, hnames⟩
    · next c sel hne hfront hsel =>
      obtain ⟨v, hv, hf⟩ := map_eq_ok_iff.1 h
      obtain rfl := Clause.filter.inj hf
      obtain ⟨hwritten, hnames⟩ := hname hfront hsel
      refine ⟨.compare c, sel, hwritten, ?_, hnames⟩
      cases c with
      | equal => exact absurd rfl hne
      | _ => exact map_eq_ok_iff.2 ⟨v, hv, rfl⟩
    · exact absurd h (by simp)

/-- **What a parameter that filters can mean**: a predicate that is about no custom field, or an
operation on the custom field that its name is written for. -/
theorem means_of_clause {f : Predicate} (h : p.clause = .ok (.filter f)) :
    p.MeansOther f ∨ p.MeansCustom f := by
  unfold clause at h
  split at h
  · next r hr =>
    subst h
    exact .inl (meansOther_of_exactClause hr)
  · -- of the families, only the one that asks for presence and the last one name custom fields
    have hother {g : Predicate} (hg : g.selector? = none)
        (hchooses : g.extent.isEmptyChoice = false)
        (hok : (.ok (.filter g) : Except ParameterFault Clause) = .ok (.filter f)) :
        p.MeansOther f := by
      obtain rfl := Clause.filter.inj (Except.ok.inj hok)
      exact ⟨hg, fun _ => hchooses⟩
    simp only [familyClause] at h
    split at h
    · exact .inl (hother rfl rfl h)
    split at h
    · exact .inl (hother rfl rfl h)
    split at h
    · exact .inl (hother rfl rfl h)
    split at h
    · exact .inl (hother rfl rfl h)
    split at h
    · split at h
      · exact .inl (hother rfl rfl h)
      · exact absurd h (by simp)
    split at h
    · split at h
      · exact .inl (hother rfl rfl h)
      · exact absurd h (by simp)
    split at h
    · next rest hrest =>
      split at h
      · next sel hsel =>
        obtain rfl := Clause.filter.inj (Except.ok.inj h)
        have hname := dropWord_toList_eq_some_iff.1 hrest
        rw [eq_written_of_ofName hsel] at hname
        exact .inr ⟨.presence, sel, hname, rfl,
          eq_written_of_ofName hsel ▸ FieldSelector.names_ofList hsel⟩
      · exact absurd h (by simp)
    · exact .inr (meansCustom_of_customClause h)

/-- **A parameter that asks for a custom field has the name that is written for it.** -/
theorem written_of_clause {f : Predicate} (h : p.clause = .ok (.filter f))
    (hs : f.selector? = some s) :
    ∃ op : FieldOperation, p.name = op.word ++ s.written ∧ op.predicate p s = .ok f ∧
      s.Names s.written.toList := by
  rcases means_of_clause h with hother | ⟨op, sel, hname, hpredicate, hnames⟩
  · exact absurd (hs.symm.trans hother.selector) (by simp)
  · obtain rfl := Option.some.inj ((FieldOperation.selector?_predicate hpredicate).symm.trans hs)
    exact ⟨op, hname, hpredicate, hnames⟩

/-- **A filter with values chooses from something.** -/
theorem chooses_of_clause {f : Predicate} (hvalues : p.values ≠ [])
    (h : p.clause = .ok (.filter f)) : f.extent.isEmptyChoice = false := by
  rcases means_of_clause h with hother | ⟨op, sel, -, hpredicate, -⟩
  · exact hother.chooses hvalues
  · have hselector := FieldOperation.selector?_predicate hpredicate
    cases f with
    | customIn | customCompare | customExists => rfl
    | _ => exact absurd hselector (by simp [Predicate.selector?])

end Parameter

/-! ### Plans -/

namespace EventPlan

open Parameter

/-- **What a filter adds to a plan**: its predicate, in its place, and nothing else. -/
theorem ofParameters_insert_filter {front back : List Parameter} {p : Parameter} {plan : EventPlan}
    {f : Predicate} (h : ofParameters (front ++ back) = .ok plan)
    (hf : p.clause = .ok (.filter f)) :
    plan.query.predicates = front.filterMap predicate? ++ back.filterMap predicate? ∧
      ofParameters (front ++ p :: back) =
        .ok { plan with query.predicates :=
          front.filterMap predicate? ++ f :: back.filterMap predicate? } := by
  obtain ⟨hclauses, limit, hlimit, rfl⟩ := ofParameters_eq_ok_iff.1 h
  refine ⟨List.filterMap_append, ofParameters_eq_ok_iff.2 ⟨fun q hq => ?_, limit, ?_⟩⟩
  · rcases List.mem_append.1 hq with hq | hq
    · exact hclauses q (List.mem_append_left _ hq)
    · rcases List.mem_cons.1 hq with rfl | hq
      · exact ⟨_, hf⟩
      · exact hclauses q (List.mem_append_right _ hq)
  · obtain ⟨horder, hdirection, hcount, hmax⟩ : p.name ≠ "orderBy" ∧ p.name ≠ "orderDirection" ∧
        p.name ≠ "eventCountLimit" ∧ p.name ≠ "maxEventCount" := by
      rcases cases_of_clause hf with ⟨-, _, -, h⟩ | ⟨-, _, -, h⟩ | ⟨-, _, -, h⟩ | ⟨-, _, -, h⟩ |
        ⟨horder, hdirection, hcount, hmax, -⟩
      · exact absurd h (by simp)
      · exact absurd h (by simp)
      · exact absurd h (by simp)
      · exact absurd h (by simp)
      · exact ⟨horder, hdirection, hcount, hmax⟩
    have hsome : p.predicate? = some f := by
      rw [predicate?, hf]
      rfl
    have hpredicates : (front ++ p :: back).filterMap predicate? =
        front.filterMap predicate? ++ f :: back.filterMap predicate? := by
      rw [List.filterMap_append, List.filterMap_cons_some hsome]
    rw [lastRead_insert_of_ne hcount, lastRead_insert_of_ne hmax]
    refine ⟨hlimit, ?_⟩
    rw [hpredicates, order, order, lastRead_insert_of_ne horder,
      lastRead_insert_of_ne hdirection]

/-- **The parameters on custom fields.**

* A parameter with the name that is written for an operation and a custom field, whose namespace is
  not empty and does not begin with a reserved word, and whose name is not empty and has no number
  sign, means that operation on that field.  Nothing else is found under the name: it does not stand
  for itself and belongs to no other family.
* If the operation can do with its values, the parameter adds one predicate to every list that has a
  plan, in its place, and nothing else; the predicate asks for that field.
* A parameter that is read as a predicate on a custom field has the name that is written for an
  operation and that field, and its predicate is that of the operation. -/
theorem ofParameters_written :
    (∀ (p : Parameter) (op : FieldOperation) (s : FieldSelector), s.IsWritable →
      p.name = op.word ++ s.written →
        p.exactClause = none ∧ rolesOfName p.name = none ∧
        (∀ word ∈ familyWords, ∀ rest, p.name ≠ word ++ rest) ∧
        (op ≠ .presence → ∀ rest, p.name ≠ "EXISTS_" ++ rest) ∧
        p.clause = (op.predicate p s).map .filter ∧
        ((∃ f, op.predicate p s = .ok f) ↔ op.Accepts p) ∧
        ∀ f, op.predicate p s = .ok f → f.selector? = some s ∧
          ofParameters [p] = .ok ⟨⟨[f], none, none⟩, none⟩ ∧
          ∀ (front back : List Parameter) (plan : EventPlan),
            ofParameters (front ++ back) = .ok plan →
              plan.query.predicates = front.filterMap predicate? ++ back.filterMap predicate? ∧
                ofParameters (front ++ p :: back) =
                  .ok { plan with query.predicates :=
                    front.filterMap predicate? ++ f :: back.filterMap predicate? }) ∧
    ∀ (p : Parameter) (f : Predicate) (s : FieldSelector), p.clause = .ok (.filter f) →
      f.selector? = some s →
        ∃ op : FieldOperation, p.name = op.word ++ s.written ∧ op.predicate p s = .ok f ∧
          (s.origin = .extension ∨ s.origin = .ilmd) ∧ s.space ≠ "" ∧ s.name ≠ "" ∧
            '#' ∉ s.name.toList := by
  refine ⟨fun p op s hs hname => ?_, fun p f s hf hs => ?_⟩
  · obtain ⟨hexact, hroles⟩ := exactClause_of_mem (p := p)
      (by rw [hname, String.toList_append]; exact List.mem_append_right _ hs.names.mem)
    have hclause := clause_of_written hname hs
    refine ⟨hexact, hroles, fun word hword => ne_family_of_written hname hs hword, ?_, hclause,
      FieldOperation.exists_predicate_iff, fun f hf => ?_⟩
    · intro hne rest heq
      cases op with
      | presence => exact hne rfl
      | compare c => exact c.word_append_ne s.written rest (hname.symm.trans heq)
    · have hfilter : p.clause = .ok (.filter f) := by
        rw [hclause, hf]
        rfl
      refine ⟨FieldOperation.selector?_predicate hf, ?_, fun front back plan hplan =>
        ofParameters_insert_filter hplan hfilter⟩
      have hnone : ofParameters ([] ++ []) = .ok ⟨⟨[], none, none⟩, none⟩ := rfl
      exact (ofParameters_insert_filter hnone hfilter).2
  · obtain ⟨op, hname, hpredicate, hnames⟩ := written_of_clause hf hs
    exact ⟨op, hname, hpredicate, hnames.origin, hnames.space, hnames.name, hnames.separator⟩

/-- An inner field of the master data of a lot, with a namespace that has number signs and reserved
words inside. -/
def plotField : FieldSelector := ⟨.ilmd, "urn:a#source_b#", "plot", true⟩

/-- Its name is read as the field, and the value as a number. -/
theorem ofParameters_plotField :
    ofParameters [⟨"GE_INNER_ILMD_urn:a#source_b##plot", ["2.5"]⟩] =
      .ok ⟨⟨[.customCompare plotField .atLeast (.number ⟨0x4004000000000000⟩)], none, none⟩, none⟩ ∧
    ∃ op : FieldOperation, "GE_INNER_ILMD_urn:a#source_b##plot" = op.word ++ plotField.written := by
  have hwritable : plotField.IsWritable := by
    refine ⟨.inr rfl, by decide, by decide, by decide, fun word hword => ?_⟩
    have hnone : ∀ word ∈ reservedWords, dropWord word.toList plotField.space.toList = none := by
      decide
    exact dropWord_toList_eq_none_iff.1 (hnone word hword)
  obtain ⟨hwritten, hread⟩ := ofParameters_written
  obtain ⟨-, -, -, -, hclause, -, hplan⟩ := hwritten
    ⟨"GE_INNER_ILMD_urn:a#source_b##plot", ["2.5"]⟩ (.compare .atLeast) plotField hwritable
    (by decide)
  have hpredicate : (FieldOperation.compare .atLeast).predicate
      ⟨"GE_INNER_ILMD_urn:a#source_b##plot", ["2.5"]⟩ plotField =
        .ok (.customCompare plotField .atLeast (.number ⟨0x4004000000000000⟩)) := by
    decide +kernel
  refine ⟨(hplan _ hpredicate).2.1, ?_⟩
  rw [hpredicate] at hclause
  obtain ⟨op, hname, -⟩ := hread _ _ plotField hclause rfl
  exact ⟨op, hname⟩

end EventPlan

end Provenance
