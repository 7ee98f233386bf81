import Provenance.Proofs.Event.Recorded
import Provenance.Proofs.Query.Plan

/-!
# What filters ask of an event

Each filter of the event query asks something of an event as it was captured, in words of events and
not of rows.  A missing value is never what a filter asks for; times are compared by milliseconds,
and numbers by value, where not-a-number compares with nothing.  A filter that looks at the parts of
an event asks that one of them is right in all respects.

The name of a custom field is cut at its last number sign, and the marks in front of it are taken
off in a fixed order; so each name names one field at most.

## Main definitions

* `FieldSelector.Names`, `FieldSelector.Finds` — the names of custom fields, and what they name.
* `Parameter.Asks` — what a filter asks of an event.
* `Parameter.IsPlain` — filters on events alone.

## Main results

* `FieldSelector.ofName_eq_some_iff` — **the custom field that a name names.**
-/

namespace Provenance

open Text (dropWord splitLast splitFirst splitFirst_eq_some_iff trimmed)

/-! ### Cutting texts -/

namespace Text

theorem dropWord_eq_some_iff {word cs rest : List Char} :
    dropWord word cs = some rest ↔ cs = word ++ rest :=
  ⟨eq_append_of_dropWord, fun h => h ▸ dropWord_append word rest⟩

theorem dropWord_eq_none_iff {word cs : List Char} : dropWord word cs = none ↔ ¬word <+: cs := by
  rw [Option.eq_none_iff_forall_ne_some]
  constructor
  · rintro h ⟨rest, rfl⟩
    exact h rest (dropWord_append word rest)
  · intro h rest hrest
    exact h ⟨rest, (eq_append_of_dropWord hrest).symm⟩

theorem dropWord_toList_eq_some_iff {word name : String} {rest : List Char} :
    dropWord word.toList name.toList = some rest ↔ name = word ++ String.ofList rest := by
  rw [dropWord_eq_some_iff, ← String.toList_inj, String.toList_append, String.toList_ofList]

theorem dropWord_toList_eq_none_iff {word name : String} :
    dropWord word.toList name.toList = none ↔ ∀ rest, name ≠ word ++ rest := by
  rw [Option.eq_none_iff_forall_ne_some]
  constructor
  · rintro h rest rfl
    exact h rest.toList (dropWord_toList_eq_some_iff.2 (by rw [String.ofList_toList]))
  · intro h rest hrest
    exact h _ (dropWord_toList_eq_some_iff.1 hrest)

/-- The last cut: no separator after it, and nothing is lost. -/
theorem splitLast_eq_some_iff {sep : Char} {cs before after : List Char} :
    splitLast sep cs = some (before, after) ↔ cs = before ++ sep :: after ∧ sep ∉ after := by
  have hreverse : cs = before ++ sep :: after ↔
      cs.reverse = after.reverse ++ sep :: before.reverse := by
    rw [← List.reverse_inj]
    simp
  rw [splitLast, Option.map_eq_some_iff]
  constructor
  · rintro ⟨⟨u, v⟩, hsplit, heq⟩
    obtain ⟨rfl, rfl⟩ := Prod.mk.inj heq
    obtain ⟨hcs, hnot⟩ := splitFirst_eq_some_iff.1 hsplit
    rw [hreverse, List.reverse_reverse, List.reverse_reverse, List.mem_reverse]
    exact ⟨hcs, hnot⟩
  · rintro ⟨hcs, hnot⟩
    refine ⟨(after.reverse, before.reverse), splitFirst_eq_some_iff.2 ⟨hreverse.1 hcs, ?_⟩, ?_⟩
    · rwa [List.mem_reverse]
    · simp

end Text

theorem dropMark_eq_iff {word : String} {cs rest : List Char} {b : Bool} :
    dropMark word cs = (b, rest) ↔
      cs = (if b then word.toList else []) ++ rest ∧ (b = false → ¬word.toList <+: cs) := by
  unfold dropMark
  cases h : dropWord word.toList cs with
  | none =>
    have hnot := Text.dropWord_eq_none_iff.1 h
    cases b with
    | false => simp [hnot]
    | true =>
      simp only [if_true, Prod.mk.injEq, Bool.false_eq_true, false_and, false_iff, not_and]
      rintro rfl
      exact absurd (List.prefix_append _ _) hnot
  | some after =>
    obtain rfl := Text.dropWord_eq_some_iff.1 h
    cases b <;> simp

/-! ### Comparing -/

namespace Comparator

/-- That two whole numbers stand in a relation. -/
def Relates : Comparator → Int → Int → Prop
  | equal, m, n => m = n
  | less, m, n => m < n
  | atMost, m, n => m ≤ n
  | greater, m, n => n < m
  | atLeast, m, n => n ≤ m

/-- That two numbers stand in a relation by their values. -/
def RelatesNumbers (c : Comparator) (x y : Binary64) : Prop :=
  ∃ m n, x.units = some m ∧ y.units = some n ∧ c.Relates m n

/-- How a relation is written in front of the name of a custom field. -/
def word : Comparator → String
  | equal => "EQ_"
  | less => "LT_"
  | atMost => "LE_"
  | greater => "GT_"
  | atLeast => "GE_"

end Comparator

/-! ### Custom fields -/

namespace FieldSelector

/-- The namespace and the name of a custom field, as they are written. -/
def qualified (s : FieldSelector) : List Char := s.space.toList ++ '#' :: s.name.toList

/-- That a text names a custom field: it is made of the marks of the field and its qualified name,
and a mark that is not one of the field does not stand in front. -/
structure Names (s : FieldSelector) (cs : List Char) : Prop where
  origin : s.origin = .extension ∨ s.origin = .ilmd
  space : s.space ≠ ""
  name : s.name ≠ ""
  separator : '#' ∉ s.name.toList
  written : cs = (if s.inner then "INNER_".toList else []) ++
    ((if s.origin = .ilmd then "ILMD_".toList else []) ++ s.qualified)
  not_inner : s.inner = false → ¬"INNER_".toList <+: cs
  not_ilmd : s.origin = .extension → ¬"ILMD_".toList <+: s.qualified

/-- That an event has a custom field that is the one selected: at the top, or inside of one that is
there. -/
def Finds (s : FieldSelector) (e : Event) (c : FieldContent) : Prop :=
  (if s.inner then ∃ f ∈ e.customFields, ∃ g ∈ f.children, g.content = c
    else ∃ f ∈ e.customFields, f.content = c) ∧
    c.origin = s.origin ∧ c.space = s.space ∧ c.name = s.name

theorem names_of_ofName {s : FieldSelector} {cs : List Char} (h : ofName cs = some s) :
    s.Names cs := by
  rcases hdrop : dropMark "INNER_" cs with ⟨inner, cs₁⟩
  rcases hdrop₁ : dropMark "ILMD_" cs₁ with ⟨ilmd, cs₂⟩
  simp only [ofName, hdrop, hdrop₁] at h
  obtain ⟨hcs, hinner⟩ := dropMark_eq_iff.1 hdrop
  obtain ⟨hcs₁, hilmd⟩ := dropMark_eq_iff.1 hdrop₁
  split at h
  · next space name hsplit =>
    obtain ⟨rfl, hnot⟩ := Text.splitLast_eq_some_iff.1 hsplit
    split at h
    · exact absurd h (by simp)
    · next hne =>
      obtain rfl := Option.some.inj h
      simp only [Bool.or_eq_true, List.isEmpty_iff, not_or] at hne
      have horigin : (if ilmd = true then FieldOrigin.ilmd else .extension) = .ilmd ↔
          ilmd = true := by
        cases ilmd <;> decide
      exact {
        origin := by cases ilmd <;> simp
        space := by simpa [← String.toList_inj] using hne.1
        name := by simpa [← String.toList_inj] using hne.2
        separator := by simpa using hnot
        written := by simpa only [qualified, String.toList_ofList, horigin, ← hcs₁] using hcs
        not_inner := hinner
        not_ilmd := by
          intro hext
          cases ilmd with
          | true => exact absurd hext (by simp)
          | false => simpa [qualified, hcs₁] using hilmd rfl }
  · exact absurd h (by simp)

theorem Names.ofName_eq {s : FieldSelector} {cs : List Char} (h : s.Names cs) :
    ofName cs = some s := by
  have hinner : dropMark "INNER_" cs = (s.inner,
      (if s.origin = .ilmd then "ILMD_".toList else []) ++ s.qualified) :=
    dropMark_eq_iff.2 ⟨h.written, h.not_inner⟩
  have hilmd : dropMark "ILMD_"
      ((if s.origin = .ilmd then "ILMD_".toList else []) ++ s.qualified) =
      (decide (s.origin = .ilmd), s.qualified) := by
    refine dropMark_eq_iff.2 ⟨by simp, fun hnot => ?_⟩
    have hne : s.origin ≠ .ilmd := by simpa using hnot
    rw [if_neg hne]
    exact h.not_ilmd (h.origin.resolve_right hne)
  have hsplit : splitLast '#' s.qualified = some (s.space.toList, s.name.toList) :=
    Text.splitLast_eq_some_iff.2 ⟨rfl, h.separator⟩
  have hspace : s.space.toList.isEmpty = false := by
    simpa [List.isEmpty_eq_false_iff] using h.space
  have hname : s.name.toList.isEmpty = false := by
    simpa [List.isEmpty_eq_false_iff] using h.name
  have horigin : (if decide (s.origin = .ilmd) = true then FieldOrigin.ilmd else .extension) =
      s.origin := by
    rcases h.origin with ho | ho <;> rw [ho] <;> rfl
  simp only [ofName, hinner, hilmd, hsplit, hspace, hname, Bool.or_self, Bool.false_eq_true,
    if_false, String.ofList_toList, horigin]

/-- **A name names the custom field of which it is the name**, and no other. -/
theorem ofName_eq_some_iff {s : FieldSelector} {cs : List Char} :
    ofName cs = some s ↔ s.Names cs :=
  ⟨names_of_ofName, Names.ofName_eq⟩

end FieldSelector

/-! ### Filters -/

namespace Parameter

/-- That a parameter has one value, and what it is read as, without the blanks around it. -/
def Says {α : Type} (p : Parameter) (read : List Char → Option α) (a : α) : Prop :=
  ∃ v, p.values = [v] ∧ read (trimmed v).toList = some a

/-- That an event has an object with one of some roles and one of the values. -/
def Matches (p : Parameter) (roles : List EpcRole) (x : Recorded) : Prop :=
  ∃ o ∈ x.event.epcs, o.role ∈ roles ∧ o.value ∈ p.values

/-- That an event has an amount of a class of objects that is in a relation to the value. -/
def Measures (p : Parameter) (c : Comparator) (x : Recorded) : Prop :=
  ∃ q, p.Says Binary64.read q ∧ ∃ o ∈ x.event.epcs, o.role.isQuantity = true ∧
    ∃ n, o.quantity = some n ∧ c.RelatesNumbers n q

/-- That an event has a party of a kind that is one of the values. -/
def Involves (p : Parameter) (d : Direction) (kind : String) (x : Recorded) : Prop :=
  ∃ q ∈ x.event.parties, q.direction = d ∧ q.kind = kind ∧ q.id ∈ p.values

/-- What a comparison asks of a custom field.  To be equal is to have one of the values as a text;
in all other relations the value is a number, or else a time. -/
def AsksOfField (p : Parameter) (f : FieldContent) : Comparator → Prop
  | .equal => ∃ v ∈ p.values, f.text = some v
  | c => (∃ q, p.Says Binary64.read q ∧ ∃ n, f.number = some n ∧ c.RelatesNumbers n q) ∨
    (∀ q, ¬p.Says Binary64.read q) ∧ ∃ t, p.Says Instant.read t ∧
      ∃ u, f.date = some u ∧ c.Relates u.millis t.millis

/-- That a name carries a kind of business transaction, of source or of destination. -/
def CarriesKind (p : Parameter) : Prop :=
  ∃ kind, p.name = "EQ_bizTransaction_" ++ kind ∨ p.name = "EQ_source_" ++ kind ∨
    p.name = "EQ_destination_" ++ kind

/-- What a filter asks whose name carries something behind a fixed word: a kind of business
transaction, of source or of destination, or else a custom field. -/
def AsksByName (p : Parameter) (x : Recorded) : Prop :=
  (∃ kind, p.name = "EQ_bizTransaction_" ++ kind ∧
    ∃ t ∈ x.event.businessTransactions, t.kind = kind ∧ t.id ∈ p.values) ∨
  (∃ kind, p.name = "EQ_source_" ++ kind ∧ p.Involves .source kind x) ∨
  (∃ kind, p.name = "EQ_destination_" ++ kind ∧ p.Involves .destination kind x) ∨
  (∃ rest s, p.name = "EXISTS_" ++ rest ∧ FieldSelector.Names s rest.toList ∧
    ∃ f, s.Finds x.event f) ∨
  ∃ c rest s, p.name = Comparator.word c ++ rest ∧ FieldSelector.Names s rest.toList ∧
    ¬p.CarriesKind ∧ ∃ f, s.Finds x.event f ∧ p.AsksOfField f c

/-- What a filter asks of an event as it was captured. -/
def Asks (p : Parameter) : Recorded → Prop :=
  match p.name with
  | "eventType" => fun x => ∃ v ∈ p.values, trimmed v = x.event.kind.code
  | "EQ_action" => fun x => ∃ v ∈ p.values, ∃ a, x.event.action = some a ∧ trimmed v = a.code
  | "EQ_bizStep" => fun x => ∃ v ∈ p.values, x.event.businessStep = some v
  | "EQ_disposition" => fun x => ∃ v ∈ p.values, x.event.disposition = some v
  | "EQ_readPoint" => fun x => ∃ v ∈ p.values, x.event.readPoint = some v
  | "EQ_bizLocation" => fun x => ∃ v ∈ p.values, x.event.businessLocation = some v
  | "EQ_transformationID" => fun x => ∃ v ∈ p.values, x.event.transformation = some v
  | "EQ_eventID" => fun x => ∃ v ∈ p.values, x.event.name = some v
  | "GE_eventTime" => fun x => ∃ t, p.Says Instant.read t ∧ t.millis ≤ x.event.time.millis
  | "LT_eventTime" => fun x => ∃ t, p.Says Instant.read t ∧ x.event.time.millis < t.millis
  | "GE_recordTime" => fun x =>
    ∃ t, p.Says Instant.read t ∧ t.millis ≤ x.captured.recordTime.millis
  | "LT_recordTime" => fun x =>
    ∃ t, p.Says Instant.read t ∧ x.captured.recordTime.millis < t.millis
  | "EXISTS_errorDeclaration" => fun x => ∃ d, x.event.errorDeclaration = some d
  | "EQ_errorReason" => fun x =>
    ∃ d, x.event.errorDeclaration = some d ∧ ∃ v ∈ p.values, d.reason = some v
  | "EQ_correctiveEventID" => fun x =>
    ∃ d, x.event.errorDeclaration = some d ∧ ∃ id ∈ d.correctiveIds, id ∈ p.values
  | "EQ_quantity" => p.Measures .equal
  | "GT_quantity" => p.Measures .greater
  | "GE_quantity" => p.Measures .atLeast
  | "LT_quantity" => p.Measures .less
  | "LE_quantity" => p.Measures .atMost
  | "MATCH_epc" => p.Matches [.list, .child]
  | "MATCH_parentID" => p.Matches [.parent]
  | "MATCH_inputEPC" => p.Matches [.input]
  | "MATCH_outputEPC" => p.Matches [.output]
  | "MATCH_anyEPC" => p.Matches [.list, .child, .parent, .input, .output]
  | "MATCH_epcClass" => p.Matches [.quantity, .childQuantity]
  | "MATCH_inputEPCClass" => p.Matches [.inputQuantity]
  | "MATCH_outputEPCClass" => p.Matches [.outputQuantity]
  | "MATCH_anyEPCClass" =>
    p.Matches [.quantity, .childQuantity, .inputQuantity, .outputQuantity]
  | _ => p.AsksByName

/-- That a filter is on events alone, and not on master data. -/
structure IsPlain (p : Parameter) : Prop where
  not_shaping : p.isShaping = false
  not_descent : ∀ rest, p.name ≠ "WD_" ++ rest
  not_attribute : ∀ rest, p.name ≠ "EQATTR_" ++ rest
  not_presence : ∀ rest, p.name ≠ "HASATTR_" ++ rest

end Parameter

end Provenance
