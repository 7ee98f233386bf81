import Provenance.Proofs.Query.Execution
import Provenance.Proofs.Query.Matching

/-!
# Reading filters

A filter is read as a predicate that holds of the recorded events that the filter asks for.  Which
predicate it is depends on its name: names that stand for themselves are looked for first, and of
the words in front of the others no two can stand in front of the same name.

## Main definitions

* `Parameter.Meets` — a predicate that holds of the events that a filter asks for.

## Main results

* `Parameter.asks_eq_asksByName` — a name that does not stand for itself carries something.
* `Parameter.clause_of_existence` — the filters that ask whether there is a custom field.
* `Parameter.meets_of_clause` — **a filter finds the recorded events that it asks for.**
-/

namespace Provenance

open Text (dropWord dropWord_toList_eq_none_iff dropWord_toList_eq_some_iff splitFirst trimmed)

/-! ### Words in front of names -/

namespace Comparator

theorem word_append_ne (c : Comparator) (a b : String) : c.word ++ a ≠ "EXISTS_" ++ b := by
  cases c <;> simp [← String.toList_inj, word]

theorem word_append_inj {c d : Comparator} {a b : String} (h : c.word ++ a = d.word ++ b) :
    c = d ∧ a = b := by
  cases c <;> cases d <;> simp_all [← String.toList_inj, word]

/-- The word of a comparison ends where a name is cut first. -/
theorem eq_word_append_of_splitFirst {name : String} {front rest : List Char} {c : Comparator}
    (hsplit : splitFirst '_' name.toList = some (front, rest)) (hc : ofName front = some c) :
    name = c.word ++ String.ofList rest := by
  obtain ⟨hname, -⟩ := Text.splitFirst_eq_some_iff.1 hsplit
  have hfront : front ++ ['_'] = c.word.toList := by
    unfold ofName at hc
    split_ifs at hc with hfront hfront hfront hfront hfront
    all_goals
      obtain rfl := Option.some.inj hc
      rw [hfront]
      rfl
  rw [← String.toList_inj, String.toList_append, String.toList_ofList, ← hfront, hname]
  simp

end Comparator

theorem FieldSelector.Names.unique {a b : FieldSelector} {cs : List Char} (ha : a.Names cs)
    (hb : b.Names cs) : a = b :=
  Option.some.inj (ha.ofName_eq.symm.trans hb.ofName_eq)

theorem FieldSelector.Names.mem {s : FieldSelector} {cs : List Char} (h : s.Names cs) :
    '#' ∈ cs := by
  rw [h.written, qualified]
  refine List.mem_append_right _ (List.mem_append_right _ (List.mem_append_right _ ?_))
  exact List.mem_cons_self

theorem FieldSelector.names_ofList {sel : FieldSelector} {cs : List Char}
    (h : ofName cs = some sel) : sel.Names (String.ofList cs).toList := by
  rw [String.toList_ofList]
  exact names_of_ofName h

theorem Predicate.isEmptyChoice_fieldIn {f : EventField} {vs : List Operand} :
    (fieldIn f vs).extent.isEmptyChoice = false ↔ vs ≠ [] := by
  simp [extent, Extent.ofChoice]

/-! ### Reading values -/

namespace Parameter

variable {p : Parameter}

theorem readSingle_eq_ok_iff {α : Type} {expected : Expectation} {read : String → Option α}
    {a : α} :
    p.readSingle expected read = .ok a ↔ ∃ v, p.values = [v] ∧ read (trimmed v) = some a := by
  rw [readSingle, bind_eq_ok_iff, single]
  cases hvalues : p.values with
  | nil => simp
  | cons v vs =>
    cases vs with
    | nil =>
      cases hread : read (trimmed v) with
      | none => simp [hread]
      | some b => simp [hread]
    | cons w ws => simp

theorem Says.unique {α : Type} {read : List Char → Option α} {a b : α} (ha : p.Says read a)
    (hb : p.Says read b) : a = b := by
  obtain ⟨v, hv, ha⟩ := ha
  obtain ⟨w, hw, hb⟩ := hb
  obtain rfl : v = w := List.singleton_inj.1 (hv.symm.trans hw)
  exact Option.some.inj (ha.symm.trans hb)

theorem says_of_time {t : Instant} (h : p.time = .ok t) : p.Says Instant.read t := by
  obtain ⟨v, hv, hread⟩ := readSingle_eq_ok_iff.1 h
  exact ⟨v, hv, hread⟩

theorem says_of_number {q : Binary64} (h : p.number = .ok q) : p.Says Binary64.read q := by
  obtain ⟨v, hv, hread⟩ := readSingle_eq_ok_iff.1 h
  exact ⟨v, hv, (Option.filter_eq_some_iff.1 hread).1⟩

/-- A value that is compared with is a number, or else a time. -/
theorem says_of_comparable {o : Operand} (h : p.comparable = .ok o) :
    (∃ q, p.Says Binary64.read q ∧ o = .number q) ∨
      (∀ q, ¬p.Says Binary64.read q) ∧ ∃ t, p.Says Instant.read t ∧ o = .time t := by
  obtain ⟨v, hv, hread⟩ := readSingle_eq_ok_iff.1 h
  cases hnumber : Binary64.read (trimmed v).toList with
  | some q =>
    rw [hnumber] at hread
    exact .inl ⟨q, ⟨v, hv, hnumber⟩, (Option.some.inj hread).symm⟩
  | none =>
    rw [hnumber] at hread
    obtain ⟨t, ht, rfl⟩ := Option.map_eq_some_iff.1 hread
    refine .inr ⟨?_, t, ⟨v, hv, ht⟩, rfl⟩
    rintro q ⟨w, hw, hq⟩
    obtain rfl : v = w := List.singleton_inj.1 (hv.symm.trans hw)
    exact absurd (hnumber.symm.trans hq) (by simp)

/-- The codes that are read are the values. -/
theorem map_code_of_each {α : Type} [Coded α] {expected : CodeClass} {as : List α}
    (h : p.each expected = .ok as) : as.map Coded.code = p.values.map trimmed := by
  refine map_eq_of_mapM (fun v a hv => ?_) h
  split at hv
  · next b hb =>
    obtain rfl := Except.ok.inj hv
    exact Coded.code_of_ofCode hb
  · exact absurd hv (by simp)

/-! ### Names that stand for themselves -/

/-- That a predicate holds of the recorded events that a parameter asks for.  It is not a hierarchy,
and chooses from a list that is not empty if there are values. -/
structure Meets (p : Parameter) (s : Store) (cs : List Captured) (f : Predicate) : Prop where
  startsWithin : f.startsWithin
  chooses : p.values ≠ [] → f.extent.isEmptyChoice = false
  holds_iff : ∀ x ∈ recorded cs, f.holds s x.row = true ↔ p.Asks x

variable {s : Store} {cs : List Captured}

theorem meets_of_scalarField {f : EventField} (h : scalarField p.name = some f) :
    p.Meets s cs (.fieldIn f p.operands) := by
  obtain ⟨name, values⟩ := p
  refine ⟨trivial, fun hvalues => ?_, fun x _ => ?_⟩
  · rw [Predicate.isEmptyChoice_fieldIn]
    simpa [operands] using hvalues
  simp only [scalarField] at h
  -- one case for each name
  split at h
  case h_7 => exact absurd h (by simp)
  all_goals
    obtain rfl := Option.some.inj h
    exact Recorded.holds_fieldIn rfl rfl s values

theorem meets_of_timeField {f : EventField} {c : Comparator} {t : Instant}
    (h : timeField p.name = some (f, c)) (ht : p.time = .ok t) :
    p.Meets s cs (.fieldCompare f c (.time t)) := by
  have hsays := says_of_time ht
  obtain ⟨name, values⟩ := p
  refine ⟨trivial, fun _ => rfl, fun x _ => ?_⟩
  simp only [timeField] at h
  split at h
  case h_5 => exact absurd h (by simp)
  all_goals
    obtain ⟨rfl, rfl⟩ := Prod.mk.inj (Option.some.inj h)
    rw [Recorded.holds_fieldCompare rfl rfl]
    constructor
    · intro hrel
      exact ⟨t, hsays, hrel⟩
    · rintro ⟨u, hu, hrel⟩
      obtain rfl := hu.unique hsays
      exact hrel

theorem meets_of_quantityComparator (h : s.Journal cs) {c : Comparator} {q : Binary64}
    (hc : quantityComparator p.name = some c) (hq : p.number = .ok q) :
    p.Meets s cs (.quantityCompare c q) := by
  have hsays := says_of_number hq
  have hmeasures (x : Recorded) (hx : x ∈ recorded cs) :
      (Predicate.quantityCompare c q).holds s x.row = true ↔ p.Measures c x := by
    rw [h.holds_quantityCompare hx]
    constructor
    · intro hfound
      exact ⟨q, hsays, hfound⟩
    · rintro ⟨q', hq', hfound⟩
      obtain rfl := hq'.unique hsays
      exact hfound
  obtain ⟨name, values⟩ := p
  simp only [quantityComparator] at hc
  split at hc
  case h_6 => exact absurd hc (by simp)
  all_goals
    obtain rfl := Option.some.inj hc
    exact ⟨trivial, fun _ => rfl, hmeasures⟩

theorem meets_of_rolesOfName (h : s.Journal cs) {roles : List EpcRole}
    (hroles : rolesOfName p.name = some roles) : p.Meets s cs (.epcIn roles p.values) := by
  have hmatches (x : Recorded) (hx : x ∈ recorded cs) :
      (Predicate.epcIn roles p.values).holds s x.row = true ↔ p.Matches roles x :=
    h.holds_epcIn hx roles p.values
  obtain ⟨name, values⟩ := p
  simp only [rolesOfName] at hroles
  split at hroles
  case h_10 => exact absurd hroles (by simp)
  all_goals
    obtain rfl := Option.some.inj hroles
    exact ⟨trivial, fun _ => rfl, hmatches⟩

theorem chooses_of_each {α : Type} [Coded α] {expected : CodeClass} {as : List α}
    (has : p.each expected = .ok as) {f : EventField} {make : α → Operand}
    (hvalues : p.values ≠ []) :
    (Predicate.fieldIn f (as.map make)).extent.isEmptyChoice = false := by
  have hcodes := map_code_of_each has
  rw [Predicate.isEmptyChoice_fieldIn]
  intro hnil
  rw [List.map_eq_nil_iff.1 hnil] at hcodes
  exact hvalues (List.map_eq_nil_iff.1 hcodes.symm)

/-- A field that is one of the codes that were read. -/
theorem holds_fieldIn_each {α : Type} [Coded α] {expected : CodeClass} {as : List α}
    (has : p.each expected = .ok as) {x : Recorded} {f : EventField} {o : Option String}
    (haffinity : f.affinity = .text) (hcell : x.row.cell f = .ofText? o) (s : Store) :
    (Predicate.fieldIn f (as.map fun a => .text (Coded.code a))).holds s x.row = true ↔
      ∃ v ∈ p.values, o = some (trimmed v) := by
  have hoperands : (as.map fun a => Operand.text (Coded.code a)) =
      (p.values.map trimmed).map .text := by
    rw [← map_code_of_each has, List.map_map]
    rfl
  rw [hoperands, Recorded.holds_fieldIn haffinity hcell]
  simp

theorem meets_of_wordClause (h : s.Journal cs) (hp : p.IsPlain) {c : Clause}
    (hc : p.wordClause = some (.ok c)) : ∃ f, c = .filter f ∧ p.Meets s cs f := by
  obtain ⟨hshaping, hdescent, -, -⟩ := hp
  simp only [isShaping, ← Bool.not_eq_true, List.contains_iff_mem, List.mem_cons, List.not_mem_nil,
    or_false, not_or] at hshaping
  obtain ⟨horder, hdirection, hlimit, hmax⟩ := hshaping
  obtain ⟨name, values⟩ := p
  simp only [wordClause] at hc
  -- one case for each word: those that are no plain filters are ruled out
  split at hc
  case h_1 =>
    obtain ⟨kinds, hkinds, hc⟩ := bind_eq_ok_iff.1 (Option.some.inj hc)
    obtain rfl := Except.ok.inj hc
    refine ⟨_, rfl, trivial, chooses_of_each hkinds, fun x _ => ?_⟩
    refine (holds_fieldIn_each (o := some x.event.kind.code) hkinds rfl rfl s).trans ?_
    exact exists_congr fun v => and_congr_right fun _ => Option.some_inj.trans eq_comm
  case h_2 =>
    obtain ⟨actions, hactions, hc⟩ := bind_eq_ok_iff.1 (Option.some.inj hc)
    obtain rfl := Except.ok.inj hc
    refine ⟨_, rfl, trivial, chooses_of_each hactions, fun x _ => ?_⟩
    refine (holds_fieldIn_each (o := x.event.action.map Action.code) hactions rfl rfl s).trans ?_
    refine exists_congr fun v => and_congr_right fun _ => Option.map_eq_some_iff.trans ?_
    exact exists_congr fun a => and_congr_right fun _ => eq_comm
  case h_3 => exact absurd rfl (hdescent "readPoint")
  case h_4 => exact absurd rfl (hdescent "bizLocation")
  case h_5 =>
    obtain rfl := Except.ok.inj (Option.some.inj hc)
    exact ⟨_, rfl, trivial, fun _ => rfl, fun x hx => h.holds_errorDeclared hx⟩
  case h_6 =>
    obtain rfl := Except.ok.inj (Option.some.inj hc)
    exact ⟨_, rfl, trivial, fun _ => rfl, fun x hx => h.holds_errorReasonIn hx values⟩
  case h_7 =>
    obtain rfl := Except.ok.inj (Option.some.inj hc)
    exact ⟨_, rfl, trivial, fun _ => rfl, fun x hx => h.holds_correctiveIdIn hx values⟩
  case h_8 => exact absurd rfl horder
  case h_9 => exact absurd rfl hdirection
  case h_10 => exact absurd rfl hlimit
  case h_11 => exact absurd rfl hmax
  case h_12 => exact absurd hc (by simp)

theorem meets_of_exactClause (h : s.Journal cs) (hp : p.IsPlain) {c : Clause}
    (hc : p.exactClause = some (.ok c)) : ∃ f, c = .filter f ∧ p.Meets s cs f := by
  unfold exactClause at hc
  split at hc
  · next f hf =>
    obtain rfl := Except.ok.inj (Option.some.inj hc)
    exact ⟨_, rfl, meets_of_scalarField hf⟩
  · split at hc
    · next f c hf =>
      obtain ⟨t, ht, rfl⟩ := map_eq_ok_iff.1 (Option.some.inj hc)
      exact ⟨_, rfl, meets_of_timeField hf ht⟩
    · split at hc
      · next c hcomparator =>
        obtain ⟨q, hq, rfl⟩ := map_eq_ok_iff.1 (Option.some.inj hc)
        exact ⟨_, rfl, meets_of_quantityComparator h hcomparator hq⟩
      · exact meets_of_wordClause h hp hc

/-- A name that does not stand for itself carries something. -/
theorem asks_eq_asksByName (hexact : p.exactClause = none) (hroles : rolesOfName p.name = none) :
    p.Asks = p.AsksByName := by
  obtain ⟨name, values⟩ := p
  simp only [Asks]
  split
  case h_30 => rfl
  all_goals
    first
      | exact absurd hexact (Option.some_ne_none _)
      | exact absurd hroles (Option.some_ne_none _)

/-- The names that stand for themselves. -/
def exactNames : List String :=
  ["EQ_bizStep", "EQ_disposition", "EQ_readPoint", "EQ_bizLocation", "EQ_transformationID",
    "EQ_eventID", "GE_eventTime", "LT_eventTime", "GE_recordTime", "LT_recordTime", "EQ_quantity",
    "GT_quantity", "GE_quantity", "LT_quantity", "LE_quantity", "eventType", "EQ_action",
    "WD_readPoint", "WD_bizLocation", "EXISTS_errorDeclaration", "EQ_errorReason",
    "EQ_correctiveEventID", "orderBy", "orderDirection", "eventCountLimit", "maxEventCount",
    "MATCH_epc", "MATCH_parentID", "MATCH_inputEPC", "MATCH_outputEPC", "MATCH_anyEPC",
    "MATCH_epcClass", "MATCH_inputEPCClass", "MATCH_outputEPCClass", "MATCH_anyEPCClass"]

/-- All other names carry something. -/
theorem exactClause_of_not_mem {p : Parameter} (h : p.name ∉ exactNames) :
    p.exactClause = none ∧ rolesOfName p.name = none := by
  obtain ⟨name, values⟩ := p
  replace h : name ∉ exactNames := h
  have hword : wordClause ⟨name, values⟩ = none := by
    simp only [wordClause]
    split
    case h_12 => rfl
    all_goals exact absurd (by decide) h
  have hscalar : scalarField name = none := by
    unfold scalarField
    split
    case h_7 => rfl
    all_goals exact absurd (by decide) h
  have htime : timeField name = none := by
    unfold timeField
    split
    case h_5 => rfl
    all_goals exact absurd (by decide) h
  have hquantity : quantityComparator name = none := by
    unfold quantityComparator
    split
    case h_6 => rfl
    all_goals exact absurd (by decide) h
  have hroles : rolesOfName name = none := by
    unfold rolesOfName
    split
    case h_10 => rfl
    all_goals exact absurd (by decide) h
  refine ⟨?_, hroles⟩
  simp only [exactClause, hscalar, htime, hquantity, hword]

/-- A name with a number sign does not stand for itself. -/
theorem exactClause_of_mem {p : Parameter} (h : '#' ∈ p.name.toList) :
    p.exactClause = none ∧ rolesOfName p.name = none := by
  have hnames : ∀ name ∈ exactNames, '#' ∉ name.toList := by decide +kernel
  exact exactClause_of_not_mem fun hmem => hnames _ hmem h

/-- A name with a word in front with which no exact name begins does not stand for itself. -/
theorem exactClause_of_word {p : Parameter} {word rest : String} (hname : p.name = word ++ rest)
    (hword : ∀ name ∈ exactNames, dropWord word.toList name.toList = none) :
    p.exactClause = none ∧ rolesOfName p.name = none := by
  refine exactClause_of_not_mem fun hmem => ?_
  exact dropWord_toList_eq_none_iff.1 (hword _ hmem) rest hname

/-! ### Names that carry something -/

/-- The filter that asks whether there is a custom field. -/
theorem clause_of_existence {p : Parameter} {rest : String} {sel : FieldSelector}
    (hname : p.name = "EXISTS_" ++ rest) (hsel : sel.Names rest.toList) :
    p.clause = .ok (.filter (.customExists sel)) := by
  obtain ⟨hexact, hroles⟩ := exactClause_of_mem (p := p) (by simp [hname, hsel.mem])
  have hother (word : String) (h : ∀ k, "EXISTS_" ++ rest ≠ word ++ k) :
      dropWord word.toList p.name.toList = none :=
    dropWord_toList_eq_none_iff.2 (hname ▸ h)
  have hrest : dropWord "EXISTS_".toList p.name.toList = some rest.toList := by
    rw [hname, String.toList_append, Text.dropWord_append]
  simp only [clause, hexact, familyClause, hroles, hrest, hsel.ofName_eq,
    hother "EQ_bizTransaction_" fun k => by simp [← String.toList_inj],
    hother "EQ_source_" fun k => by simp [← String.toList_inj],
    hother "EQ_destination_" fun k => by simp [← String.toList_inj],
    hother "EQATTR_" fun k => by simp [← String.toList_inj],
    hother "HASATTR_" fun k => by simp [← String.toList_inj]]

section AsksByName

variable {x : Recorded}

theorem asksByName_transaction {kind : String} (hname : p.name = "EQ_bizTransaction_" ++ kind) :
    p.AsksByName x ↔ ∃ t ∈ x.event.businessTransactions, t.kind = kind ∧ t.id ∈ p.values := by
  constructor
  · rintro (⟨k, hk, hfound⟩ | ⟨k, hk, -⟩ | ⟨k, hk, -⟩ | ⟨k, _, hk, -⟩ | ⟨_, _, _, -, -, hnot, -⟩)
    · rw [hname, String.append_right_inj] at hk
      exact hk ▸ hfound
    · simp [hname, ← String.toList_inj] at hk
    · simp [hname, ← String.toList_inj] at hk
    · simp [hname, ← String.toList_inj] at hk
    · exact absurd ⟨kind, .inl hname⟩ hnot
  · intro hfound
    exact .inl ⟨kind, hname, hfound⟩

theorem asksByName_source {kind : String} (hname : p.name = "EQ_source_" ++ kind) :
    p.AsksByName x ↔ p.Involves .source kind x := by
  constructor
  · rintro (⟨k, hk, -⟩ | ⟨k, hk, hfound⟩ | ⟨k, hk, -⟩ | ⟨k, _, hk, -⟩ | ⟨_, _, _, -, -, hnot, -⟩)
    · simp [hname, ← String.toList_inj] at hk
    · rw [hname, String.append_right_inj] at hk
      exact hk ▸ hfound
    · simp [hname, ← String.toList_inj] at hk
    · simp [hname, ← String.toList_inj] at hk
    · exact absurd ⟨kind, .inr (.inl hname)⟩ hnot
  · intro hfound
    exact .inr (.inl ⟨kind, hname, hfound⟩)

theorem asksByName_destination {kind : String} (hname : p.name = "EQ_destination_" ++ kind) :
    p.AsksByName x ↔ p.Involves .destination kind x := by
  constructor
  · rintro (⟨k, hk, -⟩ | ⟨k, hk, -⟩ | ⟨k, hk, hfound⟩ | ⟨k, _, hk, -⟩ | ⟨_, _, _, -, -, hnot, -⟩)
    · simp [hname, ← String.toList_inj] at hk
    · simp [hname, ← String.toList_inj] at hk
    · rw [hname, String.append_right_inj] at hk
      exact hk ▸ hfound
    · simp [hname, ← String.toList_inj] at hk
    · exact absurd ⟨kind, .inr (.inr hname)⟩ hnot
  · intro hfound
    exact .inr (.inr (.inl ⟨kind, hname, hfound⟩))

theorem asksByName_existence {rest : String} {sel : FieldSelector}
    (hname : p.name = "EXISTS_" ++ rest) (hsel : sel.Names rest.toList) :
    p.AsksByName x ↔ ∃ f, sel.Finds x.event f := by
  constructor
  · rintro (⟨k, hk, -⟩ | ⟨k, hk, -⟩ | ⟨k, hk, -⟩ | ⟨k, sel', hk, hsel', hfound⟩ | ⟨c, k, -, hk, -⟩)
    · simp [hname, ← String.toList_inj] at hk
    · simp [hname, ← String.toList_inj] at hk
    · simp [hname, ← String.toList_inj] at hk
    · rw [hname, String.append_right_inj] at hk
      obtain rfl := hk
      obtain rfl := hsel.unique hsel'
      exact hfound
    · exact absurd (hk.symm.trans hname) (c.word_append_ne k rest)
  · intro hfound
    exact .inr (.inr (.inr (.inl ⟨rest, sel, hname, hsel, hfound⟩)))

theorem asksByName_comparison {c : Comparator} {rest : String} {sel : FieldSelector}
    (hname : p.name = c.word ++ rest) (hsel : sel.Names rest.toList) (hnot : ¬p.CarriesKind) :
    p.AsksByName x ↔ ∃ f, sel.Finds x.event f ∧ p.AsksOfField f c := by
  constructor
  · rintro (⟨k, hk, -⟩ | ⟨k, hk, -⟩ | ⟨k, hk, -⟩ | ⟨k, sel', hk, -⟩ |
      ⟨c', k, sel', hk, hsel', -, hfound⟩)
    · exact absurd ⟨k, .inl hk⟩ hnot
    · exact absurd ⟨k, .inr (.inl hk)⟩ hnot
    · exact absurd ⟨k, .inr (.inr hk)⟩ hnot
    · exact absurd (hname.symm.trans hk) (c.word_append_ne rest k)
    · obtain ⟨rfl, rfl⟩ := Comparator.word_append_inj (hname.symm.trans hk)
      obtain rfl := hsel.unique hsel'
      exact hfound
  · intro hfound
    exact .inr (.inr (.inr (.inr ⟨c, rest, sel, hname, hsel, hnot, hfound⟩)))

end AsksByName

/-- A comparison with a number, if the value is one. -/
theorem asksOfField_number {c : Comparator} (hc : c ≠ .equal) {q : Binary64}
    (hq : p.Says Binary64.read q) (f : FieldContent) :
    p.AsksOfField f c ↔ ∃ n, f.number = some n ∧ c.RelatesNumbers n q := by
  unfold AsksOfField
  split
  · exact absurd rfl hc
  · constructor
    · rintro (⟨q', hq', hfound⟩ | ⟨hnone, -⟩)
      · obtain rfl := hq'.unique hq
        exact hfound
      · exact absurd hq (hnone q)
    · intro hfound
      exact .inl ⟨q, hq, hfound⟩

/-- A comparison with a time, if the value is no number. -/
theorem asksOfField_time {c : Comparator} (hc : c ≠ .equal)
    (hnone : ∀ q, ¬p.Says Binary64.read q) {t : Instant} (ht : p.Says Instant.read t)
    (f : FieldContent) :
    p.AsksOfField f c ↔ ∃ u, f.date = some u ∧ c.Relates u.millis t.millis := by
  unfold AsksOfField
  split
  · exact absurd rfl hc
  · constructor
    · rintro (⟨q, hq, -⟩ | ⟨-, t', ht', hfound⟩)
      · exact absurd hq (hnone q)
      · obtain rfl := ht'.unique ht
        exact hfound
    · intro hfound
      exact .inr ⟨hnone, t, ht, hfound⟩

theorem holds_customCompare (h : s.Journal cs) {x : Recorded} (hx : x ∈ recorded cs)
    (sel : FieldSelector) {c : Comparator} (hc : c ≠ .equal) {o : Operand}
    (ho : p.comparable = .ok o) :
    (Predicate.customCompare sel c o).holds s x.row = true ↔
      ∃ f, sel.Finds x.event f ∧ p.AsksOfField f c := by
  rcases says_of_comparable ho with ⟨q, hq, rfl⟩ | ⟨hnone, t, ht, rfl⟩
  · rw [h.holds_customCompare_number hx]
    exact exists_congr fun f => and_congr_right fun _ => (asksOfField_number hc hq f).symm
  · rw [h.holds_customCompare_time hx]
    exact exists_congr fun f => and_congr_right fun _ => (asksOfField_time hc hnone ht f).symm

theorem meets_of_customClause (h : s.Journal cs) (hasks : p.Asks = p.AsksByName)
    (hnot : ¬p.CarriesKind) {c : Clause} (hc : p.customClause = .ok c) :
    ∃ f, c = .filter f ∧ p.Meets s cs f := by
  unfold customClause at hc
  split at hc
  · exact absurd hc (by simp)
  · next front rest hsplit =>
    split at hc
    · next sel hfront hsel =>
      obtain rfl := Except.ok.inj hc
      have hname := Comparator.eq_word_append_of_splitFirst hsplit hfront
      refine ⟨_, rfl, trivial, fun _ => rfl, fun x hx => ?_⟩
      rw [h.holds_customIn hx, hasks, asksByName_comparison hname (FieldSelector.names_ofList hsel)
        hnot]
      rfl
    · next c sel hne hfront hsel =>
      obtain ⟨o, ho, rfl⟩ := map_eq_ok_iff.1 hc
      have hname := Comparator.eq_word_append_of_splitFirst hsplit hfront
      refine ⟨_, rfl, trivial, fun _ => rfl, fun x hx => ?_⟩
      rw [holds_customCompare h hx sel hne ho, hasks,
        asksByName_comparison hname (FieldSelector.names_ofList hsel) hnot]
    · exact absurd hc (by simp)

theorem meets_of_familyClause (h : s.Journal cs) (hp : p.IsPlain) (hexact : p.exactClause = none)
    {c : Clause} (hc : p.familyClause = .ok c) : ∃ f, c = .filter f ∧ p.Meets s cs f := by
  simp only [familyClause] at hc
  -- the families one after the other, in the order in which they are looked for
  split at hc
  · next roles hroles =>
    obtain rfl := Except.ok.inj hc
    exact ⟨_, rfl, meets_of_rolesOfName h hroles⟩
  rename_i hroles
  have hasks := asks_eq_asksByName hexact hroles
  split at hc
  · next kind hkind =>
    obtain rfl := Except.ok.inj hc
    refine ⟨_, rfl, trivial, fun _ => rfl, fun x hx => ?_⟩
    rw [h.holds_transactionIn hx, hasks,
      asksByName_transaction (dropWord_toList_eq_some_iff.1 hkind)]
  rename_i htransaction
  split at hc
  · next kind hkind =>
    obtain rfl := Except.ok.inj hc
    refine ⟨_, rfl, trivial, fun _ => rfl, fun x hx => ?_⟩
    rw [h.holds_partyIn hx, hasks, asksByName_source (dropWord_toList_eq_some_iff.1 hkind)]
    rfl
  rename_i hsource
  split at hc
  · next kind hkind =>
    obtain rfl := Except.ok.inj hc
    refine ⟨_, rfl, trivial, fun _ => rfl, fun x hx => ?_⟩
    rw [h.holds_partyIn hx, hasks, asksByName_destination (dropWord_toList_eq_some_iff.1 hkind)]
    rfl
  rename_i hdestination
  split at hc
  · next rest hrest => exact absurd (dropWord_toList_eq_some_iff.1 hrest) (hp.not_attribute _)
  split at hc
  · next rest hrest => exact absurd (dropWord_toList_eq_some_iff.1 hrest) (hp.not_presence _)
  split at hc
  · next rest hrest =>
    split at hc
    · next sel hsel =>
      obtain rfl := Except.ok.inj hc
      refine ⟨_, rfl, trivial, fun _ => rfl, fun x hx => ?_⟩
      rw [h.holds_customExists hx, hasks, asksByName_existence
        (dropWord_toList_eq_some_iff.1 hrest) (FieldSelector.names_ofList hsel)]
    · exact absurd hc (by simp)
  · refine meets_of_customClause h hasks ?_ hc
    rintro ⟨kind, hkind | hkind | hkind⟩
    · exact dropWord_toList_eq_none_iff.1 htransaction kind hkind
    · exact dropWord_toList_eq_none_iff.1 hsource kind hkind
    · exact dropWord_toList_eq_none_iff.1 hdestination kind hkind

/-- **A filter finds the recorded events that it asks for.** -/
theorem meets_of_clause (h : s.Journal cs) (hp : p.IsPlain) {c : Clause} (hc : p.clause = .ok c) :
    ∃ f, c = .filter f ∧ p.Meets s cs f := by
  unfold clause at hc
  split at hc
  · next r hr =>
    subst hc
    exact meets_of_exactClause h hp hr
  · next hexact => exact meets_of_familyClause h hp hexact hc

end Parameter

end Provenance
