import Mathlib.Data.List.Nodup
import Provenance.Proofs.Event.Reassembly
import Provenance.Proofs.Query.Meaning

/-!
# Matching events

The event query chooses rows of recorded events by what stands in their rows and in the rows of
their parts.  The rows of the parts of an event are made of the event alone and are found by its
key, so a predicate holds of the row of a recorded event exactly if it is so of the event as it was
captured.

## Main results

* `Store.Journal.isMet_ofParts` — **the parts that are found for a recorded event are its own.**
* `FieldSelector.exists_mem_fieldRows` — the custom fields that a selector finds.
* `Store.Journal.holds_transactionIn` and the lemmas beside it — what each predicate on parts means.
* `Recorded.holds_fieldIn`, `Recorded.holds_fieldCompare` — what predicates on fields mean.
-/

namespace Provenance

/-! ### Comparing cells -/

/-- What a column does not keep is not a number. -/
theorem Binary64.units_eq_none_of_stored {x : Binary64} (h : x.stored = none) :
    x.units = none := by
  unfold stored at h
  split at h
  · next hnan => rw [units, if_pos hnan]
  · split at h <;> exact absurd h (by simp)

namespace Comparator

theorem test_compare (c : Comparator) (m n : Int) :
    c.test (some (compare m n)) = true ↔ c.Relates m n := by
  rcases Int.lt_trichotomy m n with h | rfl | h
  · rw [Int.compare_eq_lt.2 h]
    cases c <;> simp [test, Relates] <;> omega
  · rw [Int.compare_eq_eq.2 rfl]
    cases c <;> simp [test, Relates]
  · rw [Int.compare_eq_gt.2 h]
    cases c <;> simp [test, Relates] <;> omega

theorem test_order_integer (c : Comparator) (m n : Int) :
    c.test ((Cell.integer m).order (.integer n)) = true ↔ c.Relates m n := by
  rw [Cell.order_integer, test_compare]

/-- A text that may be missing. -/
theorem test_order_text (o : Option String) (v : String) :
    equal.test ((Cell.ofText? o).order (.text v)) = true ↔ o = some v := by
  cases o with
  | none => simp [Cell.ofText?, test]
  | some t => simp [Cell.ofText?, test]

/-- A time that may be missing. -/
theorem test_order_date (c : Comparator) (o : Option Instant) (n : Int) :
    c.test ((Cell.ofInt? (o.map Instant.millis)).order (.integer n)) = true ↔
      ∃ u, o = some u ∧ c.Relates u.millis n := by
  cases o with
  | none => simp [Cell.ofInt?, test]
  | some u => simpa [Cell.ofInt?] using c.test_compare u.millis n

/-- A number as a column keeps it. -/
theorem test_order_stored (c : Comparator) (o : Option Binary64) (y : Binary64) :
    c.test ((Cell.ofReal? (o.bind Binary64.stored)).order (.real y)) = true ↔
      ∃ n, o = some n ∧ c.RelatesNumbers n y := by
  cases o with
  | none => simp [Cell.ofReal?, test]
  | some n =>
    have horder : (Cell.ofReal? n.stored).order (.real y) =
        (do some (compare (← n.units) (← y.units))) := by
      cases hstored : n.stored with
      | none =>
        rw [Binary64.units_eq_none_of_stored hstored, Cell.ofReal?, Cell.order_null_left]
        rfl
      | some m =>
        rw [← Binary64.units_of_stored hstored]
        rfl
    rw [Option.bind_some, horder]
    cases hn : n.units with
    | none => simp [RelatesNumbers, hn, test]
    | some i =>
      cases hy : y.units with
      | none => simp [RelatesNumbers, hy, test]
      | some j => simpa [RelatesNumbers, hn, hy] using c.test_compare i j

end Comparator

/-! ### The rows of parts -/

/-- The rows of custom fields: each field, and the fields inside of it. -/
theorem exists_mem_fieldRowsFrom {request : Int} {event : Nat} {P : FieldRow → Prop}
    {top inside : FieldContent → Prop}
    (htop : ∀ i c, P (Event.fieldRow request event i none c) ↔ top c)
    (hinside : ∀ i j c, P (Event.fieldRow request event i (some j) c) ↔ inside c)
    (start : Nat) (gs : List CustomField) :
    (∃ r ∈ Event.fieldRowsFrom request event start gs, P r) ↔
      ∃ g ∈ gs, top g.content ∨ ∃ d ∈ g.children, inside d.content := by
  induction gs generalizing start with
  | nil => simp [Event.fieldRowsFrom]
  | cons g gs ih =>
    simp only [Event.fieldRowsFrom, List.mem_append, List.mem_cons, or_and_right, exists_or,
      exists_eq_left, htop, ih]
    rw [exists_mem_numbered fun i d => hinside i start d.content, or_assoc]

namespace FieldSelector

theorem selects_fieldRow (sel : FieldSelector) (request : Int) (event i : Nat)
    (parent : Option Nat) (c : FieldContent) :
    sel.selects (Event.fieldRow request event i parent c) = true ↔
      (c.origin = sel.origin ∧ c.space = sel.space ∧ c.name = sel.name) ∧
        parent.isSome = sel.inner := by
  have hcode : c.origin.code = sel.origin.code ↔ c.origin = sel.origin :=
    ⟨fun h => Coded.code_injective c.origin sel.origin h, congrArg _⟩
  have hparent : (Cell.ofInt? (parent.map fun p => (p : Int)) != .null) = parent.isSome := by
    cases parent <;> rfl
  simp only [selects, Event.fieldRow, hparent, Bool.and_eq_true, beq_iff_eq, hcode, and_assoc]

/-- The rows of an event hold a custom field that is selected and passes a test exactly if the event
has one. -/
theorem exists_mem_fieldRows (sel : FieldSelector) {wanted : FieldRow → Bool}
    {P : FieldContent → Prop} {request : Int} {event : Nat}
    (hwanted : ∀ i parent c, wanted (Event.fieldRow request event i parent c) = true ↔ P c)
    (e : Event) :
    (∃ r ∈ e.fieldRows request event, sel.selects r = true ∧ wanted r = true) ↔
      ∃ c, sel.Finds e c ∧ P c := by
  have hrow (i : Nat) (parent : Option Nat) (c : FieldContent) :=
    and_congr (sel.selects_fieldRow request event i parent c) (hwanted i parent c)
  have hinside (i j : Nat) (c : FieldContent) :
      sel.selects (Event.fieldRow request event i (some j) c) = true ∧
        wanted (Event.fieldRow request event i (some j) c) = true ↔
      ((c.origin = sel.origin ∧ c.space = sel.space ∧ c.name = sel.name) ∧ true = sel.inner) ∧
        P c :=
    hrow i (some j) c
  rw [Event.fieldRows, exists_mem_fieldRowsFrom (fun i c => hrow i none c) hinside]
  cases hinner : sel.inner with
  | false => simp [Finds, hinner, and_assoc]
  | true => simp [Finds, hinner, and_assoc]

end FieldSelector

namespace Store.Journal

variable {s : Store} {cs : List Captured}

/-- **The parts that are found for a recorded event are its own.** -/
theorem isMet_ofParts (h : s.Journal cs) {t : Table} (ht : t.isOfEvents = true)
    {owner : t.Row → PairKey} (howner : ∀ x : Recorded, ∀ r ∈ x.rows t, owner r = x.key)
    (wanted : t.Row → Bool) {x : Recorded} (hx : x ∈ recorded cs) :
    (Demand.ofParts (s.rows t) owner wanted).isMet x.row = true ↔
      ∃ r ∈ x.rows t, wanted r = true := by
  rw [Demand.ofParts, Demand.isMet, List.contains_iff_mem, List.mem_map]
  constructor
  · rintro ⟨r, hr, hkey⟩
    obtain ⟨hr, hwanted⟩ := List.mem_filter.1 hr
    rw [h.rows_eq_flatMap ht] at hr
    obtain ⟨y, hy, hr⟩ := List.mem_flatMap.1 hr
    -- a key belongs to one recorded event
    rw [howner y r hr] at hkey
    obtain rfl := List.inj_on_of_nodup_map h.recorded_keys_nodup hy hx hkey
    exact ⟨r, hr, hwanted⟩
  · rintro ⟨r, hr, hwanted⟩
    refine ⟨r, List.mem_filter.2 ⟨?_, hwanted⟩, howner x r hr⟩
    rw [h.rows_eq_flatMap ht]
    exact List.mem_flatMap.2 ⟨x, hx, hr⟩

variable {x : Recorded}

theorem holds_transactionIn (h : s.Journal cs) (hx : x ∈ recorded cs) (kind : String)
    (ids : List String) :
    (Predicate.transactionIn kind ids).holds s x.row = true ↔
      ∃ t ∈ x.event.businessTransactions, t.kind = kind ∧ t.id ∈ ids := by
  refine (h.isMet_ofParts (t := .transactions) rfl Recorded.owner_transactionRows _ hx).trans ?_
  exact exists_mem_numbered (fun i t => by simp) 0 _

theorem holds_partyIn (h : s.Journal cs) (hx : x ∈ recorded cs) (d : Direction) (kind : String)
    (ids : List String) :
    (Predicate.partyIn d kind ids).holds s x.row = true ↔
      ∃ q ∈ x.event.parties, q.direction = d ∧ q.kind = kind ∧ q.id ∈ ids := by
  have hcode (q : Party) : q.direction.code = d.code ↔ q.direction = d :=
    ⟨fun h => Coded.code_injective q.direction d h, congrArg _⟩
  refine (h.isMet_ofParts (t := .parties) rfl Recorded.owner_partyRows _ hx).trans ?_
  exact exists_mem_numbered (fun i q => by simp [hcode, and_assoc]) 0 _

theorem holds_epcIn (h : s.Journal cs) (hx : x ∈ recorded cs) (roles : List EpcRole)
    (vs : List String) :
    (Predicate.epcIn roles vs).holds s x.row = true ↔
      ∃ o ∈ x.event.epcs, o.role ∈ roles ∧ o.value ∈ vs := by
  have hinjective : Function.Injective EpcRole.code := Coded.code_injective
  refine (h.isMet_ofParts (t := .epcs) rfl Recorded.owner_epcRows _ hx).trans ?_
  refine exists_mem_numbered (fun i o => ?_) 0 _
  rw [Bool.and_eq_true, List.contains_iff_mem, List.contains_iff_mem]
  exact and_congr_left' (List.mem_map_of_injective hinjective)

theorem holds_quantityCompare (h : s.Journal cs) (hx : x ∈ recorded cs) (c : Comparator)
    (y : Binary64) :
    (Predicate.quantityCompare c y).holds s x.row = true ↔
      ∃ o ∈ x.event.epcs, o.role.isQuantity = true ∧
        ∃ n, o.quantity = some n ∧ c.RelatesNumbers n y := by
  have hflag (b : Bool) : (Cell.integer (if b then 1 else 0)).same (.integer 1) = b := by
    rw [Cell.same, Cell.order_integer]
    cases b <;> decide
  refine (h.isMet_ofParts (t := .epcs) rfl Recorded.owner_epcRows _ hx).trans ?_
  refine exists_mem_numbered (fun i o => ?_) 0 _
  simp only [Event.epcRow, Bool.and_eq_true, hflag, c.test_order_stored]

theorem holds_errorDeclared (h : s.Journal cs) (hx : x ∈ recorded cs) :
    Predicate.errorDeclared.holds s x.row = true ↔ ∃ d, x.event.errorDeclaration = some d := by
  refine (h.isMet_ofParts (t := .declarations) rfl Recorded.owner_declarationRows _ hx).trans ?_
  simp [Recorded.rows, Event.declarationRows]

theorem isOneOf_eq_true_iff {o : Option String} {ss : List String} :
    isOneOf o ss = true ↔ ∃ t ∈ ss, o = some t := by
  cases o <;> simp [isOneOf]

theorem holds_errorReasonIn (h : s.Journal cs) (hx : x ∈ recorded cs) (reasons : List String) :
    (Predicate.errorReasonIn reasons).holds s x.row = true ↔
      ∃ d, x.event.errorDeclaration = some d ∧ ∃ v ∈ reasons, d.reason = some v := by
  refine (h.isMet_ofParts (t := .declarations) rfl Recorded.owner_declarationRows _ hx).trans ?_
  simp [Recorded.rows, Event.declarationRows, isOneOf_eq_true_iff]

theorem holds_correctiveIdIn (h : s.Journal cs) (hx : x ∈ recorded cs) (ids : List String) :
    (Predicate.correctiveIdIn ids).holds s x.row = true ↔
      ∃ d, x.event.errorDeclaration = some d ∧ ∃ id ∈ d.correctiveIds, id ∈ ids := by
  refine (h.isMet_ofParts (t := .correctives) rfl Recorded.owner_correctiveRows _ hx).trans ?_
  cases hd : x.event.errorDeclaration with
  | none => simp [Recorded.rows, Event.correctiveRows, hd]
  | some d =>
    simp only [Recorded.rows, Event.correctiveRows, hd, Option.toList_some, List.flatMap_cons,
      List.flatMap_nil, List.append_nil]
    rw [exists_mem_numbered fun i id => List.contains_iff_mem]
    simp

/-- A condition on custom fields. -/
theorem isMet_ofFields (h : s.Journal cs) (hx : x ∈ recorded cs) (sel : FieldSelector)
    {wanted : FieldRow → Bool} {P : FieldContent → Prop}
    (hwanted : ∀ request event i parent c,
      wanted (Event.fieldRow request event i parent c) = true ↔ P c) :
    (Demand.ofParts s.fields FieldRow.owner fun r => sel.selects r && wanted r).isMet x.row =
      true ↔ ∃ c, sel.Finds x.event c ∧ P c := by
  refine (h.isMet_ofParts (t := .fields) rfl Recorded.owner_fieldRows _ hx).trans ?_
  rw [← sel.exists_mem_fieldRows (hwanted x.captured.id x.index)]
  exact exists_congr fun r => and_congr_right fun _ => Bool.and_eq_true_iff

theorem holds_customIn (h : s.Journal cs) (hx : x ∈ recorded cs) (sel : FieldSelector)
    (vs : List String) :
    (Predicate.customIn sel vs).holds s x.row = true ↔
      ∃ c, sel.Finds x.event c ∧ ∃ v ∈ vs, c.text = some v :=
  h.isMet_ofFields hx sel fun _ _ _ _ _ => isOneOf_eq_true_iff

theorem holds_customExists (h : s.Journal cs) (hx : x ∈ recorded cs) (sel : FieldSelector) :
    (Predicate.customExists sel).holds s x.row = true ↔ ∃ c, sel.Finds x.event c := by
  have hall : (Demand.ofParts s.fields FieldRow.owner fun r => sel.selects r && true).isMet x.row =
      true ↔ ∃ c, sel.Finds x.event c ∧ True :=
    h.isMet_ofFields hx sel fun _ _ _ _ _ => iff_of_true rfl trivial
  simpa [Predicate.holds, Predicate.demand] using hall

theorem holds_customCompare_number (h : s.Journal cs) (hx : x ∈ recorded cs) (sel : FieldSelector)
    (c : Comparator) (y : Binary64) :
    (Predicate.customCompare sel c (.number y)).holds s x.row = true ↔
      ∃ f, sel.Finds x.event f ∧ ∃ n, f.number = some n ∧ c.RelatesNumbers n y :=
  h.isMet_ofFields hx sel fun _ _ _ _ f => c.test_order_stored f.number y

theorem holds_customCompare_time (h : s.Journal cs) (hx : x ∈ recorded cs) (sel : FieldSelector)
    (c : Comparator) (t : Instant) :
    (Predicate.customCompare sel c (.time t)).holds s x.row = true ↔
      ∃ f, sel.Finds x.event f ∧ ∃ u, f.date = some u ∧ c.Relates u.millis t.millis :=
  h.isMet_ofFields hx sel fun _ _ _ _ f => c.test_order_date f.date t.millis

end Store.Journal

/-! ### Conditions on the row of an event -/

namespace Recorded

variable {x : Recorded}

theorem holds_fieldIn {f : EventField} {o : Option String} (haffinity : f.affinity = .text)
    (hcell : x.row.cell f = .ofText? o) (s : Store) (vs : List String) :
    (Predicate.fieldIn f (vs.map .text)).holds s x.row = true ↔ ∃ v ∈ vs, o = some v := by
  have htest (v : String) :
      Comparator.equal.test (x.row.compareTo f (.text v)) = true ↔ o = some v := by
    rw [EventRow.compareTo, hcell, haffinity]
    exact Comparator.test_order_text o v
  simp [Predicate.holds, Predicate.demand, Demand.isMet, Operand.cell, htest]

theorem holds_fieldCompare {f : EventField} {u : Instant} (haffinity : f.affinity = .integer)
    (hcell : x.row.cell f = .integer u.millis) (s : Store) (c : Comparator) (t : Instant) :
    (Predicate.fieldCompare f c (.time t)).holds s x.row = true ↔
      c.Relates u.millis t.millis := by
  rw [← c.test_order_integer, ← hcell]
  simp [Predicate.holds, Predicate.demand, Demand.isMet, Operand.cell, EventRow.compareTo,
    haffinity]

end Recorded

end Provenance
