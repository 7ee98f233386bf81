import Mathlib.Data.List.Basic
import Provenance.Query.Statement

/-!
# What the holes of a statement are filled with

A statement is a text with holes and the values that fill them in order.  What is asked for reaches
the text only through its shape: how many values there are, and of which kinds, but never what they
are.  So two queries of the same shape have the same text, and there is nothing that a value could
be written with that would change it.

There are as many holes as values, in every condition as in the whole.  So the conditions can be
taken apart: those of a longer list are those of its parts, with the values in the same order, and
the holes in the text of a condition are filled with the values of that condition.

## Main definitions

* `Statement.IsFilled`, `Statement.bindings` — holes and values.
* `Predicate.bound`, `MasterDataFilter.bound` — the values of a condition.
* `Predicate.erase`, `EventQuery.erase`, `MasterDataQuery.erase` — the shape of a query.
* `MasterDataFilter` — the restrictions of a query for master data, one by one.

## Main results

* `Predicate.isFilled_condition`, `Predicate.values_condition`, `Predicate.text_condition_erase`.
* `Statement.exists_join_insert` — one statement among joined ones.
* `EventQuery.statement_compositional` — **texts and values of the statements.**
-/

namespace Provenance

/-! ### Holes -/

/-- That a text has no hole in it. -/
def HoleFree (a : String) : Prop := '?' ∉ a.toList

namespace HoleFree

variable {a b : String}

/-- A text that is written out is compared by its characters. -/
theorem ofList {cs : List Char} (h : '?' ∉ cs) : HoleFree (String.ofList cs) := by
  unfold HoleFree
  rwa [String.toList_ofList]

theorem append (ha : HoleFree a) (hb : HoleFree b) : HoleFree (a ++ b) := by
  unfold HoleFree
  rw [String.toList_append, List.mem_append, not_or]
  exact ⟨ha, hb⟩

theorem column (f : EventField) : HoleFree f.column := by
  cases f <;> exact .ofList (by decide)

theorem operator (c : Comparator) : HoleFree c.operator := by
  cases c <;> exact .ofList (by decide)

theorem customColumn (v : Operand) : HoleFree v.customColumn := by
  cases v <;> exact .ofList (by decide)

theorem word (d : SortDirection) : HoleFree d.word := by
  cases d <;> exact .ofList (by decide)

theorem latestCapture {short idColumn : String} (hs : HoleFree short) (hc : HoleFree idColumn) :
    HoleFree (latestCapture short idColumn) := by
  unfold Provenance.latestCapture
  refine .append (.append (.append (.append (.append (.append (.append (.append (.append (.append
    (.append (.append ?_ hs) ?_) hs) ?_) hc) ?_) hs) ?_) hs) ?_) hs) ?_ <;>
    exact .ofList (by decide)

end HoleFree

namespace Statement

attribute [ext] Statement

/-- That there are as many holes in the text as there are values. -/
def IsFilled (s : Statement) : Prop := s.text.toList.count '?' = s.values.length

/-- The holes, by their places in the text, with their values; places are counted from `n`. -/
def bindings (n : Nat) (s : Statement) : List (Nat × Cell) :=
  (s.text.toList.findIdxs (· == '?') n).zip s.values

variable {s t : Statement} {a : String} {n : Nat}

theorem isFilled_lit (h : HoleFree a) : (lit a).IsFilled :=
  List.count_eq_zero.2 h

theorem isFilled_hole (c : Cell) : (hole c).IsFilled :=
  show "?".toList.count '?' = 1 by decide

theorem IsFilled.append (hs : s.IsFilled) (ht : t.IsFilled) : (s ++ t).IsFilled := by
  unfold IsFilled at *
  rw [text_append, values_append, String.toList_append, List.count_append, List.length_append, hs,
    ht]

theorem IsFilled.lit (hs : s.IsFilled) (h : HoleFree a) : (s ++ Statement.lit a).IsFilled :=
  hs.append (isFilled_lit h)

theorem IsFilled.hole (hs : s.IsFilled) (c : Cell) : (s ++ Statement.hole c).IsFilled :=
  hs.append (isFilled_hole c)

theorem append_assoc (s t u : Statement) : s ++ t ++ u = s ++ (t ++ u) :=
  Statement.ext (String.append_assoc ..) (List.append_assoc ..)

@[simp] theorem empty_append (s : Statement) : Statement.lit "" ++ s = s :=
  Statement.ext String.empty_append (List.nil_append _)

@[simp] theorem append_empty (s : Statement) : s ++ Statement.lit "" = s :=
  Statement.ext String.append_empty (List.append_nil _)

/-- In statements put one after the other, the holes of each have its values. -/
theorem IsFilled.bindings_append (hs : s.IsFilled) :
    (s ++ t).bindings n = s.bindings n ++ t.bindings (n + s.text.length) := by
  unfold bindings
  rw [text_append, values_append, String.toList_append, List.findIdxs_append, String.length_toList]
  refine List.zip_append ?_
  rw [List.length_findIdxs]
  exact hs

/-- The holes lie within the text. -/
theorem place_of_mem_bindings {i : Nat} {v : Cell} (h : (i, v) ∈ s.bindings n) :
    n ≤ i ∧ i < n + s.text.length := by
  have hi := (List.of_mem_zip h).1
  refine ⟨List.ge_of_mem_findIdxs i hi, ?_⟩
  rw [← String.length_toList, Nat.add_comm]
  exact List.lt_add_of_mem_findIdxs i hi

/-- That a part of a statement has its own values in its holes, wherever they are. -/
structure BindsPart (whole before part after : Statement) : Prop where
  eq : whole = before ++ part ++ after
  bindings : whole.bindings 0 = before.bindings 0 ++ part.bindings before.text.length ++
    after.bindings (before.text.length + part.text.length)
  mem : ∀ i v, (i, v) ∈ whole.bindings 0 → before.text.length ≤ i →
    i < before.text.length + part.text.length → v ∈ part.values

theorem bindsPart {before part after : Statement} (hbefore : before.IsFilled)
    (hpart : part.IsFilled) : BindsPart (before ++ part ++ after) before part after := by
  have hbindings : (before ++ part ++ after).bindings 0 = before.bindings 0 ++
      part.bindings before.text.length ++
        after.bindings (before.text.length + part.text.length) := by
    rw [(hbefore.append hpart).bindings_append, hbefore.bindings_append, text_append,
      String.length_append, Nat.zero_add, Nat.zero_add]
  refine ⟨rfl, hbindings, fun i v hmem hle hlt => ?_⟩
  rw [hbindings] at hmem
  rcases List.mem_append.1 hmem with hmem | hmem
  · rcases List.mem_append.1 hmem with hmem | hmem
    · have := (place_of_mem_bindings hmem).2
      omega
    · exact (List.of_mem_zip hmem).2
  · have := (place_of_mem_bindings hmem).1
    omega

/-! ### Joined statements -/

theorem text_join (sep : String) (ss : List Statement) :
    (join sep ss).text = sep.intercalate (ss.map text) := rfl

theorem values_join (sep : String) (ss : List Statement) :
    (join sep ss).values = ss.flatMap values := rfl

@[simp] theorem join_singleton (sep : String) (s : Statement) : join sep [s] = s := by
  simp [join]

theorem join_append (sep : String) {ss ts : List Statement} (hs : ss ≠ []) (ht : ts ≠ []) :
    join sep (ss ++ ts) = join sep ss ++ lit sep ++ join sep ts := by
  apply Statement.ext
  · show sep.intercalate ((ss ++ ts).map text) = _
    rw [List.map_append, String.intercalate_append_of_ne_nil (by simpa) (by simpa)]
    rfl
  · show (ss ++ ts).flatMap values = ss.flatMap values ++ [] ++ ts.flatMap values
    rw [List.flatMap_append, List.append_nil]

theorem join_cons (sep : String) (s : Statement) {ss : List Statement} (hs : ss ≠ []) :
    join sep (s :: ss) = s ++ lit sep ++ join sep ss := by
  have h := join_append sep (List.cons_ne_nil s []) hs
  rwa [join_singleton] at h

theorem isFilled_join {sep : String} (hsep : HoleFree sep) {ss : List Statement}
    (h : ∀ s ∈ ss, s.IsFilled) : (join sep ss).IsFilled := by
  induction ss with
  | nil => exact isFilled_lit (a := "") (.ofList (by decide))
  | cons s ss ih =>
    obtain ⟨hs, hss⟩ := List.forall_mem_cons.1 h
    rcases eq_or_ne ss [] with rfl | hne
    · rwa [join_singleton]
    · rw [join_cons sep s hne]
      exact (hs.lit hsep).append (ih hss)

/-- **One statement among joined ones** stands as it is, between filled ones with the values of the
others. -/
theorem exists_join_insert (sep : String) (hsep : HoleFree sep) {ss ts : List Statement}
    (s : Statement) (hss : ∀ s ∈ ss, s.IsFilled) (hts : ∀ s ∈ ts, s.IsFilled) :
    ∃ before after : Statement, join sep (ss ++ s :: ts) = before ++ s ++ after ∧
      before.IsFilled ∧ before.values = ss.flatMap values ∧
      after.IsFilled ∧ after.values = ts.flatMap values := by
  obtain ⟨before, hjoin, hfilled, hvalues⟩ : ∃ before : Statement,
      join sep (ss ++ s :: ts) = before ++ join sep (s :: ts) ∧ before.IsFilled ∧
        before.values = ss.flatMap values := by
    rcases eq_or_ne ss [] with rfl | hne
    · exact ⟨lit "", (empty_append _).symm, isFilled_lit (.ofList (by decide)), rfl⟩
    · exact ⟨join sep ss ++ lit sep, join_append sep hne (by simp),
        (isFilled_join hsep hss).lit hsep, List.append_nil _⟩
  rcases eq_or_ne ts [] with rfl | hne
  · refine ⟨before, lit "", ?_, hfilled, hvalues, isFilled_lit (.ofList (by decide)), rfl⟩
    rw [hjoin, join_singleton, append_empty]
  · refine ⟨before, lit sep ++ join sep ts, ?_, hfilled, hvalues,
      (isFilled_lit hsep).append (isFilled_join hsep hts), List.nil_append _⟩
    rw [hjoin, join_cons sep s hne, append_assoc, append_assoc]

/-! ### Holes in a row -/

theorem isFilled_holes (cs : List Cell) : (holes cs).IsFilled :=
  isFilled_join (.ofList (by decide)) fun s hs => by
    obtain ⟨c, -, rfl⟩ := List.mem_map.1 hs
    exact isFilled_hole c

theorem IsFilled.holes (hs : s.IsFilled) (cs : List Cell) : (s ++ Statement.holes cs).IsFilled :=
  hs.append (isFilled_holes cs)

/-- The text of a row of holes depends on their number only. -/
@[simp] theorem text_holes (cs : List Cell) :
    (Statement.holes cs).text = ", ".intercalate (List.replicate cs.length "?") := by
  show ", ".intercalate ((cs.map Statement.hole).map text) = _
  rw [List.map_map, ← List.map_const]
  rfl

@[simp] theorem text_texts (ss : List String) :
    (texts ss).text = ", ".intercalate (List.replicate ss.length "?") := by
  rw [texts, text_holes, List.length_map]

@[simp] theorem values_texts (ss : List String) : (texts ss).values = ss.map .text :=
  values_holes _

end Statement

open Statement

variable {s : Statement}

/-! ### Parts of conditions -/

/-- The vocabulary of a field as it is bound. -/
def EventField.bound (f : EventField) : List Cell := f.vocabulary.toList.map .text

/-- What is bound to select a custom field. -/
def FieldSelector.bound (s : FieldSelector) : List Cell :=
  [.text s.origin.code, .text s.space, .text s.name]

theorem isFilled_rowsOfEvent {table short : String} (ht : HoleFree table) (hs : HoleFree short) :
    (rowsOfEvent table short).IsFilled := by
  refine isFilled_lit (.append (.append (.append (.append (.append (.append (.append (.append ?_ ht)
    ?_) hs) ?_) hs) ?_) hs) ?_) <;> exact .ofList (by decide)

theorem Statement.IsFilled.existsRow (h : s.IsFilled) : (existsRow s).IsFilled := by
  refine .lit (.append (isFilled_lit ?_) h) ?_ <;> exact .ofList (by decide)

/-- A row of ids to begin with, each with a hole. -/
theorem isFilled_seeds (ids : List String) :
    (join ", " (ids.map fun id => lit "(" ++ hole (.text id) ++ lit ")")).IsFilled := by
  refine isFilled_join (.ofList (by decide)) fun s hs => ?_
  obtain ⟨id, -, rfl⟩ := List.mem_map.1 hs
  exact ((isFilled_lit (.ofList (by decide))).hole _).lit (.ofList (by decide))

theorem isFilled_descendants (vocabulary : Option String) (ids : List String) :
    (descendants vocabulary ids).IsFilled := by
  refine .lit (.append (.lit (.append (isFilled_lit ?_) (isFilled_seeds ids)) (.append (.append
    (.append ?_ ?_) (.latestCapture ?_ ?_)) ?_)) ?vocabulary) ?_
  case vocabulary =>
    cases vocabulary with
    | none => exact isFilled_lit (.ofList (by decide))
    | some v => exact (isFilled_lit (.ofList (by decide))).hole _
  all_goals exact .ofList (by decide)

theorem values_descendants (vocabulary : Option String) (ids : List String) :
    (descendants vocabulary ids).values = ids.map .text ++ vocabulary.toList.map .text := by
  have hseeds : (join ", " (ids.map fun id => lit "(" ++ hole (.text id) ++ lit ")")).values =
      ids.map .text := by
    rw [values_join, List.flatMap_map, List.map_eq_flatMap]
    rfl
  cases vocabulary <;> simp [descendants, hseeds]

theorem text_descendants (vocabulary : Option String) {ids ids' : List String}
    (h : ids.length = ids'.length) :
    (descendants vocabulary ids).text = (descendants vocabulary ids').text := by
  have hseeds (ids : List String) :
      (join ", " (ids.map fun id => lit "(" ++ hole (.text id) ++ lit ")")).text =
        ", ".intercalate (List.replicate ids.length "(?)") := by
    rw [text_join, List.map_map, ← List.map_const]
    rfl
  cases vocabulary <;> simp only [descendants, text_append, hseeds, h]

theorem isFilled_attributesOfField (f : EventField) : (attributesOfField f).IsFilled := by
  refine .lit (.append (isFilled_lit (.append ?_ ?_)) ?vocabulary) (.append (.append (.append ?_
    (.column f)) ?_) (.latestCapture ?_ ?_))
  case vocabulary =>
    cases f.vocabulary with
    | none => exact isFilled_lit (.ofList (by decide))
    | some v => exact ((isFilled_lit (.ofList (by decide))).hole _).lit (.ofList (by decide))
  all_goals exact .ofList (by decide)

theorem values_attributesOfField (f : EventField) : (attributesOfField f).values = f.bound := by
  cases f <;> rfl

theorem FieldSelector.isFilled_rows (s : FieldSelector) : s.rows.IsFilled := by
  have hinner : HoleFree (if s.inner then " AND cf.parent_index IS NOT NULL"
      else " AND cf.parent_index IS NULL") := by
    cases s.inner <;> exact .ofList (by decide)
  refine .append (.lit (isFilled_rowsOfEvent ?_ ?_) ?_) (.lit (.hole (.lit (.hole (.lit (.hole
    (isFilled_lit ?_) _) ?_) _) ?_) _) hinner) <;> exact .ofList (by decide)

theorem FieldSelector.values_rows (s : FieldSelector) : s.rows.values = s.bound := rfl

/-! ### Conditions -/

/-- What a predicate binds, in the order in which it is asked for. -/
def Predicate.bound : Predicate → List Cell
  | fieldIn _ vs => vs.map Operand.cell
  | fieldCompare _ _ v => [v.cell]
  | transactionIn kind ids => .text kind :: ids.map .text
  | partyIn d kind ids => .text d.code :: .text kind :: ids.map .text
  | epcIn roles vs => roles.map (fun r => .text r.code) ++ vs.map .text
  | errorDeclared => []
  | errorReasonIn rs => rs.map .text
  | correctiveIdIn ids => ids.map .text
  | fieldWithin f ids => ids.map .text ++ f.bound
  | customIn s vs => s.bound ++ vs.map .text
  | customCompare s _ v => s.bound ++ [v.cell]
  | customExists s => s.bound
  | quantityCompare _ q => [.real q]
  | attributeIn f a vs => f.bound ++ .text a :: vs.map .text
  | attributePresent f as => f.bound ++ as.map .text
  | requestIn ids => ids.map .integer
  | pendingFor s n => [.integer s, .integer n]

/-- **The values of a condition** are those that the predicate binds. -/
theorem Predicate.values_condition (p : Predicate) : p.condition.values = p.bound := by
  cases p <;>
    simp [condition, bound, existsRow, rowsOfEvent, values_descendants, EventField.bound,
      FieldSelector.values_rows, values_attributesOfField]

/-- **There are as many holes in a condition as values.** -/
theorem Predicate.isFilled_condition (p : Predicate) : p.condition.IsFilled := by
  cases p with
  | fieldIn f vs =>
    refine .lit (.holes (isFilled_lit (.append (.column f) ?_)) _) ?_ <;> exact .ofList (by decide)
  | fieldCompare f c v =>
    refine .hole (isFilled_lit (.append (.append (.append (.column f) ?_) (.operator c)) ?_)) _ <;>
      exact .ofList (by decide)
  | transactionIn kind ids =>
    refine .existsRow (.lit (.holes (.lit (.hole (.lit (isFilled_rowsOfEvent ?_ ?_) ?_) _) ?_) _)
      ?_) <;> exact .ofList (by decide)
  | partyIn d kind ids =>
    refine .existsRow (.lit (.holes (.lit (.hole (.lit (.hole (.lit (isFilled_rowsOfEvent ?_ ?_)
      ?_) _) ?_) _) ?_) _) ?_) <;> exact .ofList (by decide)
  | epcIn roles vs =>
    refine .existsRow (.lit (.holes (.lit (.holes (.lit (isFilled_rowsOfEvent ?_ ?_) ?_) _) ?_) _)
      ?_) <;> exact .ofList (by decide)
  | errorDeclared =>
    refine .existsRow (isFilled_rowsOfEvent ?_ ?_) <;> exact .ofList (by decide)
  | errorReasonIn _ | correctiveIdIn _ =>
    refine .existsRow (.lit (.holes (.lit (isFilled_rowsOfEvent ?_ ?_) ?_) _) ?_) <;>
      exact .ofList (by decide)
  | fieldWithin f ids =>
    refine .lit (.append (isFilled_lit (.append (.column f) ?_)) (isFilled_descendants _ _)) ?_ <;>
      exact .ofList (by decide)
  | customIn s vs =>
    refine .existsRow (.lit (.holes (.lit s.isFilled_rows ?_) _) ?_) <;> exact .ofList (by decide)
  | customCompare s c v =>
    refine .existsRow (.hole (.lit s.isFilled_rows (.append (.append (.append (.append ?_
      (.customColumn v)) ?_) (.operator c)) ?_)) _) <;> exact .ofList (by decide)
  | customExists s => exact s.isFilled_rows.existsRow
  | quantityCompare c q =>
    refine .existsRow (.hole (.lit (isFilled_rowsOfEvent ?_ ?_) (.append (.append ?_
      (.operator c)) ?_)) _) <;> exact .ofList (by decide)
  | attributeIn f a vs =>
    refine .existsRow (.lit (.holes (.lit (.hole (.lit (isFilled_attributesOfField f) ?_) _) ?_) _)
      ?_) <;> exact .ofList (by decide)
  | attributePresent f as =>
    refine .existsRow (.lit (.holes (.lit (isFilled_attributesOfField f) ?_) _) ?_) <;>
      exact .ofList (by decide)
  | requestIn ids =>
    refine .lit (.holes (isFilled_lit ?_) _) ?_ <;> exact .ofList (by decide)
  | pendingFor s n =>
    refine .lit (.hole (.lit (.hole (isFilled_lit ?_) _) ?_) _) ?_ <;> exact .ofList (by decide)

/-! ### Shapes -/

/-- Texts of which only the number is left. -/
def blank (ss : List String) : List String := ss.map fun _ => ""

/-- An operand of which only the kind is left. -/
def Operand.erase : Operand → Operand
  | text _ => text ""
  | number _ => number ⟨0⟩
  | time _ => time ⟨0, 0⟩
  | integer _ => integer 0

/-- A custom field of which only the place is left. -/
def FieldSelector.erase (s : FieldSelector) : FieldSelector := ⟨.extension, "", "", s.inner⟩

/-- **The shape of a predicate**: its kind, the fields and relations that it names, and how many
values of which kinds there are. -/
def Predicate.erase : Predicate → Predicate
  | fieldIn f vs => fieldIn f (vs.map Operand.erase)
  | fieldCompare f c v => fieldCompare f c v.erase
  | transactionIn _ ids => transactionIn "" (blank ids)
  | partyIn _ _ ids => partyIn .source "" (blank ids)
  | epcIn roles vs => epcIn (roles.map fun _ => .list) (blank vs)
  | errorDeclared => errorDeclared
  | errorReasonIn rs => errorReasonIn (blank rs)
  | correctiveIdIn ids => correctiveIdIn (blank ids)
  | fieldWithin f ids => fieldWithin f (blank ids)
  | customIn s vs => customIn s.erase (blank vs)
  | customCompare s c v => customCompare s.erase c v.erase
  | customExists s => customExists s.erase
  | quantityCompare c _ => quantityCompare c ⟨0⟩
  | attributeIn f _ vs => attributeIn f "" (blank vs)
  | attributePresent f as => attributePresent f (blank as)
  | requestIn ids => requestIn (ids.map fun _ => 0)
  | pendingFor _ _ => pendingFor 0 0

/-- The shape of a query for events. -/
def EventQuery.erase (q : EventQuery) : EventQuery :=
  ⟨q.predicates.map Predicate.erase, q.order, none⟩

@[simp] theorem length_blank (ss : List String) : (blank ss).length = ss.length :=
  List.length_map _

@[simp] theorem Operand.customColumn_erase (v : Operand) :
    v.erase.customColumn = v.customColumn := by
  cases v <;> rfl

@[simp] theorem FieldSelector.text_rows_erase (s : FieldSelector) :
    s.erase.rows.text = s.rows.text := rfl

/-- **The text of a condition depends on the shape only.** -/
theorem Predicate.text_condition_erase (p : Predicate) :
    p.erase.condition.text = p.condition.text := by
  cases p with
  | fieldWithin f ids =>
    simp only [erase, condition, text_append, text_descendants f.vocabulary (length_blank ids)]
  | _ => simp [erase, condition, existsRow, hole]

/-! ### Queries for events -/

namespace EventQuery

/-- What stands in front of the conditions. -/
def opening : Statement :=
  lit ("SELECT e.request_id, e.event_index, e.event_type, e.event_time, e.record_time, " ++
    "e.event_timezone_offset, e.action, e.business_step, e.disposition, e.read_point, " ++
    "e.business_location, e.event_id, e.transformation_id FROM event e WHERE ")

/-- What follows the conditions: the order, and the limit in the last hole. -/
def closing (q : EventQuery) : Statement :=
  lit (" ORDER BY " ++ q.ordering ++ " LIMIT ") ++ hole (.integer (rowCount q.limit))

theorem statement_eq (q : EventQuery) :
    q.statement = opening ++ conjunction q.predicates ++ q.closing := by
  rw [closing, ← append_assoc]
  rfl

theorem isFilled_opening : opening.IsFilled := by
  refine isFilled_lit (.append (.append ?_ ?_) ?_) <;> exact .ofList (by decide)

theorem isFilled_closing (q : EventQuery) : q.closing.IsFilled := by
  refine .hole (isFilled_lit (.append (.append ?_ (.append ?order ?_)) ?_)) _
  case order =>
    cases q.order with
    | none => exact .ofList (by decide)
    | some order =>
      obtain ⟨field, direction⟩ := order
      refine .append (.append (.append (.column field) ?_) (.word direction)) ?_ <;>
        exact .ofList (by decide)
  all_goals exact .ofList (by decide)

end EventQuery

theorem conjunction_of_ne_nil {ps : List Predicate} (h : ps ≠ []) :
    conjunction ps = join " AND " (ps.map Predicate.condition) := by
  cases ps with
  | nil => exact absurd rfl h
  | cons p ps => rfl

theorem isFilled_conditions (ps : List Predicate) :
    ∀ s ∈ ps.map Predicate.condition, s.IsFilled := by
  intro s hs
  obtain ⟨p, -, rfl⟩ := List.mem_map.1 hs
  exact p.isFilled_condition

theorem isFilled_conjunction (ps : List Predicate) : (conjunction ps).IsFilled := by
  rcases eq_or_ne ps [] with rfl | hne
  · exact isFilled_lit (.ofList (by decide))
  · rw [conjunction_of_ne_nil hne]
    exact isFilled_join (.ofList (by decide)) (isFilled_conditions ps)

theorem flatMap_values_conditions (ps : List Predicate) :
    (ps.map Predicate.condition).flatMap values = ps.flatMap Predicate.bound := by
  rw [List.flatMap_map]
  exact congrArg (ps.flatMap ·) (funext Predicate.values_condition)

theorem values_conjunction (ps : List Predicate) :
    (conjunction ps).values = ps.flatMap Predicate.bound := by
  rcases eq_or_ne ps [] with rfl | hne
  · rfl
  · rw [conjunction_of_ne_nil hne, values_join, flatMap_values_conditions]

/-- **The conditions of a longer list** are those of its parts. -/
theorem conjunction_append {ps qs : List Predicate} (hp : ps ≠ []) (hq : qs ≠ []) :
    conjunction (ps ++ qs) = conjunction ps ++ lit " AND " ++ conjunction qs := by
  rw [conjunction_of_ne_nil hp, conjunction_of_ne_nil hq,
    conjunction_of_ne_nil (List.append_ne_nil_of_left_ne_nil hp qs), List.map_append,
    join_append " AND " (by simpa) (by simpa)]

theorem text_conjunction_erase (ps : List Predicate) :
    (conjunction (ps.map Predicate.erase)).text = (conjunction ps).text := by
  rcases eq_or_ne ps [] with rfl | hne
  · rfl
  · rw [conjunction_of_ne_nil hne, conjunction_of_ne_nil (by simpa), text_join, text_join,
      List.map_map, List.map_map, List.map_map]
    exact congrArg (" AND ".intercalate ·)
      (List.map_congr_left fun p _ => p.text_condition_erase)

theorem EventQuery.text_statement_erase (q : EventQuery) :
    q.erase.statement.text = q.statement.text := by
  rw [statement_eq, statement_eq, text_append, text_append, text_append, text_append]
  exact congrArg (opening.text ++ · ++ q.closing.text) (text_conjunction_erase q.predicates)

/-- The condition of one predicate among others stands in the statement as it is. -/
theorem EventQuery.exists_statement_eq (q : EventQuery) {ps qs : List Predicate} {p : Predicate}
    (h : q.predicates = ps ++ p :: qs) :
    ∃ before after : Statement, q.statement = before ++ p.condition ++ after ∧
      before.IsFilled ∧ before.values = ps.flatMap Predicate.bound ∧
      after.IsFilled ∧
        after.values = qs.flatMap Predicate.bound ++ [.integer (rowCount q.limit)] := by
  obtain ⟨before, after, hjoin, hbefore, hvalues, hafter, hvalues'⟩ :=
    exists_join_insert " AND " (.ofList (by decide)) p.condition (isFilled_conditions ps)
      (isFilled_conditions qs)
  rw [flatMap_values_conditions] at hvalues hvalues'
  refine ⟨opening ++ before, after ++ q.closing, ?_, isFilled_opening.append hbefore, hvalues,
    hafter.append q.isFilled_closing, ?_⟩
  · rw [statement_eq, h, conjunction_of_ne_nil (by simp), List.map_append, List.map_cons, hjoin]
    simp only [append_assoc]
  · rw [values_append, hvalues']
    rfl

/-! ### Queries for master data -/

/-- A restriction of a query for master data. -/
inductive MasterDataFilter
  | vocabularyIn (vocabularies : List String)
  | idIn (ids : List String)
  | within (ids : List String)
  | attributesPresent (attributes : List String)
  | attributeIn (attributeId : String) (values : List String)
  deriving DecidableEq, Repr

namespace MasterDataFilter

/-- The condition of a restriction. -/
def condition : MasterDataFilter → Statement
  | vocabularyIn vs => lit "m.md_type IN (" ++ texts vs ++ lit ")"
  | idIn ids => lit "m.md_id IN (" ++ texts ids ++ lit ")"
  | within ids => lit "m.md_id IN (" ++ descendants none ids ++ lit ")"
  | attributesPresent as =>
    existsRow (attributesOfElement ++ lit " AND a.attribute_id IN (" ++ texts as ++ lit ")")
  | attributeIn a vs =>
    existsRow (attributesOfElement ++ lit " AND a.attribute_id = " ++ hole (.text a) ++
      lit " AND a.value IN (" ++ texts vs ++ lit ")")

/-- What a restriction binds, in the order in which it is asked for. -/
def bound : MasterDataFilter → List Cell
  | vocabularyIn vs => vs.map .text
  | idIn ids | within ids => ids.map .text
  | attributesPresent as => as.map .text
  | attributeIn a vs => .text a :: vs.map .text

/-- The shape of a restriction. -/
def erase : MasterDataFilter → MasterDataFilter
  | vocabularyIn vs => vocabularyIn (blank vs)
  | idIn ids => idIn (blank ids)
  | within ids => within (blank ids)
  | attributesPresent as => attributesPresent (blank as)
  | attributeIn _ vs => attributeIn "" (blank vs)

/-- The conjunction of restrictions. -/
def conjunction (fs : List MasterDataFilter) : Statement := join " AND " (fs.map condition)

theorem values_condition (f : MasterDataFilter) : f.condition.values = f.bound := by
  cases f <;> simp [condition, bound, existsRow, attributesOfElement, values_descendants]

theorem isFilled_condition (f : MasterDataFilter) : f.condition.IsFilled := by
  have helement : attributesOfElement.IsFilled := by
    refine isFilled_lit (.append ?_ ?_) <;> exact .ofList (by decide)
  cases f with
  | vocabularyIn _ | idIn _ =>
    refine .lit (.holes (isFilled_lit ?_) _) ?_ <;> exact .ofList (by decide)
  | within ids =>
    refine .lit (.append (isFilled_lit ?_) (isFilled_descendants _ _)) ?_ <;>
      exact .ofList (by decide)
  | attributesPresent as =>
    refine .existsRow (.lit (.holes (.lit helement ?_) _) ?_) <;> exact .ofList (by decide)
  | attributeIn a vs =>
    refine .existsRow (.lit (.holes (.lit (.hole (.lit helement ?_) _) ?_) _) ?_) <;>
      exact .ofList (by decide)

theorem text_condition_erase (f : MasterDataFilter) :
    f.erase.condition.text = f.condition.text := by
  cases f with
  | within ids =>
    simp only [erase, condition, text_append, text_descendants none (length_blank ids)]
  | _ => simp [erase, condition, existsRow, hole]

end MasterDataFilter

namespace MasterDataQuery

/-- One restriction for a list, if there is something in it. -/
def restrict (make : List String → MasterDataFilter) (values : List String) :
    List MasterDataFilter :=
  if values.isEmpty then [] else [make values]

/-- The restrictions of a query. -/
def filters (q : MasterDataQuery) : List MasterDataFilter :=
  restrict .vocabularyIn q.vocabularies ++ restrict .idIn q.ids ++ restrict .within q.within ++
    restrict .attributesPresent q.attributesPresent ++
    q.attributeValues.map fun (a, vs) => .attributeIn a vs

/-- The shape of a query for master data. -/
def erase (q : MasterDataQuery) : MasterDataQuery :=
  ⟨blank q.vocabularies, blank q.ids, blank q.within, blank q.attributesPresent,
    q.attributeValues.map fun (_, vs) => ("", blank vs), false, false, none, none⟩

/-- What stands in front of the conditions. -/
def opening : Statement :=
  lit "SELECT m.request_id, m.md_index, m.md_type, m.md_id FROM masterdata m WHERE "

/-- The condition that all queries have: to be of the latest capture of the element. -/
def latest : Statement := lit (latestCapture "m" "md_id")

/-- The conditions of a query with the restrictions in a list. -/
def clause (fs : List MasterDataFilter) : Statement :=
  join " AND " (latest :: fs.map MasterDataFilter.condition)

/-- What follows the conditions: the order, and the limit in the last hole. -/
def closing (q : MasterDataQuery) : Statement :=
  lit " ORDER BY m.md_type, m.md_id LIMIT " ++ hole (.integer (rowCount q.limit))

theorem conditions_eq (q : MasterDataQuery) :
    q.conditions = latest :: q.filters.map MasterDataFilter.condition := by
  have hrestrict (make : List String → MasterDataFilter) (values : List String) :
      restriction values (make values).condition =
        (restrict make values).map MasterDataFilter.condition := by
    unfold restriction restrict
    split <;> rfl
  simp only [filters, List.map_append, ← hrestrict, List.map_map]
  rfl

theorem filters_erase (q : MasterDataQuery) :
    q.erase.filters = q.filters.map MasterDataFilter.erase := by
  have hrestrict (make : List String → MasterDataFilter)
      (h : ∀ values, make (blank values) = (make values).erase) (values : List String) :
      restrict make (blank values) = (restrict make values).map MasterDataFilter.erase := by
    cases values with
    | nil => rfl
    | cons v vs => exact congrArg ([·]) (h (v :: vs))
  have hvocabularies := hrestrict .vocabularyIn (fun _ => rfl) q.vocabularies
  have hids := hrestrict .idIn (fun _ => rfl) q.ids
  have hwithin := hrestrict .within (fun _ => rfl) q.within
  have hpresent := hrestrict .attributesPresent (fun _ => rfl) q.attributesPresent
  simp only [filters, List.map_append, List.map_map, ← hvocabularies, ← hids, ← hwithin,
    ← hpresent]
  simp only [erase, List.map_map]
  rfl

theorem isFilled_conditions (fs : List MasterDataFilter) :
    ∀ s ∈ fs.map MasterDataFilter.condition, s.IsFilled := by
  intro s hs
  obtain ⟨f, -, rfl⟩ := List.mem_map.1 hs
  exact f.isFilled_condition

theorem isFilled_latest : latest.IsFilled := by
  refine isFilled_lit (.latestCapture ?_ ?_) <;> exact .ofList (by decide)

theorem isFilled_opening : opening.IsFilled := isFilled_lit (.ofList (by decide))

theorem isFilled_closing (q : MasterDataQuery) : q.closing.IsFilled :=
  (isFilled_lit (.ofList (by decide))).hole _

theorem flatMap_values_conditions (fs : List MasterDataFilter) :
    (fs.map MasterDataFilter.condition).flatMap values = fs.flatMap MasterDataFilter.bound := by
  rw [List.flatMap_map]
  exact congrArg (fs.flatMap ·) (funext MasterDataFilter.values_condition)

theorem statement_eq (q : MasterDataQuery) :
    q.statement = opening ++ clause q.filters ++ q.closing := by
  rw [closing, ← append_assoc, clause, ← conditions_eq]
  rfl

theorem isFilled_clause (fs : List MasterDataFilter) : (clause fs).IsFilled :=
  isFilled_join (.ofList (by decide))
    (List.forall_mem_cons.2 ⟨isFilled_latest, isFilled_conditions fs⟩)

theorem values_clause (fs : List MasterDataFilter) :
    (clause fs).values = fs.flatMap MasterDataFilter.bound :=
  flatMap_values_conditions fs

theorem clause_append (fs : List MasterDataFilter) {gs : List MasterDataFilter} (h : gs ≠ []) :
    clause (fs ++ gs) = clause fs ++ lit " AND " ++ MasterDataFilter.conjunction gs := by
  unfold clause
  rw [List.map_append, ← List.cons_append, join_append " AND " (by simp) (by simpa)]
  rfl

theorem text_statement_erase (q : MasterDataQuery) : q.erase.statement.text = q.statement.text := by
  have hconditions : (q.erase.filters.map MasterDataFilter.condition).map text =
      (q.filters.map MasterDataFilter.condition).map text := by
    rw [filters_erase, List.map_map, List.map_map, List.map_map]
    exact List.map_congr_left fun f _ => f.text_condition_erase
  simp only [statement_eq, clause, text_append, text_join, List.map_cons, hconditions]
  rfl

/-- The condition of one restriction among others stands in the statement as it is. -/
theorem exists_statement_eq (q : MasterDataQuery) {fs gs : List MasterDataFilter}
    {f : MasterDataFilter} (h : q.filters = fs ++ f :: gs) :
    ∃ before after : Statement, q.statement = before ++ f.condition ++ after ∧
      before.IsFilled ∧ before.values = fs.flatMap MasterDataFilter.bound ∧
      after.IsFilled ∧
        after.values = gs.flatMap MasterDataFilter.bound ++ [.integer (rowCount q.limit)] := by
  obtain ⟨before, after, hjoin, hbefore, hvalues, hafter, hvalues'⟩ :=
    exists_join_insert " AND " (.ofList (by decide)) f.condition
      (List.forall_mem_cons.2 ⟨isFilled_latest, isFilled_conditions fs⟩) (isFilled_conditions gs)
  rw [flatMap_values_conditions] at hvalues'
  refine ⟨opening ++ before, after ++ q.closing, ?_, isFilled_opening.append hbefore, ?_,
    hafter.append q.isFilled_closing, ?_⟩
  · rw [statement_eq, h, clause, List.map_append, List.map_cons, ← List.cons_append, hjoin]
    simp only [append_assoc]
  · rw [values_append, hvalues, List.flatMap_cons, flatMap_values_conditions]
    rfl
  · rw [values_append, hvalues']
    rfl

end MasterDataQuery

/-! ### Texts and values -/

/-- **Texts and values of the statements.**  For a query for events:

* There are as many holes in the text as values.
* The text is that of the conditions with what is in front of them and what follows; the values are
  those of the predicates, in their order, and the limit.
* If the predicates are two lists, one after the other, the text of the conditions is that of the
  two with a conjunction in between, and the values are those of the two and the limit.
* The condition of each predicate stands in the statement as it is, and each hole that lies in it is
  filled with a value of that predicate.
* Queries of one shape have the same text.

For a query for master data the same holds of its restrictions, which follow the condition that all
such queries have. -/
theorem statement_compositional :
    (∀ q : EventQuery,
      q.statement.IsFilled ∧
      q.statement.text =
        EventQuery.opening.text ++ (conjunction q.predicates).text ++ q.closing.text ∧
      q.statement.values =
        q.predicates.flatMap Predicate.bound ++ [.integer (rowCount q.limit)] ∧
      (∀ ps qs, q.predicates = ps ++ qs → ps ≠ [] → qs ≠ [] →
        (conjunction q.predicates).text =
          (conjunction ps).text ++ " AND " ++ (conjunction qs).text ∧
        q.statement.values = (conjunction ps).values ++ (conjunction qs).values ++
          [.integer (rowCount q.limit)]) ∧
      (∀ ps p qs, q.predicates = ps ++ p :: qs →
        ∃ before after, BindsPart q.statement before p.condition after ∧
          p.condition.IsFilled ∧ p.condition.values = p.bound ∧
          before.IsFilled ∧ before.values = ps.flatMap Predicate.bound) ∧
      ∀ r : EventQuery, q.erase = r.erase → q.statement.text = r.statement.text) ∧
    ∀ q : MasterDataQuery,
      q.statement.IsFilled ∧
      q.statement.text =
        MasterDataQuery.opening.text ++ (MasterDataQuery.clause q.filters).text ++
          q.closing.text ∧
      q.statement.values =
        q.filters.flatMap MasterDataFilter.bound ++ [.integer (rowCount q.limit)] ∧
      (∀ fs gs, q.filters = fs ++ gs → gs ≠ [] →
        (MasterDataQuery.clause q.filters).text = (MasterDataQuery.clause fs).text ++ " AND " ++
          (MasterDataFilter.conjunction gs).text ∧
        q.statement.values = (MasterDataQuery.clause fs).values ++
          (MasterDataFilter.conjunction gs).values ++ [.integer (rowCount q.limit)]) ∧
      (∀ fs f gs, q.filters = fs ++ f :: gs →
        ∃ before after, BindsPart q.statement before f.condition after ∧
          f.condition.IsFilled ∧ f.condition.values = f.bound ∧
          before.IsFilled ∧ before.values = fs.flatMap MasterDataFilter.bound) ∧
      ∀ r : MasterDataQuery, q.erase = r.erase → q.statement.text = r.statement.text := by
  constructor
  · intro q
    have hvalues : q.statement.values =
        q.predicates.flatMap Predicate.bound ++ [.integer (rowCount q.limit)] := by
      rw [q.statement_eq, values_append, values_append, values_conjunction]
      rfl
    refine ⟨?_, ?_, hvalues, fun ps qs h hp hq => ⟨?_, ?_⟩, fun ps p qs h => ?_, fun r h => ?_⟩
    · rw [q.statement_eq]
      exact (EventQuery.isFilled_opening.append (isFilled_conjunction _)).append q.isFilled_closing
    · rw [q.statement_eq]
      rfl
    · rw [h, conjunction_append hp hq]
      rfl
    · rw [hvalues, h, List.flatMap_append, values_conjunction, values_conjunction]
    · obtain ⟨before, after, heq, hfilled, hbefore, -, -⟩ := q.exists_statement_eq h
      rw [heq]
      exact ⟨before, after, bindsPart hfilled p.isFilled_condition, p.isFilled_condition,
        p.values_condition, hfilled, hbefore⟩
    · rw [← q.text_statement_erase, h, r.text_statement_erase]
  · intro q
    have hvalues : q.statement.values =
        q.filters.flatMap MasterDataFilter.bound ++ [.integer (rowCount q.limit)] := by
      rw [q.statement_eq, values_append, values_append, MasterDataQuery.values_clause]
      rfl
    refine ⟨?_, ?_, hvalues, fun fs gs h hg => ⟨?_, ?_⟩, fun fs f gs h => ?_, fun r h => ?_⟩
    · rw [q.statement_eq]
      exact (MasterDataQuery.isFilled_opening.append
        (MasterDataQuery.isFilled_clause _)).append q.isFilled_closing
    · rw [q.statement_eq]
      rfl
    · rw [h, MasterDataQuery.clause_append fs hg]
      rfl
    · rw [hvalues, h, List.flatMap_append, MasterDataQuery.values_clause,
        MasterDataFilter.conjunction, values_join, MasterDataQuery.flatMap_values_conditions]
    · obtain ⟨before, after, heq, hfilled, hbefore, -, -⟩ := q.exists_statement_eq h
      rw [heq]
      exact ⟨before, after, bindsPart hfilled f.isFilled_condition, f.isFilled_condition,
        f.values_condition, hfilled, hbefore⟩
    · rw [← q.text_statement_erase, h, r.text_statement_erase]

/-- Two queries of one shape, one with holes, quotation marks and comments in its values. -/
theorem statement_compositional_hostile :
    (⟨[.transactionIn "po" ["1", "2"], .fieldWithin .readPoint ["urn:a"]],
        some (.time, .descending), some 3⟩ : EventQuery).statement.text =
      (⟨[.transactionIn "?" ["') OR 1 = 1 --", "; DROP TABLE event"], .fieldWithin .readPoint [""]],
        some (.time, .descending), none⟩ : EventQuery).statement.text ∧
    (conjunction [.transactionIn "po" ["1", "2"], .fieldWithin .readPoint ["urn:a"]]).text =
      (conjunction [.transactionIn "po" ["1", "2"]]).text ++ " AND " ++
        (conjunction [.fieldWithin .readPoint ["urn:a"]]).text ∧
    (∃ before after, BindsPart
      (⟨[.transactionIn "po" ["1", "2"], .fieldWithin .readPoint ["urn:a"]],
        some (.time, .descending), some 3⟩ : EventQuery).statement before
      (Predicate.fieldWithin .readPoint ["urn:a"]).condition after ∧
      before.values = [.text "po", .text "1", .text "2"]) ∧
    ({ MasterDataQuery.all with ids := ["?"], within := ["a", "b"] }).statement.text =
      ({ MasterDataQuery.all with ids := ["--"], within := ["c", "?"] }).statement.text := by
  obtain ⟨hevents, hmaster⟩ := statement_compositional
  obtain ⟨-, -, -, happend, hinsert, herase⟩ := hevents
    ⟨[.transactionIn "po" ["1", "2"], .fieldWithin .readPoint ["urn:a"]],
      some (.time, .descending), some 3⟩
  refine ⟨herase _ rfl, (happend [_] [_] rfl (by simp) (by simp)).1, ?_,
    (hmaster _).2.2.2.2.2 _ rfl⟩
  obtain ⟨before, after, hpart, -, -, -, hvalues⟩ := hinsert [_] _ [] rfl
  exact ⟨before, after, hpart, hvalues⟩

end Provenance
