import Mathlib.Data.List.Forall2
import Provenance.Proofs.Capture.Checks
import Provenance.Proofs.Event.Reassembly

/-!
# When two events are the same

Two events are the same if they agree field by field, where numbers need only be the same numbers
and where instants are compared by a given relation.  Custom fields are compared together with the
fields inside of them, at every depth.  Identity and record time are given by a store and do not
count.

What a store gives back of an admissible event without a number that is none is the same event,
up to its instants; and it is the same under a relation of instants exactly if the relation holds
between each instant and what the store gives back for it.

## Main definitions

* `Event.Same` — sameness, under a relation of instants.
* `Event.contents`, `Event.instants` — all custom fields at every depth, and all instants.

## Main results

* `Recorded.same_answer_iff` — **when an event comes back as the same.**
-/

namespace Provenance

/-! ### Sameness -/

/-- Floats that are the same number; what is not a number is not the same as anything. -/
def Binary64.Same (x y : Binary64) : Prop := x.isNaN = false ∧ x.units = y.units

/-- Objects that agree, with the same quantity. -/
structure Epc.Same (o p : Epc) : Prop where
  role : o.role = p.role
  value : o.value = p.value
  quantity : Option.Rel Binary64.Same o.quantity p.quantity
  unitOfMeasure : o.unitOfMeasure = p.unitOfMeasure

/-- Names and values that agree, with the same number and related dates. -/
structure FieldContent.Same (R : Instant → Instant → Prop) (c d : FieldContent) : Prop where
  origin : c.origin = d.origin
  space : c.space = d.space
  name : c.name = d.name
  text : c.text = d.text
  number : Option.Rel Binary64.Same c.number d.number
  date : Option.Rel R c.date d.date

/-- Custom fields that agree, with the same fields inside of them in the same order. -/
inductive CustomField.Same (R : Instant → Instant → Prop) : CustomField → CustomField → Prop
  | node {c d : FieldContent} {fs gs : List CustomField} (content : c.Same R d)
      (children : List.Forall₂ (Same R) fs gs) : Same R (.node c fs) (.node d gs)

/-- Declarations that agree, with related times. -/
structure ErrorDeclaration.Same (R : Instant → Instant → Prop) (d d' : ErrorDeclaration) :
    Prop where
  time : R d.time d'.time
  reason : d.reason = d'.reason
  correctiveIds : d.correctiveIds = d'.correctiveIds

/-- Events that agree in all but identity and record time, with the same numbers and related
instants. -/
structure Event.Same (R : Instant → Instant → Prop) (e d : Event) : Prop where
  kind : e.kind = d.kind
  time : R e.time d.time
  timezoneOffset : e.timezoneOffset = d.timezoneOffset
  action : e.action = d.action
  businessStep : e.businessStep = d.businessStep
  disposition : e.disposition = d.disposition
  readPoint : e.readPoint = d.readPoint
  businessLocation : e.businessLocation = d.businessLocation
  name : e.name = d.name
  transformation : e.transformation = d.transformation
  errorDeclaration : Option.Rel (ErrorDeclaration.Same R) e.errorDeclaration d.errorDeclaration
  epcs : List.Forall₂ Epc.Same e.epcs d.epcs
  customFields : List.Forall₂ (CustomField.Same R) e.customFields d.customFields
  businessTransactions : e.businessTransactions = d.businessTransactions
  parties : e.parties = d.parties

/-! ### All of an event -/

mutual

/-- The content of a field and those of all fields inside of it. -/
def CustomField.contents : CustomField → List FieldContent
  | .node c fs => c :: CustomField.contentsOf fs

/-- The contents of fields and of all fields inside of them. -/
def CustomField.contentsOf : List CustomField → List FieldContent
  | [] => []
  | f :: fs => f.contents ++ CustomField.contentsOf fs

end

namespace Event

/-- The contents of all custom fields. -/
def contents (e : Event) : List FieldContent := CustomField.contentsOf e.customFields

/-- All instants of an event. -/
def instants (e : Event) : List Instant :=
  e.time :: (e.errorDeclaration.toList.map ErrorDeclaration.time ++
    e.contents.filterMap FieldContent.date)

/-- Whether no custom field has a value that is not a number. -/
def isNumeric (e : Event) : Bool :=
  e.contents.all fun c => c.number.all fun x => !x.isNaN

end Event

theorem CustomField.mem_contentsOf {fs : List CustomField} {c : FieldContent} :
    c ∈ contentsOf fs ↔ ∃ f ∈ fs, c ∈ f.contents := by
  induction fs with
  | nil => simp [contentsOf]
  | cons f fs ih => simp [contentsOf, ih]

theorem CustomField.mem_contents {f : CustomField} {c : FieldContent} :
    c ∈ f.contents ↔ c = f.content ∨ ∃ g ∈ f.children, c ∈ g.contents := by
  cases f with
  | node d fs => simp [contents, mem_contentsOf]

/-! ### What a store gives back -/

theorem Binary64.isNaN_of_isFinite {x : Binary64} (h : x.isFinite = true) : x.isNaN = false := by
  simp only [isFinite, bne_iff_ne, ne_eq] at h
  simp [isNaN, h]

/-- A number comes back as the same number. -/
theorem Binary64.rel_stored {x : Option Binary64} (h : ∀ y ∈ x, y.isNaN = false) :
    Option.Rel Same x (x.bind stored) := by
  cases x with
  | none => exact .none
  | some x =>
    have hnan : x.isNaN = false := h x rfl
    -- a zero loses its sign, and nothing else changes
    obtain ⟨y, hy⟩ : ∃ y, x.stored = some y := by
      by_cases hzero : x.magnitude = 0
      · exact ⟨zero, by simp [stored, hnan, hzero]⟩
      · exact ⟨x, by simp [stored, hnan, hzero]⟩
    rw [Option.bind_some, hy]
    exact .some ⟨hnan, (units_of_stored hy).symm⟩

theorem Epc.same_kept {o : Epc} (h : ∀ q ∈ o.quantity, q.isFinite = true) : o.Same o.kept :=
  ⟨rfl, rfl, Binary64.rel_stored fun q hq => Binary64.isNaN_of_isFinite (h q hq), rfl⟩

section Instants

variable {R : Instant → Instant → Prop}

theorem rel_map_kept_iff {t : Option Instant} :
    Option.Rel R t (t.map Instant.kept) ↔ ∀ u ∈ t, R u u.kept := by
  cases t with
  | none => simp
  | some t => simp

theorem FieldContent.same_kept_iff {c : FieldContent} (h : ∀ x ∈ c.number, x.isNaN = false) :
    c.Same R c.kept ↔ ∀ t ∈ c.date, R t t.kept := by
  rw [← rel_map_kept_iff]
  exact ⟨Same.date, fun hdate => ⟨rfl, rfl, rfl, rfl, Binary64.rel_stored h, hdate⟩⟩

theorem CustomField.same_node_iff {c d : FieldContent} {fs gs : List CustomField} :
    (node c fs).Same R (node d gs) ↔ c.Same R d ∧ List.Forall₂ (Same R) fs gs := by
  constructor
  · rintro ⟨hcontent, hchildren⟩
    exact ⟨hcontent, hchildren⟩
  · rintro ⟨hcontent, hchildren⟩
    exact .node hcontent hchildren

/-- A custom field with nothing inside of the fields inside of it comes back. -/
theorem CustomField.same_kept_iff {f : CustomField} (hflat : ∀ g ∈ f.children, g.children = [])
    (h : ∀ c ∈ f.contents, ∀ x ∈ c.number, x.isNaN = false) :
    f.Same R f.kept ↔ ∀ c ∈ f.contents, ∀ t ∈ c.date, R t t.kept := by
  have hcontent : f.content ∈ f.contents := mem_contents.2 (.inl rfl)
  have hchild : ∀ g ∈ f.children,
      (g.Same R (node g.content.kept []) ↔ ∀ c ∈ g.contents, ∀ t ∈ c.date, R t t.kept) := by
    intro g hg
    have hmem : g.content ∈ f.contents :=
      mem_contents.2 (.inr ⟨g, hg, mem_contents.2 (.inl rfl)⟩)
    have hsame : g.content.Same R g.content.kept ↔ ∀ t ∈ g.content.date, R t t.kept :=
      FieldContent.same_kept_iff (h g.content hmem)
    -- there is nothing inside of `g` that could be lost
    obtain ⟨d, gs⟩ := g
    obtain rfl : gs = [] := hflat (node d gs) hg
    have hcontents : (node d []).contents = [d] := rfl
    rw [same_node_iff, hcontents, List.forall_mem_singleton]
    exact (and_iff_left .nil).trans hsame
  have hall : f.Same R f.kept ↔
      f.content.Same R f.content.kept ∧ ∀ g ∈ f.children, g.Same R (node g.content.kept []) := by
    conv_lhs => rw [← f.eta]
    rw [kept, content_node, children_node, same_node_iff, List.forall₂_map_right_iff,
      List.forall₂_same]
  rw [hall, FieldContent.same_kept_iff (h f.content hcontent)]
  constructor
  · rintro ⟨hself, hinside⟩ c hc
    rcases mem_contents.1 hc with rfl | ⟨g, hg, hc⟩
    · exact hself
    · exact (hchild g hg).1 (hinside g hg) c hc
  · intro hdates
    refine ⟨hdates f.content hcontent, fun g hg => (hchild g hg).2 fun c hc => ?_⟩
    exact hdates c (mem_contents.2 (.inr ⟨g, hg, hc⟩))

theorem ErrorDeclaration.rel_map_kept_iff {d : Option ErrorDeclaration} :
    Option.Rel (Same R) d (d.map kept) ↔ ∀ e ∈ d, R e.time e.time.kept := by
  cases d with
  | none => simp
  | some d =>
    simp only [Option.map_some, Option.rel_some_some, Option.mem_some_iff, forall_eq']
    exact ⟨Same.time, fun h => ⟨h, rfl, rfl⟩⟩

/-- The custom fields of an admissible event come back as the same exactly if their dates do. -/
theorem Event.forall₂_customFields_iff {e : Event} (hcheck : e.check = .ok ())
    (hnumeric : e.isNumeric = true) :
    List.Forall₂ (CustomField.Same R) e.customFields (e.customFields.map CustomField.kept) ↔
      ∀ c ∈ e.contents, ∀ t ∈ c.date, R t t.kept := by
  have hfield : ∀ f ∈ e.customFields,
      (f.Same R f.kept ↔ ∀ c ∈ f.contents, ∀ t ∈ c.date, R t t.kept) := by
    intro f hf
    refine CustomField.same_kept_iff (fun g hg => Event.isFlat_of_check hcheck hf hg) ?_
    intro c hc y hy
    have hnumber := List.all_eq_true.1 hnumeric c (CustomField.mem_contentsOf.2 ⟨f, hf, hc⟩)
    rw [show c.number = some y from hy] at hnumber
    simpa using hnumber
  rw [List.forall₂_map_right_iff, List.forall₂_same]
  constructor
  · intro hsame c hc
    obtain ⟨f, hf, hc⟩ := CustomField.mem_contentsOf.1 hc
    exact (hfield f hf).1 (hsame f hf) c hc
  · intro hdates f hf
    refine (hfield f hf).2 fun c hc => hdates c ?_
    exact CustomField.mem_contentsOf.2 ⟨f, hf, hc⟩

theorem Event.forall_instants_iff {e : Event} {P : Instant → Prop} :
    (∀ t ∈ e.instants, P t) ↔
      P e.time ∧ (∀ d ∈ e.errorDeclaration, P d.time) ∧ ∀ c ∈ e.contents, ∀ t ∈ c.date, P t := by
  rw [instants, List.forall_mem_cons, List.forall_mem_append]
  refine and_congr_right fun _ => and_congr ?_ ?_
  · simp
  · simp only [List.mem_filterMap, forall_exists_index, and_imp, Option.mem_def]
    exact ⟨fun h c hc t ht => h t c hc ht, fun h t c hc ht => h c hc t ht⟩

/-- **An admissible event comes back as the same** exactly if each of its instants does. -/
theorem Recorded.same_answer_iff {x : Recorded} (hcheck : x.event.check = .ok ())
    (hnumeric : x.event.isNumeric = true) :
    x.event.Same R x.answer ↔ ∀ t ∈ x.event.instants, R t t.kept := by
  have hepcs : List.Forall₂ Epc.Same x.event.epcs (x.event.epcs.map Epc.kept) := by
    rw [List.forall₂_map_right_iff, List.forall₂_same]
    exact fun o ho => Epc.same_kept fun q hq => Event.isFinite_of_check hcheck ho hq
  rw [Event.forall_instants_iff, ← Event.forall₂_customFields_iff hcheck hnumeric,
    ← ErrorDeclaration.rel_map_kept_iff]
  constructor
  · intro h
    exact ⟨h.time, h.errorDeclaration, h.customFields⟩
  · rintro ⟨htime, hdeclaration, hcustom⟩
    exact ⟨rfl, htime, rfl, rfl, rfl, rfl, rfl, rfl, rfl, rfl, hdeclaration, hepcs, hcustom, rfl,
      rfl⟩

end Instants

end Provenance
