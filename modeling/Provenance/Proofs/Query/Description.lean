import Provenance.Proofs.Query.Reference

/-!
# Filters on the attributes of what an event refers to

A filter can ask for attributes of the element of master data to which a field of an event refers:
for an attribute with one of some values, or for one of some attributes.  Where the field refers to
a fixed vocabulary the element is one of this vocabulary, and where it does not, one of any.

It is the latest recording of the element that has to have the attribute.  So an attribute that only
an earlier recording had is never found, and an event is found or not by what it refers to alone: it
makes no difference when it was captured.

## Main definitions

* `EventField.attributeWord` — how a field is named in such a filter.
* `Parameter.Describes` — what such a filter asks for, and how many values it binds.

## Main results

* `Parameter.Describes.exists_predicate` — the predicate of such a filter.
* `Session.execute_description` — **what filters on attributes find.**
-/

namespace Provenance

open Text (dropWord dropWord_toList_eq_none_iff splitFirst splitFirst_eq_some_iff)

/-! ### Names -/

/-- How a field is named in a filter on attributes. -/
def EventField.attributeWord : EventField → Option String
  | businessStep => some "bizStep"
  | disposition => some "disposition"
  | readPoint => some "readPoint"
  | businessLocation => some "bizLocation"
  | _ => none

/-- A field that is named so is read from its name, which holds no separator. -/
theorem EventField.ofAttributeName_of_attributeWord {f : EventField} {word : String}
    (h : f.attributeWord = some word) :
    f.isReference = true ∧ ofAttributeName word.toList = some f ∧ '_' ∉ word.toList := by
  cases f <;> simp only [attributeWord, Option.some.injEq, reduceCtorEq] at h <;> subst h <;>
    decide

namespace Parameter

/-- **What a filter on attributes asks for**: the field that refers to an element, what it asks of
an attribute of it, and how many values its condition binds. -/
inductive Describes : Parameter → EventField → (Attribute → Prop) → Nat → Prop
  | value {f : EventField} {word name : String} (hword : f.attributeWord = some word)
      (hne : name ≠ "") (values : List String) :
      Describes ⟨"EQATTR_" ++ (word ++ "_" ++ name), values⟩ f
        (fun a => a.id = name ∧ a.value ∈ values)
        (f.vocabulary.toList.length + 1 + values.length)
  | presence {f : EventField} {word : String} (hword : f.attributeWord = some word)
      (names : List String) :
      Describes ⟨"HASATTR_" ++ word, names⟩ f (fun a => a.id ∈ names)
        (f.vocabulary.toList.length + names.length)

/-- A name with the word in front that asks for values of an attribute. -/
theorem clause_of_attributeValue {f : EventField} {word name : String}
    (hword : f.attributeWord = some word) (hne : name ≠ "") (values : List String) :
    clause ⟨"EQATTR_" ++ (word ++ "_" ++ name), values⟩ =
      .ok (.filter (.attributeIn f name values)) := by
  obtain ⟨-, hf, hseparator⟩ := EventField.ofAttributeName_of_attributeWord hword
  have hfront : (Parameter.mk ("EQATTR_" ++ (word ++ "_" ++ name)) values).name =
      "EQATTR_" ++ (word ++ "_" ++ name) := rfl
  obtain ⟨hexact, hroles⟩ := exactClause_of_word hfront (by decide +kernel)
  have hother (w : String) (h : ∀ k, "EQATTR_" ++ (word ++ "_" ++ name) ≠ w ++ k) :
      dropWord w.toList ("EQATTR_" ++ (word ++ "_" ++ name)).toList = none :=
    dropWord_toList_eq_none_iff.2 h
  have hrest : dropWord "EQATTR_".toList ("EQATTR_" ++ (word ++ "_" ++ name)).toList =
      some (word ++ "_" ++ name).toList := by
    rw [String.toList_append, Text.dropWord_append]
  have hsplit : splitFirst '_' (word ++ "_" ++ name).toList =
      some (word.toList, name.toList) := by
    refine splitFirst_eq_some_iff.2 ⟨?_, hseparator⟩
    simp
  have hnonempty : name.toList.isEmpty = false := by
    simpa [List.isEmpty_eq_false_iff] using hne
  have hname : attributeOfName (word ++ "_" ++ name).toList = some (f, name) := by
    simp only [attributeOfName, hsplit, hf, hnonempty, Bool.false_eq_true, if_false,
      String.ofList_toList]
  simp only [clause, hexact, familyClause, hroles, hrest, hname,
    hother "EQ_bizTransaction_" fun k => by simp [← String.toList_inj],
    hother "EQ_source_" fun k => by simp [← String.toList_inj],
    hother "EQ_destination_" fun k => by simp [← String.toList_inj]]

/-- A name with the word in front that asks for attributes. -/
theorem clause_of_attributePresence {f : EventField} {word : String}
    (hword : f.attributeWord = some word) (names : List String) :
    clause ⟨"HASATTR_" ++ word, names⟩ = .ok (.filter (.attributePresent f names)) := by
  obtain ⟨-, hf, -⟩ := EventField.ofAttributeName_of_attributeWord hword
  have hfront : (Parameter.mk ("HASATTR_" ++ word) names).name = "HASATTR_" ++ word := rfl
  obtain ⟨hexact, hroles⟩ := exactClause_of_word hfront (by decide +kernel)
  have hother (w : String) (h : ∀ k, "HASATTR_" ++ word ≠ w ++ k) :
      dropWord w.toList ("HASATTR_" ++ word).toList = none :=
    dropWord_toList_eq_none_iff.2 h
  have hrest : dropWord "HASATTR_".toList ("HASATTR_" ++ word).toList = some word.toList := by
    rw [String.toList_append, Text.dropWord_append]
  simp only [clause, hexact, familyClause, hroles, hrest, hf,
    hother "EQ_bizTransaction_" fun k => by simp [← String.toList_inj],
    hother "EQ_source_" fun k => by simp [← String.toList_inj],
    hother "EQ_destination_" fun k => by simp [← String.toList_inj],
    hother "EQATTR_" fun k => by simp [← String.toList_inj]]

/-- The statement binds the vocabulary of a field where it has a fixed one. -/
theorem length_attributesOfField (f : EventField) :
    (attributesOfField f).values.length = f.vocabulary.toList.length := by
  cases hv : f.vocabulary <;> simp [attributesOfField, hv]

/-- The predicate of a filter on attributes: what it asks of an event, and how many values its
condition binds. -/
theorem Describes.exists_predicate {p : Parameter} {f : EventField} {P : Attribute → Prop} {n : Nat}
    (h : p.Describes f P n) :
    ∃ g : Predicate, p.clause = .ok (.filter g) ∧ g.startsWithin ∧ g.extent.start = none ∧
      g.extent.values = n ∧
      ∀ {s : Store} {cs : List Captured}, s.Journal cs → ∀ x : Recorded,
        g.holds s x.row = true ↔
          ∃ v, x.reference f = some v ∧ IsDescribed cs f.vocabulary v P := by
  cases h with
  | @value _ _ name hword hne values =>
    refine ⟨_, clause_of_attributeValue hword hne values, trivial, rfl, ?_, fun hj x => ?_⟩
    · simp [Predicate.values_extent, Predicate.condition, existsRow, Statement.texts,
        length_attributesOfField, Nat.add_assoc, Nat.add_comm 1]
    · exact hj.holds_attributeIn (EventField.ofAttributeName_of_attributeWord hword).1 _ _
  | presence hword names =>
    refine ⟨_, clause_of_attributePresence hword names, trivial, rfl, ?_, fun hj x => ?_⟩
    · simp [Predicate.values_extent, Predicate.condition, existsRow, Statement.texts,
        length_attributesOfField]
    · exact hj.holds_attributePresent (EventField.ofAttributeName_of_attributeWord hword).1 _

end Parameter

/-! ### The answer -/

namespace Session

open StandingQuery

/-- **What filters on attributes find.**  In every session and for each such filter:

* An event is accepted if it has an id in the field, and the latest recording of an element with
  this id, of the vocabulary of the field where it has a fixed one, has an attribute as asked for.
* Whether it is accepted does not depend on when it was captured, and not on any other event: where
  the same elements are captured in the same order, it is the same for all events that refer to the
  same id.
* The filter passes the check.  Its answer holds the captured events that it accepts, each once and
  in the order of their keys, if its statement does not bind too many values; otherwise the store
  fails. -/
theorem execute_description (moves : List Move) {p : Parameter} {f : EventField}
    {P : Attribute → Prop} {n : Nat} (hp : p.Describes f P n) :
    (∀ x : Recorded, p.accepts (run moves).store x.row = true ↔
      ∃ v, x.reference f = some v ∧ IsDescribed (run moves).captured f.vocabulary v P) ∧
    (∀ others : List Move,
      ((run others).captured.flatMap fun c => c.request.masterData) =
        ((run moves).captured.flatMap fun c => c.request.masterData) →
      ∀ x y : Recorded, x.reference f = y.reference f →
        p.accepts (run others).store x.row = p.accepts (run moves).store y.row) ∧
    simpleEvent.check [p] = .ok () ∧
    simpleEvent.execute (run moves).store [p] none =
      if n + 1 ≤ maxBound then
        .ok (.events ((((recorded (run moves).captured).filter fun x =>
          p.accepts (run moves).store x.row).take maxRows).map Recorded.answer))
      else .error (.storage .tooManyVariables) := by
  obtain ⟨g, hclause, hwithin, hstart, hvalues, hholds⟩ := hp.exists_predicate
  obtain ⟨hcheck, hexecute⟩ := execute_filter moves hclause
  have haccepts (moves : List Move) (x : Recorded) : p.accepts (run moves).store x.row = true ↔
      ∃ v, x.reference f = some v ∧ IsDescribed (run moves).captured f.vocabulary v P := by
    rw [Parameter.accepts, hclause]
    exact hholds (ledger_run moves).journal x
  refine ⟨haccepts moves, fun others hsame x y href => ?_, hcheck, ?_⟩
  · rw [Bool.eq_iff_iff, haccepts others, haccepts moves, href]
    refine exists_congr fun v => and_congr_right fun _ => ?_
    rw [(ledger_run others).journal.isDescribed_iff, hsame,
      (ledger_run moves).journal.isDescribed_iff]
  · rw [hexecute, Extent.checkExtents_singleton (Predicate.regular_extent hwithin) hstart, hvalues,
      checkBound]
    split_ifs <;> rfl

/-- A reader as it was captured first, and as it was captured last; and a place of the same id. -/
def readers : List MasterData :=
  [⟨readPointVocabulary, "urn:reader", [⟨"kind", "a"⟩], []⟩,
    ⟨readPointVocabulary, "urn:reader", [⟨"size", "7"⟩], []⟩,
    ⟨businessLocationVocabulary, "urn:reader", [⟨"kind", "a"⟩], []⟩]

/-- A request with the readers. -/
def readersRequest : CaptureRequest := ⟨.epoch, "1.2", none, none, [], readers⟩

/-- An event at the reader. -/
def readEvent : Event := { Store.lateEvent with time := .epoch, readPoint := some "urn:reader" }

/-- A request with the event. -/
def readRequest : CaptureRequest := ⟨.epoch, "1.2", none, none, [readEvent], []⟩

/-- A session that captures one request and then another one. -/
def inOrder (r r' : CaptureRequest) : List Move :=
  [.capture r none .epoch] ++ [.capture r' none .epoch]

/-- The store after both captures. -/
def inOrderStore (r r' : CaptureRequest) : Store :=
  (Store.empty.record ⟨1, r, none, .epoch⟩).record ⟨2, r', none, .epoch⟩

theorem run_readEvent_first :
    run (inOrder readRequest readersRequest) = ⟨inOrderStore readRequest readersRequest, [],
      [⟨1, readRequest, none, .epoch⟩, ⟨2, readersRequest, none, .epoch⟩], []⟩ := by
  rw [inOrder, run_concat, run_capture (by decide +kernel),
    step_capture (by decide) (by decide) (by decide +kernel)]
  rfl

theorem run_readers_first :
    run (inOrder readersRequest readRequest) = ⟨inOrderStore readersRequest readRequest, [],
      [⟨1, readersRequest, none, .epoch⟩, ⟨2, readRequest, none, .epoch⟩], []⟩ := by
  rw [inOrder, run_concat, run_capture (by decide +kernel),
    step_capture (by decide) (by decide) (by decide +kernel)]
  rfl

/-- The event, as it was recorded with a number. -/
def readRecorded (id : Int) : Recorded := ⟨⟨id, readRequest, none, .epoch⟩, 0, readEvent⟩

/-- The event is found by an attribute of the reader as it was captured last, and not by one that it
had before or that the place of the same id has; and it is the same if it was captured first. -/
theorem execute_inOrder :
    simpleEvent.execute (run (inOrder readersRequest readRequest)).store
        [⟨"EQATTR_" ++ ("readPoint" ++ "_" ++ "size"), ["7"]⟩] none =
          .ok (.events [(readRecorded 2).answer]) ∧
      simpleEvent.execute (run (inOrder readersRequest readRequest)).store
        [⟨"HASATTR_" ++ "readPoint", ["kind"]⟩] none = .ok (.events []) ∧
      Parameter.accepts (run (inOrder readRequest readersRequest)).store (readRecorded 1).row
          ⟨"HASATTR_" ++ "readPoint", ["kind"]⟩ =
        Parameter.accepts (run (inOrder readersRequest readRequest)).store (readRecorded 2).row
          ⟨"HASATTR_" ++ "readPoint", ["kind"]⟩ := by
  have hword : EventField.readPoint.attributeWord = some "readPoint" := rfl
  have hne : "size" ≠ "" := by decide
  obtain ⟨-, -, -, hsize⟩ := execute_description (inOrder readersRequest readRequest)
    (.value hword hne ["7"])
  obtain ⟨-, hsame, -, hkind⟩ := execute_description (inOrder readersRequest readRequest)
    (.presence hword ["kind"])
  have hrecorded : recorded [⟨1, readersRequest, none, .epoch⟩, ⟨2, readRequest, none, .epoch⟩] =
      [readRecorded 2] := rfl
  refine ⟨hsize.trans ?_, hkind.trans ?_, hsame _ ?_ _ _ rfl⟩
  · have hfound : Parameter.accepts (inOrderStore readersRequest readRequest) (readRecorded 2).row
        ⟨"EQATTR_" ++ ("readPoint" ++ "_" ++ "size"), ["7"]⟩ = true := by
      decide +kernel
    rw [run_readers_first, if_pos (by decide), hrecorded]
    simp only [List.filter_cons, hfound, if_true, List.filter_nil]
    rw [List.take_of_length_le (by decide)]
    rfl
  · have hmissed : Parameter.accepts (inOrderStore readersRequest readRequest) (readRecorded 2).row
        ⟨"HASATTR_" ++ "readPoint", ["kind"]⟩ = false := by
      decide +kernel
    rw [run_readers_first, if_pos (by decide), hrecorded]
    simp only [List.filter_cons, hmissed, List.filter_nil]
    rfl
  · rw [run_readEvent_first, run_readers_first]
    rfl

end Session

end Provenance
