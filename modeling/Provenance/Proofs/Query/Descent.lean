import Provenance.Proofs.MasterData.Collecting
import Provenance.Proofs.Query.Reference

/-!
# Filters on descent

A filter on the descent of the place where an event was read, or of the place where its objects are
afterwards, accepts the event if the place is one of the ids of the filter, or if a chain of links
leads to it from one of them.  A link counts if the latest recording of the parent has it, in the
vocabulary of the field; so links may run in circles, and recording a parent in the middle of a
chain again takes away all that hung on its old children.

The check of parameters takes any number of ids.  The statement that collects the descendants does
not: it is not well formed without any, and it takes as many as there may be in one list of rows.

## Main definitions

* `Parameter.descentField` — the field that a filter on descent looks at.

## Main results

* `Session.execute_descent` — **what filters on descent find.**
-/

namespace Provenance

/-- The field that a filter on descent looks at. -/
def Parameter.descentField : String → Option EventField
  | "WD_readPoint" => some .readPoint
  | "WD_bizLocation" => some .businessLocation
  | _ => none

/-- What a filter on descent means. -/
theorem Parameter.clause_of_descentField {name : String} {f : EventField}
    (h : descentField name = some f) (ids : List String) :
    f.isReference = true ∧ f.vocabulary.isSome = true ∧
      clause ⟨name, ids⟩ = .ok (.filter (.fieldWithin f ids)) := by
  unfold descentField at h
  split at h
  case h_3 => exact absurd h (by simp)
  all_goals
    obtain rfl := Option.some.inj h
    exact ⟨rfl, rfl, rfl⟩

/-- The condition of a filter on descent binds its ids and the vocabulary. -/
theorem Predicate.extent_fieldWithin {f : EventField} (hf : f.vocabulary.isSome = true)
    (ids : List String) :
    (fieldWithin f ids).extent = .ofDescent ids.length (ids.length + 1) true := by
  obtain ⟨v, hv⟩ := Option.isSome_iff_exists.1 hf
  simp [extent, condition, descendants, Statement.join, List.flatMap_map, List.map_const', hv]

namespace Session

open StandingQuery

/-- **What filters on descent find.**  In every session, for each of the two filters and all ids:

* An event is accepted if what it has in the field is one of the ids or a descendant of one.
* The recursion that collects the ids and their descendants comes to an end, whichever links it
  takes first, and what it has collected by then is the same; the store collects in this way.
* The filter passes the check.  Its answer holds the captured events that it accepts, each once and
  in the order of their keys, if there is an id and there are not too many of them.  Without an id,
  and with more ids than the statement takes, the store fails. -/
theorem execute_descent (moves : List Move) {name : String} {f : EventField}
    (hname : Parameter.descentField name = some f) (ids : List String) :
    (∀ x : Recorded, Parameter.accepts (run moves).store x.row ⟨name, ids⟩ = true ↔
      ∃ v, x.reference f = some v ∧ DescendsFrom (run moves).captured f.vocabulary ids v) ∧
    (WellFounded fun after seen => Discovers ((run moves).store.family f.vocabulary) seen after) ∧
    (∀ found, Collects ((run moves).store.family f.vocabulary) ids found →
      ∀ id, id ∈ found ↔ DescendsFrom (run moves).captured f.vocabulary ids id) ∧
    Collects ((run moves).store.family f.vocabulary) ids
      ((run moves).store.descendants f.vocabulary ids) ∧
    simpleEvent.check [⟨name, ids⟩] = .ok () ∧
    simpleEvent.execute (run moves).store [⟨name, ids⟩] none =
      if ids.length = 0 then .error (.storage .noStart)
      else if ids.length ≤ maxStart then
        .ok (.events ((((recorded (run moves).captured).filter fun x =>
          Parameter.accepts (run moves).store x.row ⟨name, ids⟩).take maxRows).map
            Recorded.answer))
      else if ids.length ≤ maxBound then .error (.storage .tooManyTerms)
      else .error (.storage .tooManyVariables) := by
  have hjournal := (ledger_run moves).journal
  obtain ⟨hreference, hvocabulary, hclause⟩ := Parameter.clause_of_descentField hname ids
  obtain ⟨hcheck, hexecute⟩ := execute_filter moves hclause
  refine ⟨fun x => ?_, wellFounded_discovers _,
    fun found hfound id => hjournal.mem_iff_of_collects hfound, Store.collects_descendants _ _ _,
    hcheck, ?_⟩
  · have hholds : Parameter.accepts (run moves).store x.row ⟨name, ids⟩ =
        (Predicate.fieldWithin f ids).holds (run moves).store x.row := by
      rw [Parameter.accepts, hclause]
    rw [hholds, hjournal.holds_fieldWithin hreference]
  · rw [hexecute, Predicate.extent_fieldWithin hvocabulary,
      Extent.checkExtents_ofDescent ids.length 1 true (Nat.le_refl 1)]
    split_ifs <;> rfl

/-- A place that is its own child, and the parent of another one. -/
def gate : MasterData := ⟨readPointVocabulary, "urn:gate", [], ["urn:gate", "urn:hall"]⟩

/-- The other place as it was captured first, and as it was captured last: there it leads back, and
no longer to the yard. -/
def halls : List MasterData :=
  [⟨readPointVocabulary, "urn:hall", [], ["urn:yard"]⟩,
    ⟨readPointVocabulary, "urn:hall", [], ["urn:gate", "urn:dock"]⟩]

/-- An event in the yard. -/
def yardEvent : Event := { Store.lateEvent with time := .epoch, readPoint := some "urn:yard" }

/-- An event at the dock. -/
def dockEvent : Event := { Store.lateEvent with time := .epoch, readPoint := some "urn:dock" }

/-- A request with the places and the events, as it was captured. -/
def placedCaptured : Captured :=
  ⟨1, ⟨.epoch, "1.2", none, none, [yardEvent, dockEvent], gate :: halls⟩, none, .epoch⟩

/-- A session that captures the request. -/
def placedMoves : List Move := [.capture placedCaptured.request none .epoch]

theorem run_placedMoves :
    run placedMoves = ⟨Store.empty.record placedCaptured, [], [placedCaptured], []⟩ :=
  run_capture (by decide +kernel)

/-- The event at the dock, as it was recorded. -/
def dockRecorded : Recorded := ⟨placedCaptured, 1, dockEvent⟩

/-- The event at the dock is found from the gate, and the one in the yard is not.  With five hundred
ids there is no answer. -/
theorem execute_placedMoves :
    simpleEvent.execute (run placedMoves).store [⟨"WD_readPoint", ["urn:gate"]⟩] none =
        .ok (.events [dockRecorded.answer]) ∧
      simpleEvent.check [⟨"WD_readPoint", List.replicate 500 "urn:gate"⟩] = .ok () ∧
      simpleEvent.execute (run placedMoves).store
        [⟨"WD_readPoint", List.replicate 500 "urn:gate"⟩] none =
          .error (.storage .tooManyTerms) := by
  have hfield : Parameter.descentField "WD_readPoint" = some .readPoint := rfl
  obtain ⟨-, -, -, -, -, hanswer⟩ := execute_descent placedMoves hfield ["urn:gate"]
  obtain ⟨-, -, -, -, hcheck, hfails⟩ :=
    execute_descent placedMoves hfield (List.replicate 500 "urn:gate")
  refine ⟨hanswer.trans ?_, hcheck, hfails.trans ?_⟩
  · rw [run_placedMoves]
    have hyard : Parameter.accepts (Store.empty.record placedCaptured)
        (Recorded.row ⟨placedCaptured, 0, yardEvent⟩) ⟨"WD_readPoint", ["urn:gate"]⟩ = false := by
      decide +kernel
    have hdock : Parameter.accepts (Store.empty.record placedCaptured) dockRecorded.row
        ⟨"WD_readPoint", ["urn:gate"]⟩ = true := by
      decide +kernel
    have hrecorded : recorded [placedCaptured] = [⟨placedCaptured, 0, yardEvent⟩, dockRecorded] :=
      rfl
    have hfound : ((recorded [placedCaptured]).filter fun x =>
        Parameter.accepts (Store.empty.record placedCaptured) x.row
          ⟨"WD_readPoint", ["urn:gate"]⟩) = [dockRecorded] := by
      simp [hrecorded, hyard, hdock]
    rw [hfound, List.take_of_length_le (by decide)]
    rfl
  · rw [List.length_replicate]
    rfl

end Session

end Provenance
