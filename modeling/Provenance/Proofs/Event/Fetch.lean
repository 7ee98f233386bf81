import Provenance.Proofs.Store.Insertion
import Provenance.Store.Assembly

/-!
# Fetching events

A query for events selects rows, reads them and completes them with their parts, batch after batch.
What comes back are the events of the selected rows, in order: no event is lost, added or moved on
the way from a row to the answer.

## Main results

* `EventQuery.matching_eq` — the rows that all predicates hold of.
* `EventQuery.map_key_fetch` — the answer has the keys of the selected rows.
-/

namespace Provenance

/-! ### Reading lists -/

theorem mapM_cons_eq_ok_iff {ε α β : Type} {f : α → Except ε β} {a : α} {as : List α}
    {bs : List β} :
    (a :: as).mapM f = .ok bs ↔ ∃ b rest, f a = .ok b ∧ as.mapM f = .ok rest ∧ bs = b :: rest := by
  rw [List.mapM_cons, bind_eq_ok_iff]
  constructor
  · rintro ⟨b, hb, h⟩
    obtain ⟨rest, hrest, hend⟩ := bind_eq_ok_iff.1 h
    exact ⟨b, rest, hb, hrest, (Except.ok.inj hend).symm⟩
  · rintro ⟨b, rest, hb, hrest, rfl⟩
    exact ⟨b, hb, bind_eq_ok_iff.2 ⟨rest, hrest, rfl⟩⟩

/-- A list is read if all its members are. -/
theorem exists_mapM_iff {ε α β : Type} {f : α → Except ε β} {as : List α} :
    (∃ bs, as.mapM f = .ok bs) ↔ ∀ a ∈ as, ∃ b, f a = .ok b := by
  induction as with
  | nil => simp [pure, Except.pure]
  | cons a as ih =>
    rw [List.forall_mem_cons, ← ih]
    constructor
    · rintro ⟨bs, h⟩
      obtain ⟨b, rest, hb, hrest, -⟩ := mapM_cons_eq_ok_iff.1 h
      exact ⟨⟨b, hb⟩, rest, hrest⟩
    · rintro ⟨⟨b, hb⟩, rest, hrest⟩
      exact ⟨b :: rest, mapM_cons_eq_ok_iff.2 ⟨b, rest, hb, hrest, rfl⟩⟩

/-- What stands in a list that was read was read of some member. -/
theorem exists_of_mem_mapM {ε α β : Type} {f : α → Except ε β} {as : List α} {bs : List β}
    (h : as.mapM f = .ok bs) {b : β} (hb : b ∈ bs) : ∃ a ∈ as, f a = .ok b := by
  induction as generalizing bs with
  | nil =>
    obtain rfl := Except.ok.inj h
    exact absurd hb List.not_mem_nil
  | cons a as ih =>
    obtain ⟨b', rest, hb', hrest, rfl⟩ := mapM_cons_eq_ok_iff.1 h
    rcases List.mem_cons.1 hb with rfl | hb
    · exact ⟨a, List.mem_cons_self, hb'⟩
    · obtain ⟨a', ha', hread⟩ := ih hrest hb
      exact ⟨a', List.mem_cons_of_mem _ ha', hread⟩

/-- What holds of each thing read and its source holds of the lists. -/
theorem map_eq_of_mapM {ε α β γ : Type} {f : α → Except ε β} {g : β → γ} {h : α → γ}
    (hstep : ∀ a b, f a = .ok b → g b = h a) {as : List α} {bs : List β}
    (hok : as.mapM f = .ok bs) : bs.map g = as.map h := by
  induction as generalizing bs with
  | nil =>
    obtain rfl := Except.ok.inj hok
    rfl
  | cons a as ih =>
    obtain ⟨b, rest, hb, hrest, rfl⟩ := mapM_cons_eq_ok_iff.1 hok
    rw [List.map_cons, List.map_cons, hstep a b hb, ih hrest]

theorem mapM_append_eq_ok {ε α β : Type} {f : α → Except ε β} {as as' : List α} {bs bs' : List β}
    (h : as.mapM f = .ok bs) (h' : as'.mapM f = .ok bs') :
    (as ++ as').mapM f = .ok (bs ++ bs') := by
  induction as generalizing bs with
  | nil =>
    obtain rfl := Except.ok.inj h
    exact h'
  | cons a as ih =>
    obtain ⟨b, rest, hb, hrest, rfl⟩ := mapM_cons_eq_ok_iff.1 h
    exact mapM_cons_eq_ok_iff.2 ⟨b, _, hb, ih hrest, rfl⟩

theorem mapM_flatMap_eq_ok {ε α β γ : Type} {f : β → Except ε γ} {xs : List α} {part : α → List β}
    {read : α → List γ} (h : ∀ x ∈ xs, (part x).mapM f = .ok (read x)) :
    (xs.flatMap part).mapM f = .ok (xs.flatMap read) := by
  induction xs with
  | nil => rfl
  | cons x xs ih =>
    rw [List.flatMap_cons, List.flatMap_cons]
    refine mapM_append_eq_ok (h x List.mem_cons_self) (ih fun y hy => ?_)
    exact h y (List.mem_cons_of_mem _ hy)

/-- Reading the members of a list that was made of another one. -/
theorem mapM_map_eq_ok {ε α β γ : Type} {f : β → Except ε γ} {as : List α} {make : α → β}
    {read : α → γ} (h : ∀ a ∈ as, f (make a) = .ok (read a)) :
    (as.map make).mapM f = .ok (as.map read) := by
  rw [List.map_eq_flatMap, List.map_eq_flatMap]
  exact mapM_flatMap_eq_ok fun a ha => mapM_cons_eq_ok_iff.2 ⟨_, _, h a ha, rfl, rfl⟩

/-! ### Selecting -/

/-- Selecting predicate by predicate keeps the events of which all of them hold. -/
theorem EventQuery.matching_eq (q : EventQuery) (s : Store) :
    q.matching s = s.events.filter fun e => q.predicates.all fun p => p.holds s e := by
  have hfold (ps : List Predicate) (es : List EventRow) :
      ps.foldl (fun es p => p.select s es) es = es.filter fun e => ps.all fun p => p.holds s e := by
    induction ps generalizing es with
    | nil => exact (List.filter_eq_self.2 fun _ _ => rfl).symm
    | cons p ps ih =>
      rw [List.foldl_cons, ih, Predicate.select_eq, List.filter_filter]
      refine List.filter_congr fun e _ => ?_
      rw [List.all_cons, Bool.and_comm]
  exact hfold q.predicates s.events

/-! ### Reading and completing -/

theorem readWhole_eq_ok_iff {column : Nat} {name : String} {c : Cell} {n : Int} :
    readWhole column name c = .ok n ↔ c = .integer n := by
  cases c <;> simp [readWhole, Cell.unexpected]

/-- An event that was read has the key of its row. -/
theorem EventRow.key_of_decode {r : EventRow} {e : Event} (h : r.decode = .ok e) :
    e.key = r.key := by
  have hindex : ∃ index, r.index = .integer index ∧ e.id = some ⟨r.request, index⟩ := by
    obtain ⟨kind, -, h⟩ := bind_eq_ok_iff.1 h
    split at h
    all_goals
      obtain ⟨action, -, h⟩ := bind_eq_ok_iff.1 h
      obtain ⟨time, -, h⟩ := bind_eq_ok_iff.1 h
      obtain ⟨index, hindex, h⟩ := bind_eq_ok_iff.1 h
      obtain ⟨recordTime, -, h⟩ := bind_eq_ok_iff.1 h
      obtain rfl := Except.ok.inj h
      exact ⟨index, readWhole_eq_ok_iff.1 hindex, rfl⟩
  obtain ⟨index, hcell, hid⟩ := hindex
  simp only [Event.key, EventRow.key, hid, hcell]

@[simp] theorem Event.key_complete (parts : EventParts) (e : Event) :
    (e.complete parts).key = e.key := rfl

/-- Completing events keeps them in order. -/
theorem Store.map_key_completeEvents {s : Store} {es done : List Event}
    (h : s.completeEvents es = .ok done) : done.map Event.key = es.map Event.key := by
  obtain ⟨batches, hbatches, hend⟩ := bind_eq_ok_iff.1 h
  obtain rfl := Except.ok.inj hend
  have hbatch (piece : List Event) (out : List Event) (hout : s.completeBatch piece = .ok out) :
      out.map Event.key = piece.map Event.key := by
    obtain ⟨parts, -, hout⟩ := bind_eq_ok_iff.1 hout
    obtain rfl := Except.ok.inj hout
    rw [List.map_map]
    rfl
  rw [List.map_flatten, map_eq_of_mapM hbatch hbatches, ← List.map_flatten, flatten_chunks]

/-- **The answer to a query has the keys of the selected rows, in order.** -/
theorem EventQuery.map_key_fetch {q : EventQuery} {s : Store} {es : List Event}
    (h : q.fetch s = .ok es) : es.map Event.key = (q.rows s).map EventRow.key := by
  obtain ⟨_, -, h⟩ := bind_eq_ok_iff.1 h
  obtain ⟨read, hread, hdone⟩ := bind_eq_ok_iff.1 h
  rw [Store.map_key_completeEvents hdone]
  exact map_eq_of_mapM (fun r e => EventRow.key_of_decode) hread

end Provenance
