import Provenance.Proofs.Event.Fetch
import Provenance.Proofs.Event.Recorded
import Provenance.Proofs.Store.Batches
import Provenance.Proofs.Store.Owners
import Provenance.Proofs.Time.Millis

/-!
# Putting recorded events together again

An answer is put together from seven tables, in batches.  The rows that belong to an event are found
by its key, and no two events have the same one, so each event gets back the rows that were made of
it and no others, in the order in which they were made.

Times come back from milliseconds and numbers as a column gives them back; and of custom fields two
levels come back.  All else comes back as it was.

## Main definitions

* `Recorded.bare`, `Recorded.answer` — a recorded event as its row is read, and as it is answered.

## Main results

* `CustomField.ofPlaced_placed` — custom fields from their rows.
* `Store.Journal.completeEvents_bare` — recorded events with their parts.
* `Store.Journal.fetch_of_rows` — the answer to a query that selects some rows.
* `Store.Journal.fetch_eq_ok` — **every query that can be carried out is answered.**
-/

namespace Provenance

/-! ### What comes back -/

/-- A number as a column gives it back. -/
def Epc.kept (o : Epc) : Epc := { o with quantity := o.quantity.bind Binary64.stored }

/-- Values as columns give them back. -/
def FieldContent.kept (c : FieldContent) : FieldContent :=
  { c with number := c.number.bind Binary64.stored, date := c.date.map Instant.kept }

/-- A custom field with the fields inside of it, and nothing inside of those. -/
def CustomField.kept (f : CustomField) : CustomField :=
  node f.content.kept (f.children.map fun g => node g.content.kept [])

/-- An error declaration with its time from milliseconds. -/
def ErrorDeclaration.kept (d : ErrorDeclaration) : ErrorDeclaration :=
  { d with time := d.time.kept }

namespace Recorded

/-- A recorded event as its row is read, without its parts. -/
def bare (x : Recorded) : Event :=
  { x.event with
    id := some ⟨x.captured.id, x.index⟩
    time := x.event.time.kept
    recordTime := some x.captured.recordTime.kept
    errorDeclaration := none
    epcs := []
    customFields := []
    businessTransactions := []
    parties := [] }

/-- A recorded event as it is answered. -/
def answer (x : Recorded) : Event :=
  { x.event with
    id := some ⟨x.captured.id, x.index⟩
    time := x.event.time.kept
    recordTime := some x.captured.recordTime.kept
    errorDeclaration := x.event.errorDeclaration.map ErrorDeclaration.kept
    epcs := x.event.epcs.map Epc.kept
    customFields := x.event.customFields.map CustomField.kept }

@[simp] theorem key_bare (x : Recorded) : x.bare.key = x.key := rfl

end Recorded

/-! ### Reading rows -/

theorem readCode_code {α : Type} [Coded α] (column : Nat) (a : α) :
    readCode column (Coded.code a) = .ok a := by
  simp only [readCode, Coded.ofCode_code]

theorem Recorded.decode_row (x : Recorded) : x.row.decode = .ok x.bare := by
  have hkind : readCode 2 x.event.kind.code = .ok x.event.kind := readCode_code 2 x.event.kind
  have haction (a : Action) : readCode 6 a.code = .ok a := readCode_code 6 a
  simp only [EventRow.decode, row, Event.row, hkind, readWhole_integer]
  cases hgiven : x.event.action with
  | none =>
    simp only [bare, hgiven]
    rfl
  | some a =>
    simp only [bare, hgiven, Option.map_some, haction]
    rfl

theorem Event.decode_epcRow (request : Int) (event index : Nat) (o : Epc) :
    (epcRow request event index o).decode = .ok o.kept := by
  have hrole : readCode 2 o.role.code = .ok o.role := readCode_code 2 o.role
  simp only [EpcRow.decode, epcRow, hrole, readReal?_ofReal?]
  rfl

theorem Event.decode_fieldRow (request : Int) (event index : Nat) (parent : Option Nat)
    (c : FieldContent) :
    (fieldRow request event index parent c).decode =
      .ok ⟨index, parent.map fun p => (p : Int), c.kept⟩ := by
  have horigin : readCode 4 c.origin.code = .ok c.origin := readCode_code 4 c.origin
  simp only [FieldRow.decode, fieldRow, horigin, readReal?_ofReal?, readWhole?_ofInt?,
    readWhole_integer]
  cases hdate : c.date with
  | none => simp only [FieldContent.kept, hdate]; rfl
  | some t => simp only [FieldContent.kept, hdate]; rfl

/-! ### Custom fields -/

namespace CustomField

/-- What is read of custom fields that are numbered from `start`. -/
def placed : Nat → List CustomField → List PlacedField
  | _, [] => []
  | start, f :: fs =>
    ⟨start, none, f.content.kept⟩ ::
      (numbered (start + 1) f.children).map (fun (i, g) => ⟨i, some start, g.content.kept⟩) ++
      placed (start + 1 + f.children.length) fs

/-- A field inside of the last one comes last in it. -/
theorem place_inside {forest : List (Int × CustomField)} {p : Int} (h : ∀ t ∈ forest, t.1 ≠ p)
    (c d : FieldContent) (gs : List CustomField) (i : Int) :
    place (forest ++ [(p, node c gs)]) ⟨i, some p, d⟩ =
      forest ++ [(p, node c (gs ++ [node d []]))] := by
  have hforest : (forest.map fun t : Int × CustomField =>
      if t.1 = p then (t.1, node t.2.content (t.2.children ++ [node d []])) else t) = forest := by
    rw [List.map_congr_left fun t ht => if_neg (h t ht), List.map_id']
  simp [place, hforest]

/-- The fields inside of a field are put into it, one after the other. -/
theorem foldl_place_inside {forest : List (Int × CustomField)} {p : Int}
    (h : ∀ t ∈ forest, t.1 ≠ p) (c : FieldContent) (start : Nat) (gs done : List CustomField) :
    ((numbered start gs).map fun (i, g) => (⟨i, some p, g.content.kept⟩ : PlacedField)).foldl place
        (forest ++ [(p, node c done)]) =
      forest ++ [(p, node c (done ++ gs.map fun g => node g.content.kept []))] := by
  -- `done` holds the fields that were put in already
  induction gs generalizing start done with
  | nil => simp
  | cons g gs ih =>
    rw [numbered_cons, List.map_cons, List.foldl_cons, place_inside h, ih]
    simp

/-- What is read of custom fields is put together to what they keep. -/
theorem foldl_place_placed (fs : List CustomField) (start : Nat) (forest : List (Int × CustomField))
    (h : ∀ t ∈ forest, t.1 < start) :
    ((placed start fs).foldl place forest).map Prod.snd = forest.map Prod.snd ++ fs.map kept := by
  induction fs generalizing start forest with
  | nil => simp [placed]
  | cons f fs ih =>
    -- numbers ascend, so a parent is found at the end of the forest and nowhere else
    have hne : ∀ t ∈ forest, t.1 ≠ (start : Int) := fun t ht => by
      have := h t ht
      omega
    have hplace : place forest ⟨start, none, f.content.kept⟩ =
        forest ++ [((start : Int), node f.content.kept [])] := rfl
    rw [placed, List.foldl_append, List.foldl_cons, hplace, foldl_place_inside hne, ih]
    · simp [kept]
    · intro t ht
      rcases List.mem_append.1 ht with ht | ht
      · have := h t ht
        omega
      · obtain rfl := List.mem_singleton.1 ht
        simp only
        omega

/-- **Custom fields are put together again.** -/
theorem ofPlaced_placed (fs : List CustomField) : ofPlaced (placed 0 fs) = fs.map kept := by
  have hfold := foldl_place_placed fs 0 [] (by simp)
  exact hfold

end CustomField

/-! ### The parts of an event -/

/-- Reading rows that were numbered. -/
theorem mapM_numbered_eq_ok {ε α β γ : Type} {f : β → Except ε γ} {make : Nat × α → β}
    {read : α → γ} {start : Nat} {as : List α} (h : ∀ p : Nat × α, f (make p) = .ok (read p.2)) :
    ((numbered start as).map make).mapM f = .ok (as.map read) := by
  induction as generalizing start with
  | nil => rfl
  | cons a as ih =>
    rw [numbered_cons]
    exact mapM_cons_eq_ok_iff.2 ⟨_, _, h (start, a), ih, rfl⟩

/-- Reading rows that keep what was numbered as it is. -/
theorem mapM_numbered_eq_self {ε α β : Type} {f : β → Except ε α} {make : Nat × α → β} {start : Nat}
    {as : List α} (h : ∀ p : Nat × α, f (make p) = .ok p.2) :
    ((numbered start as).map make).mapM f = .ok as := by
  have hread : ((numbered start as).map make).mapM f = .ok (as.map id) := mapM_numbered_eq_ok h
  rwa [List.map_id] at hread

namespace Event

variable (request : Int) (event : Nat) (e : Event)

theorem read_epcRows : (e.epcRows request event).mapM EpcRow.decode = .ok (e.epcs.map Epc.kept) :=
  mapM_numbered_eq_ok fun p => decode_epcRow request event p.1 p.2

theorem read_fieldRowsFrom (start : Nat) (fs : List CustomField) :
    (fieldRowsFrom request event start fs).mapM FieldRow.decode =
      .ok (CustomField.placed start fs) := by
  induction fs generalizing start with
  | nil => rfl
  | cons f fs ih =>
    have hinside : ((numbered (start + 1) f.children).map fun p =>
        fieldRow request event p.1 (some start) p.2.content).mapM FieldRow.decode =
        .ok ((numbered (start + 1) f.children).map fun p =>
          (⟨p.1, some start, p.2.content.kept⟩ : PlacedField)) :=
      mapM_map_eq_ok fun p _ => decode_fieldRow request event p.1 (some start) p.2.content
    -- the field itself, the fields inside of it, and the fields after it
    refine mapM_append_eq_ok (mapM_cons_eq_ok_iff.2 ⟨_, _, ?_, hinside, rfl⟩) (ih _)
    exact decode_fieldRow request event start none f.content

theorem read_transactionRows :
    (e.transactionRows request event).mapM (fun r => (.ok r.decode : Except StorageError _)) =
      .ok e.businessTransactions :=
  mapM_numbered_eq_self fun _ => rfl

theorem read_partyRows : (e.partyRows request event).mapM PartyRow.decode = .ok e.parties := by
  refine mapM_numbered_eq_self fun p => ?_
  have hdirection : readCode 2 p.2.direction.code = .ok p.2.direction :=
    readCode_code 2 p.2.direction
  simp only [PartyRow.decode, hdirection]
  rfl

theorem read_declarationRows :
    (e.declarationRows request event).mapM DeclarationRow.decode =
      .ok (e.errorDeclaration.toList.map fun d => { d.kept with correctiveIds := [] }) :=
  mapM_map_eq_ok fun _ _ => rfl

theorem read_correctiveRows :
    (e.correctiveRows request event).mapM (fun r => (.ok r.id : Except StorageError _)) =
      .ok (e.errorDeclaration.toList.flatMap ErrorDeclaration.correctiveIds) :=
  mapM_flatMap_eq_ok fun _ _ => mapM_numbered_eq_self fun _ => rfl

end Event

/-! ### Rows by what they belong to -/

section Owners

variable {α ρ β : Type} {xs : List α} {key : α → PairKey} {part : α → List ρ} {owner : ρ → PairKey}

/-- Reading rows together with what they belong to. -/
theorem mapM_owner_eq_ok {rs : List ρ} {bs : List β} {read : ρ → Except StorageError β}
    {k : PairKey} (howner : ∀ r ∈ rs, owner r = k) (hread : rs.mapM read = .ok bs) :
    (rs.mapM fun r => (read r).map fun b => (owner r, b)) = .ok (bs.map fun b => (k, b)) := by
  induction rs generalizing bs with
  | nil =>
    obtain rfl := Except.ok.inj hread
    rfl
  | cons r rs ih =>
    obtain ⟨b, rest, hb, hrest, rfl⟩ := mapM_cons_eq_ok_iff.1 hread
    refine mapM_cons_eq_ok_iff.2 ⟨(k, b), _, ?_, ?_, rfl⟩
    · rw [hb, howner r List.mem_cons_self]
      rfl
    · exact ih (fun q hq => howner q (List.mem_cons_of_mem _ hq)) hrest

/-- What is answered of an owner, together with its key. -/
def tagged (key : α → PairKey) (answer : α → List β) (x : α) : List (PairKey × β) :=
  (answer x).map fun b => (key x, b)

theorem key_of_tagged {answer : α → List β} {x : α} : ∀ b ∈ tagged key answer x, b.1 = key x := by
  intro b hb
  obtain ⟨_, -, rfl⟩ := List.mem_map.1 hb
  rfl

/-- **Parts that are read by key are those of the owner that has the key.** -/
theorem readParts_eq_ok (hkeys : (xs.map key).Nodup) (howner : ∀ x, ∀ r ∈ part x, owner r = key x)
    {read : ρ → Except StorageError β} {answer : α → List β}
    (hread : ∀ x, (part x).mapM read = .ok (answer x)) {keys : List PairKey}
    (hbound : 2 * keys.length ≤ maxBound) :
    ∃ parts, readParts (xs.flatMap part) owner read keys = .ok parts ∧
      ∀ x ∈ xs, key x ∈ keys → parts.getD (key x) [] = answer x := by
  have hrows : (xs.flatMap part).filter (fun r => (Std.HashSet.ofList keys).contains (owner r)) =
      (xs.filter fun x => (Std.HashSet.ofList keys).contains (key x)).flatMap part :=
    filter_flatMap_owner (fun x _ => howner x) (Std.HashSet.ofList keys).contains
  refine ⟨group ((xs.filter fun x => (Std.HashSet.ofList keys).contains (key x)).flatMap
    (tagged key answer)), ?_, ?_⟩
  · refine bind_eq_ok_iff.2 ⟨(), if_pos hbound, bind_eq_ok_iff.2 ⟨_, ?_, rfl⟩⟩
    rw [hrows]
    exact mapM_flatMap_eq_ok fun x _ => mapM_owner_eq_ok (howner x) (hread x)
  · intro x hx hwanted
    -- of the rows that were read, those with the key of `x` are the rows of `x`
    have hfilter : ((xs.filter fun y => (Std.HashSet.ofList keys).contains (key y)).filter
        fun y => key y == key x) = [x] := by
      rw [List.filter_filter, ← filter_label_eq hkeys hx]
      refine List.filter_congr fun y _ => ?_
      by_cases hy : key y = key x
      · simp [hy, hwanted]
      · simp [hy]
    rw [getD_group, filter_flatMap_owner (fun y _ => key_of_tagged) fun k => k == key x, hfilter,
      List.flatMap_cons, List.flatMap_nil, List.append_nil, tagged, List.map_map]
    exact (List.map_congr_left fun _ _ => rfl).trans (List.map_id' _)

end Owners

/-! ### Whole events -/

/-- The rows of custom fields are made of custom fields. -/
theorem Event.exists_fieldRow_of_mem {request : Int} {event start : Nat} {fs : List CustomField}
    {r : FieldRow} (h : r ∈ fieldRowsFrom request event start fs) :
    ∃ index parent content, r = fieldRow request event index parent content := by
  induction fs generalizing start with
  | nil => exact absurd h List.not_mem_nil
  | cons f fs ih =>
    rcases List.mem_append.1 h with h | h
    · rcases List.mem_cons.1 h with rfl | h
      · exact ⟨_, _, _, rfl⟩
      · obtain ⟨_, -, rfl⟩ := List.mem_map.1 h
        exact ⟨_, _, _, rfl⟩
    · exact ih h

namespace Recorded

theorem owner_epcRows (x : Recorded) :
    ∀ r ∈ x.event.epcRows x.captured.id x.index, r.owner = x.key := by
  intro r hr
  obtain ⟨_, -, rfl⟩ := List.mem_map.1 hr
  rfl

theorem owner_fieldRows (x : Recorded) :
    ∀ r ∈ x.event.fieldRows x.captured.id x.index, r.owner = x.key := by
  intro r hr
  obtain ⟨_, _, _, rfl⟩ := Event.exists_fieldRow_of_mem hr
  rfl

theorem owner_transactionRows (x : Recorded) :
    ∀ r ∈ x.event.transactionRows x.captured.id x.index, r.owner = x.key := by
  intro r hr
  obtain ⟨_, -, rfl⟩ := List.mem_map.1 hr
  rfl

theorem owner_partyRows (x : Recorded) :
    ∀ r ∈ x.event.partyRows x.captured.id x.index, r.owner = x.key := by
  intro r hr
  obtain ⟨_, -, rfl⟩ := List.mem_map.1 hr
  rfl

theorem owner_declarationRows (x : Recorded) :
    ∀ r ∈ x.event.declarationRows x.captured.id x.index, r.owner = x.key := by
  intro r hr
  obtain ⟨_, -, rfl⟩ := List.mem_map.1 hr
  rfl

theorem owner_correctiveRows (x : Recorded) :
    ∀ r ∈ x.event.correctiveRows x.captured.id x.index, r.owner = x.key := by
  intro r hr
  obtain ⟨_, -, hr⟩ := List.mem_flatMap.1 hr
  obtain ⟨_, -, rfl⟩ := List.mem_map.1 hr
  rfl

end Recorded

/-- Members of the image of a list are the image of members. -/
theorem exists_map_eq_of_subset {α β : Type} {f : α → β} {as : List α} {bs : List β}
    (h : bs ⊆ as.map f) : ∃ as', as' ⊆ as ∧ bs = as'.map f := by
  induction bs with
  | nil => exact ⟨[], List.nil_subset _, rfl⟩
  | cons b bs ih =>
    obtain ⟨a, ha, rfl⟩ := List.mem_map.1 (h List.mem_cons_self)
    obtain ⟨as', has', rfl⟩ := ih (List.subset_of_cons_subset h)
    exact ⟨a :: as', List.cons_subset.2 ⟨ha, has'⟩, rfl⟩

namespace Store.Journal

variable {s : Store} {cs : List Captured}

/-- Parts that are read from a table are those of the event that has the key. -/
theorem readParts_rows (h : s.Journal cs) {t : Table} (ht : t.isOfEvents = true) {β : Type}
    {owner : t.Row → PairKey} (howner : ∀ x : Recorded, ∀ r ∈ x.rows t, owner r = x.key)
    {read : t.Row → Except StorageError β} {answer : Recorded → List β}
    (hread : ∀ x : Recorded, (x.rows t).mapM read = .ok (answer x)) {keys : List PairKey}
    (hbound : 2 * keys.length ≤ maxBound) :
    ∃ parts, readParts (s.rows t) owner read keys = .ok parts ∧
      ∀ x ∈ recorded cs, x.key ∈ keys → parts.getD x.key [] = answer x := by
  rw [h.rows_eq_flatMap ht]
  exact readParts_eq_ok h.recorded_keys_nodup howner hread hbound

/-- **Each recorded event is completed by its own parts.** -/
theorem readEventParts_eq_ok (h : s.Journal cs) {keys : List PairKey}
    (hbound : 2 * keys.length ≤ maxBound) :
    ∃ parts, s.readEventParts keys = .ok parts ∧
      ∀ x ∈ recorded cs, x.key ∈ keys → x.bare.complete parts = x.answer := by
  obtain ⟨epcs, hepcs, hepcs'⟩ := h.readParts_rows (t := .epcs) rfl Recorded.owner_epcRows
    (fun x => Event.read_epcRows x.captured.id x.index x.event) hbound
  obtain ⟨fields, hfields, hfields'⟩ := h.readParts_rows (t := .fields) rfl Recorded.owner_fieldRows
    (fun x => Event.read_fieldRowsFrom x.captured.id x.index 0 x.event.customFields) hbound
  obtain ⟨transactions, htransactions, htransactions'⟩ := h.readParts_rows (t := .transactions) rfl
    Recorded.owner_transactionRows
    (fun x => Event.read_transactionRows x.captured.id x.index x.event) hbound
  obtain ⟨parties, hparties, hparties'⟩ := h.readParts_rows (t := .parties) rfl
    Recorded.owner_partyRows (fun x => Event.read_partyRows x.captured.id x.index x.event) hbound
  obtain ⟨declarations, hdeclarations, hdeclarations'⟩ := h.readParts_rows (t := .declarations) rfl
    Recorded.owner_declarationRows
    (fun x => Event.read_declarationRows x.captured.id x.index x.event) hbound
  obtain ⟨correctives, hcorrectives, hcorrectives'⟩ := h.readParts_rows (t := .correctives) rfl
    Recorded.owner_correctiveRows
    (fun x => Event.read_correctiveRows x.captured.id x.index x.event) hbound
  -- the six tables are read one after the other
  refine ⟨⟨epcs, fields, transactions, parties, declarations, correctives⟩, ?_, ?_⟩
  · refine bind_eq_ok_iff.2 ⟨epcs, hepcs, bind_eq_ok_iff.2 ⟨fields, hfields, ?_⟩⟩
    refine bind_eq_ok_iff.2 ⟨transactions, htransactions, bind_eq_ok_iff.2 ⟨parties, hparties, ?_⟩⟩
    exact bind_eq_ok_iff.2 ⟨declarations, hdeclarations,
      bind_eq_ok_iff.2 ⟨correctives, hcorrectives, rfl⟩⟩
  · intro x hx hkey
    simp only [Event.complete, Recorded.key_bare, hepcs' x hx hkey, hfields' x hx hkey,
      htransactions' x hx hkey, hparties' x hx hkey, hdeclarations' x hx hkey,
      hcorrectives' x hx hkey, CustomField.ofPlaced_placed]
    cases hgiven : x.event.errorDeclaration with
    | none =>
      simp only [Recorded.answer, hgiven]
      rfl
    | some d =>
      simp only [Recorded.answer, hgiven, Option.toList_some, List.flatMap_cons, List.flatMap_nil,
        List.append_nil]
      rfl

theorem completeEvents_bare (h : s.Journal cs) {xs : List Recorded} (hxs : xs ⊆ recorded cs) :
    s.completeEvents (xs.map Recorded.bare) = .ok (xs.map Recorded.answer) := by
  have hbatch : ∀ piece ∈ chunks keysPerStatement xs,
      s.completeBatch (piece.map Recorded.bare) = .ok (piece.map Recorded.answer) := by
    intro piece hpiece
    have hlen : piece.length ≤ keysPerStatement := length_le_of_mem_chunks (by decide) hpiece
    have hkeys : (piece.map Recorded.bare).map Event.key = piece.map Recorded.key := by
      rw [List.map_map]
      rfl
    -- a batch is small enough for its keys to fit into one statement
    have hbound : 2 * (piece.map Recorded.key).length ≤ maxBound := by
      rw [List.length_map]
      simp only [keysPerStatement, maxBound] at hlen ⊢
      omega
    obtain ⟨parts, hparts, hanswer⟩ := h.readEventParts_eq_ok hbound
    refine bind_eq_ok_iff.2 ⟨parts, hkeys ▸ hparts, ?_⟩
    rw [List.map_map]
    refine congrArg Except.ok (List.map_congr_left fun x hx => ?_)
    exact hanswer x (hxs (mem_of_mem_chunks hpiece hx)) (List.mem_map_of_mem hx)
  refine bind_eq_ok_iff.2 ⟨(chunks keysPerStatement xs).map (List.map Recorded.answer), ?_, ?_⟩
  · rw [chunks_map]
    exact mapM_map_eq_ok hbatch
  · rw [← List.map_flatten, flatten_chunks]

/-- A query is answered with the events whose rows it selects. -/
theorem fetch_of_rows (h : s.Journal cs) {q : EventQuery} (hq : q.checkStatement = .ok ())
    {xs : List Recorded} (hxs : xs ⊆ recorded cs) (hrows : q.rows s = xs.map Recorded.row) :
    q.fetch s = .ok (xs.map Recorded.answer) := by
  refine bind_eq_ok_iff.2 ⟨(), hq, bind_eq_ok_iff.2 ⟨xs.map Recorded.bare, ?_, ?_⟩⟩
  · rw [hrows]
    exact mapM_map_eq_ok fun x _ => x.decode_row
  · exact h.completeEvents_bare hxs

/-- **Every query that can be carried out is answered**, with recorded events. -/
theorem fetch_eq_ok (h : s.Journal cs) {q : EventQuery} (hq : q.checkStatement = .ok ()) :
    ∃ xs, xs ⊆ recorded cs ∧ q.rows s = xs.map Recorded.row ∧
      q.fetch s = .ok (xs.map Recorded.answer) := by
  have hsub : q.rows s ⊆ (recorded cs).map Recorded.row := by
    intro r hr
    have hr := List.mem_mergeSort.1 (List.mem_of_mem_take hr)
    rw [EventQuery.matching_eq, h.events_eq] at hr
    exact (List.mem_filter.1 hr).1
  obtain ⟨xs, hxs, hrows⟩ := exists_map_eq_of_subset hsub
  exact ⟨xs, hxs, hrows, h.fetch_of_rows hq hxs hrows⟩

end Store.Journal

end Provenance
