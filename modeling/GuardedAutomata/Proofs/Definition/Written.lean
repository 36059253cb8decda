import GuardedAutomata.Definition.Builder
import GuardedAutomata.Proofs.Automaton.Marker
import GuardedAutomata.Proofs.Definition.Validity
import GuardedAutomata.Proofs.Value.RangeForm

/-!
# Written definitions

The dictionary form of an automaton lists its states and, state by state, its edges. It is read as the
definition that it was written for, field by field; only an edge that is guarded by nothing, and is no
epsilon edge for that, is written as a transition without a guard, which is refused.
-/

set_option autoImplicit false

namespace GuardedAutomata

/-! ### Predicates -/

namespace StoreKind

variable {k : StoreKind} {p raw : Value}

def written : StoreKind → Value → Value
  | .range, .range low high => Range.dump low high
  | _, p => p

theorem dump_callable_ne_ok (p raw : Value) : callable.dump p ≠ .ok raw := by
  intro h
  simp only [dump] at h
  split at h <;> cases h

theorem dump_eq_ok (h : k.dump p = .ok raw) : raw = k.written p := by
  unfold dump at h
  split at h
  · split at h
    · cases h
      rfl
    · cases h
  · exact absurd h (dump_callable_ne_ok p raw)
  · cases h
    unfold written
    split
    · contradiction
    · rfl

theorem parse_written (hp : k.coerce p = .ok p) (h : k.dump p = .ok (k.written p)) :
    k.parse (k.written p) = .ok p := by
  cases k with
  | range =>
    obtain ⟨low, high, rfl, hmake⟩ := Range.made_of_parse hp
    exact Range.parse_dump hmake
  | callable => exact absurd h (dump_callable_ne_ok _ _)
  | _ => rfl

theorem written_eq_null : k.written p = .null ↔ p = .null := by
  unfold written
  split
  · simp [Range.dump_ne_null]
  · rfl

end StoreKind

namespace Edge

def Writable (k : StoreKind) (e : Edge) : Prop :=
  ∀ p, e.guard = .predicate p → k.dump p = .ok (k.written p)

def writtenEntry (k : StoreKind) (source : Nat) (e : Edge) : Value :=
  .dict ([(.str "from", .int source), (.str "to", .int e.target)] ++
    match e.guard with
    | .epsilon => [(.str "epsilon", .bool true)]
    | .predicate p => [(.str "guard", k.written p)])

def transitionEntry (k : StoreKind) (source : Nat) (e : Edge) : TransitionEntry :=
  match e.guard with
  | .epsilon => ⟨source, e.target, .null, true⟩
  | .predicate p => ⟨source, e.target, k.written p, false⟩

variable {k : StoreKind} {i : Nat} {e : Edge}

@[simp] theorem source_transitionEntry : (e.transitionEntry k i).source = i := by
  unfold transitionEntry
  split <;> rfl

@[simp] theorem target_transitionEntry : (e.transitionEntry k i).target = e.target := by
  unfold transitionEntry
  split <;> rfl

end Edge

/-! ### Writing -/

namespace Automaton

variable {a : Automaton} {k : StoreKind} {i : Nat} {v : Value} {vs : List Value}

theorem edgeEntry_eq_ok {e : Edge} : edgeEntry k i e = .ok v ↔ e.Writable k ∧ v = e.writtenEntry k i := by
  obtain ⟨g, t⟩ := e
  cases g with
  | epsilon => simp [edgeEntry, Edge.Writable, Edge.writtenEntry, eq_comm]
  | predicate p =>
    cases hd : k.dump p with
    | error f => simp [edgeEntry, Edge.Writable, hd]
    | ok raw =>
      obtain rfl := StoreKind.dump_eq_ok hd
      simp [edgeEntry, Edge.Writable, Edge.writtenEntry, hd, eq_comm]

theorem edgeEntries_cons {e : Edge} {es : List Edge} : edgeEntries k i (e :: es) = .ok vs ↔
    ∃ v us, edgeEntry k i e = .ok v ∧ edgeEntries k i es = .ok us ∧ vs = v :: us := by
  rw [edgeEntries]
  cases edgeEntry k i e with
  | error f => simp
  | ok v =>
    cases edgeEntries k i es with
    | error f => simp
    | ok us => simp [eq_comm]

theorem edgeEntries_eq_ok {es : List Edge} :
    edgeEntries k i es = .ok vs ↔ (∀ e ∈ es, e.Writable k) ∧ vs = es.map (Edge.writtenEntry k i) := by
  induction es generalizing vs with
  | nil => simp [edgeEntries, eq_comm]
  | cons e es ih =>
    rw [edgeEntries_cons, List.forall_mem_cons]
    simp only [ih, edgeEntry_eq_ok]
    constructor
    · rintro ⟨v, us, ⟨he, rfl⟩, ⟨hes, rfl⟩, rfl⟩
      exact ⟨⟨he, hes⟩, rfl⟩
    · rintro ⟨⟨he, hes⟩, rfl⟩
      exact ⟨_, _, ⟨he, rfl⟩, ⟨hes, rfl⟩, rfl⟩

theorem transitionEntries_cons {is : List Nat} : a.transitionEntries (i :: is) = .ok vs ↔
    ∃ us ws, edgeEntries a.factory.storeKind i (a.edgesOf i) = .ok us ∧ a.transitionEntries is = .ok ws ∧
      vs = us ++ ws := by
  rw [transitionEntries]
  cases edgeEntries a.factory.storeKind i (a.edgesOf i) with
  | error f => simp
  | ok us =>
    cases a.transitionEntries is with
    | error f => simp
    | ok ws => simp [eq_comm]

def transitionsFrom {α : Type} (a : Automaton) (f : Nat → Edge → α) (is : List Nat) : List α :=
  is.flatMap fun i => (a.edgesOf i).map (f i)

theorem transitionsFrom_cons {α : Type} (f : Nat → Edge → α) (i : Nat) (is : List Nat) :
    a.transitionsFrom f (i :: is) = (a.edgesOf i).map (f i) ++ a.transitionsFrom f is :=
  List.flatMap_cons

theorem transitionsFrom_eq_map {α : Type} (f : Nat → Edge → α) (is : List Nat) :
    a.transitionsFrom f is = (a.transitionsFrom Prod.mk is).map fun l => f l.1 l.2 := by
  simp only [transitionsFrom, List.map_flatMap, List.map_map]
  rfl

theorem mem_transitionsFrom {α : Type} {f : Nat → Edge → α} {is : List Nat} {x : α} :
    x ∈ a.transitionsFrom f is ↔ ∃ i ∈ is, ∃ e ∈ a.edgesOf i, f i e = x := by
  simp [transitionsFrom]

theorem transitionEntries_eq_ok {is : List Nat} : a.transitionEntries is = .ok vs ↔
    (∀ i ∈ is, ∀ e ∈ a.edgesOf i, e.Writable a.factory.storeKind) ∧
      vs = a.transitionsFrom (Edge.writtenEntry a.factory.storeKind) is := by
  induction is generalizing vs with
  | nil => simp [transitionEntries, transitionsFrom, eq_comm]
  | cons i is ih =>
    rw [transitionEntries_cons, List.forall_mem_cons]
    simp only [ih, edgeEntries_eq_ok]
    constructor
    · rintro ⟨us, ws, ⟨hi, rfl⟩, ⟨his, rfl⟩, rfl⟩
      exact ⟨⟨hi, his⟩, (transitionsFrom_cons ..).symm⟩
    · rintro ⟨⟨hi, his⟩, rfl⟩
      exact ⟨_, _, ⟨hi, rfl⟩, ⟨his, rfl⟩, transitionsFrom_cons ..⟩

def Writable (a : Automaton) : Prop :=
  ∀ i < a.count, ∀ e ∈ a.edgesOf i, e.Writable a.factory.storeKind

def Guarded (a : Automaton) : Prop :=
  ∀ i, ∀ e ∈ a.edgesOf i, e.guard ≠ .predicate .null

def writtenFields (a : Automaton) (k : StoreKind) : List (Value × Value) :=
  [(.str "name", a.name), (.str "store", .str k.name),
    (.str "states", .list ((List.range a.count).map a.stateEntry)),
    (.str "transitions", .list (a.transitionsFrom (Edge.writtenEntry k) (List.range a.count)))]

/-- Every automaton with stores of a named kind has a dictionary form if its edges can be written. -/
theorem toDict_eq_ok (hk : a.factory = .ofKind k) (hname : k.name.isEmpty = false) :
    a.toDict = .ok v ↔ a.Writable ∧ v = .dict (a.writtenFields k) := by
  have hkind : a.factory.kindName? = some k.name := by simp [hk, Factory.kindName?, hname]
  have hstore : a.factory.storeKind = k := by simp [hk, Factory.storeKind]
  have hwritable : a.Writable ↔
      ∀ i ∈ List.range a.count, ∀ e ∈ a.edgesOf i, e.Writable a.factory.storeKind := by
    simp [Writable]
  rw [toDict, hkind, hwritable]
  cases hts : a.transitionEntries (List.range a.count) with
  | error f =>
    have hno : ¬ ∀ i ∈ List.range a.count, ∀ e ∈ a.edgesOf i, e.Writable a.factory.storeKind := fun hall => by
      rw [transitionEntries_eq_ok.2 ⟨hall, rfl⟩] at hts
      cases hts
    simp only [hno, false_and, iff_false]
    exact fun h => by cases h
  | ok ts =>
    obtain ⟨hall, rfl⟩ := transitionEntries_eq_ok.1 hts
    rw [and_iff_right hall, hstore]
    simp only [writtenFields, Except.ok.injEq]
    exact eq_comm

end Automaton

/-! ### Reading -/

theorem Checked.both_refused {α β : Type} (x : Checked α) {y : Checked β} (h : ∃ issues, y = .error issues) :
    ∃ issues, x.both y = .error issues := by
  obtain ⟨issues, rfl⟩ := h
  cases x <;> exact ⟨_, rfl⟩

namespace Definition

variable {α β : Type} {f : α → Value} {g : α → β} {read : List PathStep → Value → Checked β}

theorem items_map {xs : List α} (h : ∀ x ∈ xs, ∀ path, read path (f x) = .ok (g x)) (path : List PathStep)
    (i : Nat) : items path read i (xs.map f) = .ok (xs.map g) := by
  induction xs generalizing i with
  | nil => rfl
  | cons x xs ih =>
    obtain ⟨hx, hxs⟩ := List.forall_mem_cons.1 h
    rw [List.map_cons, items, hx, ih hxs]
    rfl

/-- An item that is refused has its list refused. -/
theorem items_refused {vs : List Value} {v : Value} (hv : v ∈ vs)
    (h : ∀ path, ∃ issues, read path v = .error issues) (path : List PathStep) (i : Nat) :
    ∃ issues, items path read i vs = .error issues := by
  induction vs generalizing i with
  | nil => cases hv
  | cons w vs ih =>
    rw [items]
    rcases List.mem_cons.1 hv with rfl | hv
    · obtain ⟨issues, hissues⟩ := h (path ++ [.index i])
      rw [hissues]
      cases items path read (i + 1) vs <;> exact ⟨_, rfl⟩
    · obtain ⟨issues, hissues⟩ := Checked.both_refused (read (path ++ [.index i]) w) (ih hv (i + 1))
      rw [hissues]
      exact ⟨issues, rfl⟩

theorem natural_nat (n : Nat) : Scalar.natural (.int n) = .ok n := by
  simp [Scalar.natural, Scalar.integer]

theorem marker_hashable {m : Value} (h : m.unhashable? = none) (path : List PathStep) :
    marker path m = .ok m := by
  unfold marker
  split
  · cases h
  · cases h
  · cases h
  next c => cases c <;> cases h
  · rfl

theorem readState_entry {a : Automaton} {i : Nat} (h : ∀ m ∈ a.markersAt i, m.unhashable? = none)
    (path : List PathStep) : readState path (a.stateEntry i) = .ok ⟨i, a.sortedMarkers i⟩ := by
  have hmarkers : ∀ p, items p marker 0 (a.sortedMarkers i) = .ok (a.sortedMarkers i) := fun p => by
    have hsorted : ∀ m ∈ a.sortedMarkers i, ∀ path, marker path (id m) = .ok (id m) := fun m hm path =>
      marker_hashable (h m ((Text.sortByKey_perm Value.text _).mem_iff.1 hm)) path
    simpa using items_map hsorted p 0
  simp [readState, Automaton.stateEntry, requiredField, listField, Value.field?, scalar, natural_nat, sequence?,
    hmarkers, Checked.both, Checked.map]

theorem readTransition_entry (k : StoreKind) (i : Nat) (e : Edge) (path : List PathStep) :
    readTransition path (e.writtenEntry k i) = Checked.obeying path guardBreach (.ok (e.transitionEntry k i)) := by
  obtain ⟨g, t⟩ := e
  cases g <;>
    simp [readTransition, Edge.writtenEntry, Edge.transitionEntry, requiredField, field, Value.field?, scalar,
      natural_nat, Scalar.boolean, Checked.both, Checked.map]

theorem guardBreach_entry {k : StoreKind} {i : Nat} {e : Edge} :
    guardBreach (e.transitionEntry k i) = none ↔ e.guard ≠ .predicate .null := by
  obtain ⟨g, t⟩ := e
  cases g with
  | epsilon => simp [Edge.transitionEntry, guardBreach]
  | predicate p =>
    rw [Ne, Guard.predicate.injEq, ← StoreKind.written_eq_null (k := k)]
    cases hw : k.written p <;> simp [Edge.transitionEntry, guardBreach, hw]

end Definition

namespace Automaton

open Definition

def definition (a : Automaton) (k : StoreKind) (name : String) : Definition where
  name := name
  description := none
  store := some k.name
  states := (List.range a.count).map fun i => ⟨i, a.sortedMarkers i⟩
  transitions := a.transitionsFrom (Edge.transitionEntry k) (List.range a.count)
  fragments := []

variable {a : Automaton} {k : StoreKind} {name : String}

theorem readStates_written (hm : a.HashableMarkers) (k : StoreKind) (name : String) (path : List PathStep) :
    readStates (a.writtenFields k) path = .ok (a.definition k name).states := by
  have hstates : ∀ p, items p readState 0 ((List.range a.count).map a.stateEntry) =
      .ok (a.definition k name).states := fun p =>
    items_map (fun i _ path => readState_entry hm.markersAt path) p 0
  have hdense : sparseBreach 0 (a.definition k name).states = none := by
    rw [sparseBreach_eq_none, ← List.range_eq_range']
    simp [definition, Function.comp_def]
  simp [readStates, listField, writtenFields, Value.field?, sequence?, hstates, Checked.obeying, hdense]

theorem readAt_own {entries : List (Value × Value)} (hf : Value.field? entries "fragments" = none)
    (room : Nat) (path : List PathStep) : readAt (room + 1) path (.dict entries) =
      (((readOwn entries path).map fun (name, description, store, states, transitions) =>
        ⟨name, description, store, states, transitions, []⟩).obeying path referenceBreach) := by
  rw [readAt_dict, readParts, hf]
  cases readOwn entries path <;> rfl

theorem referenceBreach_definition (ha : a.WellFormed) : referenceBreach (a.definition k name) = none := by
  have hends : ∀ t ∈ (a.definition k name).transitions, t.source < a.count ∧ t.target < a.count := by
    intro t ht
    obtain ⟨i, hi, e, he, rfl⟩ := mem_transitionsFrom.1 ht
    simpa using ⟨List.mem_range.1 hi, ha.target_lt he⟩
  have hlength : (a.definition k name).states.length = a.count := by simp [definition]
  rw [referenceBreach, hlength, endpointBreach_eq_none.2 hends]
  rfl

/-- The dictionary form is read as what it stands for, if no edge is guarded by nothing. -/
theorem ofValue_written (ha : a.WellFormed) (hm : a.HashableMarkers) (hname : Scalar.text a.name = .ok name)
    (hg : a.Guarded) :
    ofValue (.dict (a.writtenFields k)) = .ok (a.definition k name) := by
  have htransitions : ∀ p, items p readTransition 0
      (a.transitionsFrom (Edge.writtenEntry k) (List.range a.count)) = .ok (a.definition k name).transitions := by
    intro p
    rw [definition, transitionsFrom_eq_map, transitionsFrom_eq_map (Edge.transitionEntry k)]
    refine items_map (fun l hl path => ?_) p 0
    obtain ⟨i, _, e, he, rfl⟩ := mem_transitionsFrom.1 hl
    rw [readTransition_entry, Checked.obeying, guardBreach_entry.2 (hg i e he)]
  have hown : readOwn (a.writtenFields k) [] = .ok (name, none, some k.name, (a.definition k name).states,
      (a.definition k name).transitions) := by
    have hstore : Scalar.optional Scalar.text (.str k.name) = .ok (some k.name) := rfl
    rw [readOwn, readStates_written hm k name]
    simp [field, listField, writtenFields, Value.field?, scalar, hstore, sequence?, hname, htransitions, Checked.both]
  have hread : readAt mostNested [] (.dict (a.writtenFields k)) = .ok (a.definition k name) := by
    rw [mostNested, readAt_own rfl, hown]
    change (Checked.obeying [] referenceBreach (.ok (a.definition k name))) = _
    rw [Checked.obeying, referenceBreach_definition ha]
  rw [ofValue, hread]

/-- The dictionary form is refused if an edge is guarded by nothing. -/
theorem ofValue_refused {i : Nat} {e : Edge} (he : e ∈ a.edgesOf i) (hnull : e.guard = .predicate .null) :
    ∃ issues, ofValue (.dict (a.writtenFields k)) = .error (.invalidDefinition issues) := by
  have hentry : ∀ path, ∃ issues, readTransition path (e.writtenEntry k i) = .error issues := by
    intro path
    rw [readTransition_entry, Checked.obeying]
    cases hb : guardBreach (e.transitionEntry k i) with
    | none => exact absurd hnull (guardBreach_entry.1 hb)
    | some rule => exact ⟨_, rfl⟩
  have hmem : e.writtenEntry k i ∈ a.transitionsFrom (Edge.writtenEntry k) (List.range a.count) :=
    mem_transitionsFrom.2 ⟨i, List.mem_range.2 (lt_count_of_mem_edgesOf he), e, he, rfl⟩
  obtain ⟨issues, htransitions⟩ := items_refused hmem hentry [.key "transitions"] 0
  have hlist : listField (a.writtenFields k) [] "transitions" readTransition = .error issues := by
    simpa [listField, writtenFields, Value.field?, sequence?] using htransitions
  -- The issues of the transitions are kept, whatever the four fields before them say.
  obtain ⟨all, hown⟩ : ∃ all, readOwn (a.writtenFields k) [] = .error all := by
    rw [readOwn, hlist]
    iterate 4 refine Checked.both_refused _ ?_
    exact ⟨issues, rfl⟩
  refine ⟨all, ?_⟩
  rw [ofValue, mostNested, readAt_own rfl, hown]
  rfl

end Automaton

end GuardedAutomata
