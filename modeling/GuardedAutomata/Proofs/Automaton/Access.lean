import GuardedAutomata.Automaton.Dictionary
import GuardedAutomata.Automaton.Dot
import GuardedAutomata.Proofs.Session.Run

/-!
# Table accesses

The operations that go through the tables of an automaton take what is out of range for empty. Beside each
stands here a strict one, which gives nothing as soon as one access is out of range; the strict closure
also gives nothing when its rounds do not suffice. Strict and lenient operations agree on reachable
automata, so no access is ever out of range.
-/

set_option autoImplicit false

namespace GuardedAutomata

theorem mapM_eq_some {α β : Type} {f : α → Option β} {g : α → β} {l : List α}
    (h : ∀ x ∈ l, f x = some (g x)) : l.mapM f = some (l.map g) := by
  induction l with
  | nil => rfl
  | cons x l ih =>
    obtain ⟨hx, hl⟩ := List.forall_mem_cons.1 h
    rw [List.mapM_cons, hx, ih hl]
    rfl

namespace Automaton

/-! ### Strict operations -/

def closeRounds? (next : Nat → Option (List Nat)) : Nat → StateSet → List Nat → Option StateSet
  | 0, reached, suspects => if suspects.isEmpty then some reached else none
  | fuel + 1, reached, suspects =>
    match suspects.mapM next with
    | none => none
    | some targets =>
      let discovered := targets.flatten.filter (· ∉ reached)
      if discovered.isEmpty then some reached
      else closeRounds? next fuel (reached.insertAll discovered) (StateSet.ofList discovered).ids

def closure? (a : Automaton) (s : StateSet) : Option StateSet :=
  closeRounds? (fun i => (a.stores[i]?).map Store.epsilon) a.count s s.ids

def currentMarkers? (a : Automaton) : Option (List Value) :=
  (a.active.ids.mapM (a.markers[·]?)).map joinMarkers

def combine? (a : Automaton) : List Nat → Store → Option (Except Failure Store)
  | [], s => some (.ok s)
  | i :: rest, s =>
    match a.stores[i]? with
    | none => none
    | some t =>
      match s.putAll .ok t.edges with
      | (_, .error f) => some (.error f)
      | (s, .ok _) => a.combine? rest s

def activeTransitions? (a : Automaton) : Option (Except Failure Store) :=
  a.combine? a.active.ids a.factory.newStore

def transitionEntries? (a : Automaton) : List Nat → Option (Except Failure (List Value))
  | [] => some (.ok [])
  | i :: rest =>
    match a.stores[i]? with
    | none => none
    | some s =>
      match edgeEntries a.factory.storeKind i s.edges with
      | .error f => some (.error f)
      | .ok entries => (a.transitionEntries? rest).map (Except.map (entries ++ ·))

def stateRow? (a : Automaton) (i : Nat) : Option Value :=
  (a.markers[i]?).map fun ms =>
    .dict [(.str "id", .int i), (.str "markers", .list (Text.sortByKey Value.text ms))]

def toDict? (a : Automaton) : Option (Except Failure Value) :=
  match a.factory.kindName? with
  | none => some (.error (.noKind a.factory.literal))
  | some kind =>
    match (List.range a.count).mapM a.stateRow?, a.transitionEntries? (List.range a.count) with
    | some states, some transitions => some (transitions.map fun transitions =>
        .dict [(.str "name", a.name), (.str "store", .str kind), (.str "states", .list states),
          (.str "transitions", .list transitions)])
    | _, _ => none

def dotNode? (a : Automaton) (i : Nat) : Option String :=
  (a.markers[i]?).map fun _ => a.dotNode i

def dotEdges? (a : Automaton) (i : Nat) : Option (List String) :=
  (a.stores[i]?).map fun s => s.edges.map (a.dotEdge i)

def dotLines? (a : Automaton) : Option (List String) :=
  match (List.range a.count).mapM a.dotNode?, (List.range a.count).mapM a.dotEdges? with
  | some nodes, some edges => some (nodes ++ edges.flatten)
  | _, _ => none

section Simulation

variable [TestFunctions]

def targetsFrom? (a : Automaton) (v : Value) : List Nat → Option (Except Fault (List Nat))
  | [] => some (.ok [])
  | i :: rest =>
    match a.stores[i]? with
    | none => none
    | some s =>
      match s.query v with
      | .error cause => some (.error cause)
      | .ok targets => (a.targetsFrom? v rest).map (Except.map (targets ++ ·))

def advance? (a : Automaton) (v : Value) : Option (Attempt Bool) :=
  match a.targetsFrom? v a.active.ids with
  | none => none
  | some (.error cause) => some (a, .error (.fault cause))
  | some (.ok targets) =>
    if targets.isEmpty then some (a, .ok false)
    else (a.closure? (.ofList targets)).map fun s => ({ a with active := s }, .ok true)

def step? (a : Automaton) (v : Value) : Option (Attempt Bool) :=
  match v with
  | .epsilon => some (a, .error .epsilonInput)
  | v => a.advance? v

end Simulation

/-! ### Strict rounds -/

section Rounds

variable {next : Nat → Option (List Nat)} {total : Nat → List Nat} {n : Nat}

/-- A round with suspects leaves fewer states to reach than there are rounds to come. -/
theorem closeRounds?_eq (hnext : ∀ i < n, next i = some (total i)) (htotal : ∀ i, ∀ j ∈ total i, j < n)
    {fuel : Nat} {reached : StateSet} {suspects : List Nat} (hs : ∀ i ∈ suspects, i < n)
    (hf : suspects ≠ [] → missing n reached < fuel) :
    closeRounds? next fuel reached suspects = some (closeRounds total fuel reached suspects) := by
  induction fuel generalizing reached suspects with
  | zero =>
    cases suspects with
    | nil => rfl
    | cons i suspects => exact absurd (hf (by simp)) (Nat.not_lt_zero _)
  | succ fuel ih =>
    have hread : suspects.mapM next = some (suspects.map total) :=
      mapM_eq_some fun i hi => hnext i (hs i hi)
    have hfound : ∀ j ∈ discovered total reached suspects, j < n ∧ j ∉ reached := discovered_lt htotal
    rw [closeRounds_succ]
    simp only [closeRounds?, hread, ← List.flatMap_def]
    change (if (discovered total reached suspects).isEmpty then _ else _) = _
    split
    · rfl
    next hne =>
      have hne : discovered total reached suspects ≠ [] := by simpa using hne
      have hsus : suspects ≠ [] := by
        rintro rfl
        exact hne rfl
      refine ih ?_ fun _ => ?_
      · intro i hi
        rw [StateSet.mem_ids, StateSet.mem_ofList] at hi
        exact (hfound i hi).1
      · exact Nat.lt_of_lt_of_le (missing_insertAll_lt hne hfound) (Nat.le_of_lt_succ (hf hsus))

theorem missing_lt {s : StateSet} {i : Nat} (hi : i ∈ s) (hn : i < n) : missing n s < n := by
  have h : ((List.range n).filter (· ∉ s)).length < (List.range n).length := by
    rw [List.length_filter_lt_length_iff_exists]
    exact ⟨i, List.mem_range.2 hn, by simpa using hi⟩
  simpa [missing] using h

end Rounds

/-! ### Agreement -/

namespace WellFormed

variable {a : Automaton}

theorem exists_store {i : Nat} (hi : i < a.count) : ∃ s, a.stores[i]? = some s ∧ a.edgesOf i = s.edges ∧
    a.epsilonTargets i = s.epsilon := by
  have hs : a.stores[i]? = some a.stores[i] := List.getElem?_eq_getElem hi
  exact ⟨_, hs, by simp [edgesOf, hs], by simp [epsilonTargets, hs]⟩

theorem getElem_markers (ha : a.WellFormed) {i : Nat} (hi : i < a.count) :
    a.markers[i]? = some (a.markersAt i) := by
  rw [← ha.markers_length] at hi
  simp [markersAt, List.getElem?_eq_getElem hi]

theorem closure?_eq (ha : a.WellFormed) {s : StateSet} (hs : ∀ i ∈ s, i < a.count) :
    a.closure? s = some (a.closure s) := by
  refine closeRounds?_eq ?_ ha.epsilonTargets_lt hs fun hne => ?_
  · intro i hi
    obtain ⟨t, ht, _, he⟩ := exists_store hi
    rw [ht, he]
    rfl
  · obtain ⟨i, hi⟩ := List.exists_mem_of_ne_nil _ hne
    exact missing_lt hi (hs i hi)

theorem currentMarkers?_eq (ha : a.WellFormed) : a.currentMarkers? = some a.currentMarkers := by
  have hread : a.active.ids.mapM (a.markers[·]?) = some (a.active.ids.map a.markersAt) :=
    mapM_eq_some fun i hi => ha.getElem_markers (ha.active_lt i hi)
  rw [currentMarkers?, hread]
  rfl

theorem combine?_eq {is : List Nat} (his : ∀ i ∈ is, i < a.count) (s : Store) :
    a.combine? is s = some (a.combine is s) := by
  induction is generalizing s with
  | nil => rfl
  | cons i is ih =>
    obtain ⟨hi, hrest⟩ := List.forall_mem_cons.1 his
    obtain ⟨t, ht, he, _⟩ := exists_store hi
    simp only [combine?, ht, combine, he]
    rcases s.putAll .ok t.edges with ⟨u, f | _⟩
    · rfl
    · exact ih hrest u

theorem transitionEntries?_eq {is : List Nat} (his : ∀ i ∈ is, i < a.count) :
    a.transitionEntries? is = some (a.transitionEntries is) := by
  induction is with
  | nil => rfl
  | cons i is ih =>
    obtain ⟨hi, hrest⟩ := List.forall_mem_cons.1 his
    obtain ⟨t, ht, he, _⟩ := exists_store hi
    simp only [transitionEntries?, ht, transitionEntries, he, ih hrest]
    cases edgeEntries a.factory.storeKind i t.edges with
    | error f => rfl
    | ok entries => cases a.transitionEntries is <;> rfl

theorem toDict?_eq (ha : a.WellFormed) : a.toDict? = some a.toDict := by
  have hstates : (List.range a.count).mapM a.stateRow? = some ((List.range a.count).map a.stateEntry) := by
    refine mapM_eq_some fun i hi => ?_
    rw [stateRow?, ha.getElem_markers (List.mem_range.1 hi)]
    rfl
  have hentries := transitionEntries?_eq (a := a) fun i hi => List.mem_range.1 hi
  rw [toDict?, toDict, hstates, hentries]
  cases a.factory.kindName? with
  | none => rfl
  | some kind => cases a.transitionEntries (List.range a.count) <;> rfl

theorem dotLines?_eq (ha : a.WellFormed) : a.dotLines? = some a.dotLines := by
  have hnodes : (List.range a.count).mapM a.dotNode? = some ((List.range a.count).map a.dotNode) := by
    refine mapM_eq_some fun i hi => ?_
    rw [dotNode?, ha.getElem_markers (List.mem_range.1 hi)]
    rfl
  have hedges : (List.range a.count).mapM a.dotEdges? =
      some ((List.range a.count).map fun i => (a.edgesOf i).map (a.dotEdge i)) := by
    refine mapM_eq_some fun i hi => ?_
    obtain ⟨s, hs, he, _⟩ := exists_store (List.mem_range.1 hi)
    rw [dotEdges?, hs, he]
    rfl
  rw [dotLines?, hnodes, hedges]
  simp only [dotLines, List.flatMap_def]

variable [TestFunctions]

theorem targetsFrom?_eq {v : Value} {is : List Nat} (his : ∀ i ∈ is, i < a.count) :
    a.targetsFrom? v is = some (a.targetsFrom v is) := by
  induction is with
  | nil => rfl
  | cons i is ih =>
    obtain ⟨hi, hrest⟩ := List.forall_mem_cons.1 his
    obtain ⟨s, hs, _⟩ := exists_store hi
    have ht : a.targetsOf v i = s.query v := by
      rw [targetsOf, hs]
    simp only [targetsFrom?, hs, targetsFrom, ht, ih hrest]
    cases s.query v with
    | error cause => rfl
    | ok targets => cases a.targetsFrom v is <;> rfl

theorem advance?_eq (ha : a.WellFormed) (v : Value) : a.advance? v = some (a.advance v) := by
  rw [advance?, targetsFrom?_eq ha.active_lt, advance]
  cases hts : a.targetsFrom v a.active.ids with
  | error cause => rfl
  | ok targets =>
    by_cases hempty : targets.isEmpty = true
    · simp [hempty]
    · have hlt : ∀ i ∈ StateSet.ofList targets, i < a.count := fun i hi =>
        ha.targetsFrom_lt hts i (StateSet.mem_ofList.1 hi)
      simp [hempty, ha.closure?_eq hlt]

theorem step?_eq (ha : a.WellFormed) (v : Value) : a.step? v = some (a.step v) := by
  cases v <;> first | exact ha.advance?_eq _ | rfl

end WellFormed

/-! ### Reachable automata -/

theorem resolve_int {a : Automaton} {n i : Nat} : a.resolve (.int n) = .ok i ↔ n < a.count ∧ i = n := by
  have hn : ¬ (n : Int) < 0 := by omega
  by_cases h : n < a.count
  · simp [resolve, hn, h, eq_comm]
  · simp [resolve, hn, h]

theorem resolve_state {a : Automaton} {n i : Nat} : a.resolve (.state n) = .ok i ↔ n < a.count ∧ i = n := by
  by_cases h : n < a.count
  · simp [resolve, h, eq_comm]
  · simp [resolve, h]

variable [TestFunctions]

structure InRange (a : Automaton) : Prop where
  markers_length : a.markers.length = a.stores.length
  target_lt : ∀ s ∈ a.stores, ∀ e ∈ s.edges, e.target < a.count
  active_lt : ∀ i ∈ a.active, i < a.count
  closure : ∀ s : StateSet, (∀ i ∈ s, i < a.count) → a.closure? s = some (a.closure s)
  step : ∀ v, a.step? v = some (a.step v)
  currentMarkers : a.currentMarkers? = some a.currentMarkers
  activeTransitions : a.activeTransitions? = some a.activeTransitions
  toDict : a.toDict? = some a.toDict
  dotLines : a.dotLines? = some a.dotLines
  resolve_int : ∀ n i : Nat, a.resolve (.int n) = .ok i ↔ n < a.count ∧ i = n
  resolve_state : ∀ n i : Nat, a.resolve (.state n) = .ok i ↔ n < a.count ∧ i = n

/-- No run leaves an automaton in which an access to a table is out of range. -/
theorem inRange_of_reachable {a : Automaton} (h : a.Reachable) : a.InRange where
  markers_length := h.wellFormed.markers_length
  target_lt := fun s hs => (h.wellFormed.stores s hs).target_lt
  active_lt := h.wellFormed.active_lt
  closure := fun _ hs => h.wellFormed.closure?_eq hs
  step := h.wellFormed.step?_eq
  currentMarkers := h.wellFormed.currentMarkers?_eq
  activeTransitions := WellFormed.combine?_eq h.wellFormed.active_lt _
  toDict := h.wellFormed.toDict?_eq
  dotLines := h.wellFormed.dotLines?_eq
  resolve_int := fun _ _ => Automaton.resolve_int
  resolve_state := fun _ _ => Automaton.resolve_state

omit [TestFunctions] in
/-- An automaton that has been copied into another one behind a state of its own. -/
theorem inRange_of_reachable_added : ∃ a, @Reachable Matcher.catalogue a ∧ a.count = 3 ∧
    @InRange Matcher.catalogue a := by
  let _ := Matcher.catalogue
  let cs : List (String × Command) := [("a", .new (.ofKind .symbol) .null), ("a", .newState),
    ("b", .new (.ofKind .symbol) .null), ("b", .newStates 2),
    ("b", .newTransition (.int 0) (.int 1) (.str "x")), ("b", .mark (.int 1) (.str "m")), ("a", .add "b")]
  have ha : (Session.run cs .empty).automaton? "a" = some _ := rfl
  exact ⟨_, ⟨cs, "a", ha⟩, rfl, inRange_of_reachable ⟨cs, "a", ha⟩⟩

end Automaton

end GuardedAutomata
