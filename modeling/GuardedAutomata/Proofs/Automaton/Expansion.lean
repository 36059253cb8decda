import GuardedAutomata.Proofs.Session.Growth
import Mathlib

/-!
# Expanding states

The closure of a set is found in rounds. The loop is told here without a bound on the rounds: it goes on as long
as the last round has discovered states, and expands these and no others. It ends, after having expanded every
state that is reached once and no other state at all, and what it has reached is the least set around the given
states that epsilon edges do not leave.
-/

set_option autoImplicit false

namespace GuardedAutomata.Automaton

/-- The loop from what has been reached and the suspects that are left: the states it expands, in the order in
which it does, and what has been reached when no suspects are left. -/
inductive Expansion (next : Nat → List Nat) : StateSet → List Nat → List Nat → StateSet → Prop
  | done (reached : StateSet) : Expansion next reached [] [] reached
  | round {reached result : StateSet} {suspects expanded : List Nat} : suspects ≠ [] →
      Expansion next (reached.insertAll (discovered next reached suspects))
        (StateSet.ofList (discovered next reached suspects)).ids expanded result →
      Expansion next reached suspects (suspects ++ expanded) result

section Loop

variable {next : Nat → List Nat} {n : Nat} {reached result : StateSet} {suspects expanded : List Nat}

theorem mem_ids_ofList {found : List Nat} {i : Nat} : i ∈ (StateSet.ofList found).ids ↔ i ∈ found :=
  StateSet.mem_ofList

theorem reached_of_found {found : List Nat} :
    ∀ i ∈ (StateSet.ofList found).ids, i ∈ reached.insertAll found := by
  intro i hi
  exact StateSet.mem_insertAll.2 (.inl (mem_ids_ofList.1 hi))

theorem expansion_last (h : discovered next reached suspects = []) :
    Expansion next reached suspects suspects reached := by
  by_cases hs : suspects = []
  · subst hs
    exact .done reached
  · have hround : Expansion next (reached.insertAll (discovered next reached suspects))
        (StateSet.ofList (discovered next reached suspects)).ids [] reached := by
      rw [h]
      exact .done reached
    simpa using Expansion.round hs hround

/-- As many rounds as there are states missing are enough for the loop to end. -/
theorem expansion_closeRounds (hn : ∀ i, ∀ j ∈ next i, j < n) (fuel : Nat) (reached : StateSet)
    (suspects : List Nat) (hf : missing n reached ≤ fuel) :
    ∃ expanded, Expansion next reached suspects expanded (closeRounds next fuel reached suspects) := by
  induction fuel generalizing reached suspects with
  | zero =>
    have hnone : discovered next reached suspects = [] := by
      refine List.eq_nil_iff_forall_not_mem.2 fun j hj => ?_
      obtain ⟨hlt, hnew⟩ := discovered_lt hn j hj
      exact hnew (mem_of_missing_eq_zero (Nat.le_zero.1 hf) hlt)
    exact ⟨suspects, expansion_last hnone⟩
  | succ fuel ih =>
    rw [closeRounds_succ]
    by_cases hnone : discovered next reached suspects = []
    · rw [hnone]
      exact ⟨suspects, expansion_last hnone⟩
    · have hlt := missing_insertAll_lt hnone (discovered_lt hn)
      have hs : suspects ≠ [] := by
        rintro rfl
        exact hnone rfl
      obtain ⟨expanded, h⟩ := ih (reached.insertAll (discovered next reached suspects))
        (StateSet.ofList (discovered next reached suspects)).ids (by omega)
      rw [if_neg (by simpa using hnone)]
      exact ⟨suspects ++ expanded, .round hs h⟩

namespace Expansion

/-- The loop can only go one way. -/
theorem unique (h : Expansion next reached suspects expanded result) {others : List Nat} {other : StateSet}
    (g : Expansion next reached suspects others other) : expanded = others ∧ result = other := by
  induction h generalizing others with
  | done =>
    cases g with
    | done => exact ⟨rfl, rfl⟩
    | round hs => exact absurd rfl hs
  | round hs _ ih =>
    cases g with
    | done => exact absurd rfl hs
    | round _ g =>
      obtain ⟨rfl, rfl⟩ := ih g
      exact ⟨rfl, rfl⟩

theorem suspects_subset (h : Expansion next reached suspects expanded result) : suspects ⊆ expanded := by
  cases h with
  | done => exact List.Subset.refl _
  | round => exact List.subset_append_left _ _

/-- What is expanded later had not been reached before. -/
theorem mem_suspects (h : Expansion next reached suspects expanded result) {q : Nat} (hq : q ∈ expanded) :
    q ∈ suspects ∨ q ∉ reached := by
  induction h with
  | done => cases hq
  | round _ _ ih =>
    rcases List.mem_append.1 hq with hq | hq
    · exact .inl hq
    · apply Or.inr
      rcases ih hq with hq | hq
      · exact (mem_discovered.1 (mem_ids_ofList.1 hq)).2
      · exact fun hr => hq (StateSet.mem_insertAll.2 (.inr hr))

/-- No state is expanded twice. -/
theorem nodup (h : Expansion next reached suspects expanded result) (hs : suspects.Nodup)
    (hsub : ∀ i ∈ suspects, i ∈ reached) : expanded.Nodup := by
  induction h with
  | done => exact hs
  | round _ hrest ih =>
    have hlater := ih ((StateSet.increasing _).imp Nat.ne_of_lt) reached_of_found
    -- What is expanded later was discovered later, when this round's suspects had been reached.
    refine List.nodup_append.2 ⟨hs, hlater, ?_⟩
    rintro i hi _ hj rfl
    rcases hrest.mem_suspects hj with hj | hj
    · exact (mem_discovered.1 (mem_ids_ofList.1 hj)).2 (hsub i hi)
    · exact hj (StateSet.mem_insertAll.2 (.inr (hsub i hi)))

theorem mem_result (h : Expansion next reached suspects expanded result) (hsub : ∀ i ∈ suspects, i ∈ reached)
    {q : Nat} : q ∈ result ↔ q ∈ reached ∨ q ∈ expanded := by
  induction h with
  | done => simp
  | @round reached _ suspects rest _ hrest ih =>
    have hlater : q ∈ discovered next reached suspects → q ∈ rest := fun hq =>
      hrest.suspects_subset (mem_ids_ofList.2 hq)
    have hearlier := hsub q
    rw [ih reached_of_found, StateSet.mem_insertAll, List.mem_append]
    grind

end Expansion

end Loop

/-! ### The closure of a collection -/

def LeadsSilently (a : Automaton) : Nat → Nat → Prop :=
  Relation.ReflTransGen fun i j => ⟨.epsilon, j⟩ ∈ a.edgesOf i

def KeepsSilently (a : Automaton) (P : Nat → Prop) : Prop :=
  ∀ i, P i → ∀ j, ⟨.epsilon, j⟩ ∈ a.edgesOf i → P j

structure Collects (a : Automaton) (states : Value) (s : StateSet) : Prop where
  elements : ∃ items, states.elements = .ok items ∧ (∀ v ∈ items, ∃ i ∈ s, Names v i) ∧
    ∀ i ∈ s, ∃ v ∈ items, Names v i
  lt_count : ∀ i ∈ s, i < a.count

variable {a : Automaton} {states others both : Value} {r s t u : StateSet}

theorem exists_resolveAll {vs : List Value} (h : ∀ v ∈ vs, ∃ i, a.resolve v = .ok i) :
    ∃ is, a.resolveAll vs = .ok is ∧ ∀ i, i ∈ is ↔ ∃ v ∈ vs, a.resolve v = .ok i := by
  induction vs with
  | nil => exact ⟨[], rfl, by simp⟩
  | cons v vs ih =>
    obtain ⟨⟨i, hi⟩, hrest⟩ := List.forall_mem_cons.1 h
    obtain ⟨is, his, hmem⟩ := ih hrest
    refine ⟨i :: is, by simp only [resolveAll, hi, his], fun j => ?_⟩
    simp [hmem, hi, eq_comm]

namespace Collects

theorem resolve (h : a.Collects states s) : ∃ items, states.elements = .ok items ∧
    (∀ v ∈ items, ∃ i, a.resolve v = .ok i) ∧ ∀ i, i ∈ s ↔ ∃ v ∈ items, a.resolve v = .ok i := by
  obtain ⟨items, hitems, hnames, hnamed⟩ := h.elements
  refine ⟨items, hitems, fun v hv => ?_, fun i => ⟨fun hi => ?_, ?_⟩⟩
  · obtain ⟨i, hi, hvi⟩ := hnames v hv
    exact ⟨i, resolve_eq_ok.2 ⟨hvi, h.lt_count i hi⟩⟩
  · obtain ⟨v, hv, hvi⟩ := hnamed i hi
    exact ⟨v, hv, resolve_eq_ok.2 ⟨hvi, h.lt_count i hi⟩⟩
  · rintro ⟨v, hv, hvi⟩
    obtain ⟨j, hj, hvj⟩ := hnames v hv
    have hij : i = j := (resolve_eq_ok.1 hvi).1.eq hvj
    rwa [hij]

theorem resolveSet (h : a.Collects states s) : a.resolveSet states = .ok s := by
  obtain ⟨items, hitems, hall, hs⟩ := h.resolve
  obtain ⟨is, his, hmem⟩ := exists_resolveAll hall
  have hset : StateSet.ofList is = s := by
    apply StateSet.ext
    intro i
    rw [StateSet.mem_ofList, hmem, hs]
  simp only [Automaton.resolveSet, hitems, his, hset]

theorem epsilonClosure (h : a.Collects states s) : a.epsilonClosure states = .ok (a.closure s) := by
  simp only [Automaton.epsilonClosure, h.resolveSet]

end Collects

theorem collects_states (hs : ∀ i ∈ s, i < a.count) : a.Collects (.list (s.ids.map .state)) s where
  elements := by
    refine ⟨_, rfl, fun v hv => ?_, fun i hi => ⟨.state i, List.mem_map_of_mem hi, .inl rfl⟩⟩
    obtain ⟨i, hi, rfl⟩ := List.mem_map.1 hv
    exact ⟨i, hi, .inl rfl⟩
  lt_count := hs

namespace WellFormed

theorem leads_iff (ha : a.WellFormed) {i j : Nat} : Leads a.epsilonTargets i j ↔ a.LeadsSilently i j := by
  have hsame : (fun i j => j ∈ a.epsilonTargets i) = fun i j => ⟨.epsilon, j⟩ ∈ a.edgesOf i := by
    funext i j
    exact propext ha.mem_epsilonTargets
  rw [Leads, LeadsSilently, hsame]

theorem mem_closure_iff (ha : a.WellFormed) {q : Nat} : q ∈ a.closure s ↔ ∃ i ∈ s, a.LeadsSilently i q := by
  simp only [mem_closure ha.epsilonTargets_lt, ha.leads_iff]

theorem keepsSilently_closure (ha : a.WellFormed) : a.KeepsSilently (· ∈ a.closure s) := by
  intro i hi j hj
  exact closedUnder_closure ha.epsilonTargets_lt i hi j (ha.mem_epsilonTargets.2 hj)

theorem closure_least (ha : a.WellFormed) {P : Nat → Prop} (hs : ∀ i ∈ s, P i) (hP : a.KeepsSilently P) :
    ∀ q ∈ a.closure s, P q := by
  intro q hq
  obtain ⟨i, hi, hl⟩ := ha.mem_closure_iff.1 hq
  induction hl with
  | refl => exact hs i hi
  | tail hl hj ih => exact hP _ (ih (ha.mem_closure_iff.2 ⟨i, hi, hl⟩)) _ hj

theorem closure_mono (ha : a.WellFormed) (h : ∀ i ∈ s, i ∈ r) : ∀ q ∈ a.closure s, q ∈ a.closure r :=
  ha.closure_least (fun i hi => mem_closure_of_mem (h i hi)) ha.keepsSilently_closure

theorem closure_union (ha : a.WellFormed) : a.closure (s.union r) = (a.closure s).union (a.closure r) := by
  apply StateSet.ext
  intro q
  simp only [StateSet.mem_union, ha.mem_closure_iff]
  grind

theorem expansion_closure (ha : a.WellFormed) : ∃ expanded,
    Expansion a.epsilonTargets s s.ids expanded (a.closure s) ∧ expanded.Nodup ∧
      ∀ q, q ∈ expanded ↔ q ∈ a.closure s := by
  have hf : missing a.count s ≤ a.count := by
    simpa [missing] using List.length_filter_le (fun i => decide (i ∉ s)) (List.range a.count)
  obtain ⟨expanded, h⟩ := expansion_closeRounds ha.epsilonTargets_lt a.count s s.ids hf
  refine ⟨expanded, h, h.nodup (s.increasing.imp Nat.ne_of_lt) (fun i hi => hi), fun q => ?_⟩
  rw [closure, h.mem_result fun i hi => hi]
  exact ⟨.inr, fun hq => hq.elim (fun hq => h.suspects_subset hq) id⟩

end WellFormed

variable [TestFunctions]

theorem Collects.find_epsilonClosure (h : a.Collects states s) {c : Session} {name : String}
    (hc : c.automaton? name = some a) : ∃ d,
      c.perform name (.epsilonClosure states) = some (d, .ok (.ids (a.closure s).ids)) ∧
        ∀ x, d.find? x = c.find? x := by
  have hheld := Session.find_of_automaton hc
  refine ⟨c.assign name (.automaton a), ?_, Session.find_assign_self hheld⟩
  simp only [Session.perform, Session.own_of_find hheld, Session.onAutomaton, h.epsilonClosure]
  rfl

/-- The closure of a collection of states is found by a loop that ends, expands each state that is reached once
and can go no other way. It is what epsilon edges lead to from the collection, the least set around it that
they do not leave; it grows with the collection, is its own closure, and that of two collections together is
what the two closures are together. Nothing is changed by asking for it. -/
theorem epsilonClosure_least (ha : a.Reachable) (hs : a.Collects states s) : ∃ t,
    a.epsilonClosure states = .ok t ∧
    (∃ expanded, Expansion a.epsilonTargets s s.ids expanded t ∧ expanded.Nodup ∧
      (∀ q, q ∈ expanded ↔ q ∈ t) ∧
      ∀ others u, Expansion a.epsilonTargets s s.ids others u → others = expanded ∧ u = t) ∧
    (∀ q, q ∈ t ↔ ∃ i ∈ s, a.LeadsSilently i q) ∧
    ((∀ i ∈ s, i ∈ t) ∧ a.KeepsSilently (· ∈ t) ∧
      ∀ P : Nat → Prop, (∀ i ∈ s, P i) → a.KeepsSilently P → ∀ q ∈ t, P q) ∧
    (∀ others r u, a.Collects others r → a.epsilonClosure others = .ok u →
      ((∀ i ∈ s, i ∈ r) → ∀ q ∈ t, q ∈ u) ∧
      ∀ both, a.Collects both (s.union r) → a.epsilonClosure both = .ok (t.union u)) ∧
    (a.Collects (.list (t.ids.map .state)) t ∧ ∀ again, a.Collects again t → a.epsilonClosure again = .ok t) ∧
    ∀ (c : Session) (name : String), c.automaton? name = some a → ∃ d,
      c.perform name (.epsilonClosure states) = some (d, .ok (.ids t.ids)) ∧ ∀ x, d.find? x = c.find? x := by
  have ha := ha.wellFormed
  obtain ⟨expanded, hloop, hnodup, hmem⟩ := ha.expansion_closure (s := s)
  refine ⟨a.closure s, hs.epsilonClosure, ⟨expanded, hloop, hnodup, hmem, fun others u h => h.unique hloop⟩,
    fun q => ha.mem_closure_iff,
    ⟨fun i hi => mem_closure_of_mem hi, ha.keepsSilently_closure, fun P hsP hP => ha.closure_least hsP hP⟩,
    fun others r u hr hu => ?_, ⟨collects_states ?_, fun again h => ?_⟩, fun c name hc => hs.find_epsilonClosure hc⟩
  · rw [hr.epsilonClosure] at hu
    cases hu
    refine ⟨ha.closure_mono, fun both h => ?_⟩
    rw [h.epsilonClosure, ha.closure_union]
  · exact closure_lt ha.epsilonTargets_lt hs.lt_count
  · have hself : a.closure (a.closure s) = a.closure s :=
      closure_closure ha.epsilonTargets_lt ha.epsilonTargets_lt fun i j hj => hj
    rw [h.epsilonClosure, hself]

omit [TestFunctions] in
/-- States 0 and 1 lie on a cycle of epsilon edges, one of them on a loop; what wraps epsilon or nothing into a
predicate is no epsilon edge, and is not followed. -/
theorem epsilonClosure_least_cycle : ∃ a s t expanded, @Reachable Matcher.catalogue a ∧
    a.Collects (.list [.state 1, .int 1]) s ∧ a.epsilonClosure (.list [.state 1, .int 1]) = .ok t ∧
    Expansion a.epsilonTargets s s.ids expanded t ∧ expanded.Nodup ∧ t.ids = [0, 1] ∧ ¬ a.LeadsSilently 1 2 ∧
    a.edgesOf 1 = [⟨.epsilon, 0⟩, ⟨.epsilon, 1⟩, ⟨.predicate .epsilon, 2⟩, ⟨.predicate .null, 3⟩] := by
  let _ := Matcher.catalogue
  let cs : List (String × Command) := [("a", .new (.ofKind .symbol) .null), ("a", .newStates 4),
    ("a", .newTransition (.int 0) (.int 1) .epsilon), ("a", .newTransition (.int 1) (.int 0) .epsilon),
    ("a", .newTransition (.int 1) (.int 1) .epsilon),
    ("a", .newTransition (.int 1) (.int 2) (.predicate .epsilon)),
    ("a", .newTransition (.int 1) (.int 3) (.predicate .null))]
  let zero : Store := ⟨.symbol, [⟨.epsilon, 1⟩], [1], .groups []⟩
  let one : Store := ⟨.symbol, [⟨.epsilon, 0⟩, ⟨.epsilon, 1⟩, ⟨.predicate .epsilon, 2⟩, ⟨.predicate .null, 3⟩],
    [0, 1], .groups [(.epsilon, [2]), (.null, [3])]⟩
  let a : Automaton := ⟨.null, .ofKind .symbol, [zero, one, .empty .symbol, .empty .symbol], [[], [], [], []],
    .ofList [0, 1]⟩
  have ha : (Session.run cs .empty).automaton? "a" = some a := by cbv
  have hs : a.Collects (.list [.state 1, .int 1]) (.ofList [1]) :=
    { elements := ⟨_, rfl, by simp [Names, StateSet.mem_ofList], by simp [Names, StateSet.mem_ofList]⟩
      lt_count := by decide }
  obtain ⟨t, ht, ⟨expanded, hloop, hnodup, _⟩, hmem, _⟩ := epsilonClosure_least ⟨cs, "a", ha⟩ hs
  have hids : t.ids = [0, 1] := by
    cases ht
    rfl
  refine ⟨a, _, t, expanded, ⟨cs, "a", ha⟩, hs, ht, hloop, hnodup, hids, fun h => ?_, rfl⟩
  have htwo : 2 ∈ t.ids := (hmem 2).2 ⟨1, StateSet.mem_ofList.2 (List.mem_singleton_self 1), h⟩
  rw [hids] at htwo
  exact absurd htwo (by decide)

end GuardedAutomata.Automaton
