import GuardedAutomata.Proofs.Automaton.WellFormed

/-!
# What one operation can do

Simulating leaves everything of an automaton but its frontier, which becomes the closure of some of its
states. Every other operation on one automaton makes states, records one edge, adds one marker, drops all
markers or gives a new name. All of them keep an automaton well-formed.
-/

set_option autoImplicit false

namespace GuardedAutomata.Automaton

inductive Moved (a : Automaton) : Automaton → Prop
  | stay : Moved a a
  | close (s : StateSet) (hs : ∀ i ∈ s, i < a.count) : Moved a { a with active := a.closure s }

inductive Step (a : Automaton) : Automaton → Prop
  | moved {b : Automaton} : Moved a b → Step a b
  | grown (n : Nat) : Step a (grow n a)
  | linked {i j : Nat} {p : Value} {b : Automaton} : j < a.count →
      a.putEdge i (.predicate p) j = .ok b → Step a b
  | joined {i j : Nat} {b : Automaton} : j < a.count → a.putEdge i .epsilon j = .ok b → Step a b.close
  | marked {i : Nat} {m : Value} : m.checkHashable = .ok () →
      Step a { a with markers := a.markers.set i (Value.insertInto (a.markersAt i) m) }
  | unmarked : Step a a.dropMarkers
  | renamed (name : Value) : Step a (a.rename name)

variable {a b c : Automaton}

theorem Moved.trans (h : Moved a b) (g : Moved b c) : Moved a c := by
  cases g with
  | stay => exact h
  | close s hs =>
    cases h with
    | stay => exact .close s hs
    | close t ht => exact .close s hs

theorem WellFormed.moved (ha : a.WellFormed) (h : Moved a b) : b.WellFormed := by
  cases h with
  | stay => exact ha
  | close s hs => exact ha.withActive (closure_lt ha.epsilonTargets_lt hs)

theorem WellFormed.step (ha : a.WellFormed) (h : Step a b) : b.WellFormed := by
  cases h with
  | moved h => exact ha.moved h
  | grown n => exact ha.grow n
  | linked hj hp => exact ha.putEdge hj hp
  | joined hj hp => exact (ha.putEdge hj hp).close
  | marked _ => exact ha.setMarkers _ (Value.distinct_insertInto (ha.distinct_markersAt _) _)
  | unmarked => exact ha.dropMarkers
  | renamed name => exact ⟨ha.markers_length, ha.stores, ha.markers, ha.active_lt⟩

/-! ### Growing -/

/-- A transition is refused, or an edge of the form that its arguments resolve to is put. -/
theorem newTransition_cases (a : Automaton) (source target guard : Value) :
    (∃ f, a.newTransition source target guard = (a, .error f)) ∨
      ∃ i j g b, a.resolve source = .ok i ∧ a.resolve target = .ok j ∧ Guard.ofValue guard = .ok g ∧
        a.putEdge i g j = .ok b ∧ a.newTransition source target guard =
          (match g with | .epsilon => b.close | .predicate _ => b, .ok ()) := by
  unfold newTransition
  split
  next f _ => exact .inl ⟨f, rfl⟩
  next i hi =>
    split
    next f _ => exact .inl ⟨f, rfl⟩
    next j hj =>
      split
      next f _ => exact .inl ⟨f, rfl⟩
      next g hg =>
        split
        next f _ => exact .inl ⟨f, rfl⟩
        next b hb => exact .inr ⟨i, j, g, b, hi, hj, hg, hb, rfl⟩

theorem markersAt_newTransition (a : Automaton) (source target guard : Value) (i : Nat) :
    (a.newTransition source target guard).1.markersAt i = a.markersAt i := by
  rcases newTransition_cases a source target guard with ⟨f, h⟩ | ⟨j, k, g, b, _, _, _, hb, h⟩
  · rw [h]
  · obtain ⟨_, _, _, _, rfl⟩ := putEdge_eq_ok hb
    rw [h]
    cases g <;> rfl

theorem step_newTransition (a : Automaton) (source target guard : Value) :
    Step a (a.newTransition source target guard).1 := by
  rcases newTransition_cases a source target guard with ⟨f, h⟩ | ⟨i, j, g, b, _, hj, _, hb, h⟩
  · rw [h]
    exact .moved .stay
  · rw [h]
    have hj := lt_count_of_resolve hj
    cases g with
    | epsilon => exact .joined hj hb
    | predicate p => exact .linked hj hb

theorem mark_cases (a : Automaton) (state marker : Value) :
    (∃ f, a.mark state marker = (a, .error f)) ∨ ∃ i, marker.checkHashable = .ok () ∧ a.mark state marker =
      ({ a with markers := a.markers.set i (Value.insertInto (a.markersAt i) marker) }, .ok ()) := by
  unfold mark
  split
  next f _ => exact .inl ⟨f, rfl⟩
  next i _ =>
    split
    next cause _ => exact .inl ⟨.fault cause, rfl⟩
    next hm => exact .inr ⟨i, hm, rfl⟩

theorem mark_eq (a : Automaton) (state marker : Value) :
    ∃ ms, (a.mark state marker).1 = { a with markers := ms } := by
  rcases mark_cases a state marker with ⟨f, h⟩ | ⟨i, _, h⟩
  · exact ⟨a.markers, by rw [h]⟩
  · exact ⟨a.markers.set i (Value.insertInto (a.markersAt i) marker), by rw [h]⟩

theorem step_mark (a : Automaton) (state marker : Value) : Step a (a.mark state marker).1 := by
  rcases mark_cases a state marker with ⟨f, h⟩ | ⟨i, hm, h⟩
  · rw [h]
    exact .moved .stay
  · rw [h]
    exact .marked hm

/-! ### Simulating -/

theorem closure_empty (a : Automaton) : a.closure .empty = .empty := by
  unfold closure
  cases a.count <;> rfl

theorem reset_eq (a : Automaton) : a.reset = { a with active := a.reset.active } := by
  unfold reset
  split <;> rfl

theorem active_reset_congr (h : b.stores = a.stores) : b.reset.active = a.reset.active := by
  by_cases h0 : a.stores.length = 0 <;> simp [reset, closure_congr h, count, h, h0]

theorem WellFormed.closedUnder_reset (ha : a.WellFormed) :
    ClosedUnder a.epsilonTargets a.reset.active := by
  unfold reset
  split
  · exact fun i hi => absurd hi (StateSet.not_mem_empty i)
  · exact closedUnder_closure ha.epsilonTargets_lt

theorem moved_reset (a : Automaton) : Moved a a.reset := by
  unfold reset
  split
  · rw [← closure_empty a]
    exact .close _ fun i hi => absurd hi (StateSet.not_mem_empty i)
  next h =>
    refine .close _ fun i hi => ?_
    rw [StateSet.mem_ofList, List.mem_singleton] at hi
    omega

theorem lt_of_resolveAll {vs : List Value} {is : List Nat} (h : a.resolveAll vs = .ok is) :
    ∀ i ∈ is, i < a.count := by
  induction vs generalizing is with
  | nil =>
    cases h
    simp
  | cons v vs ih =>
    unfold resolveAll at h
    split at h
    · cases h
    next i hi =>
      split at h
      · cases h
      next rest hrest =>
        cases h
        exact List.forall_mem_cons.2 ⟨lt_count_of_resolve hi, ih hrest⟩

theorem lt_of_resolveSet {states : Value} {s : StateSet} (h : a.resolveSet states = .ok s) :
    ∀ i ∈ s, i < a.count := by
  unfold resolveSet at h
  split at h
  · cases h
  · split at h
    · cases h
    next is his =>
      cases h
      intro i hi
      exact lt_of_resolveAll his i (StateSet.mem_ofList.1 hi)

theorem moved_setActive (a : Automaton) (states : Value) : Moved a (a.setActive states).1 := by
  unfold setActive
  split
  · exact .stay
  next s hs => exact .close s (lt_of_resolveSet hs)

section Simulation

variable [TestFunctions]

theorem WellFormed.targetsOf_lt (ha : a.WellFormed) {v : Value} {i : Nat} {ts : List Nat}
    (h : a.targetsOf v i = .ok ts) : ∀ t ∈ ts, t < a.count := by
  intro t ht
  unfold targetsOf at h
  split at h
  next s hs =>
    have hfits := ha.fits_of_getElem hs
    obtain ⟨e, he, rfl⟩ := hfits.sound.mem_edges_of_query h ht
    exact hfits.target_lt e he
  · cases h
    cases ht

theorem targetsFrom_cons {v : Value} {i : Nat} {is ts : List Nat} : a.targetsFrom v (i :: is) = .ok ts ↔
    ∃ us others, a.targetsOf v i = .ok us ∧ a.targetsFrom v is = .ok others ∧ ts = us ++ others := by
  rw [targetsFrom]
  cases a.targetsOf v i with
  | error cause => simp
  | ok us =>
    cases a.targetsFrom v is with
    | error cause => simp
    | ok others => simp [eq_comm]

theorem WellFormed.targetsFrom_lt (ha : a.WellFormed) {v : Value} {is ts : List Nat}
    (h : a.targetsFrom v is = .ok ts) : ∀ t ∈ ts, t < a.count := by
  induction is generalizing ts with
  | nil =>
    cases h
    simp
  | cons i is ih =>
    obtain ⟨us, others, hus, hothers, rfl⟩ := targetsFrom_cons.1 h
    intro t ht
    rcases List.mem_append.1 ht with ht | ht
    · exact ha.targetsOf_lt hus t ht
    · exact ih hothers t ht

theorem targetsFrom_congr {b : Automaton} {v w : Value} (h : ∀ i, a.targetsOf v i = b.targetsOf w i)
    (is : List Nat) : a.targetsFrom v is = b.targetsFrom w is := by
  induction is with
  | nil => rfl
  | cons i is ih => rw [targetsFrom, targetsFrom, h, ih]

theorem step_of_ne_epsilon {v : Value} (hv : v ≠ .epsilon) : a.step v = a.advance v := by
  cases v <;> first | exact absurd rfl hv | rfl

section Feeding

variable {v : Value} {rest : List Value} {consumed : Nat} (hv : v ≠ .epsilon)

include hv

theorem feedFrom_error {cause : Fault} (h : a.targetsFrom v a.active.ids = .error cause) :
    feedFrom consumed (v :: rest) a = (a, .error (.fault cause)) := by
  simp [feedFrom, step_of_ne_epsilon hv, advance, h]

theorem feedFrom_rejected (h : a.targetsFrom v a.active.ids = .ok []) :
    feedFrom consumed (v :: rest) a = (a, .ok ⟨consumed, false, a.currentMarkers⟩) := by
  simp [feedFrom, step_of_ne_epsilon hv, advance, h]

theorem feedFrom_advanced {t : Nat} {ts : List Nat} (h : a.targetsFrom v a.active.ids = .ok (t :: ts)) :
    feedFrom consumed (v :: rest) a =
      feedFrom (consumed + 1) rest { a with active := a.closure (.ofList (t :: ts)) } := by
  simp [feedFrom, step_of_ne_epsilon hv, advance, h]

end Feeding

theorem moved_targets (ha : a.WellFormed) {v : Value} {is ts : List Nat}
    (h : a.targetsFrom v is = .ok ts) : Moved a { a with active := a.closure (.ofList ts) } :=
  .close _ fun i hi => ha.targetsFrom_lt h i (StateSet.mem_ofList.1 hi)

theorem moved_step (ha : a.WellFormed) (v : Value) : Moved a (a.step v).1 := by
  have hadv : Moved a (a.advance v).1 := by
    unfold advance
    split
    · exact .stay
    next ts hts =>
      split
      · exact .stay
      · exact moved_targets ha hts
  unfold step
  split
  · exact .stay
  · exact hadv

theorem moved_feedFrom (ha : a.WellFormed) (consumed : Nat) (vs : List Value) :
    Moved a (feedFrom consumed vs a).1 := by
  induction vs generalizing consumed a with
  | nil => exact .stay
  | cons v vs ih =>
    have hstep := moved_step ha v
    unfold feedFrom
    split
    next b f hb =>
      rw [hb] at hstep
      exact hstep
    next b hb =>
      rw [hb] at hstep
      exact hstep.trans (ih (ha.moved hstep) _)
    next b hb =>
      rw [hb] at hstep
      exact hstep

theorem moved_feed (ha : a.WellFormed) (values : Value) : Moved a (a.feed values).1 := by
  unfold feed
  split
  · exact .stay
  · exact moved_feedFrom ha 0 _

theorem moved_accepts (ha : a.WellFormed) (values : Value) : Moved a (a.accepts values).1 := by
  have h := (moved_reset a).trans (moved_feed (ha.moved (moved_reset a)) values)
  unfold accepts
  split
  next b f hb =>
    rw [hb] at h
    exact h
  next b r hb =>
    rw [hb] at h
    exact h

end Simulation

end GuardedAutomata.Automaton
