import GuardedAutomata.Automaton.Simulation
import GuardedAutomata.Proofs.Automaton.Closure
import GuardedAutomata.Proofs.Store.Lookup

/-!
# Well-formed automata

In a well-formed automaton there is a marker set for every store, every store is sound and of the kind
that the factory makes, and every target and every active state is a state of the automaton. Growing an
automaton, adding transitions and marking keep it well-formed.
-/

set_option autoImplicit false

namespace GuardedAutomata

namespace Store

structure Fits (k : StoreKind) (n : Nat) (s : Store) : Prop where
  kind : s.kind = k
  sound : s.Sound
  target_lt : ∀ e ∈ s.edges, e.target < n

variable {k : StoreKind} {m n : Nat} {s t : Store}

theorem Fits.mono (h : s.Fits k m) (hmn : m ≤ n) : s.Fits k n :=
  ⟨h.kind, h.sound, fun e he => Nat.lt_of_lt_of_le (h.target_lt e he) hmn⟩

theorem fits_empty (k : StoreKind) (n : Nat) : (empty k).Fits k n :=
  ⟨rfl, sound_empty k, by simp⟩

theorem mem_edges_put {guard : Guard} {target : Nat} (h : s.put guard target = .ok t) {e : Edge}
    (he : e ∈ t.edges) : e ∈ s.edges ∨ e.target = target := by
  obtain ⟨g, _, _, rfl⟩ := put_eq_ok h
  split at he
  · exact .inl he
  · rw [edges_record, List.mem_append, List.mem_singleton] at he
    rcases he with he | rfl
    · exact .inl he
    · exact .inr rfl

theorem subset_edges_put {guard : Guard} {target : Nat} (h : s.put guard target = .ok t) :
    s.edges ⊆ t.edges := by
  obtain ⟨g, _, _, rfl⟩ := put_eq_ok h
  split
  · exact List.Subset.refl _
  · rw [edges_record]
    exact List.subset_append_left _ _

theorem Fits.put (hs : s.Fits k n) {guard : Guard} {target : Nat} (ht : target < n)
    (h : s.put guard target = .ok t) : t.Fits k n where
  kind := (kind_put h).trans hs.kind
  sound := sound_put hs.sound h
  target_lt := by
    intro e he
    rcases mem_edges_put h he with he | rfl
    · exact hs.target_lt e he
    · exact ht

end Store

namespace Automaton

structure WellFormed (a : Automaton) : Prop where
  markers_length : a.markers.length = a.count
  stores : ∀ s ∈ a.stores, s.Fits a.factory.storeKind a.count
  markers : ∀ ms ∈ a.markers, Value.Distinct ms
  active_lt : ∀ i ∈ a.active, i < a.count

variable {a b : Automaton}

theorem wellFormed_new (f : Factory) (name : Value) : (new f name).WellFormed where
  markers_length := rfl
  stores := by simp [new]
  markers := by simp [new]
  active_lt := fun i hi => absurd hi (StateSet.not_mem_empty i)

theorem lt_count_of_mem_edgesOf {i : Nat} {e : Edge} (he : e ∈ a.edgesOf i) : i < a.count := by
  refine Nat.lt_of_not_le fun hi => ?_
  simp [edgesOf, List.getElem?_eq_none hi] at he

namespace WellFormed

theorem fits_of_getElem (h : a.WellFormed) {i : Nat} {s : Store} (hs : a.stores[i]? = some s) :
    s.Fits a.factory.storeKind a.count :=
  h.stores s (List.mem_of_getElem? hs)

theorem mem_epsilonTargets (h : a.WellFormed) {i j : Nat} :
    j ∈ a.epsilonTargets i ↔ ⟨.epsilon, j⟩ ∈ a.edgesOf i := by
  unfold epsilonTargets edgesOf
  cases hs : a.stores[i]? with
  | none => simp
  | some s => exact (h.fits_of_getElem hs).sound.mem_epsilon

theorem target_lt (h : a.WellFormed) {i : Nat} {e : Edge} (he : e ∈ a.edgesOf i) : e.target < a.count := by
  unfold edgesOf at he
  cases hs : a.stores[i]? with
  | none => simp [hs] at he
  | some s =>
    rw [hs] at he
    exact (h.fits_of_getElem hs).target_lt e he

theorem epsilonTargets_lt (h : a.WellFormed) : ∀ i, ∀ j ∈ a.epsilonTargets i, j < a.count := by
  intro i j hj
  exact h.target_lt (h.mem_epsilonTargets.1 hj)

theorem distinct_markersAt (h : a.WellFormed) (i : Nat) : Value.Distinct (a.markersAt i) := by
  unfold markersAt
  cases hm : a.markers[i]? with
  | none => exact .nil
  | some ms => exact h.markers ms (List.mem_of_getElem? hm)

theorem lt_count_of_markersAt (h : a.WellFormed) {i : Nat} (hm : a.markersAt i ≠ []) : i < a.count := by
  rw [← h.markers_length]
  exact Nat.lt_of_not_le fun hi => hm (by simp [markersAt, List.getElem?_eq_none hi])

theorem withActive (h : a.WellFormed) {s : StateSet} (hs : ∀ i ∈ s, i < a.count) :
    WellFormed { a with active := s } where
  markers_length := h.markers_length
  stores := h.stores
  markers := h.markers
  active_lt := hs

theorem newState (h : a.WellFormed) : a.newState.1.WellFormed where
  markers_length := by
    rw [count_newState]
    simp [Automaton.newState, h.markers_length]
  stores := by
    intro s hs
    rw [count_newState]
    rcases List.mem_append.1 hs with hs | hs
    · exact (h.stores s hs).mono (Nat.le_succ _)
    · cases List.mem_singleton.1 hs
      exact Store.fits_empty _ _
  markers := by
    intro ms hms
    rcases List.mem_append.1 hms with hms | hms
    · exact h.markers ms hms
    · cases List.mem_singleton.1 hms
      exact .nil
  active_lt := by
    intro i hi
    rw [count_newState]
    simp only [Automaton.newState] at hi
    split at hi
    · rcases StateSet.mem_insert.1 hi with rfl | hi
      · omega
      · exact Nat.lt_succ_of_lt (h.active_lt i hi)
    · exact Nat.lt_succ_of_lt (h.active_lt i hi)

theorem grow (n : Nat) (h : a.WellFormed) : (Automaton.grow n a).WellFormed := by
  induction n generalizing a with
  | zero => exact h
  | succ n ih => exact ih h.newState

theorem putEdge (h : a.WellFormed) {source target : Nat} {guard : Guard} (ht : target < a.count)
    (hp : a.putEdge source guard target = .ok b) : b.WellFormed := by
  obtain ⟨s, t, hs, hput, rfl⟩ := putEdge_eq_ok hp
  have hcount : Automaton.count { a with stores := a.stores.set source t } = a.count :=
    List.length_set
  constructor
  · rw [hcount]
    exact h.markers_length
  · intro u hu
    rw [hcount]
    rcases List.mem_or_eq_of_mem_set hu with hu | rfl
    · exact h.stores u hu
    · exact (h.fits_of_getElem hs).put ht hput
  · exact h.markers
  · intro i hi
    rw [hcount]
    exact h.active_lt i hi

theorem close (h : a.WellFormed) : a.close.WellFormed :=
  h.withActive (closure_lt h.epsilonTargets_lt h.active_lt)

theorem setMarkers (h : a.WellFormed) (i : Nat) {ms : List Value} (hms : Value.Distinct ms) :
    WellFormed { a with markers := a.markers.set i ms } where
  markers_length := by simpa [count] using h.markers_length
  stores := h.stores
  markers := by
    intro us hus
    rcases List.mem_or_eq_of_mem_set hus with hus | rfl
    · exact h.markers us hus
    · exact hms
  active_lt := h.active_lt

theorem dropMarkers (h : a.WellFormed) : a.dropMarkers.WellFormed where
  markers_length := by simpa [Automaton.dropMarkers, count] using h.markers_length
  stores := h.stores
  markers := by
    intro ms hms
    obtain ⟨_, _, rfl⟩ := List.mem_map.1 hms
    exact .nil
  active_lt := h.active_lt

end WellFormed

end Automaton

end GuardedAutomata
