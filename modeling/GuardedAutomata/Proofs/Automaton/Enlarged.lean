import GuardedAutomata.Proofs.Automaton.Bare
import GuardedAutomata.Proofs.Automaton.Reading
import GuardedAutomata.Proofs.Automaton.Union

/-!
# Enlarged automata

A path stays a path when edges, states or markers come to an automaton, so no word is lost. New states behind the ones
there are change nothing at all as long as no edge leads to them: a restart begins in state 0 and never finds them.
-/

set_option autoImplicit false

namespace GuardedAutomata.Automaton

variable {a b : Automaton} {i j k : Nat} {s : StateSet} {w : List Value} {values : Value}

/-! ### More edges and more markers -/

structure Within (a b : Automaton) : Prop where
  kind : b.factory.storeKind = a.factory.storeKind
  edgesOf : ∀ i, a.edgesOf i ⊆ b.edgesOf i
  marked : ∀ i, a.markersAt i ≠ [] → b.markersAt i ≠ []

namespace Within

theorem refl (a : Automaton) : a.Within a :=
  ⟨rfl, fun _ _ he => he, fun _ h => h⟩

theorem grow (n : Nat) (a : Automaton) : a.Within (grow n a) where
  kind := by rw [grow_eq]
  edgesOf := fun i e he => by rwa [edgesOf_grow]
  marked := fun i h => by rwa [markersAt_grow]

theorem putEdge {g : Guard} (hb : a.putEdge i g j = .ok b) : a.Within b := by
  obtain ⟨s, t, hs, hput, rfl⟩ := putEdge_eq_ok hb
  refine ⟨rfl, fun k e he => ?_, fun k h => h⟩
  by_cases hk : i = k
  · subst hk
    have hi : i < a.stores.length := lt_count_of_mem_edgesOf he
    rw [Automaton.edgesOf, hs] at he
    rw [Automaton.edgesOf, List.getElem?_set_self hi]
    exact Store.subset_edges_put hput he
  · rwa [Automaton.edgesOf, List.getElem?_set_ne hk]

theorem newTransition (a : Automaton) (source target guard : Value) :
    a.Within (a.newTransition source target guard).1 := by
  rcases newTransition_cases a source target guard with ⟨f, h⟩ | ⟨i, j, g, b, _, _, _, hb, h⟩
  · rw [h]
    exact .refl a
  · have hwithin := putEdge hb
    rw [h]
    cases g with
    | epsilon => exact ⟨hwithin.kind, hwithin.edgesOf, hwithin.marked⟩
    | predicate p => exact hwithin

theorem mark (a : Automaton) (state marker : Value) : a.Within (a.mark state marker).1 := by
  rcases mark_cases a state marker with ⟨f, h⟩ | ⟨i, _, h⟩
  · rw [h]
    exact .refl a
  · rw [h]
    refine ⟨rfl, fun _ _ he => he, fun k hk => ?_⟩
    by_cases hik : i = k
    · subst hik
      have hi : i < a.markers.length :=
        Nat.lt_of_not_le fun hi => hk (by simp [markersAt, List.getElem?_eq_none hi])
      rw [markersAt, List.getElem?_set_self hi]
      intro h
      have hnil : [marker].foldl Value.insertInto (a.markersAt i) = [] := h
      cases (Value.insertAll_eq_nil.1 hnil).2
    · rwa [markersAt, List.getElem?_set_ne hik]

theorem add (ha : a.WellFormed) (hb : b.WellFormed) : a.Within (a.add b).1 := by
  rcases add_cases ha hb with ⟨h, _⟩ | ⟨_, _, h⟩
  · rw [h]
    exact .refl a
  · rw [h]
    refine ⟨rfl, fun i e he => ?_, fun i hi => ?_⟩
    · rwa [edgesOf_spliced_left (lt_count_of_mem_edgesOf he)]
    · rwa [markersAt_spliced_left ha (ha.lt_count_of_markersAt hi)]

end Within

variable [TestFunctions]

theorem Path.mono {edges others : Nat → List Edge} {kind : StoreKind} (h : ∀ i, edges i ⊆ others i)
    (hp : Path edges kind i w k) : Path others kind i w k := by
  induction hp with
  | nil i => exact .nil i
  | epsilon he _ ih => exact .epsilon (h _ he) ih
  | read he hm _ ih => exact .read (h _ he) hm ih

theorem Accepts.within (h : a.Within b) (hw : a.Accepts w) : b.Accepts w := by
  obtain ⟨k, hp, hk⟩ := hw
  rw [← h.kind] at hp
  exact ⟨k, hp.mono h.edgesOf, h.marked k hk⟩

/-- Epsilon is no input value, so what has been consumed as a whole holds none. -/
theorem ne_epsilon_of_completed {consumed : Nat} {r : Feed} (h : (feedFrom consumed w a).2 = .ok r)
    (hr : r.completed = true) : ∀ v ∈ w, v ≠ .epsilon := by
  induction w generalizing a consumed with
  | nil => simp
  | cons v w ih =>
    have hv : v ≠ .epsilon := by
      rintro rfl
      cases h
    refine List.forall_mem_cons.2 ⟨hv, ?_⟩
    cases hts : a.targetsFrom v a.active.ids with
    | error cause =>
      rw [feedFrom_error hv hts] at h
      cases h
    | ok ts =>
      cases ts with
      | nil =>
        rw [feedFrom_rejected hv hts] at h
        cases h
        cases hr
      | cons t ts =>
        rw [feedFrom_advanced hv hts] at h
        exact ih h

/-- Whatever is answered for a word of input values tells whether a path reads it. -/
theorem WellFormed.accepts_iff (ha : a.WellFormed) (hk : a.factory.storeKind.BuiltIn)
    (hvs : values.elements = .ok w) (hw : ∀ v ∈ w, v ≠ .epsilon) {r : Bool} (h : (a.accepts values).2 = .ok r) :
    r = true ↔ a.Accepts w := by
  rw [snd_accepts hvs] at h
  cases hf : (feedFrom 0 w { a with active := a.reset.active }).2 with
  | error f =>
    rw [hf] at h
    cases h
  | ok f =>
    rw [hf] at h
    cases h
    exact (feedFrom_accepted ha.restarted hk ha.closedUnder_reset hw hf).trans ha.acceptsFrom_reset

theorem ne_epsilon_of_accepts (hvs : values.elements = .ok w) (h : (a.accepts values).2 = .ok true) :
    ∀ v ∈ w, v ≠ .epsilon := by
  rw [snd_accepts hvs] at h
  cases hf : (feedFrom 0 w { a with active := a.reset.active }).2 with
  | error f =>
    rw [hf] at h
    cases h
  | ok f =>
    rw [hf] at h
    exact ne_epsilon_of_completed hf (Bool.and_eq_true_iff.1 (Except.ok.inj h)).1

theorem Within.accepts (h : a.Within b) (ha : a.WellFormed) (hb : b.WellFormed) (hk : a.factory.storeKind.BuiltIn)
    (hvs : values.elements = .ok w) (hacc : (a.accepts values).2 = .ok true) (hans : b.Answered w) :
    (b.accepts values).2 = .ok true := by
  have hw := ne_epsilon_of_accepts hvs hacc
  have hpath : b.Accepts w := ((ha.accepts_iff hk hvs hw hacc).1 rfl).within h
  have h0 : 0 < b.count := Nat.pos_of_ne_zero fun h0 => hb.not_accepts h0 hpath
  obtain ⟨r, hr⟩ := (accepts_ok_iff hb h0 hvs).2 hans
  rw [hr, (hb.accepts_iff (h.kind ▸ hk) hvs hw hr).2 hpath]

/-! ### States behind the ones there are -/

structure Prolongs (a b : Automaton) : Prop where
  stores : ∀ i < a.count, b.stores[i]? = a.stores[i]?
  markersAt : ∀ i < a.count, b.markersAt i = a.markersAt i

namespace Prolongs

omit [TestFunctions]

theorem grow (n : Nat) (a : Automaton) : a.Prolongs (grow n a) where
  stores := fun i hi => by rw [grow_eq, List.getElem?_append_left hi]
  markersAt := fun i _ => markersAt_grow n a i

theorem spliced (ha : a.WellFormed) (b : Automaton) : a.Prolongs (spliced a b) where
  stores := fun _ hi => getElem_spliced_left hi
  markersAt := fun _ hi => markersAt_spliced_left ha hi

theorem withActive (h : a.Prolongs b) (s t : StateSet) :
    Prolongs { a with active := s } { b with active := t } :=
  ⟨h.stores, h.markersAt⟩

theorem pos (h : a.Prolongs b) (h0 : 0 < a.count) : 0 < b.count := by
  have hget := h.stores 0 h0
  rw [List.getElem?_eq_getElem h0] at hget
  exact (List.getElem?_eq_some_iff.1 hget).1

theorem closure (h : a.Prolongs b) (ha : a.WellFormed) (hb : b.WellFormed) (hs : ∀ i ∈ s, i < a.count) :
    b.closure s = a.closure s := by
  have hleads : ∀ i < a.count, ∀ q, Leads b.epsilonTargets i q ↔ Leads a.epsilonTargets i q := fun i hi q =>
    leads_congr (fun j hj => ha.epsilonTargets_lt j)
      (fun j hj => by rw [epsilonTargets, h.stores j hj, epsilonTargets]) hi
  refine StateSet.ext fun q => ?_
  rw [mem_closure hb.epsilonTargets_lt, mem_closure ha.epsilonTargets_lt]
  exact exists_congr fun i => and_congr_right fun hi => hleads i (hs i hi) q

variable [TestFunctions] {v : Value}

theorem targetsFrom (h : a.Prolongs b) {is : List Nat} (his : ∀ i ∈ is, i < a.count) :
    b.targetsFrom v is = a.targetsFrom v is := by
  induction is with
  | nil => rfl
  | cons i is ih =>
    obtain ⟨hi, his⟩ := List.forall_mem_cons.1 his
    rw [Automaton.targetsFrom, Automaton.targetsFrom, ih his, targetsOf, h.stores i hi, targetsOf]

omit [TestFunctions] in
theorem currentMarkers (h : a.Prolongs b) (ha : a.WellFormed) (hactive : b.active = a.active) :
    b.currentMarkers = a.currentMarkers := by
  rw [Automaton.currentMarkers, Automaton.currentMarkers, hactive]
  exact congrArg joinMarkers (List.map_congr_left fun i hi => h.markersAt i (ha.active_lt i hi))

/-- Feeding never leaves the states of the smaller automaton: by induction on the values. -/
theorem feedFrom (h : a.Prolongs b) (ha : a.WellFormed) (hb : b.WellFormed) (hactive : b.active = a.active)
    (consumed : Nat) : (feedFrom consumed w b).2 = (Automaton.feedFrom consumed w a).2 := by
  induction w generalizing a b consumed with
  | nil =>
    rw [Automaton.feedFrom, Automaton.feedFrom, h.currentMarkers ha hactive]
  | cons v w ih =>
    by_cases hv : v = .epsilon
    · subst hv
      rfl
    have htargets : b.targetsFrom v b.active.ids = a.targetsFrom v a.active.ids := by
      rw [hactive]
      exact h.targetsFrom ha.active_lt
    cases hts : a.targetsFrom v a.active.ids with
    | error cause => rw [feedFrom_error hv hts, feedFrom_error hv (htargets.trans hts)]
    | ok ts =>
      have hbts := htargets.trans hts
      cases ts with
      | nil =>
        rw [feedFrom_rejected hv hts, feedFrom_rejected hv hbts, h.currentMarkers ha hactive]
      | cons t ts =>
        have hlt : ∀ i ∈ StateSet.ofList (t :: ts), i < a.count := fun i hi =>
          ha.targetsFrom_lt hts i (StateSet.mem_ofList.1 hi)
        rw [feedFrom_advanced hv hts, feedFrom_advanced hv hbts]
        exact ih (h.withActive _ _) (ha.moved (moved_targets ha hts)) (hb.moved (moved_targets hb hbts))
          (h.closure ha hb hlt) (consumed + 1)

theorem accepts (h : a.Prolongs b) (ha : a.WellFormed) (hb : b.WellFormed) (h0 : 0 < a.count) (values : Value) :
    (b.accepts values).2 = (a.accepts values).2 := by
  have hactive : b.reset.active = a.reset.active := by
    rw [reset, if_neg (Nat.ne_of_gt (h.pos h0)), reset, if_neg (Nat.ne_of_gt h0)]
    exact h.closure ha hb (by simpa [StateSet.mem_ofList] using h0)
  cases hvs : values.elements with
  | error cause => simp only [Automaton.accepts, feed, hvs]
  | ok w =>
    rw [snd_accepts hvs, snd_accepts hvs]
    exact congrArg _ ((h.withActive _ _).feedFrom ha.restarted hb.restarted hactive 0)

end Prolongs

end GuardedAutomata.Automaton
