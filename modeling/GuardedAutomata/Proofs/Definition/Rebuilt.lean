import GuardedAutomata.Proofs.Definition.Outcome
import GuardedAutomata.Proofs.Definition.Written

/-!
# Rebuilt automata

Building what the dictionary form of an automaton stands for makes the automaton again: first as many states
as it has, each with its markers, and then its edges, store by store in the order in which they were
recorded. Only the markers of a state change their order.
-/

set_option autoImplicit false

namespace GuardedAutomata

namespace Automaton

variable {a b : Automaton} {k : StoreKind} {name : String} {i : Nat}

/-! ### States -/

/-- Every state is made with its markers, whatever becomes of the frontier. -/
theorem addStates_eq {entries : List StateEntry} (ha : a.WellFormed)
    (h : ∀ e ∈ entries, Value.Distinct e.markers ∧ ∀ m ∈ e.markers, m.unhashable? = none) :
    ∃ s, addStates entries a = .ok { a with
      stores := a.stores ++ List.replicate entries.length a.factory.newStore
      markers := a.markers ++ entries.map StateEntry.markers
      active := s } := by
  have hnone : entries.findSome? StateEntry.problem? = none := by
    refine List.findSome?_eq_none_iff.2 fun e he => List.findSome?_eq_none_iff.2 fun m hm => ?_
    rw [Value.keyProblem?, (h e he).2 m hm]
    rfl
  have hfirsts : entries.map (fun e => Value.firsts e.markers) = entries.map StateEntry.markers :=
    List.map_congr_left fun e he => Value.firsts_distinct (h e he).1
  have hmeets := addStates_meets entries ha
  rw [hnone, hfirsts] at hmeets
  obtain ⟨⟨name, factory, stores, markers, s⟩, hadd, hb⟩ := hmeets
  obtain ⟨-, rfl, rfl, rfl, rfl⟩ := hb
  exact ⟨s, by rw [hadd, List.length_map]⟩

/-! ### Transitions -/

theorem guardOf_entry {e : Edge} (hs : Store.Settled k e.guard) (he : e.Writable k) :
    guardOf k name (e.transitionEntry k i) = .ok e.guard := by
  obtain ⟨g, t⟩ := e
  cases g with
  | epsilon => rfl
  | predicate p => simp [guardOf, Edge.transitionEntry, StoreKind.parse_written hs.coerce (he p rfl)]

theorem newTransition_settled {s : Store} {e : Edge} (hs : b.stores[i]? = some s)
    (hg : Store.Settled s.kind e.guard) (hnew : ∀ d ∈ s.edges, d.equal e = false) (ht : e.target < b.count) :
    ∃ t, b.newTransition (.state i) (.state e.target) e.guard.value =
      ({ b with stores := b.stores.set i (s.record e), active := t }, .ok ()) := by
  have hi : i < b.count := (List.getElem?_eq_some_iff.1 hs).1
  have hput : b.putEdge i e.guard e.target = .ok { b with stores := b.stores.set i (s.record e) } := by
    simp [putEdge, hs, Store.put_settled hg hnew]
  rw [newTransition, resolve_state.2 ⟨hi, rfl⟩, resolve_state.2 ⟨ht, rfl⟩, Guard.ofValue_value]
  simp only [hput]
  cases e.guard <;> exact ⟨_, rfl⟩

/-- The edges of one store are added behind the ones it has. -/
theorem addTransitions_edges (name : String) (rest : List TransitionEntry) {before after : List Store}
    {s : Store} {es : List Edge} (hk : s.kind = k) (hb : b.stores = before ++ s :: after)
    (hes : ∀ e ∈ es, Store.Settled k e.guard ∧ e.Writable k ∧ e.target < b.count)
    (hd : Edge.Distinct (s.edges ++ es)) :
    ∃ t, addTransitions k name (es.map (Edge.transitionEntry k before.length) ++ rest) b =
      addTransitions k name rest { b with stores := before ++ s.recordAll es :: after, active := t } := by
  induction es generalizing s b with
  | nil => exact ⟨b.active, by simp [← hb]⟩
  | cons e es ih =>
    obtain ⟨⟨hsettled, hwritable, ht⟩, hrest⟩ := List.forall_mem_cons.1 hes
    have hs : b.stores[before.length]? = some s := by simp [hb]
    have hset : b.stores.set before.length (s.record e) = before ++ s.record e :: after := by simp [hb]
    have hnew : ∀ d ∈ s.edges, d.equal e = false := fun d hd' =>
      (List.pairwise_append.1 hd).2.2 d hd' e (List.mem_cons_self ..)
    obtain ⟨t, hadd⟩ := newTransition_settled hs (hk ▸ hsettled) hnew ht
    rw [hset] at hadd
    let c : Automaton := { b with stores := before ++ s.record e :: after, active := t }
    have hcount : c.count = b.count := by simp [count, hb, c]
    obtain ⟨u, hu⟩ := ih (s := s.record e) (b := c) ((s.kind_record e).trans hk) rfl (by rwa [hcount])
      (by simpa using hd)
    refine ⟨u, ?_⟩
    simp only [List.map_cons, List.cons_append, addTransitions, guardOf_entry hsettled hwritable,
      Edge.source_transitionEntry, Edge.target_transitionEntry, hadd]
    exact hu

/-- Store by store, the edges are recorded as they were. -/
theorem addTransitions_stores (name : String) (ha : a.WellFormed) (hk : a.factory.storeKind = k)
    (hw : ∀ i < a.count, ∀ e ∈ a.edgesOf i, e.Writable k) {before ss : List Store}
    (hss : a.stores = before ++ ss) (hb : b.stores = before ++ List.replicate ss.length (.empty k)) :
    ∃ t, addTransitions k name
        (a.transitionsFrom (Edge.transitionEntry k) (List.range' before.length ss.length)) b =
      .ok { b with stores := a.stores, active := t } := by
  -- The stores in front are finished, and those from here on are still empty.
  induction ss generalizing before b with
  | nil =>
    have hstores : b.stores = a.stores := by simpa [hss] using hb
    exact ⟨b.active, by simp [transitionsFrom, addTransitions, ← hstores]⟩
  | cons s ss ih =>
    have hs : a.stores[before.length]? = some s := by simp [hss]
    have hfits := ha.fits_of_getElem hs
    rw [hk] at hfits
    have hlt : before.length < a.count := (List.getElem?_eq_some_iff.1 hs).1
    have hcount : b.count = a.count := by simp [count, hb, hss]
    have hedges : a.edgesOf before.length = s.edges := by simp [edgesOf, hs]
    have hes : ∀ e ∈ s.edges, Store.Settled k e.guard ∧ e.Writable k ∧ e.target < b.count := by
      intro e he
      have hsettled := hfits.sound.settled e he
      rw [hfits.kind] at hsettled
      rw [← hedges] at he
      exact ⟨hsettled, hw _ hlt e he, hcount ▸ ha.target_lt he⟩
    have hrecorded : (Store.empty k).recordAll s.edges = s := by
      rw [← hfits.kind]
      exact hfits.sound.recorded.symm
    have hdistinct : Edge.Distinct ((Store.empty k).edges ++ s.edges) := hfits.sound.distinct
    obtain ⟨t, ht⟩ := addTransitions_edges name
      (a.transitionsFrom (Edge.transitionEntry k) (List.range' (before.length + 1) ss.length)) rfl hb hes hdistinct
    rw [hrecorded] at ht
    let c : Automaton :=
      { b with stores := before ++ s :: List.replicate ss.length (.empty k), active := t }
    have hstores : c.stores = (before ++ [s]) ++ List.replicate ss.length (.empty k) := by simp [c]
    obtain ⟨u, hu⟩ := ih (b := c) (by simpa using hss) hstores
    refine ⟨u, ?_⟩
    rw [List.length_cons, List.range'_succ, transitionsFrom_cons, hedges]
    rw [List.length_append, List.length_singleton] at hu
    exact ht.trans hu

/-! ### Building -/

theorem get_builtIn (hk : k.BuiltIn) : Registry.builtIn.get k.name = .ok k := by
  rcases hk with rfl | rfl | rfl <;> rfl

theorem name_builtIn (hk : k.BuiltIn) : k.name.isEmpty = false := by
  rcases hk with rfl | rfl | rfl <;> rfl

/-- The own part of what a dictionary form stands for is made with the states, edges and markers written. -/
theorem buildOwn_definition (name : String) (ha : a.WellFormed) (hh : a.HashableMarkers) (hk : a.factory = .ofKind k)
    (hw : a.Writable) : ∃ t, (a.definition k name).buildOwn k =
      .ok ⟨.str name, a.factory, a.stores, (List.range a.count).map a.sortedMarkers, t⟩ := by
  have hstore : a.factory.storeKind = k := by simp [hk, Factory.storeKind]
  have hentries : ∀ e ∈ (a.definition k name).states,
      Value.Distinct e.markers ∧ ∀ m ∈ e.markers, m.unhashable? = none := by
    intro e he
    obtain ⟨i, _, rfl⟩ := List.mem_map.1 he
    have hp : (a.sortedMarkers i).Perm (a.markersAt i) := Text.sortByKey_perm Value.text _
    exact ⟨(ha.distinct_markersAt i).perm hp hh.markersAt, fun m hm => hh.markersAt m (hp.mem_iff.1 hm)⟩
  obtain ⟨s, hs⟩ := addStates_eq (wellFormed_new (.ofKind k) (.str name)) hentries
  have hstores : (a.definition k name).states.length = a.stores.length := by simp [definition, count]
  have hmarkers : (a.definition k name).states.map StateEntry.markers =
      (List.range a.count).map a.sortedMarkers := by simp [definition, Function.comp_def]
  obtain ⟨t, ht⟩ := addTransitions_stores name ha hstore (hstore ▸ hw) (List.nil_append _).symm
    (b := ⟨.str name, .ofKind k, List.replicate a.stores.length (.empty k),
      (List.range a.count).map a.sortedMarkers, s⟩) rfl
  have hname : (a.definition k name).name = name := rfl
  refine ⟨t, ?_⟩
  rw [List.length_nil, ← List.range_eq_range'] at ht
  rw [Definition.buildOwn, hname, hs, hstores, hmarkers, hk]
  exact ht

/-- Building what a dictionary form stands for makes the automaton again, restarted and with sorted markers. -/
theorem build_definition (name : String) (ha : a.WellFormed) (hh : a.HashableMarkers) (hk : a.factory = .ofKind k)
    (hb : k.BuiltIn) (hw : a.Writable) : (a.definition k name).build .builtIn = .ok { a with
      name := .str name
      markers := (List.range a.count).map a.sortedMarkers
      active := a.reset.active } := by
  obtain ⟨t, hown⟩ := buildOwn_definition name ha hh hk hw
  have hkind : (a.definition k name).effectiveKind = k.name := by
    simp [Definition.effectiveKind, definition, name_builtIn hb]
  let c : Automaton := ⟨.str name, a.factory, a.stores, (List.range a.count).map a.sortedMarkers, t⟩
  have hwith : (a.definition k name).buildWith .builtIn k.name = .ok c := by
    unfold Definition.buildWith
    rw [get_builtIn hb]
    simp only [hown]
    rfl
  have hreset : c.reset = { c with active := a.reset.active } := by
    rw [reset_eq, active_reset_congr (show c.stores = a.stores from rfl)]
  rw [Definition.build, hkind, hwith]
  exact congrArg Except.ok hreset

end Automaton

end GuardedAutomata
