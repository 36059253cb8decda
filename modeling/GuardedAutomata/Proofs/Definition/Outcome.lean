import GuardedAutomata.Definition.Builder
import GuardedAutomata.Proofs.Automaton.Access

/-!
# Outcomes of building

What can keep a definition from being built is found by looking through it in the order in which it is built:
a marker or a guard that cannot be a key, a guard that its kind of stores cannot read, and a fragment that
names another store. The first of these problems is what building fails with. Without one, every state gets
its markers and its transitions, of which equal ones are kept once.
-/

set_option autoImplicit false

namespace GuardedAutomata

/-! ### Attempts -/

def Meets {α : Type} (problem? : Option Failure) (made : α → Prop) (attempt : Except Failure α) : Prop :=
  match problem? with
  | some f => attempt = .error f
  | none => ∃ x, attempt = .ok x ∧ made x

namespace Meets

variable {α β : Type} {problem? next? : Option Failure} {made : α → Prop} {attempt : Except Failure α}

theorem of_ok (h : Meets problem? made attempt) {x : α} (hx : attempt = .ok x) : problem? = none ∧ made x := by
  cases problem? with
  | some f => cases hx.symm.trans h
  | none =>
    obtain ⟨y, hy, hmade⟩ := h
    cases hx.symm.trans hy
    exact ⟨rfl, hmade⟩

theorem of_error (h : Meets problem? made attempt) {f : Failure} (hf : attempt = .error f) :
    problem? = some f := by
  cases problem? with
  | some g =>
    cases hf.symm.trans h
    rfl
  | none =>
    obtain ⟨y, hy, -⟩ := h
    cases hf.symm.trans hy

theorem mono {other : α → Prop} (h : Meets problem? made attempt) (hsub : ∀ x, made x → other x) :
    Meets problem? other attempt := by
  cases problem? with
  | some f => exact h
  | none =>
    obtain ⟨x, hx, hmade⟩ := h
    exact ⟨x, hx, hsub x hmade⟩

theorem followed {other : β → Prop} {whole : Except Failure β} (h : Meets problem? made attempt)
    (hfailed : ∀ f, attempt = .error f → whole = .error f)
    (hnext : ∀ x, attempt = .ok x → made x → Meets next? other whole) : Meets (problem?.or next?) other whole := by
  cases problem? with
  | some f => exact hfailed f h
  | none =>
    obtain ⟨x, hx, hmade⟩ := h
    exact hnext x hx hmade

end Meets

theorem findSome?_cons_or {α β : Type} (problem? : α → Option β) (x : α) (xs : List α) :
    (x :: xs).findSome? problem? = (problem? x).or (xs.findSome? problem?) := by
  rw [List.findSome?_cons]
  cases problem? x <;> rfl

/-! ### Problems -/

def Value.keyProblem? (v : Value) : Option Failure :=
  v.unhashable?.map fun type => .fault (.unhashable type)

def StateEntry.problem? (s : StateEntry) : Option Failure :=
  s.markers.findSome? Value.keyProblem?

def TransitionEntry.problem? (k : StoreKind) (name : String) (t : TransitionEntry) : Option Failure :=
  match Automaton.guardOf k name t with
  | .error f => some f
  | .ok g => g.value.keyProblem?

namespace Definition

def ownProblem? (k : StoreKind) (d : Definition) : Option Failure :=
  (d.states.findSome? StateEntry.problem?).or (d.transitions.findSome? (TransitionEntry.problem? k d.name))

mutual

def problem? (k : StoreKind) (kind : String) : Definition → Option Failure
  | ⟨name, description, store, states, transitions, fragments⟩ =>
    (ownProblem? k ⟨name, description, store, states, transitions, fragments⟩).or
      (fragmentProblem? k kind fragments)

def fragmentProblem? (k : StoreKind) (kind : String) : List (Fragment Definition) → Option Failure
  | [] => none
  | ⟨name, _, d⟩ :: rest =>
    match d.store.filter (· != kind) with
    | some store => some (.fragmentStore name store kind)
    | none => (problem? k kind d).or (fragmentProblem? k kind rest)

end

mutual

def nodes : Definition → List Definition
  | ⟨name, description, store, states, transitions, fragments⟩ =>
    ⟨name, description, store, states, transitions, fragments⟩ :: nodesOfAll fragments

def nodesOfAll : List (Fragment Definition) → List Definition
  | [] => []
  | ⟨_, _, d⟩ :: rest => d.nodes ++ nodesOfAll rest

end

theorem nodes_eq_cons (d : Definition) : d.nodes = d :: nodesOfAll d.fragments := by
  cases d
  rw [nodes]

variable {k : StoreKind} {kind : String} {d : Definition} {f : Failure}

mutual

theorem problem?_eq_none (d : Definition) : d.problem? k kind = none ↔
    (∀ x ∈ d.nodes, x.ownProblem? k = none) ∧ ∀ x ∈ nodesOfAll d.fragments, ∀ s, x.store = some s → s = kind :=
  match d with
  | ⟨name, description, store, states, transitions, fragments⟩ => by
    rw [problem?, nodes, Option.or_eq_none_iff, List.forall_mem_cons, fragmentProblem?_eq_none fragments]
    grind

theorem fragmentProblem?_eq_none (fs : List (Fragment Definition)) : fragmentProblem? k kind fs = none ↔
    ∀ x ∈ nodesOfAll fs, x.ownProblem? k = none ∧ ∀ s, x.store = some s → s = kind :=
  match fs with
  | [] => by simp [fragmentProblem?, nodesOfAll]
  | ⟨name, _, x⟩ :: rest => by
    rw [fragmentProblem?, nodesOfAll, List.forall_mem_append, ← fragmentProblem?_eq_none rest]
    split
    next s hs =>
      obtain ⟨hstore, hne⟩ := Option.filter_eq_some_iff.1 hs
      have hx : x ∈ x.nodes := nodes_eq_cons x ▸ List.mem_cons_self ..
      exact iff_of_false nofun fun h => absurd ((h.1 x hx).2 s hstore) (by simpa using hne)
    next hs =>
      have hstore : ∀ s, x.store = some s → s = kind := by
        intro s hx
        rw [hx, Option.filter_eq_none_iff] at hs
        simpa using hs s rfl
      rw [Option.or_eq_none_iff, problem?_eq_none x, nodes_eq_cons]
      grind

end

mutual

theorem problem?_eq_some (d : Definition) (h : d.problem? k kind = some f) :
    (∃ x ∈ d.nodes, x.ownProblem? k = some f) ∨ ∃ name store, f = .fragmentStore name store kind :=
  match d with
  | ⟨name, description, store, states, transitions, fragments⟩ => by
    rw [nodes_eq_cons]
    rcases Option.or_eq_some_iff.1 h with hown | ⟨-, hrest⟩
    · exact .inl ⟨_, List.mem_cons_self .., hown⟩
    · rcases fragmentProblem?_eq_some fragments hrest with ⟨x, hx, hp⟩ | hf
      · exact .inl ⟨x, List.mem_cons_of_mem _ hx, hp⟩
      · exact .inr hf

theorem fragmentProblem?_eq_some (fs : List (Fragment Definition)) (h : fragmentProblem? k kind fs = some f) :
    (∃ x ∈ nodesOfAll fs, x.ownProblem? k = some f) ∨ ∃ name store, f = .fragmentStore name store kind :=
  match fs with
  | [] => nomatch h
  | ⟨name, _, x⟩ :: rest => by
    rw [fragmentProblem?] at h
    rw [nodesOfAll]
    split at h
    next store _ =>
      cases h
      exact .inr ⟨name, store, rfl⟩
    · rcases Option.or_eq_some_iff.1 h with hx | ⟨-, hrest⟩
      · rcases problem?_eq_some x hx with ⟨y, hy, hp⟩ | hf
        · exact .inl ⟨y, List.mem_append_left _ hy, hp⟩
        · exact .inr hf
      · rcases fragmentProblem?_eq_some rest hrest with ⟨y, hy, hp⟩ | hf
        · exact .inl ⟨y, List.mem_append_right _ hy, hp⟩
        · exact .inr hf

end

end Definition

def TransitionEntry.guardIn (k : StoreKind) (t : TransitionEntry) : Guard :=
  if t.epsilon then .epsilon
  else
    match k.parse t.guard with
    | .ok p => .predicate p
    | .error _ => .epsilon

def TransitionEntry.edge (k : StoreKind) (t : TransitionEntry) : Edge :=
  ⟨t.guardIn k, t.target⟩

/-! ### Edges -/

theorem Guard.ofValue_value (g : Guard) : Guard.ofValue g.value = .ok g := by
  cases g <;> rfl

theorem StoreKind.coerce_of_parse {k : StoreKind} {raw p : Value} (h : k.parse raw = .ok p) :
    k.coerce p = .ok p := by
  cases k with
  | range => exact (Range.made_of_parse h).parse
  | callable => cases h
  | _ => rfl

theorem Automaton.guardOf_eq_ok {k : StoreKind} {name : String} {t : TransitionEntry} {g : Guard}
    (h : guardOf k name t = .ok g) : t.guardIn k = g ∧ (Store.empty k).coerceGuard g = .ok g := by
  unfold guardOf at h
  unfold TransitionEntry.guardIn
  by_cases he : t.epsilon = true
  · rw [if_pos he] at h ⊢
    cases h
    exact ⟨rfl, rfl⟩
  · rw [if_neg he] at h ⊢
    cases hp : k.parse t.guard with
    | error f =>
      rw [hp] at h
      cases h
    | ok p =>
      rw [hp] at h
      cases h
      exact ⟨rfl, by simp [Store.coerceGuard, Store.empty, StoreKind.coerce_of_parse hp]⟩

theorem Value.keyProblem?_eq_none {v : Value} : v.keyProblem? = none ↔ v.checkHashable = .ok () := by
  unfold keyProblem? checkHashable
  cases v.unhashable? <;> simp

theorem Value.keyProblem?_eq_some {v : Value} {f : Failure} (h : v.keyProblem? = some f) :
    ∃ type, v.unhashable? = some type ∧ f = .fault (.unhashable type) := by
  obtain ⟨type, ht, rfl⟩ := Option.map_eq_some_iff.1 h
  exact ⟨type, ht, rfl⟩

namespace Automaton

variable {a b c : Automaton} {k : StoreKind} {name : String} {added more : Nat → List Edge}

structure Extends (a : Automaton) (added : Nat → List Edge) (b : Automaton) : Prop where
  wellFormed : b.WellFormed
  name : b.name = a.name
  factory : b.factory = a.factory
  count : b.count = a.count
  markersAt : ∀ i, b.markersAt i = a.markersAt i
  edgesOf : ∀ i, b.edgesOf i = (added i).foldl Edge.insertInto (a.edgesOf i)

theorem extends_nothing (ha : a.WellFormed) : a.Extends (fun _ => []) a :=
  ⟨ha, rfl, rfl, rfl, fun _ => rfl, fun _ => rfl⟩

theorem Extends.append (h : a.Extends added b) (g : b.Extends more c) :
    a.Extends (fun i => added i ++ more i) c where
  wellFormed := g.wellFormed
  name := g.name.trans h.name
  factory := g.factory.trans h.factory
  count := g.count.trans h.count
  markersAt := fun i => (g.markersAt i).trans (h.markersAt i)
  edgesOf := fun i => by rw [g.edgesOf, h.edgesOf, List.foldl_append]

theorem extends_putEdge (ha : a.WellFormed) {i j : Nat} {g : Guard} (hi : i < a.count) (hj : j < a.count)
    (hg : Store.Settled a.factory.storeKind g) :
    ∃ b, a.putEdge i g j = .ok b ∧ a.Extends (fun l => if l = i then [⟨g, j⟩] else []) b := by
  obtain ⟨s, hs, -⟩ := WellFormed.exists_store hi
  have hkind : s.kind = a.factory.storeKind := (ha.fits_of_getElem hs).kind
  rw [← hkind] at hg
  obtain ⟨t, ht⟩ : ∃ t, s.put g j = .ok t := ⟨_, Store.put_of_settled hg j⟩
  have hp : a.putEdge i g j = .ok { a with stores := a.stores.set i t } := by simp [putEdge, hs, ht]
  refine ⟨_, hp, ha.putEdge hj hp, rfl, rfl, count_putEdge hp, fun _ => rfl, ?_⟩
  intro l
  by_cases hl : l = i
  · subst hl
    have hself : (a.stores.set l t)[l]? = some t := List.getElem?_set_self hi
    simp [Automaton.edgesOf, hs, hself, Store.edges_put hg ht]
  · simp [Automaton.edgesOf, List.getElem?_set_ne (Ne.symm hl), hl]

/-- A settled guard makes a transition. -/
theorem extends_newTransition (ha : a.WellFormed) {i j : Nat} {g : Guard} (hi : i < a.count) (hj : j < a.count)
    (hg : Store.Settled a.factory.storeKind g) :
    ∃ b, a.newTransition (.state i) (.state j) g.value = (b, .ok ()) ∧
      a.Extends (fun l => if l = i then [⟨g, j⟩] else []) b := by
  obtain ⟨b, hp, h⟩ := extends_putEdge ha hi hj hg
  cases g with
  | epsilon =>
    have hclose : a.newTransition (.state i) (.state j) .epsilon = (b.close, .ok ()) := by
      simp [newTransition, resolve_state.2 ⟨hi, rfl⟩, resolve_state.2 ⟨hj, rfl⟩, Guard.ofValue, hp]
    exact ⟨b.close, hclose, h.wellFormed.close, h.name, h.factory, h.count, h.markersAt, h.edgesOf⟩
  | predicate p =>
    have hadd : a.newTransition (.state i) (.state j) (.predicate p) = (b, .ok ()) := by
      simp [newTransition, resolve_state.2 ⟨hi, rfl⟩, resolve_state.2 ⟨hj, rfl⟩, Guard.ofValue, hp]
    exact ⟨b, hadd, h⟩

theorem newTransition_unhashable (ha : a.WellFormed) {i j : Nat} {g : Guard} {type : String} (hi : i < a.count)
    (hj : j < a.count) (hg : (Store.empty a.factory.storeKind).coerceGuard g = .ok g)
    (ht : g.value.unhashable? = some type) :
    a.newTransition (.state i) (.state j) g.value = (a, .error (.fault (.unhashable type))) := by
  obtain ⟨s, hs, -⟩ := WellFormed.exists_store hi
  have hkind : s.kind = a.factory.storeKind := (ha.fits_of_getElem hs).kind
  rw [← hkind, Store.coerceGuard_empty] at hg
  have hput : s.put g j = .error (.fault (.unhashable type)) := by simp [Store.put, hg, Value.checkHashable, ht]
  have hp : a.putEdge i g j = .error (.fault (.unhashable type)) := by simp [putEdge, hs, hput]
  simp [newTransition, resolve_state.2 ⟨hi, rfl⟩, resolve_state.2 ⟨hj, rfl⟩, Guard.ofValue_value, hp]

/-! ### Markers, states and transitions -/

/-- A state that is there gets the markers it has not got yet. -/
theorem addMarkers_meets {i : Nat} (ms : List Value) (hi : i < a.count) (hl : a.markers.length = a.count) :
    Meets (ms.findSome? Value.keyProblem?)
      (· = { a with markers := a.markers.set i (ms.foldl Value.insertInto (a.markersAt i)) })
      (addMarkers i ms a) := by
  induction ms generalizing a with
  | nil =>
    have hself : a.markers.set i (a.markersAt i) = a.markers := by
      rw [← hl] at hi
      simp [markersAt, List.getElem?_eq_getElem hi]
    exact ⟨a, rfl, by rw [List.foldl_nil, hself]⟩
  | cons m ms ih =>
    rw [addMarkers, List.findSome?_cons]
    cases hm : m.keyProblem? with
    | some f =>
      obtain ⟨type, ht, rfl⟩ := Value.keyProblem?_eq_some hm
      have hmark : a.mark (.state i) m = (a, .error (.fault (.unhashable type))) := by
        simp [mark, resolve_state.2 ⟨hi, rfl⟩, Value.checkHashable, ht]
      rw [hmark]
      rfl
    | none =>
      let marked : Automaton := { a with markers := a.markers.set i (Value.insertInto (a.markersAt i) m) }
      have hmark : a.mark (.state i) m = (marked, .ok ()) := by
        simp [mark, resolve_state.2 ⟨hi, rfl⟩, Value.keyProblem?_eq_none.1 hm, marked]
      have hset : marked.markersAt i = Value.insertInto (a.markersAt i) m := by
        simp [markersAt, marked, hl, hi]
      rw [hmark]
      refine (ih (a := marked) hi (List.length_set.trans hl)).mono fun b hb => ?_
      rw [hb, hset]
      simp [marked]

structure Grown (a : Automaton) (markers : List (List Value)) (b : Automaton) : Prop where
  wellFormed : b.WellFormed
  name : b.name = a.name
  factory : b.factory = a.factory
  stores : b.stores = a.stores ++ List.replicate markers.length a.factory.newStore
  markers : b.markers = a.markers ++ markers

theorem addStates_meets (entries : List StateEntry) (ha : a.WellFormed) :
    Meets (entries.findSome? StateEntry.problem?) (a.Grown (entries.map fun s => Value.firsts s.markers))
      (addStates entries a) := by
  induction entries generalizing a with
  | nil => exact ⟨a, rfl, ha, rfl, rfl, by simp, by simp⟩
  | cons s entries ih =>
    have hlt : a.count < a.newState.1.count := by
      rw [count_newState]
      exact Nat.lt_succ_self _
    have hnone : a.newState.1.markersAt a.count = [] := by simp [newState, markersAt, ← ha.markers_length]
    have hset : a.newState.1.markers.set a.count (Value.firsts s.markers) =
        a.markers ++ [Value.firsts s.markers] := by
      simp [newState, ← ha.markers_length]
    have hfirst := addMarkers_meets s.markers hlt ha.newState.markers_length
    rw [hnone, Value.insertAll_eq_firsts, hset] at hfirst
    rw [findSome?_cons_or, addStates]
    refine hfirst.followed (fun f hf => by rw [hf]) ?_
    rintro b hb rfl
    have hwell := ha.newState.setMarkers a.count (Value.distinct_firsts s.markers)
    rw [hset] at hwell
    rw [hb]
    refine (ih hwell).mono fun c hc => ⟨hc.wellFormed, hc.name, hc.factory, ?_, ?_⟩
    · rw [hc.stores]
      simp [newState, List.replicate_succ]
    · rw [hc.markers]
      simp

def transitionsFor (k : StoreKind) (ts : List TransitionEntry) (i : Nat) : List Edge :=
  (ts.filter (·.source == i)).map (TransitionEntry.edge k)

theorem addTransitions_meets {ts : List TransitionEntry} (name : String) (ha : a.WellFormed)
    (hk : a.factory.storeKind = k) (hts : ∀ t ∈ ts, t.source < a.count ∧ t.target < a.count) :
    Meets (ts.findSome? (TransitionEntry.problem? k name)) (a.Extends (transitionsFor k ts))
      (addTransitions k name ts a) := by
  induction ts generalizing a with
  | nil => exact ⟨a, rfl, extends_nothing ha⟩
  | cons t ts ih =>
    obtain ⟨⟨hsource, htarget⟩, hrest⟩ := List.forall_mem_cons.1 hts
    rw [addTransitions, findSome?_cons_or, TransitionEntry.problem?]
    cases hg : guardOf k name t with
    | error f => exact rfl
    | ok g =>
      dsimp only
      obtain ⟨hguard, hcoerce⟩ := guardOf_eq_ok hg
      rw [← hk] at hcoerce
      cases hp : g.value.keyProblem? with
      | some f =>
        obtain ⟨type, ht, rfl⟩ := Value.keyProblem?_eq_some hp
        simp only [newTransition_unhashable ha hsource htarget hcoerce ht]
        exact rfl
      | none =>
        obtain ⟨b, hb, hab⟩ := extends_newTransition ha hsource htarget
          ⟨hcoerce, Value.keyProblem?_eq_none.1 hp⟩
        rw [← hab.count] at hrest
        have hnext := ih hab.wellFormed (hab.factory ▸ hk) hrest
        simp only [hb]
        refine hnext.mono fun c hc => ?_
        have hsame : transitionsFor k (t :: ts) =
            fun i => (if i = t.source then [⟨g, t.target⟩] else []) ++ transitionsFor k ts i := by
          funext i
          have hedge : t.edge k = ⟨g, t.target⟩ := by rw [TransitionEntry.edge, hguard]
          unfold transitionsFor
          by_cases hi : i = t.source
          · simp [hi, hedge]
          · simp [hi, Ne.symm hi]
        rw [hsame]
        exact hab.append hc

/-! ### Fragments -/

variable {sub : Automaton} {linkFrom : Option Nat}

def linkEdges (linkFrom : Option Nat) (entry i : Nat) : List Edge :=
  if linkFrom = some i then [⟨.epsilon, entry⟩] else []

/-- A fragment without states changes nothing; any other one is spliced in, and linked if it is to be. -/
theorem addFragment_eq_ok (ha : a.WellFormed) (hsub : sub.WellFormed) (hf : a.factory = sub.factory)
    (hlink : ∀ link, linkFrom = some link → link < a.count) :
    ∃ b, addFragment linkFrom sub a = .ok b ∧ (sub.count = 0 ∧ b = a ∨ 0 < sub.count ∧
      (spliced a sub).Extends (linkEdges linkFrom a.count) b) := by
  by_cases h0 : sub.count = 0
  · have hadd : a.add sub = (a, .ok none) := by simp [add, hf, h0]
    exact ⟨a, by rw [addFragment, hadd], .inl ⟨h0, rfl⟩⟩
  · have hpos : 0 < sub.count := Nat.pos_of_ne_zero h0
    have hadd := add_eq ha hsub hf hpos
    have hspliced := ha.spliced hsub hf hpos
    cases hl : linkFrom with
    | none => exact ⟨spliced a sub, by rw [addFragment, hadd], .inr ⟨hpos, extends_nothing hspliced⟩⟩
    | some link =>
      have hlt : link < (spliced a sub).count := by
        have := hlink link hl
        rw [count_spliced]
        omega
      have hentry : a.count < (spliced a sub).count := by
        rw [count_spliced]
        omega
      obtain ⟨b, hb, hext⟩ := extends_newTransition hspliced hlt hentry (g := .epsilon) ⟨rfl, rfl⟩
      have hb : (spliced a sub).newTransition (.state link) (.state a.count) .epsilon = (b, .ok ()) := hb
      refine ⟨b, by rw [addFragment, hadd]; simp only [hb], .inr ⟨hpos, ?_⟩⟩
      have hlinks : linkEdges (some link) a.count = fun l => if l = link then [⟨.epsilon, a.count⟩] else [] := by
        funext l
        simp [linkEdges, eq_comm]
      rwa [hlinks]

end Automaton

namespace Definition

variable {k : StoreKind} {d : Definition}

structure BuiltOwn (k : StoreKind) (d : Definition) (a : Automaton) : Prop where
  wellFormed : a.WellFormed
  name : a.name = .str d.name
  factory : a.factory = .ofKind k
  count : a.count = d.states.length
  markersAt : ∀ i s, d.states[i]? = some s → a.markersAt i = Value.firsts s.markers
  edgesOf : ∀ i, a.edgesOf i = Edge.firsts (Automaton.transitionsFor k d.transitions i)

theorem buildOwn_meets (ht : ∀ t ∈ d.transitions, t.source < d.states.length ∧ t.target < d.states.length) :
    Meets (d.ownProblem? k) (d.BuiltOwn k) (d.buildOwn k) := by
  have hnew := Automaton.wellFormed_new (.ofKind k) (.str d.name)
  rw [buildOwn]
  refine (Automaton.addStates_meets d.states hnew).followed (fun f hf => by rw [hf]) ?_
  intro a hadded ha
  have hcount : a.count = d.states.length := by
    rw [Automaton.count, ha.stores]
    simp [Automaton.new]
  have hkind : a.factory.storeKind = k := by
    rw [ha.factory]
    rfl
  have hnone : ∀ i, a.edgesOf i = [] := by
    intro i
    by_cases hi : i < d.states.length
    · simp [Automaton.edgesOf, ha.stores, Automaton.new, Factory.newStore, hi]
    · simp [Automaton.edgesOf, ha.stores, Automaton.new, hi]
  have hmarkers : ∀ i s, d.states[i]? = some s → a.markersAt i = Value.firsts s.markers := by
    intro i s hs
    simp [Automaton.markersAt, ha.markers, Automaton.new, hs]
  rw [hadded]
  rw [← hcount] at ht
  refine (Automaton.addTransitions_meets d.name ha.wellFormed hkind ht).mono fun b hb => ?_
  exact {
    wellFormed := hb.wellFormed
    name := hb.name.trans ha.name
    factory := hb.factory.trans ha.factory
    count := hb.count.trans hcount
    markersAt := fun i s hs => (hb.markersAt i).trans (hmarkers i s hs)
    edgesOf := fun i => by rw [hb.edgesOf, hnone, Edge.insertAll_eq_firsts] }

end Definition

end GuardedAutomata
