import GuardedAutomata.Proofs.Automaton.Composition
import GuardedAutomata.Proofs.Automaton.Step

/-!
# Blocks side by side

In two automata side by side neither block sees the other: the look-ups of a state are those of its own
block, and epsilon edges do not lead from one block to the other. So the states after an input value are
those of the first block and the raised ones of the second.
-/

set_option autoImplicit false

namespace GuardedAutomata

/-! ### Stores with raised targets -/

theorem Store.kind_raise (offset : Nat) (s : Store) : (s.raise offset).kind = s.kind := by
  simp [raise, empty]

theorem Store.entries_raise (offset : Nat) (s : Store) :
    (s.raise offset).entries = s.entries.map fun e => (e.1, e.2 + offset) := by
  rw [entries, entries, edges_raise, List.filterMap_map, List.map_filterMap]
  congr 1
  funext e
  obtain ⟨g, t⟩ := e
  cases g <;> rfl

theorem Store.epsilon_raise {s : Store} (hs : s.Sound) (offset : Nat) :
    (s.raise offset).epsilon = s.epsilon.map (· + offset) := by
  rw [hs.epsilon_eq, raise, epsilon_recordAll, List.filterMap_map, List.map_filterMap]
  change List.filterMap _ s.edges = _
  congr 1
  funext e
  obtain ⟨g, t⟩ := e
  cases g <;> rfl

theorem Index.matched_raise (passes : Value → Bool) (offset : Nat) (entries : List (Value × Nat)) :
    matched passes (entries.map fun e => (e.1, e.2 + offset)) =
      (matched passes entries).map (· + offset) := by
  simp [matched, List.filter_map, Function.comp_def]

section Lookup

variable [TestFunctions]

theorem Index.scan_raise (k : StoreKind) (v : Value) (offset : Nat) (entries : List (Value × Nat)) :
    scan k v (entries.map fun e => (e.1, e.2 + offset)) =
      (scan k v entries).map (List.map (· + offset)) := by
  induction entries with
  | nil => rfl
  | cons e entries ih =>
    obtain ⟨p, t⟩ := e
    simp only [List.map_cons, scan, ih]
    cases k.test p v with
    | error cause => rfl
    | ok b =>
      cases scan k v entries with
      | error cause => rfl
      | ok ts => cases b <;> rfl

theorem Index.search_raise (k : StoreKind) (v : Value) (offset : Nat) (entries : List (Value × Nat)) :
    search k v (entries.map fun e => (e.1, e.2 + offset)) =
      (search k v entries).map (List.map (· + offset)) := by
  unfold search
  split
  · cases k.lookupKey v with
    | error cause => rfl
    | ok key =>
      cases hh : key.checkHashable with
      | error cause => simp [hh, Except.map]
      | ok _ => simp [hh, Except.map, matched_raise]
  · exact scan_raise k v offset entries

theorem Store.query_raise {s : Store} (hs : s.Sound) (offset : Nat) (v : Value) :
    (s.raise offset).query v = (s.query v).map (List.map (· + offset)) := by
  by_cases hv : v = .epsilon
  · subst hv
    exact congrArg Except.ok (epsilon_raise hs offset)
  · have hr : (s.raise offset).Sound := sound_relabel (fun _ _ => Nat.add_right_cancel) hs
    rw [query_of_ne_epsilon hv, query_of_ne_epsilon hv, hr.lookup_eq, hs.lookup_eq, kind_raise, entries_raise,
      Index.search_raise]

end Lookup

namespace StateSet

variable {s t : StateSet} {n : Nat}

/-- Below its offset, a raised set stands behind another one. -/
theorem ids_union_shift (hs : ∀ i ∈ s, i < n) :
    (s.union (t.shift n)).ids = s.ids ++ t.ids.map (· + n) := by
  apply ids_ext (s.union (t.shift n)).increasing
  · refine List.pairwise_append.2 ⟨s.increasing, List.pairwise_map.2 (t.increasing.imp ?_), ?_⟩
    · intro i j hij
      exact Nat.add_lt_add_right hij n
    · intro i hi j hj
      obtain ⟨k, _, rfl⟩ := List.mem_map.1 hj
      exact Nat.lt_of_lt_of_le (hs i hi) (Nat.le_add_left n k)
  · intro i
    rw [mem_ids, mem_union, mem_shift, List.mem_append, List.mem_map]
    exact or_comm

theorem ofList_append_map (ts us : List Nat) (n : Nat) :
    ofList (ts ++ us.map (· + n)) = (ofList ts).union ((ofList us).shift n) := by
  apply ext
  intro i
  simp only [mem_ofList, mem_union, mem_shift, List.mem_append, List.mem_map]
  exact or_comm

end StateSet

namespace Automaton

variable {a b : Automaton}

/-! ### Epsilon edges -/

theorem epsilonTargets_spliced_left {i : Nat} (hi : i < a.count) :
    (spliced a b).epsilonTargets i = a.epsilonTargets i := by
  rw [epsilonTargets, getElem_spliced_left hi, epsilonTargets]

theorem epsilonTargets_spliced_right (hb : b.WellFormed) (j : Nat) :
    (spliced a b).epsilonTargets (a.count + j) = (b.epsilonTargets j).map (· + a.count) := by
  rw [epsilonTargets, getElem_spliced_right, epsilonTargets]
  cases hs : b.stores[j]? with
  | none => rfl
  | some s => exact Store.epsilon_raise (hb.fits_of_getElem hs).sound a.count

theorem leads_spliced_left (ha : a.WellFormed) {i q : Nat} (hi : i < a.count) :
    Leads (spliced a b).epsilonTargets i q ↔ Leads a.epsilonTargets i q :=
  leads_congr (fun i _ => ha.epsilonTargets_lt i) (fun _ hj => epsilonTargets_spliced_left hj) hi

theorem leads_spliced_right (hb : b.WellFormed) {j q : Nat} :
    Leads (spliced a b).epsilonTargets (a.count + j) q ↔
      ∃ k, Leads b.epsilonTargets j k ∧ a.count + k = q := by
  constructor
  · intro hl
    induction hl with
    | refl => exact ⟨j, .refl, rfl⟩
    | tail _ hq ih =>
      obtain ⟨k, hk, rfl⟩ := ih
      rw [epsilonTargets_spliced_right hb] at hq
      obtain ⟨m, hm, rfl⟩ := List.mem_map.1 hq
      exact ⟨m, .tail hk hm, Nat.add_comm _ _⟩
  · rintro ⟨k, hl, rfl⟩
    induction hl with
    | refl => exact .refl
    | tail _ hq ih =>
      refine .tail ih ?_
      rw [epsilonTargets_spliced_right hb, Nat.add_comm]
      exact List.mem_map_of_mem hq

/-- A closure in two automata side by side is the closures in the one and the other. -/
theorem closure_spliced (ha : a.WellFormed) (hb : b.WellFormed) (hc : (spliced a b).WellFormed)
    {s t : StateSet} (hs : ∀ i ∈ s, i < a.count) :
    (spliced a b).closure (s.union (t.shift a.count)) =
      (a.closure s).union ((b.closure t).shift a.count) := by
  apply StateSet.ext
  intro q
  rw [mem_closure hc.epsilonTargets_lt, StateSet.mem_union, StateSet.mem_shift]
  simp only [StateSet.mem_union, StateSet.mem_shift, mem_closure ha.epsilonTargets_lt,
    mem_closure hb.epsilonTargets_lt]
  constructor
  · rintro ⟨i, ⟨j, hj, rfl⟩ | hi, hl⟩
    · rw [Nat.add_comm] at hl
      obtain ⟨k, hk, rfl⟩ := (leads_spliced_right hb).1 hl
      exact .inl ⟨k, ⟨j, hj, hk⟩, Nat.add_comm _ _⟩
    · exact .inr ⟨i, hi, (leads_spliced_left ha (hs i hi)).1 hl⟩
  · rintro (⟨k, ⟨j, hj, hk⟩, rfl⟩ | ⟨i, hi, hl⟩)
    · refine ⟨j + a.count, .inl ⟨j, hj, rfl⟩, ?_⟩
      rw [Nat.add_comm j, Nat.add_comm k]
      exact (leads_spliced_right hb).2 ⟨k, hk, rfl⟩
    · exact ⟨i, .inr hi, (leads_spliced_left ha (hs i hi)).2 hl⟩

/-! ### Input values -/

variable [TestFunctions] {v : Value}

theorem targetsOf_spliced_left {i : Nat} (hi : i < a.count) :
    (spliced a b).targetsOf v i = a.targetsOf v i := by
  rw [targetsOf, getElem_spliced_left hi, targetsOf]

theorem targetsOf_spliced_right (hb : b.WellFormed) (j : Nat) :
    (spliced a b).targetsOf v (a.count + j) = (b.targetsOf v j).map (List.map (· + a.count)) := by
  rw [targetsOf, getElem_spliced_right, targetsOf]
  cases hs : b.stores[j]? with
  | none => rfl
  | some s => exact Store.query_raise (hb.fits_of_getElem hs).sound a.count v

theorem targetsFrom_append {is js ts us : List Nat} (hi : a.targetsFrom v is = .ok ts)
    (hj : a.targetsFrom v js = .ok us) : a.targetsFrom v (is ++ js) = .ok (ts ++ us) := by
  induction is generalizing ts with
  | nil =>
    cases hi
    exact hj
  | cons i is ih =>
    obtain ⟨ms, others, hms, hothers, rfl⟩ := targetsFrom_cons.1 hi
    rw [List.append_assoc]
    exact targetsFrom_cons.2 ⟨ms, others ++ us, hms, ih hothers, rfl⟩

theorem targetsFrom_spliced_left {is : List Nat} (his : ∀ i ∈ is, i < a.count) :
    (spliced a b).targetsFrom v is = a.targetsFrom v is := by
  induction is with
  | nil => rfl
  | cons i is ih =>
    obtain ⟨hi, hrest⟩ := List.forall_mem_cons.1 his
    rw [targetsFrom, targetsOf_spliced_left hi, ih hrest, targetsFrom]

theorem targetsFrom_spliced_right (hb : b.WellFormed) {js us : List Nat} (h : b.targetsFrom v js = .ok us) :
    (spliced a b).targetsFrom v (js.map (· + a.count)) = .ok (us.map (· + a.count)) := by
  induction js generalizing us with
  | nil =>
    cases h
    rfl
  | cons j js ih =>
    obtain ⟨ms, others, hms, hothers, rfl⟩ := targetsFrom_cons.1 h
    have hj := targetsOf_spliced_right (a := a) (v := v) hb j
    rw [Nat.add_comm, hms] at hj
    rw [List.map_append]
    exact targetsFrom_cons.2 ⟨_, _, hj, ih hothers, rfl⟩

def successors (a : Automaton) (v : Value) (s : StateSet) : Except Fault StateSet :=
  match a.targetsFrom v s.ids with
  | .error cause => .error cause
  | .ok targets => .ok (a.closure (.ofList targets))

theorem successors_eq_ok {s t : StateSet} (h : a.successors v s = .ok t) :
    ∃ targets, a.targetsFrom v s.ids = .ok targets ∧ t = a.closure (.ofList targets) := by
  unfold successors at h
  split at h
  · cases h
  next targets ht =>
    cases h
    exact ⟨targets, ht, rfl⟩

/-- A step leads to the successors of the frontier, if there are any. -/
theorem step_eq_successors (hv : v ≠ .epsilon) :
    a.step v = match a.successors v a.active with
      | .error cause => (a, .error (.fault cause))
      | .ok s => if s.isEmpty then (a, .ok false) else ({ a with active := s }, .ok true) := by
  rw [step_of_ne_epsilon hv, advance, successors]
  cases a.targetsFrom v a.active.ids with
  | error cause => rfl
  | ok targets =>
    cases targets with
    | nil =>
      have hnil : a.closure (.ofList []) = .empty := closure_empty a
      simp only [hnil]
      rfl
    | cons i targets =>
      have hi : i ∈ a.closure (.ofList (i :: targets)) :=
        mem_closure_of_mem (StateSet.mem_ofList.2 (by simp))
      have hne : (a.closure (.ofList (i :: targets))).isEmpty = false := by
        rw [StateSet.isEmpty, List.isEmpty_eq_false_iff]
        exact List.ne_nil_of_mem hi
      simp [hne]

/-- In two automata side by side each block goes its own way. -/
theorem successors_spliced (ha : a.WellFormed) (hb : b.WellFormed) (hc : (spliced a b).WellFormed)
    {s t x y : StateSet} (hs : ∀ i ∈ s, i < a.count) (hx : a.successors v s = .ok x)
    (hy : b.successors v t = .ok y) :
    (spliced a b).successors v (s.union (t.shift a.count)) = .ok (x.union (y.shift a.count)) := by
  obtain ⟨ts, hts, rfl⟩ := successors_eq_ok hx
  obtain ⟨us, hus, rfl⟩ := successors_eq_ok hy
  have htargets : (spliced a b).targetsFrom v (s.union (t.shift a.count)).ids =
      .ok (ts ++ us.map (· + a.count)) := by
    rw [StateSet.ids_union_shift hs]
    refine targetsFrom_append ?_ (targetsFrom_spliced_right hb hus)
    rw [targetsFrom_spliced_left hs, hts]
  have hlt : ∀ i ∈ StateSet.ofList ts, i < a.count := fun i hi =>
    ha.targetsFrom_lt hts i (StateSet.mem_ofList.1 hi)
  rw [successors, htargets]
  simp only [StateSet.ofList_append_map, closure_spliced ha hb hc hlt]

end Automaton

end GuardedAutomata
