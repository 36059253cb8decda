import GuardedAutomata.Proofs.Automaton.Link
import GuardedAutomata.Proofs.Session.Frontier
import GuardedAutomata.Proofs.Session.Refusal

/-!
# Growing automata

Creating states, adding transitions and changing markers only ever add to the graph. Each epsilon transition
closes the frontier again in the graph that there is by then, and a closure in a part of the graph adds
nothing to a closure in the whole; so however an automaton grows, its frontier ends as the closure of the
first one in the last graph. The order of the transitions does not matter, and an automaton that has only
grown stands where a restart would put it.
-/

set_option autoImplicit false

namespace GuardedAutomata

namespace Automaton

structure Request where
  source : Value
  target : Value
  guard : Value

def Names (v : Value) (i : Nat) : Prop :=
  v = .state i ∨ v = .int i

def Silent (rs : List Request) (i j : Nat) : Prop :=
  ∃ r ∈ rs, r.guard = .epsilon ∧ Names r.source i ∧ Names r.target j

variable {a b c : Automaton} {rs others : List Request} {i j : Nat}

theorem resolve_eq_ok {v : Value} : a.resolve v = .ok i ↔ Names v i ∧ i < a.count := by
  constructor
  · intro h
    refine ⟨?_, lt_count_of_resolve h⟩
    cases v with
    | state n => exact .inl (congrArg Value.state (resolve_state.1 h).2.symm)
    | int n =>
      cases n with
      | ofNat n => exact .inr (congrArg (fun n : Nat => Value.int n) (resolve_int.1 h).2.symm)
      | negSucc n =>
        rw [resolve, if_pos (Int.negSucc_lt_zero n)] at h
        cases h
    | _ => cases h
  · rintro ⟨rfl | rfl, h⟩
    · exact resolve_state.2 ⟨h, rfl⟩
    · exact resolve_int.2 ⟨h, rfl⟩

theorem Names.eq {v : Value} (hi : Names v i) (hj : Names v j) : i = j := by
  rcases hi with rfl | rfl <;> rcases hj with h | h <;> cases h <;> rfl

theorem silent_append : Silent (rs ++ others) i j ↔ Silent rs i j ∨ Silent others i j := by
  simp only [Silent, List.mem_append, or_and_right, exists_or]

theorem silent_perm (h : rs.Perm others) : Silent rs i j ↔ Silent others i j := by
  simp only [Silent, h.mem_iff]

theorem eq_epsilon_of_ofValue {v : Value} (h : Guard.ofValue v = .ok .epsilon) : v = .epsilon := by
  cases v <;> first | rfl | cases h

/-! ### What growing does to the frontier -/

/-- An automaton that has grown by some requests: its epsilon edges are those there were and those that were
asked for, and the frontier is closed in the new graph. -/
structure GrownBy (a : Automaton) (rs : List Request) (b : Automaton) : Prop where
  wellFormed : b.WellFormed
  count_le : a.count ≤ b.count
  mem_epsilonTargets : ∀ i j, j ∈ b.epsilonTargets i ↔ j ∈ a.epsilonTargets i ∨ Silent rs i j
  active : b.active = b.closure a.active

theorem GrownBy.closed (h : a.GrownBy rs b) : b.Closed := by
  rw [h.wellFormed.closed_iff, h.active]
  exact closedUnder_closure h.wellFormed.epsilonTargets_lt

theorem GrownBy.trans (h : a.GrownBy rs b) (g : b.GrownBy others c) :
    a.GrownBy (rs ++ others) c where
  wellFormed := g.wellFormed
  count_le := Nat.le_trans h.count_le g.count_le
  mem_epsilonTargets := by
    intro i j
    rw [g.mem_epsilonTargets, h.mem_epsilonTargets, silent_append, or_assoc]
  active := by
    have hsub : ∀ i, ∀ j ∈ b.epsilonTargets i, j ∈ c.epsilonTargets i := fun i j hj =>
      (g.mem_epsilonTargets i j).2 (.inl hj)
    rw [g.active, h.active]
    exact closure_closure h.wellFormed.epsilonTargets_lt g.wellFormed.epsilonTargets_lt hsub

theorem grownBy_of_edges (hb : b.WellFormed) (hcb : b.Closed) (hcount : a.count ≤ b.count)
    (hedges : ∀ i j, j ∈ b.epsilonTargets i ↔ j ∈ a.epsilonTargets i) (hrs : ∀ i j, ¬ Silent rs i j)
    (hactive : b.active = a.active) : a.GrownBy rs b where
  wellFormed := hb
  count_le := hcount
  mem_epsilonTargets := by simp [hedges, hrs]
  active := by
    rw [← hactive, closure_eq_self hb.epsilonTargets_lt (hb.closed_iff.1 hcb)]

theorem not_silent_nil : ¬ Silent [] i j := by
  rintro ⟨_, hr, _⟩
  cases hr

theorem grownBy_refl (ha : a.WellFormed) (hca : a.Closed) : a.GrownBy [] a :=
  grownBy_of_edges ha hca (Nat.le_refl _) (fun _ _ => Iff.rfl) (fun _ _ => not_silent_nil) rfl

theorem grownBy_newState (ha : a.WellFormed) (hca : a.Closed) (h0 : 0 < a.count) : a.GrownBy [] a.newState.1 := by
  refine grownBy_of_edges ha.newState hca.newState ?_ ?_ (fun _ _ => not_silent_nil) ?_
  · rw [count_newState]
    exact Nat.le_succ _
  · intro i j
    rw [ha.newState.mem_epsilonTargets, ha.mem_epsilonTargets, edgesOf_newState]
  · simp only [newState, if_neg (Nat.ne_of_gt h0)]

theorem grownBy_grow (n : Nat) (ha : a.WellFormed) (hca : a.Closed) (h0 : 0 < a.count) :
    a.GrownBy [] (grow n a) := by
  induction n generalizing a with
  | zero => exact grownBy_refl ha hca
  | succ n ih =>
    have hnew := grownBy_newState ha hca h0
    exact hnew.trans (ih hnew.wellFormed hnew.closed (Nat.lt_of_lt_of_le h0 hnew.count_le))

section Granted

variable {source target guard : Value} (ha : a.WellFormed) (hi : a.resolve source = .ok i)
  (hj : a.resolve target = .ok j)

include ha hj

theorem grownBy_putPredicate (hca : a.Closed) {p : Value} (hguard : Guard.ofValue guard = .ok (.predicate p))
    (h : a.putEdge i (.predicate p) j = .ok b) : a.GrownBy [⟨source, target, guard⟩] b := by
  have hstep : Step a b := .linked (lt_count_of_resolve hj) h
  refine grownBy_of_edges (ha.step hstep) (hca.step ha hstep) (Nat.le_of_eq (count_putEdge h).symm) ?_ ?_ ?_
  · intro k l
    rw [epsilonTargets_putEdge h]
  · rintro k l ⟨r, hr, hepsilon, _⟩
    cases List.mem_singleton.1 hr
    rw [show guard = .epsilon from hepsilon] at hguard
    cases hguard
  · obtain ⟨_, _, _, _, rfl⟩ := putEdge_eq_ok h
    rfl

include hi

/-- An epsilon edge has the frontier closed over it. -/
theorem grownBy_putEpsilon [TestFunctions] (hguard : Guard.ofValue guard = .ok .epsilon)
    (h : a.putEdge i .epsilon j = .ok b) : a.GrownBy [⟨source, target, guard⟩] b.close := by
  have hstep : Step a b.close := .joined (lt_count_of_resolve hj) h
  obtain ⟨d, hd, hlinked⟩ := linked_putEdge ha (lt_count_of_resolve hi) (lt_count_of_resolve hj)
  rw [h] at hd
  cases hd
  obtain ⟨hsource, _⟩ := resolve_eq_ok.1 hi
  obtain ⟨htarget, _⟩ := resolve_eq_ok.1 hj
  have hsilent : ∀ k l, Silent [⟨source, target, guard⟩] k l ↔ k ∈ [i] ∧ l = j := by
    intro k l
    rw [List.mem_singleton]
    constructor
    · rintro ⟨r, hr, _, hk, hl⟩
      cases List.mem_singleton.1 hr
      exact ⟨hk.eq hsource, hl.eq htarget⟩
    · rintro ⟨rfl, rfl⟩
      exact ⟨_, List.mem_singleton_self _, eq_epsilon_of_ofValue hguard, hsource, htarget⟩
  refine ⟨ha.step hstep, Nat.le_of_eq hlinked.count.symm, fun k l => ?_, ?_⟩
  · rw [hsilent, ← hlinked.mem_epsilonTargets]
    exact Iff.rfl
  · obtain ⟨_, _, _, _, rfl⟩ := putEdge_eq_ok h
    rfl

end Granted

/-- A request that is granted becomes an edge. -/
theorem grownBy_newTransition [TestFunctions] (ha : a.WellFormed) (hca : a.Closed)
    {source target guard : Value} (h : a.newTransition source target guard = (b, .ok ())) :
    a.GrownBy [⟨source, target, guard⟩] b := by
  rcases newTransition_cases a source target guard with ⟨f, hf⟩ | ⟨i, j, g, d, hi, hj, hg, hd, heq⟩
  · rw [hf] at h
    cases h
  · rw [heq] at h
    cases g with
    | predicate p =>
      cases h
      exact grownBy_putPredicate ha hj hca hg hd
    | epsilon =>
      cases h
      exact grownBy_putEpsilon ha hi hj hg hd

theorem grownBy_of_stores (hb : b.WellFormed) (hca : a.Closed) (hstores : b.stores = a.stores)
    (hactive : b.active = a.active) : a.GrownBy [] b := by
  have hedges : ∀ i, b.edgesOf i = a.edgesOf i := fun i => by rw [edgesOf, hstores, edgesOf]
  have hcb : b.Closed := by
    intro i hi j hj
    rw [hactive] at hi ⊢
    exact hca i hi j (hedges i ▸ hj)
  have hcount : a.count = b.count := by rw [count, count, hstores]
  refine grownBy_of_edges hb hcb (Nat.le_of_eq hcount) (fun i j => ?_) (fun _ _ => not_silent_nil) hactive
  rw [epsilonTargets, hstores, epsilonTargets]

/-! ### Automata that stand at their start -/

def AtStart (a : Automaton) : Prop :=
  a.active = a.reset.active

theorem AtStart.reset_eq_self (h : a.AtStart) : a.reset = a := by
  rw [reset_eq, ← h]

theorem AtStart.closed (ha : a.WellFormed) (h : a.AtStart) : a.Closed := by
  rw [← h.reset_eq_self]
  exact ha.closed_reset

theorem AtStart.congr (h : a.AtStart) (hstores : b.stores = a.stores) (hactive : b.active = a.active) :
    b.AtStart := by
  rw [AtStart, hactive, active_reset_congr hstores]
  exact h

theorem active_reset (h0 : 0 < a.count) : a.reset.active = a.closure (.ofList [0]) := by
  rw [reset, if_neg (Nat.ne_of_gt h0)]

theorem GrownBy.atStart (ha : a.WellFormed) (h0 : 0 < a.count) (h : a.AtStart) (hg : a.GrownBy rs b) :
    b.AtStart := by
  have hsub : ∀ i, ∀ j ∈ a.epsilonTargets i, j ∈ b.epsilonTargets i := fun i j hj =>
    (hg.mem_epsilonTargets i j).2 (.inl hj)
  calc b.active = b.closure (a.closure (.ofList [0])) := by rw [hg.active, h, active_reset h0]
    _ = b.closure (.ofList [0]) := closure_closure ha.epsilonTargets_lt hg.wellFormed.epsilonTargets_lt hsub
    _ = b.reset.active := (active_reset (Nat.lt_of_lt_of_le h0 hg.count_le)).symm

theorem AtStart.newState (ha : a.WellFormed) (h : a.AtStart) : a.newState.1.AtStart := by
  rcases Nat.eq_zero_or_pos a.count with h0 | h0
  · -- The first state becomes active, and no edge leaves it yet.
    have hempty : a.active = .empty := by rw [h, reset, if_pos h0]
    have hactive : a.newState.1.active = .ofList [0] := by
      simp only [Automaton.newState, if_pos h0, hempty]
      rfl
    have hnone : ∀ i, a.newState.1.epsilonTargets i = [] := by
      intro i
      refine List.eq_nil_iff_forall_not_mem.2 fun j hj => ?_
      rw [ha.newState.mem_epsilonTargets, edgesOf_newState, ← ha.mem_epsilonTargets] at hj
      have := ha.epsilonTargets_lt i j hj
      omega
    have hclosed : ClosedUnder a.newState.1.epsilonTargets (.ofList [0]) := by
      intro i _ j hj
      rw [hnone] at hj
      cases hj
    have hpos : 0 < a.newState.1.count := by
      rw [count_newState]
      omega
    rw [AtStart, active_reset hpos, closure_eq_self ha.newState.epsilonTargets_lt hclosed, hactive]
  · exact (grownBy_newState ha (h.closed ha) h0).atStart ha h0 h

theorem AtStart.grow (n : Nat) (ha : a.WellFormed) (h : a.AtStart) : (grow n a).AtStart := by
  induction n generalizing a with
  | zero => exact h
  | succ n ih => exact ih ha.newState (h.newState ha)

theorem AtStart.newTransition [TestFunctions] (ha : a.WellFormed) (h : a.AtStart)
    (source target guard : Value) : (a.newTransition source target guard).1.AtStart := by
  rcases newTransition_cases a source target guard with ⟨f, hf⟩ | ⟨i, j, g, b, hi, _, _, _, heq⟩
  · rw [hf]
    exact h
  · have h0 : 0 < a.count := Nat.zero_lt_of_lt (lt_count_of_resolve hi)
    exact (grownBy_newTransition ha (h.closed ha) (Prod.ext rfl (by rw [heq]))).atStart ha h0 h

end Automaton

namespace Session

open Automaton

def Grows : Command → Prop
  | .newState | .newStates _ | .newTransition _ _ _ | .mark _ _ | .dropMarkers => True
  | _ => False

variable [TestFunctions]

def left (a : Automaton) (c : Command) : Automaton :=
  match onAutomaton a c with
  | some (b, _) => b
  | none => a

def granted (a : Automaton) : Command → List Request
  | .newTransition source target guard =>
    match a.newTransition source target guard with
    | (_, .ok _) => [⟨source, target, guard⟩]
    | (_, .error _) => []
  | _ => []

def grantedAll : List Command → Automaton → List Request
  | [], _ => []
  | c :: cs, a => granted a c ++ grantedAll cs (left a c)

variable {s : Session} {name : String} {a : Automaton} {c : Command} {cs : List Command}

theorem wellFormed_left (ha : a.WellFormed) (c : Command) : (left a c).WellFormed := by
  unfold left
  split
  next b out h => exact ha.step (step_onAutomaton ha h)
  · exact ha

theorem left_newTransition (a : Automaton) (source target guard : Value) :
    left a (.newTransition source target guard) = (a.newTransition source target guard).1 :=
  fst_answering _ _

theorem left_mark (a : Automaton) (state marker : Value) : left a (.mark state marker) = (a.mark state marker).1 :=
  fst_answering _ _

/-- One growing command on an automaton with states and a closed frontier. -/
theorem grownBy_left (ha : a.WellFormed) (hca : a.Closed) (h0 : 0 < a.count) (hc : Grows c) :
    a.GrownBy (granted a c) (left a c) := by
  have hb := wellFormed_left ha c
  cases c with
  | newState => exact grownBy_newState ha hca h0
  | newStates n => exact grownBy_grow n ha hca h0
  | newTransition source target guard =>
    rw [left_newTransition, granted]
    split
    next b _ h =>
      rw [h]
      exact grownBy_newTransition ha hca h
    next b f h =>
      rw [h, eq_of_newTransition_error h]
      exact grownBy_refl ha hca
  | mark state marker =>
    obtain ⟨ms, h⟩ := mark_eq a state marker
    rw [left_mark, h] at hb ⊢
    exact grownBy_of_stores hb hca rfl rfl
  | dropMarkers => exact grownBy_of_stores hb hca rfl rfl
  | _ => exact absurd hc id

theorem grownBy_foldl_left (ha : a.WellFormed) (hca : a.Closed) (h0 : 0 < a.count)
    (hcs : ∀ c ∈ cs, Grows c) : a.GrownBy (grantedAll cs a) (cs.foldl left a) := by
  induction cs generalizing a with
  | nil => exact grownBy_refl ha hca
  | cons c cs ih =>
    obtain ⟨hc, hcs⟩ := List.forall_mem_cons.1 hcs
    have hg := grownBy_left ha hca h0 hc
    exact hg.trans (ih hg.wellFormed hg.closed (Nat.lt_of_lt_of_le h0 hg.count_le) hcs)

theorem atStart_left (ha : a.WellFormed) (h : a.AtStart) (hc : Grows c) : (left a c).AtStart := by
  cases c with
  | newState => exact h.newState ha
  | newStates n => exact h.grow n ha
  | newTransition source target guard =>
    rw [left_newTransition]
    exact h.newTransition ha source target guard
  | mark state marker =>
    obtain ⟨ms, hm⟩ := mark_eq a state marker
    rw [left_mark, hm]
    exact h.congr rfl rfl
  | dropMarkers => exact h.congr rfl rfl
  | _ => exact absurd hc id

theorem atStart_foldl_left (ha : a.WellFormed) (h : a.AtStart) (hcs : ∀ c ∈ cs, Grows c) :
    (cs.foldl left a).AtStart := by
  induction cs generalizing a with
  | nil => exact h
  | cons c cs ih =>
    obtain ⟨hc, hcs⟩ := List.forall_mem_cons.1 hcs
    exact ih (wellFormed_left ha c) (atStart_left ha h hc) hcs

/-- Growing commands on one variable leave there what they leave of its automaton. -/
theorem automaton_run_growth (hs : s.automaton? name = some a) (hcs : ∀ c ∈ cs, Grows c) :
    (run (cs.map (Prod.mk name)) s).automaton? name = some (cs.foldl left a) := by
  induction cs generalizing s a with
  | nil => exact hs
  | cons c cs ih =>
    obtain ⟨hc, hcs⟩ := List.forall_mem_cons.1 hcs
    rw [List.map_cons, run_cons]
    refine ih ?_ hcs
    have hperform : s.perform name c = (onAutomaton a c).map (s.keep name) := by
      cases c with
      | newState | newStates _ | newTransition _ _ _ | mark _ _ | dropMarkers =>
        exact own_of_find (find_of_automaton hs) _
      | _ => exact absurd hc id
    rw [run, hperform, left]
    cases h : onAutomaton a c with
    | none =>
      exact hs
    | some attempt =>
      exact automaton_assign_self s name attempt.1

/-- However an automaton with states and a closed frontier grows, its frontier becomes the closure of that
one in the graph at the end, and is the same for every order in which the same transitions are granted. One
that has only grown since it was new stands at its start: a restart changes nothing, so feeding needs none. -/
theorem active_eq_closure_of_growth {before : List (String × Command)} {name : String} {a : Automaton}
    {cs : List Command} (ha : (run before .empty).automaton? name = some a) (hcs : ∀ c ∈ cs, Grows c) :
    ∃ b, (run (cs.map (Prod.mk name)) (run before .empty)).automaton? name = some b ∧
      (0 < a.count → a.Closed → b.active = b.closure a.active ∧
        (∀ q, q ∈ b.active ↔ ∃ i ∈ a.active, Path b.edgesOf b.factory.storeKind i [] q) ∧
        ∀ ds, (∀ c ∈ ds, Grows c) → (grantedAll ds a).Perm (grantedAll cs a) →
          ∃ d, (run (ds.map (Prod.mk name)) (run before .empty)).automaton? name = some d ∧
            d.active = b.active) ∧
      ∀ f label, a = .new f label →
        b.active = (if b.count = 0 then .empty else b.closure (.ofList [0])) ∧ b.reset = b ∧
          ∀ values, b.feed values = b.reset.feed values := by
  have hw : a.WellFormed := Reachable.wellFormed ⟨before, name, ha⟩
  refine ⟨cs.foldl left a, automaton_run_growth ha hcs, ?_, ?_⟩
  · intro h0 hca
    have hgrown := grownBy_foldl_left hw hca h0 hcs
    refine ⟨hgrown.active, fun q => ?_, fun ds hds hperm => ⟨ds.foldl left a, automaton_run_growth ha hds, ?_⟩⟩
    · simp only [hgrown.active, mem_closure hgrown.wellFormed.epsilonTargets_lt, hgrown.wellFormed.path_nil_iff]
    have hother := grownBy_foldl_left hw hca h0 hds
    rw [hgrown.active, hother.active]
    refine closure_eq_closure hgrown.wellFormed.epsilonTargets_lt hother.wellFormed.epsilonTargets_lt ?_
    intro i j
    rw [hgrown.mem_epsilonTargets, hother.mem_epsilonTargets, silent_perm hperm]
  · rintro f label rfl
    have hstart : (cs.foldl left (.new f label)).AtStart := atStart_foldl_left hw rfl hcs
    have hreset := hstart.reset_eq_self
    refine ⟨?_, hreset, fun values => by rw [hreset]⟩
    rw [hstart, Automaton.reset]
    split
    · rfl
    · rfl

omit [TestFunctions] in
/-- The epsilon edge that leaves state 1 is there before state 1 is reached, or after it; requests that are
refused change nothing. -/
theorem active_eq_closure_of_growth_chain : ∃ (before : List (String × Command)) (cs ds : List Command)
    (a b d : Automaton), (@run Matcher.catalogue before .empty).automaton? "a" = some a ∧ 0 < a.count ∧
      (@run Matcher.catalogue (cs.map (Prod.mk "a")) (@run Matcher.catalogue before .empty)).automaton? "a" =
        some b ∧
      (@run Matcher.catalogue (ds.map (Prod.mk "a")) (@run Matcher.catalogue before .empty)).automaton? "a" =
        some d ∧
      b.active = b.closure a.active ∧ d.active = b.active ∧ b.active.ids = [0, 1, 2] := by
  let _ := Matcher.catalogue
  let before : List (String × Command) := [("a", .new (.ofKind .symbol) .null), ("a", .newState)]
  let cs : List Command := [.newStates 2, .newTransition (.int 1) (.int 2) .epsilon,
    .newTransition (.int 2) (.int 3) .epsilon, .newTransition (.int 0) (.state 1) .epsilon]
  let ds : List Command := [.newStates 2, .newTransition (.int 0) (.state 1) .epsilon, .dropMarkers,
    .newTransition (.int 1) (.int 2) .epsilon]
  let a : Automaton := ⟨.null, .ofKind .symbol, [.empty .symbol], [[]], .ofList [0]⟩
  let first : Request := ⟨.int 1, .int 2, .epsilon⟩
  let second : Request := ⟨.int 0, .state 1, .epsilon⟩
  have ha : (run before .empty).automaton? "a" = some a := rfl
  have hcs : ∀ c ∈ cs, Grows c := by simp [cs, Grows]
  have hds : ∀ c ∈ ds, Grows c := by simp [ds, Grows]
  have hclosed : a.Closed := by
    intro i _ j hj
    rcases i with _ | i <;> cases hj
  have hfirst : grantedAll cs a = [first, second] := rfl
  have hsecond : grantedAll ds a = [second, first] := rfl
  have hperm : (grantedAll ds a).Perm (grantedAll cs a) := by
    rw [hfirst, hsecond]
    exact .swap _ _ _
  obtain ⟨b, hb, hgrowth, _⟩ := active_eq_closure_of_growth ha hcs
  obtain ⟨hactive, _, horder⟩ := hgrowth (by decide) hclosed
  obtain ⟨d, hd, hsame⟩ := horder ds hds hperm
  refine ⟨before, cs, ds, a, b, d, ha, by decide, hb, hd, hactive, hsame, ?_⟩
  cases hb
  rfl

end Session

end GuardedAutomata
