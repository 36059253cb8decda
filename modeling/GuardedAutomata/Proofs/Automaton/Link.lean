import GuardedAutomata.Proofs.Automaton.Access
import GuardedAutomata.Proofs.Automaton.Reading
import GuardedAutomata.Proofs.Automaton.Union

/-!
# Links

A link is an epsilon edge that is added to an automaton. It changes what its source leads to in silence and
nothing else: look-ups of input values, markers and the other epsilon edges stay. When links lead from the
first of two automata side by side to the start of the second, a way stays in the first block, or leaves it
once, over one link, and then stays in the second.
-/

set_option autoImplicit false

namespace GuardedAutomata

/-- An epsilon edge can always be put, and is found by asking for the epsilon edges only. -/
theorem Store.put_epsilon [TestFunctions] {s : Store} (hs : s.Sound) (t : Nat) :
    ∃ u, s.put .epsilon t = .ok u ∧ (∀ j, j ∈ u.epsilon ↔ j ∈ s.epsilon ∨ j = t) ∧
      ∀ v, v ≠ .epsilon → u.query v = s.query v := by
  rw [put_of_settled (settled_epsilon s.kind)]
  by_cases hany : s.edges.any (·.equal ⟨.epsilon, t⟩) = true
  · refine ⟨s, by rw [if_pos hany], ?_, fun _ _ => rfl⟩
    obtain ⟨⟨g, u⟩, he, heq⟩ := List.any_eq_true.1 hany
    have ht : t ∈ s.epsilon := by
      cases g with
      | epsilon =>
        have hut : u = t := by simpa [Edge.equal, Guard.equal] using heq
        exact hs.mem_epsilon.2 (hut ▸ he)
      | predicate p => simp [Edge.equal, Guard.equal] at heq
    intro j
    constructor
    · exact .inl
    · rintro (hj | rfl)
      · exact hj
      · exact ht
  · refine ⟨s.record ⟨.epsilon, t⟩, ?_, ?_, ?_⟩
    · rw [if_neg hany]
    · simp [record]
    · intro v hv
      rw [query_of_ne_epsilon hv, query_of_ne_epsilon hv]
      rfl

namespace Automaton

variable [TestFunctions]

structure Linked (a : Automaton) (ends : List Nat) (entry : Nat) (b : Automaton) : Prop where
  wellFormed : b.WellFormed
  factory : b.factory = a.factory
  count : b.count = a.count
  markersAt : ∀ i, b.markersAt i = a.markersAt i
  mem_epsilonTargets : ∀ i j, j ∈ b.epsilonTargets i ↔ j ∈ a.epsilonTargets i ∨ i ∈ ends ∧ j = entry
  targetsOf : ∀ v, v ≠ .epsilon → ∀ i, b.targetsOf v i = a.targetsOf v i

variable {a b c : Automaton} {ends others : List Nat} {entry : Nat}

theorem linked_nil (ha : a.WellFormed) (entry : Nat) : a.Linked [] entry a :=
  ⟨ha, rfl, rfl, fun _ => rfl, by simp, fun _ _ _ => rfl⟩

theorem Linked.append (h : a.Linked ends entry b) (g : b.Linked others entry c) :
    a.Linked (ends ++ others) entry c where
  wellFormed := g.wellFormed
  factory := g.factory.trans h.factory
  count := g.count.trans h.count
  markersAt := fun i => (g.markersAt i).trans (h.markersAt i)
  mem_epsilonTargets := by
    intro i j
    rw [g.mem_epsilonTargets, h.mem_epsilonTargets, List.mem_append]
    grind
  targetsOf := fun v hv i => (g.targetsOf v hv i).trans (h.targetsOf v hv i)

theorem linked_putEdge (ha : a.WellFormed) {i j : Nat} (hi : i < a.count) (hj : j < a.count) :
    ∃ b, a.putEdge i .epsilon j = .ok b ∧ a.Linked [i] j b := by
  obtain ⟨s, hs, _⟩ := WellFormed.exists_store hi
  obtain ⟨u, hput, hepsilon, hquery⟩ := Store.put_epsilon (ha.fits_of_getElem hs).sound j
  have hp : a.putEdge i .epsilon j = .ok { a with stores := a.stores.set i u } := by
    simp [putEdge, hs, hput]
  have hself : (a.stores.set i u)[i]? = some u := List.getElem?_set_self hi
  refine ⟨_, hp, ha.putEdge hj hp, rfl, count_putEdge hp, fun _ => rfl, ?_, ?_⟩
  · intro k l
    by_cases hik : i = k
    · subst hik
      simp [epsilonTargets, hs, hself, hepsilon]
    · simp [epsilonTargets, List.getElem?_set_ne hik, Ne.symm hik]
  · intro v hv k
    by_cases hik : i = k
    · subst hik
      simp [Automaton.targetsOf, hs, hself, hquery v hv]
    · simp [Automaton.targetsOf, List.getElem?_set_ne hik]

theorem linked_newTransition (ha : a.WellFormed) {source target : Value} {i j : Nat}
    (hi : a.resolve source = .ok i) (hj : a.resolve target = .ok j) :
    ∃ b, a.newTransition source target .epsilon = (b, .ok ()) ∧ a.Linked [i] j b := by
  obtain ⟨b, hp, h⟩ := linked_putEdge ha (lt_count_of_resolve hi) (lt_count_of_resolve hj)
  refine ⟨b.close, by simp [newTransition, hi, hj, Guard.ofValue, hp], h.wellFormed.close, h.factory, h.count,
    h.markersAt, h.mem_epsilonTargets, h.targetsOf⟩

def linkAll (entry : Nat) : List Nat → Automaton → Attempt Unit
  | [], a => (a, .ok ())
  | i :: rest, a =>
    match a.newTransition (.state i) (.state entry) .epsilon with
    | (b, .error f) => (b, .error f)
    | (b, .ok _) => linkAll entry rest b

theorem linked_linkAll (ha : a.WellFormed) (hentry : entry < a.count) (hends : ∀ i ∈ ends, i < a.count) :
    ∃ b, linkAll entry ends a = (b, .ok ()) ∧ a.Linked ends entry b := by
  induction ends generalizing a with
  | nil => exact ⟨a, rfl, linked_nil ha entry⟩
  | cons i ends ih =>
    obtain ⟨hi, hrest⟩ := List.forall_mem_cons.1 hends
    obtain ⟨b, hb, hab⟩ := linked_newTransition ha (resolve_state.2 ⟨hi, rfl⟩) (resolve_state.2 ⟨hentry, rfl⟩)
    rw [← hab.count] at hentry hrest
    obtain ⟨c, hc, hbc⟩ := ih hab.wellFormed hentry hrest
    exact ⟨c, by simp [linkAll, hb, hc], hab.append hbc⟩

/-! ### Ways over links -/

theorem Linked.takes (h : a.Linked ends entry b) {v : Value} {i j : Nat} : b.Takes v i j ↔ a.Takes v i j := by
  refine and_congr_right fun hv => ?_
  rw [h.targetsOf v hv]

theorem Linked.reads_of (h : a.Linked ends entry b) {i q : Nat} {w : List Value} (hw : a.Reads i w q) :
    b.Reads i w q := by
  induction hw with
  | nil => exact .nil _
  | epsilon hj _ ih => exact .epsilon ((h.mem_epsilonTargets _ _).2 (.inl hj)) ih
  | read hj _ ih => exact .read (h.takes.2 hj) ih

theorem Linked.reads_over (h : a.Linked ends entry b) {i e q : Nat} {u v : List Value} (hu : a.Reads i u e)
    (he : e ∈ ends) (hv : b.Reads entry v q) : b.Reads i (u ++ v) q :=
  (h.reads_of hu).append (.epsilon ((h.mem_epsilonTargets _ _).2 (.inr ⟨he, rfl⟩)) hv)

/-! ### Two automata, one linked to the other -/

section Joined

variable (hc : (spliced a b).Linked ends a.count c) (hends : ∀ i ∈ ends, i < a.count)

include hc

theorem Linked.mem_epsilonTargets_left {i j : Nat} (hi : i < a.count) :
    j ∈ c.epsilonTargets i ↔ j ∈ a.epsilonTargets i ∨ i ∈ ends ∧ j = a.count := by
  rw [hc.mem_epsilonTargets, epsilonTargets_spliced_left hi]

theorem Linked.takes_left {v : Value} {i j : Nat} (hi : i < a.count) : c.Takes v i j ↔ a.Takes v i j := by
  refine and_congr_right fun hv => ?_
  rw [hc.targetsOf v hv, targetsOf_spliced_left hi]

include hends in
theorem Linked.mem_epsilonTargets_right (hb : b.WellFormed) {i j : Nat} :
    j ∈ c.epsilonTargets (a.count + i) ↔ ∃ k ∈ b.epsilonTargets i, j = a.count + k := by
  have hout : a.count + i ∉ ends := fun h => by
    have := hends _ h
    omega
  rw [hc.mem_epsilonTargets, epsilonTargets_spliced_right hb, List.mem_map]
  constructor
  · rintro (⟨k, hk, rfl⟩ | ⟨h, _⟩)
    · exact ⟨k, hk, Nat.add_comm _ _⟩
    · exact absurd h hout
  · rintro ⟨k, hk, rfl⟩
    exact .inl ⟨k, hk, Nat.add_comm _ _⟩

theorem Linked.takes_right (hb : b.WellFormed) {v : Value} {i j : Nat} :
    c.Takes v (a.count + i) j ↔ ∃ k, b.Takes v i k ∧ j = a.count + k := by
  unfold Takes
  by_cases hv : v = .epsilon
  · simp [hv]
  · rw [hc.targetsOf v hv, targetsOf_spliced_right hb]
    cases b.targetsOf v i with
    | error cause => simp [Except.map]
    | ok ts => simp [Except.map, hv, eq_comm, Nat.add_comm]

include hends in
/-- From the second block no way leads out of it. -/
theorem Linked.reads_right (hb : b.WellFormed) {i q : Nat} {w : List Value} :
    c.Reads (a.count + i) w q ↔ ∃ k, b.Reads i w k ∧ q = a.count + k := by
  constructor
  · intro h
    generalize hj : a.count + i = j at h
    induction h generalizing i with
    | nil => exact ⟨i, .nil i, hj.symm⟩
    | epsilon he _ ih =>
      subst hj
      obtain ⟨k, hk, rfl⟩ := (hc.mem_epsilonTargets_right hends hb).1 he
      obtain ⟨l, hl, rfl⟩ := ih rfl
      exact ⟨l, .epsilon hk hl, rfl⟩
    | read ht _ ih =>
      subst hj
      obtain ⟨k, hk, rfl⟩ := (hc.takes_right hb).1 ht
      obtain ⟨l, hl, rfl⟩ := ih rfl
      exact ⟨l, .read hk hl, rfl⟩
  · rintro ⟨k, h, rfl⟩
    induction h with
    | nil => exact .nil _
    | epsilon he _ ih => exact .epsilon ((hc.mem_epsilonTargets_right hends hb).2 ⟨_, he, rfl⟩) ih
    | read ht _ ih => exact .read ((hc.takes_right hb).2 ⟨_, ht, rfl⟩) ih

/-- Ways of the first block are kept. -/
theorem Linked.reads_of_left (ha : a.WellFormed) {i q : Nat} {w : List Value} (hi : i < a.count)
    (h : a.Reads i w q) : q < a.count ∧ c.Reads i w q := by
  induction h with
  | nil => exact ⟨hi, .nil _⟩
  | epsilon he _ ih =>
    obtain ⟨hq, hr⟩ := ih (ha.epsilonTargets_lt _ _ he)
    exact ⟨hq, .epsilon ((hc.mem_epsilonTargets_left hi).2 (.inl he)) hr⟩
  | read ht _ ih =>
    obtain ⟨_, ts, hts, hj⟩ := id ht
    obtain ⟨hq, hr⟩ := ih (ha.targetsOf_lt hts _ hj)
    exact ⟨hq, .read ((hc.takes_left hi).2 ht) hr⟩

include hends in
/-- A way from the first block stays there or leaves it over one link. -/
theorem Linked.reads_left (ha : a.WellFormed) (hb : b.WellFormed) {i q : Nat} {w : List Value}
    (hi : i < a.count) : c.Reads i w q ↔ a.Reads i w q ∨
      ∃ u v e k, w = u ++ v ∧ e ∈ ends ∧ a.Reads i u e ∧ b.Reads 0 v k ∧ q = a.count + k := by
  constructor
  · intro h
    induction h with
    | nil => exact .inl (.nil _)
    | epsilon he hr ih =>
      rcases (hc.mem_epsilonTargets_left hi).1 he with he | ⟨hlink, rfl⟩
      · rcases ih (ha.epsilonTargets_lt _ _ he) with hr | ⟨u, v, e, k, rfl, hlink, hu, hv, rfl⟩
        · exact .inl (.epsilon he hr)
        · exact .inr ⟨u, v, e, k, rfl, hlink, .epsilon he hu, hv, rfl⟩
      · obtain ⟨k, hk, rfl⟩ := (hc.reads_right hends hb (i := 0)).1 hr
        exact .inr ⟨[], _, _, k, rfl, hlink, .nil _, hk, rfl⟩
    | read ht _ ih =>
      have ht := (hc.takes_left hi).1 ht
      obtain ⟨_, ts, hts, hj⟩ := id ht
      rcases ih (ha.targetsOf_lt hts _ hj) with hr | ⟨u, v, e, k, rfl, hlink, hu, hv, rfl⟩
      · exact .inl (.read ht hr)
      · exact .inr ⟨_ :: u, v, e, k, rfl, hlink, .read ht hu, hv, rfl⟩
  · rintro (h | ⟨u, v, e, k, rfl, hlink, hu, hv, rfl⟩)
    · exact (hc.reads_of_left ha hi h).2
    · obtain ⟨he, hu⟩ := hc.reads_of_left ha hi hu
      have hv := (hc.reads_right hends hb (i := 0)).2 ⟨k, hv, rfl⟩
      exact hu.append (.epsilon ((hc.mem_epsilonTargets_left he).2 (.inr ⟨hlink, rfl⟩)) hv)

end Joined

end Automaton

end GuardedAutomata
