import GuardedAutomata.Proofs.Automaton.Parallel
import GuardedAutomata.Proofs.Automaton.RoundTrip
import GuardedAutomata.Proofs.Session.Refusal
import GuardedAutomata.Proofs.Store.Spelling
import Mathlib

/-!
# Automata in two spellings

Two automata that differ only in how the predicates of their edges are spelled, and in their markers. No simulation
tells one from the other, and whatever is done to both leaves two automata that differ in nothing else.
-/

set_option autoImplicit false

namespace GuardedAutomata

namespace Automaton

structure Spelled (R : Value → Value → Prop) (a b : Automaton) : Prop where
  left : a.WellFormed ∧ a.HashableMarkers
  right : b.WellFormed ∧ b.HashableMarkers
  name : a.name = b.name
  factory : a.factory = b.factory
  count : a.count = b.count
  edges : ∀ i, Edge.AllSpelled R (a.edgesOf i) (b.edgesOf i)
  active : a.active = b.active

variable {R : Value → Value → Prop} {a b c d : Automaton} {v w : Value} {i j : Nat} {g h : Guard}

theorem WellFormed.epsilonTargets_eq (ha : a.WellFormed) (i : Nat) :
    a.epsilonTargets i = (a.edgesOf i).filterMap Edge.epsilonTarget? := by
  unfold epsilonTargets edgesOf
  cases hs : a.stores[i]? with
  | none => rfl
  | some s => exact (ha.fits_of_getElem hs).sound.epsilon_eq

theorem Moved.refronted (h : Moved a b) : a.Refronted b := by
  cases h <;> rfl

namespace Spelled

theorem refl (hR : Spelling R) (ha : a.WellFormed ∧ a.HashableMarkers) : Spelled R a a :=
  ⟨ha, ha, rfl, rfl, rfl, fun _ => .refl hR _, rfl⟩

theorem symm (hR : Spelling R) (hab : Spelled R a b) : Spelled R b a :=
  ⟨hab.right, hab.left, hab.name.symm, hab.factory.symm, hab.count.symm, fun i => (hab.edges i).symm hR,
    hab.active.symm⟩

/-! ### Simulating -/

theorem epsilonTargets (hab : Spelled R a b) (i : Nat) : a.epsilonTargets i = b.epsilonTargets i := by
  rw [hab.left.1.epsilonTargets_eq, hab.right.1.epsilonTargets_eq, (hab.edges i).epsilonTargets_eq]

theorem closure_eq (hab : Spelled R a b) (s : StateSet) : a.closure s = b.closure s :=
  closure_congr_targets hab.count hab.epsilonTargets s

/-- Where one of them has a store the other one has a store of the same kind, with its edges in another spelling. -/
theorem exists_store (hab : Spelled R a b) {s : Store} (hs : a.stores[i]? = some s) :
    ∃ t, b.stores[i]? = some t ∧ s.kind = t.kind ∧ Edge.AllSpelled R s.edges t.edges := by
  have hi : i < b.stores.length := by
    have hcount : a.stores.length = b.stores.length := hab.count
    rw [← hcount]
    exact (List.getElem?_eq_some_iff.1 hs).1
  have ht : b.stores[i]? = some b.stores[i] := List.getElem?_eq_getElem hi
  have hedges := hab.edges i
  rw [edgesOf, edgesOf, hs, ht] at hedges
  refine ⟨_, ht, ?_, hedges⟩
  rw [(hab.left.1.fits_of_getElem hs).kind, (hab.right.1.fits_of_getElem ht).kind, hab.factory]

theorem parallel [TestFunctions] (hR : Spelling R) (hab : Spelled R a b) : a.Parallel b where
  count := hab.count
  epsilonTargets := hab.epsilonTargets
  targetsOf := by
    intro v i
    unfold targetsOf
    cases hs : a.stores[i]? with
    | some s =>
      obtain ⟨t, ht, hkind, hedges⟩ := hab.exists_store hs
      rw [ht]
      exact Store.query_spelled hR (hab.left.1.fits_of_getElem hs).sound (hab.right.1.fits_of_getElem ht).sound hkind
        hedges v
    | none =>
      have hnone : b.stores[i]? = none := by
        have hcount : a.stores.length = b.stores.length := hab.count
        rw [List.getElem?_eq_none_iff] at hs ⊢
        omega
      rw [hnone]
  active := hab.active

/-- Where only frontiers change, and change alike, nothing else comes to differ. -/
theorem moved (hab : Spelled R a b) (hc : Moved a c) (hd : Moved b d) (hactive : c.active = d.active) :
    Spelled R c d where
  left := kept_hashableMarkers.step hab.left (.moved hc)
  right := kept_hashableMarkers.step hab.right (.moved hd)
  name := by rw [hc.refronted, hd.refronted, hab.name]
  factory := by rw [hc.refronted, hd.refronted, hab.factory]
  count := by
    rw [hc.refronted, hd.refronted]
    exact hab.count
  edges := by
    rw [hc.refronted, hd.refronted]
    exact hab.edges
  active := hactive

theorem reset (hab : Spelled R a b) : Spelled R a.reset b.reset := by
  refine hab.moved (moved_reset a) (moved_reset b) ?_
  rw [Automaton.reset, Automaton.reset, hab.count, hab.closure_eq]
  split <;> rfl

/-! ### Growing and marking -/

theorem remarked (hab : Spelled R a b) {ms : List (List Value)}
    (hc : WellFormed { a with markers := ms } ∧ HashableMarkers { a with markers := ms }) :
    Spelled R { a with markers := ms } b :=
  ⟨hc, hab.right, hab.name, hab.factory, hab.count, hab.edges, hab.active⟩

theorem mark_left (hab : Spelled R a b) (state marker : Value) : Spelled R (a.mark state marker).1 b := by
  have hsound := kept_hashableMarkers.step hab.left (step_mark a state marker)
  obtain ⟨ms, hms⟩ := mark_eq a state marker
  rw [hms] at hsound ⊢
  exact hab.remarked hsound

theorem dropMarkers_left (hab : Spelled R a b) : Spelled R a.dropMarkers b :=
  hab.remarked (kept_hashableMarkers.step hab.left .unmarked)

theorem rename (hab : Spelled R a b) (name : Value) : Spelled R (a.rename name) (b.rename name) :=
  ⟨kept_hashableMarkers.step hab.left (.renamed name), kept_hashableMarkers.step hab.right (.renamed name), rfl,
    hab.factory, hab.count, hab.edges, hab.active⟩

theorem grow (hab : Spelled R a b) (n : Nat) : Spelled R (grow n a) (Automaton.grow n b) where
  left := kept_hashableMarkers.step hab.left (.grown n)
  right := kept_hashableMarkers.step hab.right (.grown n)
  name := by rw [grow_eq, grow_eq, hab.name]
  factory := by rw [grow_eq, grow_eq, hab.factory]
  count := by rw [count_grow, count_grow, hab.count]
  edges := fun i => by
    rw [edgesOf_grow, edgesOf_grow]
    exact hab.edges i
  active := by rw [grow_eq, grow_eq, hab.count, hab.active]

theorem close (hab : Spelled R a b) : Spelled R a.close b.close := by
  have ha : Moved a a.close := .close a.active hab.left.1.active_lt
  have hb : Moved b b.close := .close b.active hab.right.1.active_lt
  refine hab.moved ha hb ?_
  rw [Automaton.close, Automaton.close, hab.closure_eq, hab.active]

/-! ### Transitions -/

theorem edgesOf_set {a : Automaton} {s t : Store} (hs : a.stores[i]? = some s) (k : Nat) :
    edgesOf { a with stores := a.stores.set i t } k = if i = k then t.edges else a.edgesOf k := by
  by_cases hik : i = k
  · subst hik
    have hi : i < a.stores.length := (List.getElem?_eq_some_iff.1 hs).1
    simp [edgesOf, List.getElem?_set_self hi]
  · simp [edgesOf, List.getElem?_set_ne hik, hik]

theorem putEdge (hR : Spelling R) (hab : Spelled R a b) (hgh : g.Spelled R h) (hj : j < a.count)
    (hc : a.putEdge i g j = .ok c) : ∃ d, b.putEdge i h j = .ok d ∧ Spelled R c d := by
  have hleft := hab.left.1.putEdge hj hc
  obtain ⟨s, u, hs, hu, rfl⟩ := putEdge_eq_ok hc
  obtain ⟨t, ht, hkind, hedges⟩ := hab.exists_store hs
  obtain ⟨v, hv, huv⟩ := Store.put_spelled hR (hab.left.1.fits_of_getElem hs).sound hkind hedges hgh hu
  have hd : b.putEdge i h j = .ok { b with stores := b.stores.set i v } := by simp [Automaton.putEdge, ht, hv]
  have hright := hab.right.1.putEdge (hab.count ▸ hj) hd
  refine ⟨_, hd, ⟨hleft, hab.left.2⟩, ⟨hright, hab.right.2⟩, hab.name, hab.factory, ?_, fun k => ?_, hab.active⟩
  · rw [count_putEdge hc, count_putEdge hd, hab.count]
  · rw [edgesOf_set hs, edgesOf_set ht]
    split
    · exact huv
    · exact hab.edges k

/-- What is granted to one automaton is granted to the other, in another spelling. -/
theorem newTransition_granted (hR : Spelling R) (hab : Spelled R a b) (hv : Guard.ofValue v = .ok g)
    (hw : Guard.ofValue w = .ok h) (hgh : g.Spelled R h) {source target : Value}
    (hc : a.newTransition source target v = (c, .ok ())) :
    ∃ d, b.newTransition source target w = (d, .ok ()) ∧ Spelled R c d := by
  rcases newTransition_cases a source target v with ⟨f, hf⟩ | ⟨i, j, _, e, hi, hj, hg, he, heq⟩
  · rw [hf] at hc
    cases hc
  · rw [hv] at hg
    cases hg
    obtain ⟨d, hd, hed⟩ := hab.putEdge hR hgh (lt_count_of_resolve hj) he
    rw [heq] at hc
    cases hc
    rw [resolve_congr hab.count] at hi hj
    simp only [newTransition, hi, hj, hw, hd]
    cases hgh with
    | epsilon => exact ⟨_, rfl, hed.close⟩
    | predicate => exact ⟨_, rfl, hed⟩

theorem newTransition_ok (hR : Spelling R) (hab : Spelled R a b) (hvw : R v w) {source target : Value}
    (hc : a.newTransition source target v = (c, .ok ())) :
    ∃ d, b.newTransition source target w = (d, .ok ()) ∧ Spelled R c d := by
  rcases newTransition_cases a source target v with ⟨f, hf⟩ | ⟨_, _, g, _, _, _, hg, -⟩
  · rw [hf] at hc
    cases hc
  · obtain ⟨h, hh, hgh⟩ := hR.guard hvw hg
    exact hab.newTransition_granted hR hg hh hgh hc

theorem newTransition (hR : Spelling R) (hab : Spelled R a b) (hvw : R v w) (source target : Value) :
    Spelled R (a.newTransition source target v).1 (b.newTransition source target w).1 := by
  rcases ha : a.newTransition source target v with ⟨c, f | _⟩
  · rcases hb : b.newTransition source target w with ⟨d, f | _⟩
    · obtain rfl := eq_of_newTransition_error ha
      obtain rfl := eq_of_newTransition_error hb
      exact hab
    · obtain ⟨_, hgranted, -⟩ := (hab.symm hR).newTransition_ok hR (hR.symm hvw) hb
      rw [ha] at hgranted
      cases hgranted
  · obtain ⟨d, hd, hcd⟩ := hab.newTransition_ok hR hvw ha
    rw [hd]
    exact hcd

/-! ### Adding -/

theorem spliced (hab : Spelled R a b) (hcd : Spelled R c d)
    (hleft : (spliced a c).WellFormed ∧ (Automaton.spliced a c).HashableMarkers)
    (hright : (Automaton.spliced b d).WellFormed ∧ (Automaton.spliced b d).HashableMarkers) :
    Spelled R (Automaton.spliced a c) (Automaton.spliced b d) where
  left := hleft
  right := hright
  name := hab.name
  factory := hab.factory
  count := by rw [count_spliced, count_spliced, hab.count, hcd.count]
  edges := by
    intro i
    by_cases hi : i < a.count
    · rw [edgesOf_spliced_left hi, edgesOf_spliced_left (hab.count ▸ hi)]
      exact hab.edges i
    · obtain ⟨j, rfl⟩ := Nat.exists_eq_add_of_le (Nat.le_of_not_lt hi)
      rw [edgesOf_spliced_right, hab.count, edgesOf_spliced_right]
      refine List.forall₂_map_left_iff.2 (List.forall₂_map_right_iff.2 ?_)
      exact (hcd.edges j).imp fun _ _ he => he.relabel _
  active := by simp only [Automaton.spliced, hab.count, hab.active, hcd.active]

theorem add_ok (hab : Spelled R a b) (hcd : Spelled R c d) {e : Automaton} {entry : Option Nat}
    (he : a.add c = (e, .ok entry)) : ∃ f, b.add d = (f, .ok entry) ∧ Spelled R e f := by
  by_cases hf : a.factory = c.factory
  · have hg : b.factory = d.factory := by rw [← hab.factory, ← hcd.factory, hf]
    rcases Nat.eq_zero_or_pos c.count with h0 | h0
    · rw [add_empty hf h0] at he
      cases he
      exact ⟨b, add_empty hg (hcd.count ▸ h0), hab⟩
    · have hleft := kept_hashableMarkers.add hab.left hcd.left
      have hright := kept_hashableMarkers.add hab.right hcd.right
      have hadd := add_eq hab.right.1 hcd.right.1 hg (hcd.count ▸ h0)
      rw [add_eq hab.left.1 hcd.left.1 hf h0] at he hleft
      rw [hadd] at hright
      cases he
      rw [hab.count]
      exact ⟨_, hadd, hab.spliced hcd hleft hright⟩
  · rw [Automaton.add, if_pos hf] at he
    cases he

theorem add (hR : Spelling R) (hab : Spelled R a b) (hcd : Spelled R c d) : Spelled R (a.add c).1 (b.add d).1 := by
  rcases ha : a.add c with ⟨e, f | entry⟩
  · rcases hb : b.add d with ⟨f, g | entry⟩
    · obtain rfl := eq_of_add_error hab.left.1 hcd.left.1 ha
      obtain rfl := eq_of_add_error hab.right.1 hcd.right.1 hb
      exact hab
    · obtain ⟨_, hgranted, -⟩ := (hab.symm hR).add_ok (hcd.symm hR) hb
      rw [ha] at hgranted
      cases hgranted
  · obtain ⟨f, hf, hef⟩ := hab.add_ok hcd ha
    rw [hf]
    exact hef

/-! ### Writing and reading back -/

theorem rereads (hR : Spelling R) (hab : Spelled R a b) {k : StoreKind} {name : String} (ha : a.Rereads k name) :
    b.Rereads k name where
  kind := hab.factory ▸ ha.kind
  builtIn := ha.builtIn
  name := hab.name ▸ ha.name
  writable := by
    refine hab.right.1.writable (hab.factory ▸ ha.kind) ha.builtIn ?_
    rintro rfl i e he
    obtain ⟨d, hd, target, hg⟩ := (hab.edges i).exists_of_mem he
    cases hg with
    | epsilon => rfl
    | predicate hpq =>
      -- No test function can be written.
      have hdump := ha.writable i (lt_count_of_mem_edgesOf hd) _ hd _ rfl
      rw [ha.kind] at hdump
      exact absurd hdump (StoreKind.dump_callable_ne_ok _ _)
  guarded := by
    intro i e he hnull
    obtain ⟨d, hd, target, hg⟩ := (hab.edges i).exists_of_mem he
    cases hnull
    cases hg with
    | @predicate p _ hp =>
      have hkey : Value.key .null = p.key := hR.key (hR.symm hp) rfl
      have hp : p = .null := by
        cases p <;> cases hkey
        rfl
      subst hp
      exact ha.guarded i _ hd rfl

theorem roundTrip (hR : Spelling R) (hab : Spelled R a b) (hv : a.toDict = .ok v) (hc : ofDict v = .ok c) :
    ∃ w d, b.toDict = .ok w ∧ ofDict w = .ok d ∧ Spelled R c d := by
  obtain ⟨k, name, ha, rfl⟩ := (ofDict_toDict_iff hab.left.1 hab.left.2).1 ⟨v, hv, hc⟩
  obtain ⟨w, hw, hd⟩ := (ofDict_toDict_iff hab.right.1 hab.right.2).2 ⟨k, name, hab.rereads hR ha, rfl⟩
  exact ⟨w, _, hw, hd, kept_hashableMarkers.ofDict hc, kept_hashableMarkers.ofDict hd, rfl, hab.factory, hab.count,
    hab.edges, hab.reset.active⟩

end Spelled

end Automaton

end GuardedAutomata
