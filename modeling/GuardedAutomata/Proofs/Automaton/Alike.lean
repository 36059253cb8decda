import GuardedAutomata.Proofs.Automaton.Parallel
import GuardedAutomata.Proofs.Automaton.RoundTrip
import Mathlib

/-!
# Automata that differ in their markers

Markers are read where acceptance is asked for, and nowhere else. Two automata with the same stores and the same
frontier stay so whatever they are fed, and while they are grown alike.
-/

set_option autoImplicit false

namespace GuardedAutomata

namespace Automaton

structure Alike (a b : Automaton) : Prop where
  kind : a.factory.storeKind = b.factory.storeKind
  stores : a.stores = b.stores
  active : a.active = b.active

variable {a b : Automaton}

theorem WellFormed.alike (ha : a.WellFormed) (hb : b.WellFormed) (hk : a.factory.storeKind = b.factory.storeKind)
    (hcount : a.count = b.count) (hedges : ∀ i, a.edgesOf i = b.edgesOf i) (hactive : a.active = b.active) :
    a.Alike b := by
  refine ⟨hk, List.ext_getElem hcount fun i hi hj => ?_, hactive⟩
  have hs := ha.fits_of_getElem (List.getElem?_eq_getElem hi)
  have ht := hb.fits_of_getElem (List.getElem?_eq_getElem hj)
  have he := hedges i
  rw [edgesOf, edgesOf, List.getElem?_eq_getElem hi, List.getElem?_eq_getElem hj] at he
  rw [hs.sound.recorded, ht.sound.recorded, hs.kind, ht.kind, hk, show a.stores[i].edges = b.stores[i].edges from he]

namespace Alike

theorem refl (a : Automaton) : a.Alike a :=
  ⟨rfl, rfl, rfl⟩

theorem symm (h : a.Alike b) : b.Alike a :=
  ⟨h.kind.symm, h.stores.symm, h.active.symm⟩

theorem trans {c : Automaton} (h : a.Alike b) (g : b.Alike c) : a.Alike c :=
  ⟨h.kind.trans g.kind, h.stores.trans g.stores, h.active.trans g.active⟩

theorem count_eq (h : a.Alike b) : a.count = b.count :=
  congrArg List.length h.stores

theorem edgesOf_eq (h : a.Alike b) (i : Nat) : a.edgesOf i = b.edgesOf i := by
  rw [edgesOf, edgesOf, h.stores]

theorem withActive (h : a.Alike b) {s t : StateSet} (hst : s = t) :
    Alike { a with active := s } { b with active := t } :=
  ⟨h.kind, h.stores, hst⟩

theorem closure_eq (h : a.Alike b) (s : StateSet) : a.closure s = b.closure s :=
  closure_congr h.stores s

theorem withMarkers (h : a.Alike b) (ms : List (List Value)) : Alike { a with markers := ms } b :=
  ⟨h.kind, h.stores, h.active⟩

/-! ### Growing -/

theorem newState (h : a.Alike b) : a.newState.1.Alike b.newState.1 where
  kind := h.kind
  stores := by simp only [Automaton.newState, h.stores, Factory.newStore, h.kind]
  active := by simp only [Automaton.newState, h.count_eq, h.active]

theorem grow (h : a.Alike b) (n : Nat) : (grow n a).Alike (Automaton.grow n b) := by
  induction n generalizing a b with
  | zero => exact h
  | succ n ih => exact ih h.newState

theorem close (h : a.Alike b) : a.close.Alike b.close :=
  h.withActive (by rw [h.closure_eq, h.active])

theorem putEdge (h : a.Alike b) (i : Nat) (g : Guard) (j : Nat) :
    (∃ f, a.putEdge i g j = .error f ∧ b.putEdge i g j = .error f) ∨
      ∃ c d, a.putEdge i g j = .ok c ∧ b.putEdge i g j = .ok d ∧ c.Alike d := by
  simp only [Automaton.putEdge, ← h.stores, h.count_eq]
  cases a.stores[i]? with
  | none => exact .inl ⟨_, rfl, rfl⟩
  | some s =>
    cases hput : s.put g j with
    | error f => exact .inl ⟨f, by simp only [hput], by simp only [hput]⟩
    | ok t =>
      refine .inr ⟨{ a with stores := a.stores.set i t }, { b with stores := a.stores.set i t }, ?_, ?_, h.kind, rfl,
        h.active⟩
      · simp only [hput]
      · simp only [hput]

theorem newTransition (h : a.Alike b) (source target guard : Value) :
    Agree Alike id (a.newTransition source target guard) (b.newTransition source target guard) := by
  simp only [Automaton.newTransition, resolve_congr h.count_eq]
  cases b.resolve source with
  | error f => exact ⟨h, rfl⟩
  | ok i =>
    cases b.resolve target with
    | error f => exact ⟨h, rfl⟩
    | ok j =>
      cases Guard.ofValue guard with
      | error f => exact ⟨h, rfl⟩
      | ok g =>
        rcases h.putEdge i g j with ⟨f, ha, hb⟩ | ⟨c, d, ha, hb, hcd⟩
        · simp only [ha, hb]
          exact ⟨h, rfl⟩
        · simp only [ha, hb]
          cases g with
          | epsilon => exact ⟨hcd.close, rfl⟩
          | predicate p => exact ⟨hcd, rfl⟩

/-! ### Simulating -/

theorem refronted {c d : Automaton} (h : a.Alike b) (hc : a.Refronted c) (hd : b.Refronted d)
    (hactive : c.active = d.active) : c.Alike d where
  kind := by rw [hc, hd, h.kind]
  stores := by rw [hc, hd, h.stores]
  active := hactive

variable [TestFunctions]

theorem parallel (h : a.Alike b) : a.Parallel b where
  count := h.count_eq
  epsilonTargets := fun i => by rw [epsilonTargets, h.stores, epsilonTargets]
  targetsOf := fun v i => by rw [targetsOf, h.stores, targetsOf]
  active := h.active

theorem agree {α β : Type} {see : α → β} {x y : Attempt α} (h : a.Alike b) (hx : a.Refronted x.1) (hy : b.Refronted y.1)
    (hxy : Agree Parallel see x y) : Agree Alike see x y :=
  ⟨h.refronted hx hy hxy.1.active, hxy.2⟩

theorem reset (h : a.Alike b) : a.reset.Alike b.reset :=
  h.refronted (.reset a) (.reset b) h.parallel.reset.active

theorem setActive (h : a.Alike b) (states : Value) :
    Agree Alike id (a.setActive states) (b.setActive states) :=
  h.agree (.setActive a states) (.setActive b states) (h.parallel.setActive states)

theorem step (h : a.Alike b) (v : Value) : Agree Alike id (a.step v) (b.step v) :=
  h.agree (.step a v) (.step b v) (h.parallel.step v)

theorem feed (h : a.Alike b) (values : Value) : Agree Alike Feed.progress (a.feed values) (b.feed values) :=
  h.agree (.feed a values) (.feed b values) (h.parallel.feed values)

theorem accepts (h : a.Alike b) (values : Value) : Agree Alike (fun _ => ()) (a.accepts values) (b.accepts values) :=
  h.agree (.accepts a values) (.accepts b values) (h.parallel.accepts values)

end Alike

end Automaton

end GuardedAutomata
