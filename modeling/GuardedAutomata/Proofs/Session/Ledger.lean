import GuardedAutomata.Proofs.Automaton.MarkerText
import GuardedAutomata.Proofs.Session.Indifference
import GuardedAutomata.Proofs.Value.Order
import Mathlib

/-!
# The ledger of markers

A ledger keeps all the markers that a state has been given, in their order and with repetitions. The state itself has
the set of them, after every run.
-/

set_option autoImplicit false

namespace GuardedAutomata

open Value (Gathered)

namespace Session

open Automaton

abbrev Ledger : Type :=
  String → Nat → List Value

def stateOf? (s : Session) (x : String) (state : Value) : Option Nat :=
  (s.automaton? x).bind fun a => (a.resolve state).toOption

def reread? (s : Session) (x : String) : Option Automaton :=
  (s.automaton? x).bind fun a => a.toDict.toOption.bind fun v => (Automaton.ofDict v).toOption

/-- The ledger after a command on a variable. New automata have no markers and those that are read have the markers they
are read with; marking gives one more, and dropping takes all away. An automaton that is added brings its markers along,
and so does one that is written and read back. -/
def enter (s : Session) (x : String) (c : Command) (l : Ledger) : Ledger :=
  match c with
  | .new choice _ =>
    match s.makeFactory choice with
    | .ok _ => Function.update l x fun _ => []
    | .error _ => l
  | .ofDict data =>
    match Automaton.ofDict data with
    | .ok a => Function.update l x a.markersAt
    | .error _ => l
  | .mark state marker =>
    match s.stateOf? x state with
    | some i =>
      if marker.unhashable? = none then Function.update l x (Function.update (l x) i (l x i ++ [marker])) else l
    | none => l
  | .dropMarkers => Function.update l x fun _ => []
  | .add y =>
    match s.automaton? x, s.automaton? y with
    | some a, some b =>
      if x ≠ y ∧ a.factory = b.factory then
        Function.update l x fun i => if i < a.count then l x i else l y (i - a.count)
      else l
    | _, _ => l
  | .roundTrip y =>
    match s.reread? x with
    | some _ => Function.update l y (l x)
    | none => l
  | _ => l

variable {s t : Session} {x y : String} {a b : Automaton} {c : Command} {l : Ledger} {out : Except Failure Answer}
  {cs : List (String × Command)} {i : Nat}

/-! ### Sets of what was given -/

def Recorded (s : Session) (l : Ledger) : Prop :=
  ∀ x a, s.automaton? x = some a → ∀ i, Gathered (a.markersAt i) (l x i)

theorem Recorded.assign (hs : Recorded s l) {g : Nat → List Value} (ha : ∀ i, Gathered (a.markersAt i) (g i)) :
    Recorded (s.assign x (.automaton a)) (Function.update l x g) := by
  intro y b hb i
  by_cases hy : y = x
  · subst hy
    rw [automaton_assign_self] at hb
    cases hb
    rw [Function.update_self]
    exact ha i
  · rw [automaton_assign_of_ne s hy] at hb
    rw [Function.update_of_ne hy]
    exact hs y b hb i

theorem Recorded.assign_store (hs : Recorded s l) (u : Store) : Recorded (s.assign x (.store u)) l := by
  intro y b hb i
  by_cases hy : y = x
  · subst hy
    rw [automaton?, find_assign, if_pos rfl] at hb
    cases hb
  · rw [automaton_assign_of_ne s hy] at hb
    exact hs y b hb i

theorem Recorded.keep (hs : Recorded s l) (ha : s.automaton? x = some a) (hb : ∀ i, b.markersAt i = a.markersAt i) :
    Recorded (s.assign x (.automaton b)) l := by
  have hassign := hs.assign (x := x) (a := b) (g := l x) fun i => by
    rw [hb]
    exact hs x a ha i
  rwa [Function.update_eq_self] at hassign

theorem Recorded.made {choice : FactoryChoice} {f : Factory} (hs : Recorded s l)
    (hm : s.makeFactory choice = .ok (t, f)) : Recorded t l := fun y b hb => by
  rw [automaton_makeFactory hm] at hb
  exact hs y b hb

theorem Recorded.new (hs : Recorded s l) {choice : FactoryChoice} {label : Value}
    (h : s.making x choice (fun factory => .automaton (.new factory label)) = some (t, out)) :
    Recorded t (enter s x (.new choice label) l) := by
  unfold Session.making at h
  split at h
  next f hf =>
    cases h
    simpa only [enter, hf] using hs
  next u f hf =>
    cases h
    simp only [enter, hf]
    exact (hs.made hf).assign fun _ => .nil

theorem Recorded.newStore (hs : Recorded s l) {choice : FactoryChoice}
    (h : s.making x choice (fun factory => .store factory.newStore) = some (t, out)) : Recorded t l := by
  unfold Session.making at h
  split at h
  · cases h
    exact hs
  next u f hf =>
    cases h
    exact (hs.made hf).assign_store _

theorem Recorded.stored (hs : Recorded s l) (h : Stored s t) : Recorded t l := by
  cases h with
  | same => exact hs
  | put y u => exact hs.assign_store u

theorem markersAt_mark (ha : a.WellFormed) {state marker : Value} (hi : a.resolve state = .ok i)
    (hm : marker.unhashable? = none) :
    (a.mark state marker).1.markersAt = Function.update a.markersAt i (Value.insertInto (a.markersAt i) marker) := by
  have hlt : i < a.markers.length := by
    rw [ha.markers_length]
    exact lt_count_of_resolve hi
  rw [Automaton.mark, hi]
  simp only [Value.checkHashable_iff.2 hm]
  funext j
  rw [markersAt]
  by_cases hj : j = i
  · subst hj
    rw [List.getElem?_set_self hlt, Function.update_self, Option.getD_some]
  · rw [List.getElem?_set_ne (Ne.symm hj), Function.update_of_ne hj]
    rfl

theorem Recorded.mark (hs : Recorded s l) (hx : s.automaton? x = some a) (ha : a.WellFormed) (state marker : Value) :
    Recorded (s.assign x (.automaton (a.mark state marker).1)) (enter s x (.mark state marker) l) := by
  simp only [enter, stateOf?, hx, Option.bind_some]
  cases hi : a.resolve state with
  | error f =>
    have hmark : a.mark state marker = (a, .error f) := by rw [Automaton.mark, hi]
    rw [hmark]
    exact hs.keep hx fun _ => rfl
  | ok i =>
    simp only [Except.toOption]
    by_cases hm : marker.unhashable? = none
    · rw [if_pos hm]
      refine hs.assign fun j => ?_
      rw [markersAt_mark ha hi hm]
      by_cases hj : j = i
      · subst hj
        rw [Function.update_self, Function.update_self]
        exact (hs x a hx j).insert hm
      · rw [Function.update_of_ne hj, Function.update_of_ne hj]
        exact hs x a hx j
    · rw [if_neg hm]
      rcases mark_cases a state marker with ⟨f, h⟩ | ⟨_, h, -⟩
      · rw [h]
        exact hs.keep hx fun _ => rfl
      · exact absurd (Value.checkHashable_iff.1 h) hm

theorem Recorded.add (hs : Recorded s l) (hx : s.automaton? x = some a) (hy : s.automaton? y = some b)
    (ha : a.WellFormed) (hb : b.WellFormed) :
    Recorded (s.assign x (.automaton (if x = y then a.addSelf else a.add b).1)) (enter s x (.add y) l) := by
  simp only [enter, hx, hy]
  by_cases hxy : x = y
  · rw [if_pos hxy, if_neg fun h => h.1 hxy]
    exact hs.keep hx fun _ => rfl
  · rw [if_neg hxy]
    by_cases hf : a.factory = b.factory
    · rw [if_pos ⟨hxy, hf⟩]
      refine hs.assign fun i => ?_
      rw [markersAt_add ha hb hf]
      split
      · exact hs x a hx i
      · exact hs y b hy (i - a.count)
    · rw [if_neg fun h => hf h.2]
      refine hs.keep hx fun i => ?_
      rw [Automaton.add, if_pos hf]

theorem reread_eq_some : s.reread? x = some b ↔
    ∃ a v, s.automaton? x = some a ∧ a.toDict = .ok v ∧ Automaton.ofDict v = .ok b := by
  simp only [reread?, Option.bind_eq_some_iff, Value.toOption_eq_some]
  constructor
  · rintro ⟨a, ha, v, hv, hb⟩
    exact ⟨a, v, ha, hv, hb⟩
  · rintro ⟨a, v, ha, hv, hb⟩
    exact ⟨a, ha, v, hv, hb⟩

theorem Recorded.roundTrip (hsound : AllHeld (fun a => a.WellFormed ∧ a.HashableMarkers) s) (hs : Recorded s l)
    (h : s.roundTrip x y = some (t, out)) : Recorded t (enter s x (.roundTrip y) l) := by
  obtain ⟨a, ha, -⟩ := Option.map_eq_some_iff.1 h
  obtain ⟨hwell, hhash⟩ := hsound x a ha
  rcases roundTrip_cases ha y with ⟨v, b, answer, hv, hb, ht⟩ | ⟨hno, answer, ht⟩
  · rw [ht] at h
    cases h
    simp only [enter, reread_eq_some.2 ⟨a, v, ha, hv, hb⟩]
    obtain ⟨k, name, -, rfl⟩ := (ofDict_toDict_iff hwell hhash).1 ⟨v, hv, hb⟩
    exact hs.assign fun i => (hs x a ha i).perm (hwell.markersAt_reread name i)
  · rw [ht] at h
    cases h
    have hnone : s.reread? x = none := Option.eq_none_iff_forall_ne_some.2 fun b hb => by
      obtain ⟨c, v, hc, hv, hb⟩ := reread_eq_some.1 hb
      rw [ha] at hc
      cases hc
      exact hno v b hv hb
    simpa only [enter, hnone] using hs

/-! ### Runs -/

variable [TestFunctions]

def entered : List (String × Command) → Session → Ledger → Ledger
  | [], _, l => l
  | (x, c) :: cs, s, l => entered cs (run [(x, c)] s) (enter s x c l)

def given (cs : List (String × Command)) : Ledger :=
  entered cs .empty fun _ _ => []

/-- A command that is not about markers changes no set of them. -/
theorem Recorded.own (hs : Recorded s l) (hc : isMarking c = false) (h : Session.own s x c = some (t, out)) :
    Recorded t l := by
  unfold Session.own at h
  split at h
  next a ha =>
    obtain ⟨attempt, hat, heq⟩ := Option.map_eq_some_iff.1 h
    cases heq
    exact hs.keep (automaton_of_find ha) (markersAt_onAutomaton hc hat)
  next u _ =>
    obtain ⟨result, _, heq⟩ := Option.map_eq_some_iff.1 h
    cases heq
    exact hs.assign_store _
  · cases h

theorem Recorded.ofDict (hs : Recorded s l) {data : Value} (h : s.perform x (.ofDict data) = some (t, out)) :
    Recorded t (enter s x (.ofDict data) l) := by
  simp only [Session.perform] at h
  split at h
  next f hf =>
    cases h
    simpa only [enter, hf] using hs
  next a ha =>
    cases h
    simp only [enter, ha]
    exact hs.assign fun i => .refl (kept_hashableMarkers.ofDict ha).2.markersAt

theorem Recorded.marked (hs : Recorded s l) (hsound : AllHeld (fun a => a.WellFormed ∧ a.HashableMarkers) s)
    {state marker : Value} (h : Session.own s x (.mark state marker) = some (t, out)) :
    Recorded t (enter s x (.mark state marker) l) := by
  unfold Session.own at h
  split at h
  next a ha =>
    have ha := automaton_of_find ha
    cases h
    rw [fst_answering]
    exact hs.mark ha (hsound x a ha).1 state marker
  · cases h
  · cases h

theorem Recorded.dropMarkers (hs : Recorded s l) (h : Session.own s x .dropMarkers = some (t, out)) :
    Recorded t (enter s x .dropMarkers l) := by
  unfold Session.own at h
  split at h
  next a ha =>
    cases h
    refine hs.assign fun i => ?_
    rw [markersAt_dropMarkers]
    exact .nil
  · cases h
  · cases h

/-- One command enters into the ledger what it does to the sets of markers. -/
theorem Recorded.perform (hsound : AllHeld (fun a => a.WellFormed ∧ a.HashableMarkers) s) (hs : Recorded s l)
    (h : s.perform x c = some (t, out)) : Recorded t (enter s x c l) := by
  cases c with
  | new choice label => exact hs.new h
  | newStore choice => exact hs.newStore h
  | ofDict data => exact hs.ofDict h
  | mark state marker => exact hs.marked hsound h
  | dropMarkers => exact hs.dropMarkers h
  | add other =>
    simp only [Session.perform, Session.add] at h
    split at h
    next a b ha hb =>
      cases h
      rw [fst_answering]
      exact hs.add ha hb (hsound x a ha).1 (hsound other b hb).1
    · cases h
  | merge other shift => exact hs.stored (stored_merge h)
  | roundTrip target => exact hs.roundTrip hsound h
  | activeTransitions target => exact hs.stored (stored_activeTransitions h)
  | sameFactory other => exact hs.stored (stored_sameFactory h)
  | _ => exact hs.own rfl h

/-- A command that applies to nothing enters nothing about any automaton. -/
theorem Recorded.skip (hs : Recorded s l) (h : s.perform x c = none) : Recorded s (enter s x c l) := by
  cases c with
  | new choice label =>
    simp only [Session.perform, Session.making] at h
    split at h <;> cases h
  | ofDict =>
    simp only [Session.perform] at h
    split at h <;> cases h
  | mark state marker =>
    cases hx : s.automaton? x with
    | none => simpa only [enter, stateOf?, hx, Option.bind_none] using hs
    | some a =>
      have h : Session.own s x (.mark state marker) = none := h
      rw [own_of_find (find_of_automaton hx)] at h
      cases h
  | dropMarkers =>
    intro y b hb i
    by_cases hy : y = x
    · subst hy
      have h : Session.own s y .dropMarkers = none := h
      rw [own_of_find (find_of_automaton hb)] at h
      cases h
    · simp only [enter, Function.update_of_ne hy]
      exact hs y b hb i
  | add other =>
    simp only [Session.perform, Session.add] at h
    split at h
    · cases h
    next hnone => simpa only [enter] using hs
  | roundTrip target =>
    have hx : s.automaton? x = none := Option.map_eq_none_iff.1 h
    simpa only [enter, reread?, hx, Option.bind_none] using hs
  | _ => exact hs

/-- After a run every state has the set of the markers that the run gave it. -/
theorem recorded_entered (hsound : AllHeld (fun a => a.WellFormed ∧ a.HashableMarkers) s) (hs : Recorded s l) :
    Recorded (run cs s) (entered cs s l) := by
  induction cs generalizing s l with
  | nil => exact hs
  | cons e cs ih =>
    obtain ⟨x, c⟩ := e
    rw [run_cons, entered]
    have hone : AllHeld (fun a => a.WellFormed ∧ a.HashableMarkers) (run [(x, c)] s) ∧
        Recorded (run [(x, c)] s) (enter s x c l) := by
      simp only [run]
      split
      next t out h => exact ⟨hsound.perform kept_hashableMarkers h, hs.perform hsound h⟩
      next h => exact ⟨hsound, hs.skip h⟩
    exact ih hone.1 hone.2

end Session

end GuardedAutomata
