import GuardedAutomata.Proofs.Automaton.Acceptance
import Mathlib

/-!
# Automata without markers

Only a marking, or adding an automaton that has markers, brings markers to an automaton without any. Until then it
accepts no word.
-/

set_option autoImplicit false

namespace GuardedAutomata.Automaton

variable {a b : Automaton} {w : List Value}

def Bare (a : Automaton) : Prop :=
  ∀ i, a.markersAt i = []

namespace Bare

theorem new (f : Factory) (name : Value) : (new f name).Bare :=
  fun _ => rfl

theorem moved (h : a.Bare) (hm : Moved a b) : b.Bare := by
  cases hm <;> exact h

theorem grow (h : a.Bare) (n : Nat) : (grow n a).Bare := fun i => by
  rw [markersAt_grow]
  exact h i

theorem add (ha : a.WellFormed) (hb : b.WellFormed) (h : a.Bare) (g : b.Bare) : (a.add b).1.Bare := by
  by_cases hf : a.factory = b.factory
  · intro i
    rw [markersAt_add ha hb hf]
    split
    · exact h i
    · exact g _
  · rw [Automaton.add, if_pos hf]
    exact h

/-! ### What is asked of them -/

theorem currentMarkers (h : a.Bare) : a.currentMarkers = [] :=
  not_not.1 fun hne => by
    obtain ⟨i, _, hi⟩ := currentMarkers_ne_nil.1 hne
    exact hi (h i)

theorem ids_marked (h : a.Bare) : a.marked.ids = [] :=
  List.eq_nil_iff_forall_not_mem.2 fun i hi => (mem_marked.1 (StateSet.mem_ids.1 hi)).2 (h i)

theorem markersOf (h : a.Bare) {state : Value} {ms : List Value} (hms : a.markersOf state = .ok ms) : ms = [] := by
  unfold Automaton.markersOf at hms
  split at hms
  · cases hms
  · cases hms
    exact h _

variable [TestFunctions]

/-- What is fed leads to no markers: by induction on the values, since a step keeps all markers. -/
theorem markers_feedFrom (h : a.Bare) {consumed : Nat} {f : Feed} (hf : (feedFrom consumed w a).2 = .ok f) :
    f.markers = [] := by
  induction w generalizing a consumed with
  | nil =>
    cases hf
    exact h.currentMarkers
  | cons v w ih =>
    by_cases hv : v = .epsilon
    · subst hv
      cases hf
    · cases hts : a.targetsFrom v a.active.ids with
      | error cause =>
        rw [feedFrom_error hv hts] at hf
        cases hf
      | ok ts =>
        cases ts with
        | nil =>
          rw [feedFrom_rejected hv hts] at hf
          cases hf
          exact h.currentMarkers
        | cons t ts =>
          rw [feedFrom_advanced hv hts] at hf
          exact ih (a := { a with active := a.closure (.ofList (t :: ts)) }) h hf

theorem markers_feed (h : a.Bare) {values : Value} {f : Feed} (hf : (a.feed values).2 = .ok f) : f.markers = [] := by
  unfold Automaton.feed at hf
  split at hf
  · cases hf
  · exact h.markers_feedFrom hf

theorem accepts (h : a.Bare) {values : Value} {r : Bool} (hr : (a.accepts values).2 = .ok r) : r = false := by
  rw [accepts_eq_feed] at hr
  cases hf : (a.reset.feed values).2 with
  | error f =>
    rw [hf] at hr
    cases hr
  | ok f =>
    rw [hf] at hr
    cases hr
    have hbare : a.reset.Bare := h.moved (moved_reset a)
    rw [Feed.accepted, hbare.markers_feed hf]
    exact Bool.and_false _

theorem accepts_answers (h : a.Bare) {values : Value} (hvs : values.elements = .ok w)
    (hw : ∀ v ∈ w, v ≠ .epsilon ∧ a.Answers v) : (a.accepts values).2 = .ok false := by
  obtain ⟨r, hr⟩ := feedFrom_answers (a := { a with active := a.reset.active }) (fun v hv => (hw v hv).1)
    (fun v hv => (hw v hv).2) 0
  have haccepts := snd_accepts (a := a) hvs
  rw [hr] at haccepts
  rw [haccepts]
  exact congrArg Except.ok (h.accepts haccepts)

end Bare

end GuardedAutomata.Automaton
