import GuardedAutomata.Proofs.Automaton.Acceptance
import Mathlib

/-!
# Automata that answer alike

Two automata need not have the same edges, and not even stores of one kind, to be simulated alike: it is enough that
every value leads from each state to the same states, in whatever order, and that epsilon edges do. Then they go through
the same frontiers.
-/

set_option autoImplicit false

namespace GuardedAutomata.Automaton

variable [TestFunctions]

structure Mirrors (reads : Value → Prop) (a b : Automaton) : Prop where
  count : b.count = a.count
  markersAt : ∀ i, b.markersAt i = a.markersAt i
  epsilon : ∀ i j, j ∈ b.epsilonTargets i ↔ j ∈ a.epsilonTargets i
  targets : ∀ v, reads v → ∀ i, ∃ ts us, a.targetsOf v i = .ok ts ∧ b.targetsOf v i = .ok us ∧ ∀ t, t ∈ us ↔ t ∈ ts

variable {a b : Automaton} {reads : Value → Prop} {v : Value} {w : List Value}

namespace Mirrors

theorem withActive (h : Mirrors reads a b) (s t : StateSet) :
    Mirrors reads { a with active := s } { b with active := t } :=
  ⟨h.count, h.markersAt, h.epsilon, h.targets⟩

theorem closure_eq (ha : a.WellFormed) (hb : b.WellFormed) (h : Mirrors reads a b) (s : StateSet) :
    b.closure s = a.closure s :=
  closure_eq_closure ha.epsilonTargets_lt hb.epsilonTargets_lt h.epsilon

theorem active_reset (ha : a.WellFormed) (hb : b.WellFormed) (h : Mirrors reads a b) :
    b.reset.active = a.reset.active := by
  unfold reset
  rw [h.count]
  split
  · rfl
  · exact h.closure_eq ha hb _

theorem currentMarkers (h : Mirrors reads a b) (hactive : b.active = a.active) :
    b.currentMarkers = a.currentMarkers := by
  rw [Automaton.currentMarkers, Automaton.currentMarkers, hactive]
  exact congrArg joinMarkers (List.map_congr_left fun i _ => h.markersAt i)

theorem targetsFrom (h : Mirrors reads a b) (hv : reads v) (is : List Nat) :
    ∃ ts us, a.targetsFrom v is = .ok ts ∧ b.targetsFrom v is = .ok us ∧ ∀ t, t ∈ us ↔ t ∈ ts := by
  induction is with
  | nil => exact ⟨[], [], rfl, rfl, fun _ => .rfl⟩
  | cons i is ih =>
    obtain ⟨ts, us, hts, hus, hsame⟩ := h.targets v hv i
    obtain ⟨others, rest, hothers, hrest, hsames⟩ := ih
    refine ⟨ts ++ others, us ++ rest, targetsFrom_cons.2 ⟨ts, others, hts, hothers, rfl⟩,
      targetsFrom_cons.2 ⟨us, rest, hus, hrest, rfl⟩, fun t => ?_⟩
    rw [List.mem_append, List.mem_append, hsame, hsames]

/-- From the same frontier both are fed alike, and neither fails: by induction on the values, with the frontiers kept
equal from one to the next. -/
theorem feedFrom (ha : a.WellFormed) (hb : b.WellFormed) (h : Mirrors reads a b) (hactive : b.active = a.active)
    (hw : ∀ v ∈ w, v ≠ .epsilon ∧ reads v) (consumed : Nat) :
    ∃ r, (feedFrom consumed w a).2 = .ok r ∧ (feedFrom consumed w b).2 = .ok r ∧
      (Automaton.feedFrom consumed w b).1.active = (Automaton.feedFrom consumed w a).1.active := by
  induction w generalizing a b consumed with
  | nil =>
    refine ⟨_, rfl, ?_, hactive⟩
    rw [Automaton.feedFrom, h.currentMarkers hactive]
  | cons v w ih =>
    obtain ⟨⟨hv, hread⟩, hrest⟩ := List.forall_mem_cons.1 hw
    obtain ⟨ts, us, hts, hus, hsame⟩ := h.targetsFrom hread a.active.ids
    rw [← hactive] at hus
    cases ts with
    | nil =>
      have hnone : us = [] := List.eq_nil_iff_forall_not_mem.2 fun t ht => by simpa using (hsame t).1 ht
      subst hnone
      rw [feedFrom_rejected hv hts, feedFrom_rejected hv hus, h.currentMarkers hactive]
      exact ⟨_, rfl, rfl, hactive⟩
    | cons t ts =>
      cases us with
      | nil => exact absurd ((hsame t).2 List.mem_cons_self) List.not_mem_nil
      | cons u us =>
        have hstates : StateSet.ofList (u :: us) = .ofList (t :: ts) :=
          StateSet.ext fun q => by rw [StateSet.mem_ofList, StateSet.mem_ofList, hsame]
        rw [feedFrom_advanced hv hts, feedFrom_advanced hv hus]
        refine ih (ha.moved (moved_targets ha hts)) (hb.moved (moved_targets hb hus)) (h.withActive _ _) ?_ hrest
          (consumed + 1)
        rw [hstates]
        exact h.closure_eq ha hb _

/-- After a restart both are fed alike, and accept alike. -/
theorem feed_reset (ha : a.WellFormed) (hb : b.WellFormed) (h : Mirrors reads a b) {values : Value}
    (hvs : values.elements = .ok w) (hw : ∀ v ∈ w, v ≠ .epsilon ∧ reads v) :
    ∃ r, (a.reset.feed values).2 = .ok r ∧ (b.reset.feed values).2 = .ok r ∧
      (b.reset.feed values).1.active = (a.reset.feed values).1.active ∧
      (a.accepts values).2 = .ok r.accepted ∧ (b.accepts values).2 = .ok r.accepted := by
  obtain ⟨r, hr, hs, hend⟩ := feedFrom (ha.moved (moved_reset a)) (hb.moved (moved_reset b))
    (by rw [reset_eq a, reset_eq b]; exact h.withActive _ _) (h.active_reset ha hb) hw 0
  have hfeed : ∀ c : Automaton, c.feed values = Automaton.feedFrom 0 w c := fun c => by
    rw [feed, hvs]
    rfl
  rw [accepts_eq_feed, accepts_eq_feed, hfeed, hfeed, hr, hs]
  exact ⟨r, rfl, rfl, hend, rfl, rfl⟩

end Mirrors

end GuardedAutomata.Automaton
