import GuardedAutomata.Proofs.Automaton.Step

/-!
# Simulations in parallel

A simulation reads the number of states, the epsilon edges, what the stores answer, and the frontier. Two automata that
agree in these go through the same frontiers with the same outcomes, whatever else is different about them. Of the
automaton itself simulating changes nothing but the frontier.
-/

set_option autoImplicit false

namespace GuardedAutomata

def Feed.progress (f : Feed) : Nat × Bool :=
  (f.consumed, f.completed)

namespace Automaton

def Agree {α β : Type} (r : Automaton → Automaton → Prop) (see : α → β) (x y : Attempt α) : Prop :=
  r x.1 y.1 ∧ x.2.map see = y.2.map see

/-- Of outcomes of which the same is seen either both fail alike or none does. -/
theorem outcome_cases {α β : Type} {see : α → β} {x y : Except Failure α} (h : x.map see = y.map see) :
    (∃ f, x = .error f ∧ y = .error f) ∨ ∃ r s, x = .ok r ∧ y = .ok s ∧ see r = see s := by
  cases x with
  | error f =>
    cases y with
    | error g =>
      cases h
      exact .inl ⟨f, rfl, rfl⟩
    | ok s => cases h
  | ok r =>
    cases y with
    | error g => cases h
    | ok s => exact .inr ⟨r, s, rfl, rfl, Except.ok.inj h⟩

variable {a b : Automaton} {w : List Value}

/-! ### States as arguments -/

theorem resolve_congr (h : a.count = b.count) (v : Value) : a.resolve v = b.resolve v := by
  simp only [resolve, h]

theorem resolveAll_congr (h : a.count = b.count) (vs : List Value) : a.resolveAll vs = b.resolveAll vs := by
  induction vs with
  | nil => rfl
  | cons v vs ih => rw [resolveAll, resolveAll, resolve_congr h, ih]

theorem resolveSet_congr (h : a.count = b.count) (states : Value) : a.resolveSet states = b.resolveSet states := by
  simp only [resolveSet, resolveAll_congr h]

/-! ### What simulating leaves alone -/

def Refronted (a b : Automaton) : Prop :=
  b = { a with active := b.active }

namespace Refronted

theorem trans {c : Automaton} (h : a.Refronted b) (g : b.Refronted c) : a.Refronted c := by
  rw [Refronted] at g ⊢
  rw [g, show b = { a with active := b.active } from h]

theorem markersAt_eq (h : a.Refronted b) (i : Nat) : b.markersAt i = a.markersAt i := by
  rw [show b = { a with active := b.active } from h]
  rfl

theorem reset (a : Automaton) : a.Refronted a.reset :=
  reset_eq a

theorem setActive (a : Automaton) (states : Value) : a.Refronted (a.setActive states).1 := by
  unfold Automaton.setActive
  split <;> rfl

variable [TestFunctions]

theorem step (a : Automaton) (v : Value) : a.Refronted (a.step v).1 := by
  by_cases hv : v = .epsilon
  · subst hv
    rfl
  · rw [step_of_ne_epsilon hv, advance]
    split
    · rfl
    · split <;> rfl

theorem feedFrom (consumed : Nat) (w : List Value) (a : Automaton) :
    a.Refronted (feedFrom consumed w a).1 := by
  induction w generalizing a consumed with
  | nil => rfl
  | cons v w ih =>
    have hstep := step a v
    rw [Automaton.feedFrom]
    split
    next b f hb => rwa [hb] at hstep
    next b hb =>
      rw [hb] at hstep
      exact hstep.trans (ih _ b)
    next b hb => rwa [hb] at hstep

theorem feed (a : Automaton) (values : Value) : a.Refronted (a.feed values).1 := by
  rw [Automaton.feed]
  split
  · rfl
  · exact feedFrom 0 _ a

theorem accepts (a : Automaton) (values : Value) : a.Refronted (a.accepts values).1 := by
  have hfeed := (reset a).trans (feed a.reset values)
  rw [Automaton.accepts]
  split
  next b f hb => rwa [hb] at hfeed
  next b r hb => rwa [hb] at hfeed

end Refronted

/-! ### Simulating -/

variable [TestFunctions]

def trail : List Value → Automaton → List (Except Failure Bool × StateSet)
  | [], _ => []
  | v :: w, a => ((a.step v).2, (a.step v).1.active) :: trail w (a.step v).1

structure Parallel (a b : Automaton) : Prop where
  count : a.count = b.count
  epsilonTargets : ∀ i, a.epsilonTargets i = b.epsilonTargets i
  targetsOf : ∀ v i, a.targetsOf v i = b.targetsOf v i
  active : a.active = b.active

namespace Parallel

theorem closure_eq (h : a.Parallel b) (s : StateSet) : a.closure s = b.closure s :=
  closure_congr_targets h.count h.epsilonTargets s

theorem targetsFrom_eq (h : a.Parallel b) (v : Value) (is : List Nat) : a.targetsFrom v is = b.targetsFrom v is :=
  targetsFrom_congr (h.targetsOf v) is

theorem withActive (h : a.Parallel b) {s t : StateSet} (hst : s = t) :
    Parallel { a with active := s } { b with active := t } :=
  ⟨h.count, h.epsilonTargets, h.targetsOf, hst⟩

theorem reset (h : a.Parallel b) : a.reset.Parallel b.reset := by
  rw [Automaton.reset, Automaton.reset, h.count, h.closure_eq]
  split
  · exact h.withActive rfl
  · exact h.withActive rfl

theorem setActive (h : a.Parallel b) (states : Value) :
    Agree Parallel id (a.setActive states) (b.setActive states) := by
  simp only [Automaton.setActive, resolveSet_congr h.count]
  cases b.resolveSet states with
  | error f => exact ⟨h, rfl⟩
  | ok s => exact ⟨h.withActive (h.closure_eq s), rfl⟩

theorem step (h : a.Parallel b) (v : Value) : Agree Parallel id (a.step v) (b.step v) := by
  by_cases hv : v = .epsilon
  · subst hv
    exact ⟨h, rfl⟩
  · rw [step_of_ne_epsilon hv, step_of_ne_epsilon hv, advance, advance, h.targetsFrom_eq, h.active]
    cases b.targetsFrom v b.active.ids with
    | error cause => exact ⟨h, rfl⟩
    | ok ts =>
      cases ts with
      | nil => exact ⟨h, rfl⟩
      | cons t ts => exact ⟨h.withActive (h.closure_eq _), rfl⟩

/-- Feeding goes the same way: by induction on the values, each of them a step. -/
theorem feedFrom (h : a.Parallel b) (consumed : Nat) :
    Agree Parallel Feed.progress (feedFrom consumed w a) (Automaton.feedFrom consumed w b) := by
  induction w generalizing a b consumed with
  | nil => exact ⟨h, rfl⟩
  | cons v w ih =>
    rw [Automaton.feedFrom, Automaton.feedFrom]
    have hstep := h.step v
    revert hstep
    obtain ⟨c, out⟩ := a.step v
    obtain ⟨d, outB⟩ := b.step v
    rintro ⟨hafter, hout⟩
    rcases outcome_cases hout with ⟨f, rfl, rfl⟩ | ⟨r, _, rfl, rfl, rfl⟩
    · exact ⟨hafter, rfl⟩
    · cases r with
      | true => exact ih hafter (consumed + 1)
      | false => exact ⟨hafter, rfl⟩

theorem feed (h : a.Parallel b) (values : Value) : Agree Parallel Feed.progress (a.feed values) (b.feed values) := by
  rw [Automaton.feed, Automaton.feed]
  cases values.elements with
  | error cause => exact ⟨h, rfl⟩
  | ok items => exact h.feedFrom 0

/-- Only whether a whole word is accepted may differ, and not whether that can be told. -/
theorem accepts (h : a.Parallel b) (values : Value) :
    Agree Parallel (fun _ => ()) (a.accepts values) (b.accepts values) := by
  rw [Automaton.accepts, Automaton.accepts]
  have hfeed := h.reset.feed values
  revert hfeed
  obtain ⟨c, out⟩ := a.reset.feed values
  obtain ⟨d, outB⟩ := b.reset.feed values
  rintro ⟨hafter, hout⟩
  rcases outcome_cases hout with ⟨f, rfl, rfl⟩ | ⟨r, t, rfl, rfl, -⟩
  · exact ⟨hafter, rfl⟩
  · exact ⟨hafter, rfl⟩

theorem trail_eq (h : a.Parallel b) : trail w a = trail w b := by
  induction w generalizing a b with
  | nil => rfl
  | cons v w ih =>
    obtain ⟨hafter, hmap⟩ := h.step v
    have hout : (a.step v).2 = (b.step v).2 := by simpa only [Except.map_id, id] using hmap
    rw [trail, trail, hout, hafter.active, ih hafter]

end Parallel

end Automaton

end GuardedAutomata
