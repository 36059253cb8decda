import GuardedAutomata.Proofs.Session.Run

/-!
# Refused commands

A command that fails leaves every variable as it was: what it was given is resolved and tested before
anything is changed, and adding an automaton cannot fail any more once the factories are found equal. Only
feeding and the merging of stores go through steps of their own, of which the ones before a failure stay.
-/

set_option autoImplicit false

namespace GuardedAutomata

namespace Automaton

variable {a b c : Automaton} {f : Failure}

theorem eq_of_newTransition_error {source target guard : Value}
    (h : a.newTransition source target guard = (b, .error f)) : b = a := by
  rcases newTransition_cases a source target guard with ⟨g, hg⟩ | ⟨i, j, g, d, _, _, _, _, hg⟩
  · rw [hg] at h
    cases h
    rfl
  · rw [hg] at h
    cases h

theorem eq_of_mark_error {state marker : Value} (h : a.mark state marker = (b, .error f)) : b = a := by
  rcases mark_cases a state marker with ⟨g, hg⟩ | ⟨i, _, hg⟩
  · rw [hg] at h
    cases h
    rfl
  · rw [hg] at h
    cases h

theorem eq_of_setActive_error {states : Value} (h : a.setActive states = (b, .error f)) : b = a := by
  unfold setActive at h
  split at h <;> cases h
  rfl

theorem eq_of_step_error [TestFunctions] {v : Value} (h : a.step v = (b, .error f)) : b = a := by
  by_cases hv : v = .epsilon
  · subst hv
    cases h
    rfl
  · rw [step_of_ne_epsilon hv] at h
    unfold advance at h
    split at h
    · cases h
      rfl
    · split at h <;> cases h

theorem exists_add_ok (ha : a.WellFormed) (hb : b.WellFormed) (hf : a.factory = b.factory) :
    ∃ c entry, a.add b = (c, .ok entry) := by
  rcases Nat.eq_zero_or_pos b.count with h0 | h0
  · exact ⟨a, none, add_empty hf h0⟩
  · exact ⟨spliced a b, some a.count, add_eq ha hb hf h0⟩

theorem eq_of_add_error (ha : a.WellFormed) (hb : b.WellFormed) (h : a.add b = (c, .error f)) : c = a := by
  by_cases hf : a.factory = b.factory
  · obtain ⟨d, entry, hd⟩ := exists_add_ok ha hb hf
    rw [hd] at h
    cases h
  · rw [add, if_pos hf] at h
    cases h
    rfl

end Automaton

namespace Session

open Automaton

def Stepwise : Command → Prop
  | .accepts _ => True
  | .feed _ => True
  | .merge _ _ => True
  | _ => False

theorem of_answering_error {α : Type} {g : α → Answer} {attempt : Attempt α} {b : Automaton} {f : Failure}
    (h : answering g attempt = (b, .error f)) : attempt = (b, .error f) := by
  obtain ⟨a, out⟩ := attempt
  cases out <;> cases h
  rfl

theorem find_assign_self {s : Session} {name : String} {h : Held} (hs : s.find? name = some h) (x : String) :
    (s.assign name h).find? x = s.find? x := by
  rw [find_assign]
  by_cases hx : x = name
  · rw [if_pos hx, hx, hs]
  · rw [if_neg hx]

variable {s t : Session} {name other : String} {a b : Automaton} {c : Command} {f : Failure}

theorem find_of_making_error {choice : FactoryChoice} {make : Factory → Held}
    (h : s.making name choice make = some (t, .error f)) (x : String) : t.find? x = s.find? x := by
  unfold making at h
  split at h <;> cases h
  rfl

theorem find_of_add_error (hs : AllHeld WellFormed s) (h : s.add name other = some (t, .error f))
    (x : String) : t.find? x = s.find? x := by
  unfold add at h
  split at h
  next a b ha hb =>
    have hsame : ∀ d, answering .entry (if name = other then a.addSelf else a.add b) = (d, .error f) →
        d = a := by
      intro d hd
      have hd := of_answering_error hd
      split at hd
      · cases hd
        rfl
      · exact eq_of_add_error (hs _ _ ha) (hs _ _ hb) hd
    generalize answering .entry (if name = other then a.addSelf else a.add b) = attempt at h hsame
    obtain ⟨d, out⟩ := attempt
    cases h
    obtain rfl := hsame d rfl
    exact find_assign_self (find_of_automaton ha) x
  · cases h

variable [TestFunctions]

theorem eq_of_onAutomaton_error (hc : ¬ Stepwise c) (h : onAutomaton a c = some (b, .error f)) : b = a := by
  cases c with
  | newTransition source target guard =>
    exact eq_of_newTransition_error (of_answering_error (Option.some.inj h))
  | mark state marker => exact eq_of_mark_error (of_answering_error (Option.some.inj h))
  | step v => exact eq_of_step_error (of_answering_error (Option.some.inj h))
  | setActive states => exact eq_of_setActive_error (of_answering_error (Option.some.inj h))
  | accepts vs => exact absurd trivial hc
  | feed vs => exact absurd trivial hc
  | markersOf _ | epsilonClosure _ | transitionsOf _ | debug | literal | dot _ | toDict =>
    exact (congrArg Prod.fst (Option.some.inj h)).symm
  | _ => cases h

theorem eq_of_onStore_error {u v : Store} (h : onStore u c = some (v, .error f)) : v = u := by
  cases c with
  | put guard target =>
    simp only [onStore] at h
    split at h
    · cases h
      rfl
    · split at h <;> cases h
      rfl
  | query _ | literal | formatGuard _ | coerce _ | format _ | parse _ | dump _ =>
    exact (congrArg Prod.fst (Option.some.inj h)).symm
  | _ => cases h

theorem find_of_own_error (hc : ¬ Stepwise c) (h : s.own name c = some (t, .error f)) (x : String) :
    t.find? x = s.find? x := by
  unfold own at h
  split at h
  next a ha =>
    obtain ⟨⟨b, out⟩, hb, heq⟩ := Option.map_eq_some_iff.1 h
    cases heq
    obtain rfl := eq_of_onAutomaton_error hc hb
    exact find_assign_self ha x
  next u hu =>
    obtain ⟨⟨v, out⟩, hv, heq⟩ := Option.map_eq_some_iff.1 h
    cases heq
    obtain rfl := eq_of_onStore_error hv
    exact find_assign_self hu x
  · cases h

/-- What is held stays the same through a command that fails, unless it goes through steps. -/
theorem find_of_perform_error (hs : AllHeld WellFormed s) (hc : ¬ Stepwise c)
    (h : s.perform name c = some (t, .error f)) (x : String) : t.find? x = s.find? x := by
  cases c with
  | new choice label => exact find_of_making_error h x
  | newStore choice => exact find_of_making_error h x
  | ofDict data =>
    simp only [perform] at h
    split at h <;> cases h
    rfl
  | add other => exact find_of_add_error hs h x
  | merge other shift => exact absurd trivial hc
  | roundTrip target =>
    obtain ⟨a, _, heq⟩ := Option.map_eq_some_iff.1 h
    split at heq
    · cases heq
      rfl
    · split at heq <;> cases heq
      rfl
  | activeTransitions keep =>
    obtain ⟨a, _, heq⟩ := Option.map_eq_some_iff.1 h
    split at heq <;> cases heq
    rfl
  | sameFactory other =>
    simp only [perform] at h
    split at h <;> cases h
  | _ => exact find_of_own_error hc h x

/-- In every session that a run leads to, a command that fails and goes through no steps of its own leaves
every variable as it was, be it the one it was performed on or one that was passed to it. Adding one of two
variables' automata to the other does not fail once their factories are equal. -/
theorem unchanged_of_refused (cs : List (String × Command)) :
    (∀ name c t f, ¬ Stepwise c → (run cs .empty).perform name c = some (t, .error f) →
      ∀ x, t.find? x = (run cs .empty).find? x) ∧
    ∀ name other a b, name ≠ other → (run cs .empty).automaton? name = some a →
      (run cs .empty).automaton? other = some b → a.factory = b.factory →
      ∃ t entry, (run cs .empty).perform name (.add other) = some (t, .ok (.entry entry)) := by
  have hs : AllHeld WellFormed (run cs .empty) := fun x a hx => Reachable.wellFormed ⟨cs, x, hx⟩
  constructor
  · intro name c t f hc h x
    exact find_of_perform_error hs hc h x
  · intro name other a b hne ha hb hf
    obtain ⟨c, entry, hadd⟩ := exists_add_ok (hs _ _ ha) (hs _ _ hb) hf
    have hperform : (run cs .empty).add name other =
        some ((run cs .empty).assign name (.automaton c), .ok (.entry entry)) := by
      simp only [add, ha, hb, hne, if_false, hadd]
      rfl
    exact ⟨_, entry, hperform⟩

omit [TestFunctions] in
/-- An epsilon edge to a state that is not there, and an addition of stores of another kind, are refused. -/
theorem unchanged_of_refused_edge : ∃ s t u : Session, ∃ f g,
    @perform Matcher.catalogue s "a" (.newTransition (.int 0) (.int 2) .epsilon) = some (t, .error f) ∧
      @perform Matcher.catalogue s "a" (.add "b") = some (u, .error g) ∧
      t.find? "a" = s.find? "a" ∧ u.find? "a" = s.find? "a" ∧ u.find? "b" = s.find? "b" := by
  let _ := Matcher.catalogue
  let cs : List (String × Command) := [("a", .new (.ofKind .symbol) .null), ("a", .newStates 2),
    ("a", .newTransition (.int 0) (.int 1) (.str "x")), ("b", .new (.ofKind .range) .null), ("b", .newState)]
  have hedge := (unchanged_of_refused cs).1 "a" (.newTransition (.int 0) (.int 2) .epsilon) _ _ id rfl
  have hadd := (unchanged_of_refused cs).1 "a" (.add "b") _ _ id rfl
  exact ⟨run cs .empty, _, _, _, _, rfl, rfl, hedge "a", hadd "a", hadd "b"⟩

end Session

end GuardedAutomata
