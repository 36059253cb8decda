import GuardedAutomata.Proofs.Session.Lockstep

/-!
# Equal values

Equality of the values that can be keys is an equivalence, and neither the index of symbols nor the order of ranges
tells equal values apart. A step therefore goes the same way for equal values, and an automaton made with other
spellings of its guards goes the same way on every word.
-/

set_option autoImplicit false

namespace GuardedAutomata

namespace Automaton

variable [TestFunctions] {a : Automaton} {v w : Value}

theorem WellFormed.targetsOf_respelled (ha : a.WellFormed)
    (hk : a.factory.storeKind = .symbol ∨ a.factory.storeKind = .range) (hvw : v.Respelled w)
    (hv : v.unhashable? = none) (i : Nat) : a.targetsOf v i = a.targetsOf w i := by
  unfold targetsOf
  cases hs : a.stores[i]? with
  | none => rfl
  | some s =>
    have hfits := ha.fits_of_getElem hs
    rw [← hfits.kind] at hk
    exact Store.query_respelled hfits.sound hk hvw hv

theorem WellFormed.step_respelled (ha : a.WellFormed)
    (hk : a.factory.storeKind = .symbol ∨ a.factory.storeKind = .range) (hvw : v.Respelled w)
    (hv : v.unhashable? = none) : a.step v = a.step w := by
  by_cases hepsilon : v = .epsilon
  · subst hepsilon
    rw [hvw.epsilon]
  · have hw : w ≠ .epsilon := by
      rintro rfl
      exact hepsilon hvw.symm.epsilon
    rw [step_of_ne_epsilon hepsilon, step_of_ne_epsilon hw, advance, advance,
      targetsFrom_congr (ha.targetsOf_respelled hk hvw hv)]

end Automaton

namespace Session

open Automaton

variable [TestFunctions]

/-- Equality is an equivalence among the values that can be keys, apart from what is not a number, and equal values
compare alike with everything. Of equal values an automaton over symbols or ranges takes the same step, and a run that
is given equal symbols, bounds or other guards makes automata that take the same steps on every word. -/
theorem equal_values_alike :
    (Equivalence fun v w : Value.Definite => v.1.equal w.1 = true) ∧
    (∀ v w : Value, v.unhashable? = none → w.unhashable? = none → v.equal w = true → ∀ c, Value.ComparedAs c v w) ∧
    (∀ a : Automaton, a.Reachable → a.factory.storeKind = .symbol ∨ a.factory.storeKind = .range →
      ∀ v w : Value, v.unhashable? = none → w.unhashable? = none → v.equal w = true → a.step v = a.step w) ∧
    ∀ cs ds : List (String × Command),
      List.Forall₂ (fun e f : String × Command => e.1 = f.1 ∧ e.2.Spelled Value.Respelled f.2) cs ds →
      ∀ x a, (run cs .empty).automaton? x = some a → ∃ b, (run ds .empty).automaton? x = some b ∧
        a.count = b.count ∧ a.active = b.active ∧ ∀ w, trail w a = trail w b := by
  have hspelled : ∀ {v w : Value}, v.equal w = true → v.Respelled w := fun h =>
    .inr (.inl (Value.equal_iff_same.1 h).1)
  refine ⟨Value.equivalence_equal, fun v w hv _ h => (hspelled h).comparedAs hv, fun a ha hk v w hv _ h => ?_,
    fun cs ds hcs x a ha => ?_⟩
  · exact ha.wellFormed.step_respelled hk (hspelled h) hv
  · obtain ⟨b, hb, hab⟩ := (Spelled.empty.run spelling_respelled (.of_forall₂ hcs)).automaton? ha
    exact ⟨b, hb, hab.count, hab.active, fun w => (hab.parallel spelling_respelled).trail_eq⟩

omit [TestFunctions] in
/-- The symbol 1 and the range from 0 to 1, given as true and with the bound false in the second run. True and -0.0 are
read like 1 and 0 in the first run, and the second one makes the same steps. -/
theorem equal_values_alike_number : ∃ a b c d : Automaton,
    a.edgesOf 0 = [⟨.predicate (.int 1), 1⟩] ∧ b.edgesOf 0 = [⟨.predicate (.bool true), 1⟩] ∧
    c.edgesOf 0 = [⟨.predicate (.range (.int 0) (.int 1)), 1⟩] ∧
    d.edgesOf 0 = [⟨.predicate (.range (.bool false) (.int 1)), 1⟩] ∧
    @step Matcher.catalogue a (.bool true) = @step Matcher.catalogue a (.int 1) ∧
    @step Matcher.catalogue c (.float .negativeZero) = @step Matcher.catalogue c (.int 0) ∧
    @trail Matcher.catalogue [.bool true, .int 1] b = [(.ok true, .ofList [1]), (.ok false, .ofList [1])] ∧
    @trail Matcher.catalogue [.bool true, .int 1] d = [(.ok true, .ofList [1]), (.ok false, .ofList [1])] := by
  let _ := Matcher.catalogue
  -- A symbol that is given again in another spelling is there already.
  let making (v w : Value) : List (String × Command) := [("a", .new (.ofKind .symbol) .null), ("a", .newStates 2),
    ("a", .newTransition (.int 0) (.int 1) v), ("a", .newTransition (.int 0) (.int 1) (.bool true)),
    ("c", .new (.ofKind .range) .null), ("c", .newStates 2), ("c", .newTransition (.int 0) (.int 1) w)]
  let cs := making (.int 1) (.range (.int 0) (.int 1))
  let ds := making (.bool true) (.range (.bool false) (.int 1))
  have hcs : List.Forall₂ (fun e f : String × Command => e.1 = f.1 ∧ e.2.Spelled Value.Respelled f.2) cs ds :=
    .cons ⟨rfl, .same _⟩ (.cons ⟨rfl, .same _⟩ (.cons ⟨rfl, .newTransition _ _ (.inr (.inl (by cbv)))⟩
      (.cons ⟨rfl, .same _⟩ (.cons ⟨rfl, .same _⟩ (.cons ⟨rfl, .same _⟩
        (.cons ⟨rfl, .newTransition _ _ (.inr (.inl (by cbv)))⟩ .nil))))))
  let held (cs : List (String × Command)) (x : String) : Automaton :=
    ((Session.run cs .empty).automaton? x).getD default
  obtain ⟨-, -, hstep, hrun⟩ := equal_values_alike
  obtain ⟨b, hb, -, -, hab⟩ := hrun cs ds hcs "a" (held cs "a") rfl
  obtain ⟨d, hd, -, -, hcd⟩ := hrun cs ds hcs "c" (held cs "c") rfl
  cases hb
  cases hd
  refine ⟨held cs "a", held ds "a", held cs "c", held ds "c", by cbv, by cbv, by cbv, by cbv,
    hstep _ ⟨cs, "a", rfl⟩ (.inl rfl) _ _ rfl rfl (by cbv),
    hstep _ ⟨cs, "c", rfl⟩ (.inr rfl) _ _ rfl rfl (by decide +kernel),
    (hab _).symm.trans (by cbv), (hcd _).symm.trans (by cbv)⟩

end Session

end GuardedAutomata
