import GuardedAutomata.Proofs.Automaton.Enlarged
import GuardedAutomata.Proofs.Session.Growth
import GuardedAutomata.Proofs.Store.Scan

/-!
# Growth loses no words

A state, a transition or a marker that comes to an automaton, or another automaton that is added, takes no accepted word
away. States that no transition leads to yet bring no new words either.
-/

set_option autoImplicit false

namespace GuardedAutomata.Session

open Automaton

def Enlarges : Command → Prop
  | .newState | .newStates _ | .newTransition _ _ _ | .mark _ _ | .add _ => True
  | _ => False

def MakesStates : Command → Prop
  | .newState | .newStates _ => True
  | _ => False

def PutsBehind : Command → Prop
  | .newState | .newStates _ | .add _ => True
  | _ => False

variable [TestFunctions] {s t : Session} {x : String} {a b : Automaton} {c : Command} {out : Except Failure Answer}

structure EnlargedBy (a : Automaton) (c : Command) (b : Automaton) : Prop where
  wellFormed : b.WellFormed
  within : a.Within b
  made : MakesStates c → ∃ n, b = grow n a
  prolongs : PutsBehind c → a.Prolongs b

omit [TestFunctions] in
theorem enlargedBy_grow (ha : a.WellFormed) (n : Nat) (c : Command) : EnlargedBy a c (grow n a) :=
  ⟨ha.grow n, .grow n a, fun _ => ⟨n, rfl⟩, fun _ => .grow n a⟩

omit [TestFunctions] in
theorem enlargedBy_added (ha : a.WellFormed) (hb : b.WellFormed) (y : String) : EnlargedBy a (.add y) (a.add b).1 := by
  refine ⟨ha.add hb, .add ha hb, False.elim, fun _ => ?_⟩
  rcases add_cases ha hb with ⟨h, _⟩ | ⟨_, _, h⟩
  · rw [h]
    exact .grow 0 a
  · rw [h]
    exact .spliced ha b

/-- One command on the automaton of a variable. -/
theorem enlargedBy_perform (hs : AllHeld WellFormed s) (hx : s.automaton? x = some a) (hc : Enlarges c)
    (h : s.perform x c = some (t, out)) : ∃ b, t.automaton? x = some b ∧ EnlargedBy a c b := by
  have ha := hs x a hx
  have hfind := find_of_automaton hx
  cases c with
  | newState =>
    simp only [perform, own_of_find hfind] at h
    cases h
    exact ⟨_, automaton_assign_self _ _ _, enlargedBy_grow ha 1 _⟩
  | newStates n =>
    simp only [perform, own_of_find hfind] at h
    cases h
    exact ⟨_, automaton_assign_self _ _ _, enlargedBy_grow ha n _⟩
  | newTransition source target guard =>
    simp only [perform, own_of_find hfind] at h
    cases h
    refine ⟨_, automaton_assign_self _ _ _, ?_⟩
    rw [fst_answering]
    exact ⟨ha.step (step_newTransition a source target guard), .newTransition a source target guard, False.elim,
      False.elim⟩
  | mark state marker =>
    simp only [perform, own_of_find hfind] at h
    cases h
    refine ⟨_, automaton_assign_self _ _ _, ?_⟩
    rw [fst_answering]
    exact ⟨ha.step (step_mark a state marker), .mark a state marker, False.elim, False.elim⟩
  | add y =>
    simp only [perform, add, hx] at h
    split at h
    next b _ hxa hy =>
      cases hxa
      cases h
      refine ⟨_, automaton_assign_self _ _ _, ?_⟩
      rw [fst_answering]
      split
      · exact ⟨ha, .refl a, False.elim, fun _ => .grow 0 a⟩
      · exact enlargedBy_added ha (hs y _ hy) y
    · cases h
  | _ => cases hc

/-- No successful or failed creation of states, transition, marking or addition makes an automaton of one of the three
kinds refuse a word it accepted, as long as the look-ups the word now needs are answered. New states alone leave the set
of accepted words as it is, and so does another automaton behind the states there are; there is then no difference in
any outcome. -/
theorem accepts_enlarged {cs : List (String × Command)} (hx : (run cs .empty).automaton? x = some a)
    (hc : Enlarges c) (h : (run cs .empty).perform x c = some (t, out)) :
    ∃ b, t.automaton? x = some b ∧
      (a.factory.storeKind.BuiltIn → ∀ values w, values.elements = .ok w → (a.accepts values).2 = .ok true →
        b.Answered w → (b.accepts values).2 = .ok true) ∧
      (MakesStates c → ∀ values, (b.accepts values).2 = .ok true ↔ (a.accepts values).2 = .ok true) ∧
      (PutsBehind c → 0 < a.count → ∀ values, (b.accepts values).2 = (a.accepts values).2) := by
  have hs : AllHeld WellFormed (run cs .empty) := fun y d hd => Reachable.wellFormed ⟨cs, y, hd⟩
  have ha := hs x a hx
  obtain ⟨b, hb, henlarged⟩ := enlargedBy_perform hs hx hc h
  refine ⟨b, hb, fun hk values w hvs hacc hans => ?_, fun hmakes values => ?_, fun hputs h0 values => ?_⟩
  · exact henlarged.within.accepts ha henlarged.wellFormed hk hvs hacc hans
  · obtain ⟨n, rfl⟩ := henlarged.made hmakes
    rcases Nat.eq_zero_or_pos a.count with h0 | h0
    · -- Without states there are no markers, and the new states have none.
      have hbare : a.Bare := fun i => by
        by_contra hi
        exact Nat.not_lt_zero i (h0 ▸ ha.lt_count_of_markersAt hi)
      have hnever : ∀ {d : Automaton}, d.Bare → (d.accepts values).2 ≠ .ok true := fun hd hacc =>
        Bool.noConfusion (hd.accepts hacc)
      exact ⟨fun hacc => absurd hacc (hnever (hbare.grow n)), fun hacc => absurd hacc (hnever hbare)⟩
    · rw [(Prolongs.grow n a).accepts ha henlarged.wellFormed h0]
  · exact (henlarged.prolongs hputs).accepts ha henlarged.wellFormed h0 values

omit [TestFunctions] in
/-- The letter leads from the start to a marked state; it stays accepted with a loop at the start, and with a copy of
another automaton behind the two states. -/
theorem accepts_enlarged_letter : ∃ (s t u : Session) (b c : Automaton),
    @perform Matcher.catalogue s "a" (.newTransition (.int 0) (.int 0) (.str "l")) = some (t, .ok .nothing) ∧
    t.automaton? "a" = some b ∧ (@accepts Matcher.catalogue b (.str "l")).2 = .ok true ∧
    @perform Matcher.catalogue s "a" (.add "b") = some (u, .ok (.entry (some 2))) ∧
    u.automaton? "a" = some c ∧ (@accepts Matcher.catalogue c (.str "l")).2 = .ok true := by
  let _ := Matcher.catalogue
  let cs : List (String × Command) := [("a", .new (.ofKind .symbol) .null), ("a", .newStates 2),
    ("a", .newTransition (.int 0) (.int 1) (.str "l")), ("a", .mark (.int 1) (.str "m")),
    ("b", .new (.ofKind .symbol) .null), ("b", .newState), ("b", .mark (.int 0) (.str "n"))]
  have ha : (run cs .empty).automaton? "a" = some _ := rfl
  have hlink : (run cs .empty).perform "a" (.newTransition (.int 0) (.int 0) (.str "l")) = some (_, .ok .nothing) := rfl
  have hadd : (run cs .empty).perform "a" (.add "b") = some (_, .ok (.entry (some 2))) := rfl
  have hacc : (accepts (((run cs .empty).automaton? "a").getD default) (.str "l")).2 = .ok true := by cbv
  have hvs : (Value.str "l").elements = .ok [.str "l"] := rfl
  obtain ⟨b, hb, hkept, -, -⟩ := accepts_enlarged ha (c := .newTransition (.int 0) (.int 0) (.str "l")) trivial hlink
  obtain ⟨c, hc, -, -, hsame⟩ := accepts_enlarged ha (c := .add "b") trivial hadd
  cases hb
  have hr : Reachable _ := ⟨cs ++ [("a", .newTransition (.int 0) (.int 0) (.str "l"))], "a", rfl⟩
  refine ⟨_, _, _, _, c, hlink, rfl, hkept (.inl rfl) _ _ hvs hacc (answered_of_answers fun v hv => ?_), hadd, hc,
    (hsame trivial (by decide) _).trans hacc⟩
  cases List.mem_singleton.1 hv
  have hl : Value.str "l" ≠ .epsilon := by simp
  refine ⟨hl, answers_of_stores fun s hs => ?_⟩
  have hfits := hr.wellFormed.stores s hs
  exact (hfits.sound.query_ok_iff_symbol hfits.kind hl).2 rfl

end GuardedAutomata.Session
