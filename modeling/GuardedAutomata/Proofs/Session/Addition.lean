import GuardedAutomata.Proofs.Automaton.Union
import GuardedAutomata.Proofs.Session.Run

/-!
# Adding one variable's automaton to another's

The automaton that is added stays as it is, and the other one becomes the two of them side by side.
-/

set_option autoImplicit false

namespace GuardedAutomata.Session

open Automaton

variable [TestFunctions]

theorem perform_add_eq {s : Session} {x y : String} {a b : Automaton} (hxy : x ≠ y) (ha : a.WellFormed)
    (hb : b.WellFormed) (hx : s.automaton? x = some a) (hy : s.automaton? y = some b)
    (hf : a.factory = b.factory) (h0 : 0 < b.count) : s.perform x (.add y) =
      some (s.assign x (.automaton (spliced a b)), .ok (.entry (some a.count))) := by
  have hadd : s.add x y = some (s.keep x (answering .entry (a.add b))) := by
    simp [add, hx, hy, hxy]
  rw [perform, hadd, add_eq ha hb hf h0]
  rfl

/-- Adding an automaton with states and the same factory to another one succeeds and answers the first new
state. States, edges and markers are kept, those added stand behind them with their targets raised, and
the frontiers are joined; no other variable changes. What follows a set of states after a value is told
by each block for itself. -/
theorem add_disjoint_union {cs : List (String × Command)} {x y : String} {a b : Automaton} (hxy : x ≠ y)
    (hx : (run cs .empty).automaton? x = some a) (hy : (run cs .empty).automaton? y = some b)
    (hf : a.factory = b.factory) (h0 : 0 < b.count) :
    ∃ t c, (run cs .empty).perform x (.add y) = some (t, .ok (.entry (some a.count))) ∧
      t.automaton? x = some c ∧ (∀ z, z ≠ x → t.find? z = (run cs .empty).find? z) ∧
      c.count = a.count + b.count ∧
      (∀ i < a.count, c.edgesOf i = a.edgesOf i ∧ c.markersAt i = a.markersAt i) ∧
      (∀ j < b.count,
        c.edgesOf (a.count + j) = (b.edgesOf j).map (fun e => ⟨e.guard, e.target + a.count⟩) ∧
        c.markersAt (a.count + j) = b.markersAt j) ∧
      (∀ i, i ∈ c.active ↔
        i ∈ a.active ∨ (∃ j ∈ b.active, j + a.count = i) ∨ a.count = 0 ∧ i = 0) ∧
      ∀ v s u p q, (∀ i ∈ s, i < a.count) → a.successors v s = .ok p → b.successors v u = .ok q →
        c.successors v (s.union (u.shift a.count)) = .ok (p.union (q.shift a.count)) := by
  have ha : a.WellFormed := Reachable.wellFormed ⟨cs, x, hx⟩
  have hb : b.WellFormed := Reachable.wellFormed ⟨cs, y, hy⟩
  refine ⟨_, spliced a b, perform_add_eq hxy ha hb hx hy hf h0, automaton_assign_self _ _ _, ?_,
    count_spliced a b, ?_, ?_, fun _ => mem_active_spliced, ?_⟩
  · intro z hz
    rw [find_assign, if_neg hz]
  · intro i hi
    exact ⟨edgesOf_spliced_left hi, markersAt_spliced_left ha hi⟩
  · intro j _
    exact ⟨edgesOf_spliced_right a b j, markersAt_spliced_right ha b j⟩
  · intro v s u p q hs hp hq
    exact successors_spliced ha hb (ha.spliced hb hf h0) hs hp hq

omit [TestFunctions] in
/-- The epsilon edge of the added block is followed there, and the loop of the other block in its own. -/
theorem add_disjoint_union_loop : ∃ s t : Session, ∃ c,
    @perform Matcher.catalogue s "a" (.add "b") = some (t, .ok (.entry (some 1))) ∧
      t.automaton? "a" = some c ∧ c.count = 3 ∧
      @successors Matcher.catalogue c (.str "x") (.ofList [0, 1]) = .ok (.ofList [0, 1, 2]) := by
  let _ := Matcher.catalogue
  let cs : List (String × Command) := [("a", .new (.ofKind .callable) .null), ("a", .newState),
    ("a", .newTransition (.int 0) (.int 0) (.function Matcher.always)), ("b", .new (.ofKind .callable) .null),
    ("b", .newStates 2), ("b", .newTransition (.int 0) (.int 1) (.function Matcher.always)),
    ("b", .newTransition (.int 1) (.int 0) .epsilon)]
  have ha : (run cs .empty).automaton? "a" = some _ := rfl
  have hb : (run cs .empty).automaton? "b" = some _ := rfl
  obtain ⟨t, c, hperform, hc, _, hcount, _, _, _, hsucc⟩ :=
    add_disjoint_union (by decide) ha hb rfl (by decide)
  have hnext := hsucc (.str "x") (.ofList [0]) (.ofList [0]) (.ofList [0]) (.ofList [0, 1])
    (by decide) rfl rfl
  exact ⟨_, t, c, hperform, hc, hcount, hnext⟩

end GuardedAutomata.Session
