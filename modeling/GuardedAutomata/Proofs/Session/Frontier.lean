import GuardedAutomata.Proofs.Session.Run

/-!
# Closed frontiers

A frontier is closed when it holds the targets of the epsilon edges of its members. Every command keeps all
frontiers closed but one: adding an automaton to one without states makes state 0 active, which the added
automaton may have left, and then its epsilon edges lead out of the joined frontier.
-/

set_option autoImplicit false

namespace GuardedAutomata

theorem Store.epsilon_put_predicate {s t : Store} {p : Value} {target : Nat}
    (h : s.put (.predicate p) target = .ok t) : t.epsilon = s.epsilon := by
  obtain ⟨g, hg, _, rfl⟩ := put_eq_ok h
  split
  · rfl
  · cases g with
    | predicate q => rfl
    | epsilon =>
      simp only [coerceGuard] at hg
      split at hg <;> cases hg

namespace Automaton

def Closed (a : Automaton) : Prop :=
  ∀ i ∈ a.active, ∀ j, ⟨.epsilon, j⟩ ∈ a.edgesOf i → j ∈ a.active

variable {a b : Automaton}

theorem WellFormed.closed_iff (ha : a.WellFormed) : a.Closed ↔ ClosedUnder a.epsilonTargets a.active := by
  constructor
  · intro h i hi j hj
    exact h i hi j (ha.mem_epsilonTargets.1 hj)
  · intro h i hi j hj
    exact h i hi j (ha.mem_epsilonTargets.2 hj)

/-! ### One automaton -/

theorem closed_new (f : Factory) (name : Value) : (new f name).Closed :=
  fun i hi => absurd hi (StateSet.not_mem_empty i)

theorem WellFormed.closed_reset (ha : a.WellFormed) : a.reset.Closed := by
  have hr := ha.closedUnder_reset
  rw [(ha.moved (moved_reset a)).closed_iff]
  rw [reset_eq]
  exact hr

theorem closed_ofDict {v : Value} (h : ofDict v = .ok a) : a.Closed := by
  unfold ofDict at h
  split at h
  · cases h
  · unfold Definition.build at h
    split at h
    · cases h
    next b hb =>
      cases h
      exact (kept_wellFormed.buildWith hb).closed_reset

theorem Closed.newState (h : a.Closed) : a.newState.1.Closed := by
  intro i hi j hj
  rw [edgesOf_newState] at hj
  simp only [Automaton.newState] at hi ⊢
  split at hi
  next h0 =>
    have hnone : a.edgesOf i = [] := by
      simp [edgesOf, List.eq_nil_of_length_eq_zero h0]
    rw [hnone] at hj
    cases hj
  next h0 =>
    rw [if_neg h0]
    exact h i hi j hj

theorem Closed.grow (h : a.Closed) (n : Nat) : (grow n a).Closed := by
  induction n generalizing a with
  | zero => exact h
  | succ n ih => exact ih h.newState

theorem epsilonTargets_putEdge {i j : Nat} {p : Value} (h : a.putEdge i (.predicate p) j = .ok b) (k : Nat) :
    b.epsilonTargets k = a.epsilonTargets k := by
  obtain ⟨s, t, hs, ht, rfl⟩ := putEdge_eq_ok h
  by_cases hik : i = k
  · subst hik
    have hi := (List.getElem?_eq_some_iff.1 hs).1
    simp [epsilonTargets, hs, List.getElem?_set_self hi, Store.epsilon_put_predicate ht]
  · simp [epsilonTargets, List.getElem?_set_ne hik]

theorem Closed.step (ha : a.WellFormed) (h : a.Closed) (hs : Step a b) : b.Closed := by
  have hb := ha.step hs
  cases hs with
  | moved hm =>
    cases hm with
    | stay => exact h
    | close s hs => exact hb.closed_iff.2 (closedUnder_closure ha.epsilonTargets_lt)
  | grown n => exact h.grow n
  | linked _ hp =>
    have hactive : b.active = a.active := by
      obtain ⟨_, _, _, _, rfl⟩ := putEdge_eq_ok hp
      rfl
    intro i hi j hj
    rw [← hb.mem_epsilonTargets, epsilonTargets_putEdge hp, ha.mem_epsilonTargets] at hj
    rw [hactive] at hi ⊢
    exact h i hi j hj
  | joined hj hp => exact hb.closed_iff.2 (closedUnder_closure (ha.putEdge hj hp).epsilonTargets_lt)
  | marked => exact h
  | unmarked => exact h
  | renamed => exact h

/-! ### Two automata -/

theorem mem_epsilon_spliced_right {i k : Nat} : ⟨.epsilon, k⟩ ∈ (spliced a b).edgesOf (a.count + i) ↔
    ∃ j, ⟨.epsilon, j⟩ ∈ b.edgesOf i ∧ j + a.count = k := by
  rw [edgesOf_spliced_right, List.mem_map]
  constructor
  · rintro ⟨⟨g, j⟩, hj, he⟩
    cases he
    exact ⟨j, hj, rfl⟩
  · rintro ⟨j, hj, rfl⟩
    exact ⟨_, hj, rfl⟩

/-- The joined frontier is closed unless it holds a state 0 that the second automaton has left. -/
theorem closed_spliced_iff (ha : a.WellFormed) (hca : a.Closed) (hcb : b.Closed) :
    (spliced a b).Closed ↔
      0 < a.count ∨ ∀ j, ⟨.epsilon, j⟩ ∈ b.edgesOf 0 → j ∈ b.active ∨ j = 0 := by
  constructor
  · intro h
    rcases Nat.eq_zero_or_pos a.count with h0 | h0
    · refine .inr fun j hj => ?_
      have hstart : 0 ∈ (spliced a b).active := mem_active_spliced.2 (.inr (.inr ⟨h0, rfl⟩))
      have hedge : ⟨.epsilon, j⟩ ∈ (spliced a b).edgesOf 0 := by
        have he := (mem_epsilon_spliced_right (a := a)).2 ⟨j, hj, rfl⟩
        simpa [h0] using he
      rcases mem_active_spliced.1 (h 0 hstart j hedge) with hj | ⟨i, hi, rfl⟩ | ⟨_, rfl⟩
      · have := ha.active_lt j hj
        omega
      · rw [h0]
        exact .inl hi
      · exact .inr rfl
    · exact .inl h0
  · intro h i hi k hk
    apply mem_active_spliced.2
    rcases mem_active_spliced.1 hi with hi | ⟨l, hl, rfl⟩ | ⟨h0, rfl⟩
    · rw [edgesOf_spliced_left (ha.active_lt i hi)] at hk
      exact .inl (hca i hi k hk)
    · rw [Nat.add_comm] at hk
      obtain ⟨j, hj, rfl⟩ := mem_epsilon_spliced_right.1 hk
      exact .inr (.inl ⟨j, hcb l hl j hj, rfl⟩)
    · have hk : ⟨.epsilon, k⟩ ∈ (spliced a b).edgesOf (a.count + 0) := by simpa [h0] using hk
      obtain ⟨j, hj, rfl⟩ := mem_epsilon_spliced_right.1 hk
      rcases h.resolve_left (by omega) j hj with hj | rfl
      · exact .inr (.inl ⟨j, hj, rfl⟩)
      · exact .inr (.inr ⟨h0, by omega⟩)

theorem closed_add_iff (ha : a.WellFormed) (hb : b.WellFormed) (hf : a.factory = b.factory)
    (hca : a.Closed) (hcb : b.Closed) : (a.add b).1.Closed ↔
      0 < a.count ∨ b.count = 0 ∨ ∀ j, ⟨.epsilon, j⟩ ∈ b.edgesOf 0 → j ∈ b.active ∨ j = 0 := by
  rcases add_cases ha hb with ⟨h, h0⟩ | ⟨_, h0, h⟩
  · rw [h]
    exact ⟨fun _ => .inr (.inl (h0 hf)), fun _ => hca⟩
  · rw [h, closed_spliced_iff ha hca hcb]
    have : b.count ≠ 0 := Nat.ne_of_gt h0
    simp [this]

theorem Closed.add (ha : a.WellFormed) (hb : b.WellFormed) (hca : a.Closed) (hcb : b.Closed)
    (hstart : a.factory = b.factory → a.count = 0 → 0 < b.count → 0 ∈ b.active) : (a.add b).1.Closed := by
  rcases add_cases ha hb with ⟨h, _⟩ | ⟨hf, h0, h⟩
  · rw [h]
    exact hca
  · rw [h, closed_spliced_iff ha hca hcb]
    rcases Nat.eq_zero_or_pos a.count with hn | hn
    · exact .inr fun j hj => .inl (hcb 0 (hstart hf hn h0) j hj)
    · exact .inl hn

end Automaton

namespace Session

open Automaton

variable {s t : Session} {name : String} {c : Command}

def StartsActive (s : Session) (name : String) : Command → Prop
  | .add other => ∀ a b, s.automaton? name = some a → s.automaton? other = some b →
      a.factory = b.factory → a.count = 0 → 0 < b.count → 0 ∈ b.active
  | _ => True

theorem AllHeld.closed_arises (hw : AllHeld WellFormed s) (hs : AllHeld Closed s)
    (hc : StartsActive s name c) {a : Automaton} (ha : Arises s name c a) : a.Closed := by
  cases ha with
  | held hx => exact hs _ _ hx
  | new f => exact closed_new f _
  | read hd => exact closed_ofDict hd
  | step hx h => exact (hs _ _ hx).step (hw _ _ hx) h
  | added _ hx hy => exact (hs _ _ hx).add (hw _ _ hx) (hw _ _ hy) (hs _ _ hy) (hc _ _ hx hy)

variable [TestFunctions]

theorem closed_run {cs : List (String × Command)} (hp : Throughout StartsActive cs .empty) :
    AllHeld Closed (run cs .empty) := by
  have h : AllHeld (fun a => a.WellFormed ∧ a.Closed) (run cs .empty) := by
    -- Closing needs targets to be states, so being well-formed is carried along.
    refine AllHeld.run (fun hs hc hperform => ?_) (allHeld_empty _) hp
    have hw : AllHeld WellFormed _ := fun x a hx => (hs x a hx).1
    intro x a hx
    refine ⟨hw.perform kept_wellFormed hperform x a hx, ?_⟩
    exact hw.closed_arises (fun x a hx => (hs x a hx).2) hc (arises_of_perform hw hperform x a hx)
  exact fun x a hx => (h x a hx).2

/-- All frontiers stay closed in a run that adds automata to ones without states only while their start
states are active. Adding once keeps a frontier closed exactly if there were states already, none are
added, or the epsilon edges of the added start state lead to active states or back to it. -/
theorem closed_run_and_add :
    (∀ cs, Throughout StartsActive cs .empty → AllHeld Closed (run cs .empty)) ∧
      ∀ a b : Automaton, a.Reachable → b.Reachable → a.factory = b.factory → a.Closed → b.Closed →
        ((a.add b).1.Closed ↔
          0 < a.count ∨ b.count = 0 ∨ ∀ j, ⟨.epsilon, j⟩ ∈ b.edgesOf 0 → j ∈ b.active ∨ j = 0) :=
  ⟨fun _ => closed_run, fun _ _ ha hb hf => closed_add_iff ha.wellFormed hb.wellFormed hf⟩

omit [TestFunctions] in
/-- A start state that has been left is active again in the copy; what its epsilon edge leads to is not. -/
theorem closed_run_and_add_left : ∃ a b : Automaton, @Reachable Matcher.catalogue a ∧
    @Reachable Matcher.catalogue b ∧ a.Closed ∧ b.Closed ∧ ¬ (a.add b).1.Closed := by
  let _ := Matcher.catalogue
  let cs : List (String × Command) := [("a", .new (.ofKind .symbol) .null),
    ("b", .new (.ofKind .symbol) .null), ("b", .newStates 3),
    ("b", .newTransition (.int 0) (.int 1) .epsilon), ("c", .new (.ofKind .symbol) .null),
    ("c", .add "b"), ("b", .setActive (.list [.int 2]))]
  have hp : Throughout StartsActive cs .empty := by
    refine ⟨trivial, trivial, trivial, trivial, trivial, ?_, trivial, trivial⟩
    intro c b hc hb _ _ _
    cases hc
    cases hb
    decide
  have ha : (run cs .empty).automaton? "a" = some _ := rfl
  have hb : (run cs .empty).automaton? "b" = some _ := rfl
  have hca := closed_run_and_add.1 cs hp _ _ ha
  have hcb := closed_run_and_add.1 cs hp _ _ hb
  refine ⟨_, _, ⟨cs, "a", ha⟩, ⟨cs, "b", hb⟩, hca, hcb, ?_⟩
  rw [closed_run_and_add.2 _ _ ⟨cs, "a", ha⟩ ⟨cs, "b", hb⟩ rfl hca hcb]
  rintro (h | h | h)
  · exact absurd h (by decide)
  · exact absurd h (by decide)
  · exact absurd (h 1 (.head _)) (by decide)

end Session

end GuardedAutomata
