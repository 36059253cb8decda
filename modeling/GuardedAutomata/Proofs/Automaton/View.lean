import GuardedAutomata.Proofs.Automaton.Acceptance
import GuardedAutomata.Proofs.Automaton.Access
import GuardedAutomata.Proofs.Store.Merging
import Mathlib

/-!
# Steps and the combined view

A step goes from the frontier to what epsilon edges lead to from the targets of the edges that match. The
same targets are found in the one store that combines the edges of all active states, although it keeps
equal edges of different states only once. Nothing is asked of the frontier, which need not be closed.
-/

set_option autoImplicit false

namespace GuardedAutomata

namespace Automaton

variable {a : Automaton}

/-! ### Combining stores -/

theorem WellFormed.settled (ha : a.WellFormed) {i : Nat} {e : Edge} (he : e ∈ a.edgesOf i) :
    Store.Settled a.factory.storeKind e.guard := by
  unfold edgesOf at he
  cases hs : a.stores[i]? with
  | none => simp [hs] at he
  | some s =>
    rw [hs] at he
    have hfits := ha.fits_of_getElem hs
    rw [← hfits.kind]
    exact hfits.sound.settled e he

theorem WellFormed.gathers_combine (ha : a.WellFormed) {s : Store} {es : List Edge}
    (h : s.Gathers a.factory.storeKind es) (is : List Nat) : ∃ t, a.combine is s = .ok t ∧
      t.Gathers a.factory.storeKind (es ++ is.flatMap a.edgesOf) := by
  induction is generalizing s es with
  | nil => exact ⟨s, rfl, by simpa using h⟩
  | cons i is ih =>
    have hsettled : ∀ e ∈ a.edgesOf i, Store.Settled a.factory.storeKind e.guard := fun e he => ha.settled he
    obtain ⟨t, hall, ht⟩ := h.putAll hsettled
    obtain ⟨u, hcombine, hu⟩ := ih ht
    exact ⟨u, by simp only [combine, hall, hcombine], by simpa using hu⟩

theorem WellFormed.gathers_activeTransitions (ha : a.WellFormed) : ∃ s, a.activeTransitions = .ok s ∧
    s.Gathers a.factory.storeKind (a.active.ids.flatMap a.edgesOf) := by
  obtain ⟨s, hs, h⟩ := ha.gathers_combine (Store.gathers_empty _) a.active.ids
  exact ⟨s, hs, h⟩

variable [TestFunctions]

def Destination (a : Automaton) (v : Value) (t : Nat) : Prop :=
  ∃ i ∈ a.active, ∃ p, ⟨.predicate p, t⟩ ∈ a.edgesOf i ∧ a.factory.storeKind.Matches p v

variable {v : Value}

/-! ### The step -/

/-- A step goes to what epsilon edges lead to from the targets, or is rejected if there are none. -/
theorem WellFormed.step_exact (ha : a.WellFormed) (hk : a.factory.storeKind.BuiltIn) (hv : v ≠ .epsilon)
    (hans : ∀ i ∈ a.active, ∃ ts, a.targetsOf v i = .ok ts) :
    ∃ b r, a.step v = (b, .ok r) ∧ b = { a with active := b.active } ∧
      (r = true ↔ ∃ t, a.Destination v t) ∧
      (r = true → ∀ q, q ∈ b.active ↔
        ∃ t, a.Destination v t ∧ Path a.edgesOf a.factory.storeKind t [] q) ∧
      (r = false → b = a) := by
  obtain ⟨ts, hts⟩ := targetsFrom_ok_iff.2 hans
  have hmem : ∀ t, t ∈ ts ↔ a.Destination v t := fun t => ha.mem_targetsFrom hk hv hts
  cases ts with
  | nil =>
    refine ⟨a, false, by simp [step_of_ne_epsilon hv, advance, hts], rfl, ?_, by simp, fun _ => rfl⟩
    simp [← hmem]
  | cons t ts =>
    refine ⟨{ a with active := a.closure (.ofList (t :: ts)) }, true,
      by simp [step_of_ne_epsilon hv, advance, hts], rfl, ?_, fun _ q => ?_, by simp⟩
    · exact ⟨fun _ => ⟨t, (hmem t).1 List.mem_cons_self⟩, fun _ => rfl⟩
    · simp only [mem_closure ha.epsilonTargets_lt, StateSet.mem_ofList, hmem, ha.path_nil_iff]

/-! ### The view -/

theorem WellFormed.answering (ha : a.WellFormed) {i : Nat} (hi : i ∈ a.active)
    (hans : ∃ ts, a.targetsOf v i = .ok ts) :
    ∃ s, Store.Answering a.factory.storeKind v s ∧ s.edges = a.edgesOf i := by
  obtain ⟨s, hs, hedges, _⟩ := WellFormed.exists_store (ha.active_lt i hi)
  have hfits := ha.fits_of_getElem hs
  simp only [targetsOf, hs] at hans
  exact ⟨s, ⟨hfits.kind, hfits.sound, hans⟩, hedges.symm⟩

/-- The view is asked for a value like the active states, and has their epsilon edges. -/
theorem WellFormed.view_exact (ha : a.WellFormed) (hk : a.factory.storeKind.BuiltIn) (hv : v ≠ .epsilon)
    (hans : ∀ i ∈ a.active, ∃ ts, a.targetsOf v i = .ok ts) (hne : ∃ i, i ∈ a.active) :
    ∃ s ts es, a.activeTransitions = .ok s ∧ s.query v = .ok ts ∧ (∀ t, t ∈ ts ↔ a.Destination v t) ∧
      s.query .epsilon = .ok es ∧ ∀ t, t ∈ es ↔ ∃ i ∈ a.active, ⟨.epsilon, t⟩ ∈ a.edgesOf i := by
  obtain ⟨s, hs, h⟩ := ha.gathers_activeTransitions
  have hsettled : ∀ e ∈ a.active.ids.flatMap a.edgesOf, Store.Settled a.factory.storeKind e.guard := by
    intro e he
    obtain ⟨i, _, hi⟩ := List.mem_flatMap.1 he
    exact ha.settled hi
  have hone : ∃ t, Store.Answering a.factory.storeKind v t := by
    obtain ⟨i, hi⟩ := hne
    obtain ⟨t, ht, _⟩ := ha.answering hi (hans i hi)
    exact ⟨t, ht⟩
  have hall : ∀ e ∈ a.active.ids.flatMap a.edgesOf, ∃ t, Store.Answering a.factory.storeKind v t ∧
      e ∈ t.edges := by
    intro e he
    obtain ⟨i, hi, hie⟩ := List.mem_flatMap.1 he
    obtain ⟨t, ht, hedges⟩ := ha.answering hi (hans i hi)
    exact ⟨t, ht, hedges ▸ hie⟩
  obtain ⟨ts, hts⟩ := (h.answering hv hone hall).query
  refine ⟨s, ts, s.epsilon, hs, hts, fun t => ?_, rfl, fun t => ?_⟩
  · have hbuilt : s.kind.BuiltIn := h.kind ▸ hk
    simp only [h.sound.mem_query hbuilt hv hts, h.kind, ← StoreKind.passes_iff_matches hk,
      h.exists_passing hsettled, Destination, List.mem_flatMap, StateSet.mem_ids]
    grind
  · rw [h.mem_epsilon, List.mem_flatMap]
    exact Iff.rfl

/-- Asking for the view leaves every variable as it was, but for the one that the view is kept in. -/
theorem WellFormed.find_activeTransitions (ha : a.WellFormed) {s : Session} {name : String}
    (hs : s.automaton? name = some a) (keep : Option String) : ∃ t view,
      s.perform name (.activeTransitions keep) = some (t, .ok view) ∧
        ∀ x, keep ≠ some x → t.find? x = s.find? x := by
  obtain ⟨u, hu, _⟩ := ha.gathers_activeTransitions
  cases keep with
  | none =>
    refine ⟨s, .view u.literal u.edges, ?_, fun _ _ => rfl⟩
    simp [Session.perform, Session.activeTransitions, hs, hu]
  | some y =>
    refine ⟨s.assign y (.store u), .view u.literal u.edges, ?_, fun x hx => ?_⟩
    · simp [Session.perform, Session.activeTransitions, hs, hu]
    · have hxy : x ≠ y := fun h => hx (congrArg some h.symm)
      rw [Session.find_assign, if_neg hxy]

/-- On a value that can be looked up in the active states, a step is answered by whether an edge of one of
them matches. If so it leads to what epsilon edges lead to from the targets, and otherwise nowhere; it changes
nothing but the frontier. The view, if there is a state to build it from, has the same targets, the epsilon
edges of the active states, and costs the automaton nothing. -/
theorem step_and_view_exact (ha : a.Reachable) (hk : a.factory.storeKind.BuiltIn) (hv : v ≠ .epsilon)
    (hans : ∀ i ∈ a.active, ∃ ts, a.targetsOf v i = .ok ts) :
    (∃ b r, a.step v = (b, .ok r) ∧ b = { a with active := b.active } ∧
      (r = true ↔ ∃ t, a.Destination v t) ∧
      (r = true → ∀ q, q ∈ b.active ↔
        ∃ t, a.Destination v t ∧ Path a.edgesOf a.factory.storeKind t [] q) ∧
      (r = false → b = a)) ∧
    ((∃ i, i ∈ a.active) →
      ∃ s ts es, a.activeTransitions = .ok s ∧ s.query v = .ok ts ∧ (∀ t, t ∈ ts ↔ a.Destination v t) ∧
        s.query .epsilon = .ok es ∧ ∀ t, t ∈ es ↔ ∃ i ∈ a.active, ⟨.epsilon, t⟩ ∈ a.edgesOf i) ∧
    ∀ s : Session, ∀ name keep, s.automaton? name = some a →
      ∃ t view, s.perform name (.activeTransitions keep) = some (t, .ok view) ∧
        ∀ x, keep ≠ some x → t.find? x = s.find? x :=
  ⟨ha.wellFormed.step_exact hk hv hans, ha.wellFormed.view_exact hk hv hans,
    fun _ _ keep hs => ha.wellFormed.find_activeTransitions hs keep⟩

omit [TestFunctions] in
/-- Two active states have an edge to state 3, one for the number 1 and one for truth, of which the view keeps
the first; the frontier that holds both is not closed. -/
theorem step_and_view_exact_symbols : ∃ a b s ts, @Reachable Matcher.catalogue a ∧
    ¬ ClosedUnder a.epsilonTargets a.active ∧ @step Matcher.catalogue a (.bool true) = (b, .ok true) ∧
    3 ∈ b.active ∧ a.activeTransitions = .ok s ∧ s.edges.length = 2 ∧
    @Store.query Matcher.catalogue s (.bool true) = .ok ts ∧ 3 ∈ ts := by
  let _ := Matcher.catalogue
  let cs : List (String × Command) := [("b", .new (.ofKind .symbol) .null), ("b", .newStates 4),
    ("b", .newTransition (.int 0) (.int 1) .epsilon), ("b", .newTransition (.int 0) (.int 3) (.int 1)),
    ("b", .newTransition (.int 2) (.int 3) (.bool true)), ("b", .setActive (.list [.int 2])),
    ("a", .new (.ofKind .symbol) .null), ("a", .add "b")]
  let first : Store := ⟨.symbol, [⟨.epsilon, 1⟩, ⟨.predicate (.int 1), 3⟩], [1], .groups [(.int 1, [3])]⟩
  let second : Store := ⟨.symbol, [⟨.predicate (.bool true), 3⟩], [], .groups [(.bool true, [3])]⟩
  let a : Automaton :=
    ⟨.null, .ofKind .symbol, [first, .empty .symbol, second, .empty .symbol], [[], [], [], []], .ofList [0, 2]⟩
  have ha : (Session.run cs .empty).automaton? "a" = some a := by cbv
  have hans : ∀ i ∈ a.active, ∃ ts, a.targetsOf (.bool true) i = .ok ts := by
    intro i hi
    rcases List.mem_cons.1 (StateSet.mem_ofList.1 hi) with rfl | hi
    · exact ⟨[3], by cbv⟩
    · cases List.mem_singleton.1 hi
      exact ⟨[3], by cbv⟩
  have hstart : 0 ∈ a.active := by decide
  have hdest : a.Destination (.bool true) 3 := ⟨0, hstart, .int 1, .tail _ (.head _), .equal (by cbv)⟩
  have hopen : ¬ ClosedUnder a.epsilonTargets a.active := fun h => absurd (h 0 hstart 1 (.head _)) (by decide)
  obtain ⟨⟨b, r, hstep, _, hr, hmem, _⟩, hview, _⟩ :=
    step_and_view_exact ⟨cs, "a", ha⟩ (.inl rfl) (v := .bool true) (by simp) hans
  obtain rfl := hr.2 ⟨3, hdest⟩
  obtain ⟨s, ts, _, hs, hquery, hts, _⟩ := hview ⟨0, hstart⟩
  have hmade : a.activeTransitions = .ok first := by cbv
  obtain rfl : first = s := Except.ok.inj (hmade.symm.trans hs)
  exact ⟨a, b, first, ts, ⟨cs, "a", ha⟩, hopen, hstep, (hmem rfl 3).2 ⟨3, hdest, .nil 3⟩, hs, rfl, hquery,
    (hts 3).2 hdest⟩

end Automaton

end GuardedAutomata
