import GuardedAutomata.Automaton.Basic
import Mathlib.Logic.Relation

/-!
# Epsilon closure

The rounds of the closure expand only the states discovered last, and stop after as many rounds as there
are states. They find exactly the states that chains of targets lead to: whatever has been reached before
the last round is expanded already, and every round but the last discovers a state.
-/

set_option autoImplicit false

namespace GuardedAutomata.Automaton

def Leads (next : Nat → List Nat) : Nat → Nat → Prop :=
  Relation.ReflTransGen fun i j => j ∈ next i

theorem Leads.mono {next other : Nat → List Nat} (h : ∀ i, ∀ j ∈ next i, j ∈ other i) {i j : Nat}
    (hl : Leads next i j) : Leads other i j :=
  Relation.ReflTransGen.mono (fun i j => h i j) _ _ hl

/-- Chains of targets among the first states depend on the targets of these only. -/
theorem leads_congr {next other : Nat → List Nat} {i n q : Nat} (hn : ∀ i < n, ∀ j ∈ next i, j < n)
    (h : ∀ i < n, other i = next i) (hi : i < n) : Leads other i q ↔ Leads next i q := by
  have hlt : ∀ {q}, Leads next i q → q < n := by
    intro q hl
    induction hl with
    | refl => exact hi
    | tail _ hq ih => exact hn _ ih _ hq
  constructor
  · intro hl
    induction hl with
    | refl => exact .refl
    | tail _ hq ih => exact .tail ih (h _ (hlt ih) ▸ hq)
  · intro hl
    induction hl with
    | refl => exact .refl
    | tail hl hq ih => exact .tail ih (h _ (hlt hl) ▸ hq)


def ClosedUnder (next : Nat → List Nat) (s : StateSet) : Prop :=
  ∀ i ∈ s, ∀ j ∈ next i, j ∈ s

theorem ClosedUnder.leads {next : Nat → List Nat} {s : StateSet} (h : ClosedUnder next s) {i j : Nat}
    (hi : i ∈ s) (hl : Leads next i j) : j ∈ s := by
  induction hl with
  | refl => exact hi
  | tail _ hj ih => exact h _ ih _ hj

def missing (n : Nat) (reached : StateSet) : Nat :=
  ((List.range n).filter (· ∉ reached)).length

section Rounds

variable {next : Nat → List Nat} {n : Nat} {reached : StateSet} {suspects : List Nat}

def discovered (next : Nat → List Nat) (reached : StateSet) (suspects : List Nat) : List Nat :=
  (suspects.flatMap next).filter (· ∉ reached)

theorem mem_discovered {j : Nat} :
    j ∈ discovered next reached suspects ↔ (∃ i ∈ suspects, j ∈ next i) ∧ j ∉ reached := by
  simp [discovered]

theorem discovered_lt (hn : ∀ i, ∀ j ∈ next i, j < n) :
    ∀ j ∈ discovered next reached suspects, j < n ∧ j ∉ reached := by
  intro j hj
  obtain ⟨⟨i, _, hij⟩, hj⟩ := mem_discovered.1 hj
  exact ⟨hn i j hij, hj⟩

theorem closeRounds_succ (fuel : Nat) :
    closeRounds next (fuel + 1) reached suspects =
      if (discovered next reached suspects).isEmpty then reached
      else closeRounds next fuel (reached.insertAll (discovered next reached suspects))
        (StateSet.ofList (discovered next reached suspects)).ids := rfl

theorem missing_insertAll_lt {found : List Nat} (hne : found ≠ [])
    (hf : ∀ j ∈ found, j < n ∧ j ∉ reached) : missing n (reached.insertAll found) < missing n reached := by
  obtain ⟨j, hj⟩ := List.exists_mem_of_ne_nil found hne
  have hsub : (List.range n).filter (· ∉ reached.insertAll found) =
      ((List.range n).filter (· ∉ reached)).filter (· ∉ reached.insertAll found) := by
    rw [List.filter_filter]
    apply List.filter_congr
    intro i _
    simp [StateSet.mem_insertAll]
  rw [missing, missing, hsub, List.length_filter_lt_length_iff_exists]
  refine ⟨j, ?_, ?_⟩
  · simpa using hf j hj
  · simp [StateSet.mem_insertAll, hj]

theorem mem_closeRounds_of_mem (fuel : Nat) {i : Nat} (hi : i ∈ reached) :
    i ∈ closeRounds next fuel reached suspects := by
  induction fuel generalizing reached suspects with
  | zero => exact hi
  | succ fuel ih =>
    rw [closeRounds_succ]
    split
    · exact hi
    · exact ih (StateSet.mem_insertAll.2 (.inr hi))

theorem leads_of_mem_closeRounds (fuel : Nat) (hs : ∀ i ∈ suspects, i ∈ reached) {q : Nat}
    (hq : q ∈ closeRounds next fuel reached suspects) : ∃ i ∈ reached, Leads next i q := by
  induction fuel generalizing reached suspects with
  | zero => exact ⟨q, hq, .refl⟩
  | succ fuel ih =>
    rw [closeRounds_succ] at hq
    split at hq
    · exact ⟨q, hq, .refl⟩
    · obtain ⟨i, hi, hl⟩ := ih (fun i hi => by
        rw [StateSet.mem_ids, StateSet.mem_ofList] at hi
        exact StateSet.mem_insertAll.2 (.inl hi)) hq
      rcases StateSet.mem_insertAll.1 hi with hi | hi
      · obtain ⟨⟨p, hp, hpi⟩, _⟩ := mem_discovered.1 hi
        exact ⟨p, hs p hp, .head hpi hl⟩
      · exact ⟨i, hi, hl⟩

theorem mem_of_missing_eq_zero (h : missing n reached = 0) {j : Nat} (hj : j < n) : j ∈ reached := by
  have hnone := List.eq_nil_of_length_eq_zero h
  rw [List.filter_eq_nil_iff] at hnone
  simpa using hnone j (List.mem_range.2 hj)

/-- After a round the suspects are expanded, too. -/
theorem expanded_insertAll (hexp : ∀ i ∈ reached, i ∉ suspects → ∀ j ∈ next i, j ∈ reached) :
    ∀ i ∈ reached.insertAll (discovered next reached suspects), i ∉ discovered next reached suspects →
      ∀ j ∈ next i, j ∈ reached.insertAll (discovered next reached suspects) := by
  intro i hi hnew j hj
  rw [StateSet.mem_insertAll] at hi ⊢
  have hold : i ∈ reached := hi.resolve_left hnew
  by_cases hsus : i ∈ suspects
  · by_cases hj' : j ∈ reached
    · exact .inr hj'
    · exact .inl (mem_discovered.2 ⟨⟨i, hsus, hj⟩, hj'⟩)
  · exact .inr (hexp i hold hsus j hj)

/-- The rounds end in a closed set: what is reached and no suspect is expanded already. -/
theorem closedUnder_closeRounds (fuel : Nat) (hn : ∀ i, ∀ j ∈ next i, j < n)
    (hexp : ∀ i ∈ reached, i ∉ suspects → ∀ j ∈ next i, j ∈ reached)
    (hf : missing n reached ≤ fuel) : ClosedUnder next (closeRounds next fuel reached suspects) := by
  induction fuel generalizing reached suspects with
  | zero => exact fun i _ j hj => mem_of_missing_eq_zero (Nat.le_zero.1 hf) (hn i j hj)
  | succ fuel ih =>
    rw [closeRounds_succ]
    split
    next hempty =>
      have hall := expanded_insertAll hexp
      rw [List.isEmpty_iff.1 hempty] at hall
      exact fun i hi => hall i hi List.not_mem_nil
    next hne =>
      have hne : discovered next reached suspects ≠ [] := by simpa using hne
      have hlt := missing_insertAll_lt hne (discovered_lt hn)
      refine ih ?_ (by omega)
      simpa only [StateSet.mem_ids, StateSet.mem_ofList] using expanded_insertAll hexp

end Rounds

section Closure

variable {a : Automaton} {s t : StateSet}

theorem mem_closure_of_mem {i : Nat} (hi : i ∈ s) : i ∈ a.closure s :=
  mem_closeRounds_of_mem _ hi

theorem closedUnder_closure (hn : ∀ i, ∀ j ∈ a.epsilonTargets i, j < a.count) :
    ClosedUnder a.epsilonTargets (a.closure s) := by
  refine closedUnder_closeRounds _ hn (fun i hi hi' => absurd hi hi') ?_
  simpa [missing] using List.length_filter_le (fun i => decide (i ∉ s)) (List.range a.count)

theorem mem_closure (hn : ∀ i, ∀ j ∈ a.epsilonTargets i, j < a.count) {q : Nat} :
    q ∈ a.closure s ↔ ∃ i ∈ s, Leads a.epsilonTargets i q := by
  constructor
  · exact leads_of_mem_closeRounds _ fun i hi => hi
  · rintro ⟨i, hi, hl⟩
    exact (closedUnder_closure hn).leads (mem_closure_of_mem hi) hl

theorem closure_lt (hn : ∀ i, ∀ j ∈ a.epsilonTargets i, j < a.count) (hs : ∀ i ∈ s, i < a.count) :
    ∀ q ∈ a.closure s, q < a.count := by
  intro q hq
  obtain ⟨i, hi, hl⟩ := (mem_closure hn).1 hq
  cases hl with
  | refl => exact hs _ hi
  | tail _ hj => exact hn _ _ hj

theorem closure_congr_targets {b : Automaton} (hcount : b.count = a.count)
    (h : ∀ i, b.epsilonTargets i = a.epsilonTargets i) (s : StateSet) : b.closure s = a.closure s := by
  rw [closure, closure, hcount, funext h]

theorem closure_congr {b : Automaton} (h : b.stores = a.stores) (s : StateSet) : b.closure s = a.closure s :=
  closure_congr_targets (by rw [count, count, h]) (fun i => by rw [epsilonTargets, epsilonTargets, h]) s

theorem closure_eq_self (hn : ∀ i, ∀ j ∈ a.epsilonTargets i, j < a.count)
    (hs : ClosedUnder a.epsilonTargets s) : a.closure s = s := by
  refine StateSet.ext fun q => ⟨fun hq => ?_, mem_closure_of_mem⟩
  obtain ⟨i, hi, hl⟩ := (mem_closure hn).1 hq
  exact hs.leads hi hl

/-- A closure in a part of the graph adds nothing to a closure in the whole. -/
theorem closure_closure {b : Automaton} (ha : ∀ i, ∀ j ∈ a.epsilonTargets i, j < a.count)
    (hb : ∀ i, ∀ j ∈ b.epsilonTargets i, j < b.count)
    (hab : ∀ i, ∀ j ∈ a.epsilonTargets i, j ∈ b.epsilonTargets i) :
    b.closure (a.closure s) = b.closure s := by
  refine StateSet.ext fun q => ?_
  rw [mem_closure hb, mem_closure hb]
  constructor
  · rintro ⟨i, hi, hiq⟩
    obtain ⟨k, hk, hki⟩ := (mem_closure ha).1 hi
    exact ⟨k, hk, (hki.mono hab).trans hiq⟩
  · rintro ⟨i, hi, hiq⟩
    exact ⟨i, mem_closure_of_mem hi, hiq⟩

theorem closure_eq_closure {b : Automaton} (ha : ∀ i, ∀ j ∈ a.epsilonTargets i, j < a.count)
    (hb : ∀ i, ∀ j ∈ b.epsilonTargets i, j < b.count)
    (hab : ∀ i j, j ∈ b.epsilonTargets i ↔ j ∈ a.epsilonTargets i) : b.closure s = a.closure s := by
  refine StateSet.ext fun q => ?_
  rw [mem_closure hb, mem_closure ha]
  constructor
  · rintro ⟨i, hi, hiq⟩
    exact ⟨i, hi, hiq.mono fun i j => (hab i j).1⟩
  · rintro ⟨i, hi, hiq⟩
    exact ⟨i, hi, hiq.mono fun i j => (hab i j).2⟩

end Closure

end GuardedAutomata.Automaton
