import GuardedAutomata.Proofs.Automaton.Link
import Mathlib

/-!
# Repetition

When the marked states of an automaton are linked back to its start, the automaton can begin again wherever
it accepts. A way through it is cut at the links: up to each of them a word is read from the start to a
marked state, and the last part is read without a link. So the words accepted are those made of one or more
words that were accepted before.
-/

set_option autoImplicit false

namespace GuardedAutomata.Automaton

variable [TestFunctions]

inductive Rounds (a : Automaton) (ends : List Nat) : Nat → List Value → Nat → Prop
  | last {i q : Nat} {w : List Value} : a.Reads i w q → Rounds a ends i w q
  | again {i e q : Nat} {u v : List Value} :
      a.Reads i u e → e ∈ ends → Rounds a ends 0 v q → Rounds a ends i (u ++ v) q

variable {a c : Automaton} {ends : List Nat} {i j q : Nat} {x : Value} {u v w : List Value}

theorem Rounds.epsilon (hj : j ∈ a.epsilonTargets i) (h : a.Rounds ends j w q) : a.Rounds ends i w q := by
  cases h with
  | last h => exact .last (.epsilon hj h)
  | again hu he hv => exact .again (.epsilon hj hu) he hv

theorem Rounds.read (hj : a.Takes x i j) (h : a.Rounds ends j w q) : a.Rounds ends i (x :: w) q := by
  cases h with
  | last h => exact .last (.read hj h)
  | again hu he hv => exact .again (.read hj hu) he hv

section Linked

variable (hc : a.Linked ends 0 c)

include hc

/-- With links to the start a word is read in rounds. -/
theorem Linked.reads_iff_rounds : c.Reads i w q ↔ a.Rounds ends i w q := by
  constructor
  · intro h
    induction h with
    | nil => exact .last (.nil _)
    | epsilon hj _ ih =>
      rcases (hc.mem_epsilonTargets _ _).1 hj with hj | ⟨hi, rfl⟩
      · exact ih.epsilon hj
      · exact .again (.nil _) hi ih
    | read hj _ ih => exact ih.read (hc.takes.1 hj)
  · intro h
    induction h with
    | last h => exact hc.reads_of h
    | again hu he _ ih => exact hc.reads_over hu he ih

theorem Answered.of_first (h : c.Answered (u ++ v)) : a.Answered u := by
  intro m x hx k hk
  have hm : m < u.length := (List.getElem?_eq_some_iff.1 hx).1
  obtain ⟨hne, ts, hts⟩ := h m x (by rwa [List.getElem?_append_left hm]) k
    (by rw [List.take_append_of_le_length (Nat.le_of_lt hm)]; exact hc.reads_of hk)
  exact ⟨hne, ts, by rwa [hc.targetsOf x hne] at hts⟩

theorem Answered.of_rest (h : c.Answered (u ++ v)) (hu : a.Reads 0 u j) (hj : j ∈ ends) : c.Answered v := by
  intro m x hx k hk
  refine h (u.length + m) x ?_ k ?_
  · rwa [List.getElem?_append_right (Nat.le_add_right _ _), Nat.add_sub_cancel_left]
  · rw [List.take_length_add_append]
    exact hc.reads_over hu hj hk

variable (hends : ∀ e, e ∈ ends ↔ a.markersAt e ≠ [])

include hends

omit hc in
theorem Rounds.exists_words (h : a.Rounds ends i w q) (hi : i = 0) (hq : a.markersAt q ≠ []) :
    ∃ us : List (List Value), us ≠ [] ∧ w = us.flatten ∧ ∀ u ∈ us, a.Recognizes u := by
  induction h with
  | @last i q w h =>
    subst hi
    exact ⟨[w], by simp, by simp, by simpa using ⟨q, h, hq⟩⟩
  | @again i e q u v hu he _ ih =>
    subst hi
    obtain ⟨us, _, rfl, hus⟩ := ih rfl hq
    exact ⟨u :: us, by simp, by simp, List.forall_mem_cons.2 ⟨⟨e, hu, (hends e).1 he⟩, hus⟩⟩

theorem Linked.recognizes_flatten {us : List (List Value)} (hne : us ≠ []) (hus : ∀ u ∈ us, a.Recognizes u) :
    c.Recognizes us.flatten := by
  induction us with
  | nil => exact absurd rfl hne
  | cons u us ih =>
    obtain ⟨⟨e, hu, he⟩, hrest⟩ := List.forall_mem_cons.1 hus
    cases us with
    | nil => exact ⟨e, by simpa using hc.reads_of hu, by rwa [hc.markersAt]⟩
    | cons v us =>
      obtain ⟨q, hq, hm⟩ := ih (by simp) hrest
      exact ⟨q, hc.reads_over hu ((hends e).2 he) hq, hm⟩

theorem Linked.recognizes_iff : c.Recognizes w ↔
    ∃ us : List (List Value), us ≠ [] ∧ w = us.flatten ∧ ∀ u ∈ us, a.Recognizes u := by
  constructor
  · rintro ⟨q, hq, hm⟩
    rw [hc.markersAt] at hm
    exact (hc.reads_iff_rounds.1 hq).exists_words hends rfl hm
  · rintro ⟨us, hne, rfl, hus⟩
    exact hc.recognizes_flatten hends hne hus

theorem Linked.answered_of_flatten {us : List (List Value)} (hus : ∀ u ∈ us, a.Recognizes u)
    (h : c.Answered us.flatten) : ∀ u ∈ us, a.Answered u := by
  induction us with
  | nil => simp
  | cons u us ih =>
    obtain ⟨⟨e, hu, he⟩, hrest⟩ := List.forall_mem_cons.1 hus
    have hfirst : a.Answered u := Answered.of_first hc h
    have hthen : c.Answered us.flatten := Answered.of_rest hc h hu ((hends e).2 he)
    exact List.forall_mem_cons.2 ⟨hfirst, ih hrest hthen⟩

end Linked

/-- An automaton whose marked states are linked back to its start accepts a word exactly if the word is made
of one or more words that were accepted before. Nothing fails as long as every value can be looked up. -/
theorem accepts_repetition (ha : a.Reachable) (h0 : 0 < a.count) (hends : ends.Perm a.marked.ids) :
    ∃ c, linkAll 0 ends a = (c, .ok ()) ∧ ∀ values w, values.elements = .ok w →
      ((∀ v ∈ w, v ≠ .epsilon ∧ c.Answers v) → ∃ r, (c.accepts values).2 = .ok r) ∧
      ∀ r, (c.accepts values).2 = .ok r → (r = true ↔ ∃ us : List (List Value), us ≠ [] ∧
        w = us.flatten ∧ ∀ u ∈ us, (a.accepts (.list u)).2 = .ok true) := by
  have ha := ha.wellFormed
  have hmarked : ∀ i, i ∈ ends ↔ a.markersAt i ≠ [] := fun i => by
    rw [hends.mem_iff, StateSet.mem_ids, mem_marked, and_iff_right_iff_imp]
    exact ha.lt_count_of_markersAt
  have hlt : ∀ i ∈ ends, i < a.count := fun i hi => ha.lt_count_of_markersAt ((hmarked i).1 hi)
  obtain ⟨c, hrun, hc⟩ := linked_linkAll ha h0 hlt
  have hcount : 0 < c.count := by rwa [hc.count]
  refine ⟨c, hrun, fun values w hvs => ⟨fun hans => ?_, fun r hr => ?_⟩⟩
  · exact (accepts_ok_iff hc.wellFormed hcount hvs).2 (answered_of_answers hans)
  · obtain ⟨hans, hrec⟩ := recognizes_of_accepts hc.wellFormed hcount hvs hr
    rw [hrec, hc.recognizes_iff hmarked]
    constructor
    · rintro ⟨us, hne, rfl, hus⟩
      have hall := hc.answered_of_flatten hmarked hus hans
      exact ⟨us, hne, rfl, fun u hu => (accepts_eq_true_iff ha h0 rfl).2 ⟨hall u hu, hus u hu⟩⟩
    · rintro ⟨us, hne, rfl, hus⟩
      exact ⟨us, hne, rfl, fun u hu => ((accepts_eq_true_iff ha h0 rfl).1 (hus u hu)).2⟩

omit [TestFunctions] in
/-- Two words, each a digit before a letter, are accepted in a row, by going back from a state that has a loop. -/
theorem accepts_repetition_digits : ∃ a : Automaton, @Reachable Matcher.catalogue a ∧
    (@accepts Matcher.catalogue a (.list [.str "1", .str "x", .str "2", .str "y"])).2 = .ok false ∧
      ∃ c, linkAll 0 [1] a = (c, .ok ()) ∧ ∃ us : List (List Value), us ≠ [] ∧
        [.str "1", .str "x", .str "2", .str "y"] = us.flatten ∧
          ∀ u ∈ us, (@accepts Matcher.catalogue a (.list u)).2 = .ok true := by
  let _ := Matcher.catalogue
  let cs : List (String × Command) := [("a", .new (.ofKind .callable) .null), ("a", .newStates 2),
    ("a", .newTransition (.int 0) (.int 0) (.function Matcher.digit)),
    ("a", .newTransition (.int 0) (.int 1) (.function Matcher.lower)),
    ("a", .newTransition (.int 1) (.int 1) (.function Matcher.lower)), ("a", .mark (.int 1) .null)]
  let a : Automaton := ⟨.null, .ofKind .callable, [⟨.callable, [⟨.predicate (.function Matcher.digit), 0⟩,
    ⟨.predicate (.function Matcher.lower), 1⟩], [], .entries [(.function Matcher.digit, 0),
    (.function Matcher.lower, 1)]⟩, ⟨.callable, [⟨.predicate (.function Matcher.lower), 1⟩], [],
    .entries [(.function Matcher.lower, 1)]⟩], [[], [.null]], .ofList [0]⟩
  have ha : (Session.run cs .empty).automaton? "a" = some a := by cbv
  obtain ⟨c, hc, hacc⟩ := accepts_repetition ⟨cs, "a", ha⟩ (by decide) (.refl [1])
  have hword : (Value.list [.str "1", .str "x", .str "2", .str "y"]).elements = .ok _ := rfl
  have hno : (a.accepts (.list [.str "1", .str "x", .str "2", .str "y"])).2 = .ok false := by cbv
  have hyes : ((linkAll 0 [1] a).1.accepts (.list [.str "1", .str "x", .str "2", .str "y"])).2 = .ok true := by
    cbv
  rw [hc] at hyes
  exact ⟨a, ⟨cs, "a", ha⟩, hno, c, hc, ((hacc _ _ hword).2 true hyes).1 rfl⟩

end GuardedAutomata.Automaton
