import GuardedAutomata.Proofs.Automaton.Marker
import GuardedAutomata.Proofs.Automaton.Reading
import GuardedAutomata.Proofs.Session.Frontier
import Mathlib

/-!
# Feeding in parts

Feeding goes on where it stopped: a word that is consumed whole can be fed in two parts, a word that is rejected
is rejected at the same value whatever follows it, and a value that cannot be looked up fails with the frontier
that the values before it led to. What has been consumed is the longest part of the word that some path from
the frontier reads.
-/

set_option autoImplicit false

namespace GuardedAutomata

def Feed.behind (n : Nat) (r : Feed) : Feed :=
  { r with consumed := n + r.consumed }

namespace Automaton

variable [TestFunctions] {a b : Automaton} {s : StateSet} {u v w : List Value} {c : Nat} {r : Feed}

/-! ### Where feeding stops -/

theorem feedFrom_eq (c : Nat) (w : List Value) (a : Automaton) :
    feedFrom c w a = ((feedFrom 0 w a).1, (feedFrom 0 w a).2.map (Feed.behind c)) := by
  -- The count is generalised, as both sides go on from a higher one.
  induction w generalizing c a with
  | nil => simp [feedFrom, Except.map, Feed.behind]
  | cons x w ih =>
    unfold feedFrom
    rcases a.step x with ⟨b, f | advanced⟩
    · rfl
    · cases advanced with
      | false => rfl
      | true =>
        simp only
        rw [ih (c + 1), ih (0 + 1)]
        cases (feedFrom 0 w b).2 <;> simp [Except.map, Feed.behind, Nat.add_assoc]

/-- What is consumed whole can be followed by more. -/
theorem feedFrom_append (h : feedFrom c u a = (b, .ok r)) (hr : r.completed = true) (v : List Value) :
    feedFrom c (u ++ v) a = feedFrom r.consumed v b := by
  induction u generalizing c a with
  | nil =>
    cases h
    rfl
  | cons x u ih =>
    rw [feedFrom] at h
    split at h
    · cases h
    next d hd =>
      rw [List.cons_append, feedFrom, hd]
      exact ih h
    · cases h
      cases hr

/-- A word is rejected at one of its values, whatever follows this value. -/
theorem feedFrom_stops (h : feedFrom c w a = (b, .ok r)) (hr : r.completed = false) :
    ∃ u x v, w = u ++ x :: v ∧ r.consumed = c + u.length ∧
      ∀ rest, feedFrom c (u ++ x :: rest) a = (b, .ok r) := by
  induction w generalizing c a with
  | nil =>
    cases h
    cases hr
  | cons x w ih =>
    rw [feedFrom] at h
    split at h
    · cases h
    next d hd =>
      obtain ⟨u, y, v, rfl, hconsumed, hrest⟩ := ih h
      refine ⟨x :: u, y, v, rfl, ?_, fun rest => ?_⟩
      · rw [hconsumed, List.length_cons]
        omega
      · rw [List.cons_append, feedFrom, hd]
        exact hrest rest
    next d hd =>
      cases h
      refine ⟨[], x, w, rfl, rfl, fun rest => ?_⟩
      rw [List.nil_append, feedFrom, hd]

/-- Words that agree as far as the value where one is rejected are rejected alike. -/
theorem feedFrom_of_take (h : feedFrom c w a = (b, .ok r)) (hr : r.completed = false)
    (ht : v.take (r.consumed - c + 1) = w.take (r.consumed - c + 1)) : feedFrom c v a = (b, .ok r) := by
  obtain ⟨u, x, rest, rfl, hconsumed, hall⟩ := feedFrom_stops h hr
  have hlen : r.consumed - c + 1 = (u ++ [x]).length := by
    rw [List.length_append, List.length_singleton]
    omega
  have hsplit : u ++ x :: rest = (u ++ [x]) ++ rest := by simp
  rw [hlen, hsplit, List.take_left] at ht
  have hv : v = u ++ x :: v.drop (u ++ [x]).length := by
    conv => lhs; rw [← v.take_append_drop (u ++ [x]).length, ht]
    simp
  rw [hv]
  exact hall _

/-! ### Where feeding fails -/

theorem exists_of_targetsFrom_error {x : Value} {is : List Nat} {cause : Fault}
    (h : a.targetsFrom x is = .error cause) : ∃ i ∈ is, a.targetsOf x i = .error cause := by
  induction is with
  | nil => cases h
  | cons i is ih =>
    rw [targetsFrom] at h
    split at h
    next failed hi =>
      cases h
      exact ⟨i, List.mem_cons_self, hi⟩
    · split at h
      next failed his =>
        cases h
        obtain ⟨j, hj, hfailed⟩ := ih his
        exact ⟨j, List.mem_cons_of_mem _ hj, hfailed⟩
      · cases h

/-- A value that an active state cannot look up makes feeding fail where it stands. -/
theorem feedFrom_fails {x : Value} (hx : x ≠ .epsilon)
    (h : ∃ i ∈ a.active, ∃ cause, a.targetsOf x i = .error cause) (rest : List Value) :
    ∃ i ∈ a.active, ∃ cause, a.targetsOf x i = .error cause ∧
      feedFrom c (x :: rest) a = (a, .error (.fault cause)) := by
  cases hts : a.targetsFrom x a.active.ids with
  | error cause =>
    obtain ⟨i, hi, hcause⟩ := exists_of_targetsFrom_error hts
    exact ⟨i, hi, cause, hcause, feedFrom_error hx hts⟩
  | ok ts =>
    obtain ⟨i, hi, cause, hcause⟩ := h
    obtain ⟨us, hus⟩ := targetsFrom_ok_iff.1 ⟨ts, hts⟩ i hi
    rw [hcause] at hus
    cases hus

/-- Feeding fails only at such a value, with the frontier that the values before it led to. -/
theorem exists_of_feedFrom_failed {f : Failure} (h : feedFrom c w a = (b, .error f)) :
    ∃ u x rest r, w = u ++ x :: rest ∧ feedFrom c u a = (b, .ok r) ∧ r.completed = true ∧
      (x = .epsilon ∧ f = .epsilonInput ∨
        ∃ i ∈ b.active, ∃ cause, b.targetsOf x i = .error cause ∧ f = .fault cause) := by
  induction w generalizing c a with
  | nil => cases h
  | cons x w ih =>
    by_cases hx : x = .epsilon
    · subst hx
      cases h
      exact ⟨[], .epsilon, w, _, rfl, rfl, rfl, .inl ⟨rfl, rfl⟩⟩
    cases hts : a.targetsFrom x a.active.ids with
    | error cause =>
      rw [feedFrom_error hx hts] at h
      cases h
      obtain ⟨i, hi, hcause⟩ := exists_of_targetsFrom_error hts
      exact ⟨[], x, w, _, rfl, rfl, rfl, .inr ⟨i, hi, cause, hcause, rfl⟩⟩
    | ok ts =>
      cases ts with
      | nil =>
        rw [feedFrom_rejected hx hts] at h
        cases h
      | cons t ts =>
        rw [feedFrom_advanced hx hts] at h
        obtain ⟨u, y, rest, r, rfl, hu, hr, hfailed⟩ := ih h
        refine ⟨x :: u, y, rest, r, rfl, ?_, hr, hfailed⟩
        rw [feedFrom_advanced hx hts, hu]

/-! ### What is read -/

def AnswersAlong (a : Automaton) (w : List Value) : Prop :=
  ∀ m x, w[m]? = some x → (m = 0 ∨ ∃ k, a.ReadsFrom a.active (w.take m) k) →
    x ≠ .epsilon ∧ ∀ k, a.ReadsFrom a.active (w.take m) k → ∃ ts, a.targetsOf x k = .ok ts

section Inactive

/-! Without active states nothing is read, and the first value is rejected unless it is epsilon. -/

variable (hs : ∀ i, i ∉ a.active)

include hs

theorem not_readsFrom {k : Nat} : ¬ a.ReadsFrom a.active w k := by
  rintro ⟨i, hi, _⟩
  exact hs i hi

theorem feedFrom_inactive {x : Value} (hx : x ≠ .epsilon) (rest : List Value) :
    feedFrom c (x :: rest) a = (a, .ok ⟨c, false, a.currentMarkers⟩) := by
  have hids : a.active.ids = [] := List.eq_nil_iff_forall_not_mem.2 hs
  have hts : a.targetsFrom x a.active.ids = .ok [] := by
    rw [hids]
    rfl
  exact feedFrom_rejected hx hts

theorem answersAlong_inactive {x : Value} {rest : List Value} : a.AnswersAlong (x :: rest) ↔ x ≠ .epsilon := by
  constructor
  · intro h
    exact (h 0 x rfl (.inl rfl)).1
  · intro hx m y hy hreached
    rcases hreached with rfl | ⟨k, hk⟩
    · cases hy
      exact ⟨hx, fun k hk => absurd hk (not_readsFrom hs)⟩
    · exact absurd hk (not_readsFrom hs)

end Inactive

theorem answersAlong_nil : a.AnswersAlong [] := by
  intro m x hx
  cases hx

theorem answersAlong_active (hne : ∃ i, i ∈ a.active) : a.AnswersAlong w ↔ a.AnswersFrom a.active w := by
  obtain ⟨i, hi⟩ := hne
  constructor
  · intro h m x hx k hk
    obtain ⟨hepsilon, hall⟩ := h m x hx (.inr ⟨k, hk⟩)
    exact ⟨hepsilon, hall k hk⟩
  · intro h m x hx hreached
    obtain ⟨k, hk⟩ : ∃ k, a.ReadsFrom a.active (w.take m) k := by
      rcases hreached with rfl | hk
      · exact ⟨i, i, hi, .nil i⟩
      · exact hk
    exact ⟨(h m x hx k hk).1, fun k hk => (h m x hx k hk).2⟩

/-- Feeding gives an answer exactly if whatever is looked up does. -/
theorem feedFrom_ok_iff_along (ha : a.WellFormed) (hs : ClosedUnder a.epsilonTargets a.active) :
    (∃ r, (feedFrom c w a).2 = .ok r) ↔ a.AnswersAlong w := by
  by_cases hne : ∃ i, i ∈ a.active
  · rw [feedFrom_ok_iff ha hs hne, answersAlong_active hne]
  · have hnone : ∀ i, i ∉ a.active := fun i hi => hne ⟨i, hi⟩
    cases w with
    | nil => exact ⟨fun _ => answersAlong_nil, fun _ => ⟨_, rfl⟩⟩
    | cons x w =>
      rw [answersAlong_inactive hnone]
      constructor
      · rintro ⟨r, hr⟩ rfl
        cases hr
      · intro hx
        rw [feedFrom_inactive hnone hx]
        exact ⟨_, rfl⟩

/-- Along a word whose look-ups are answered, steps are taken by recorded edges that match. -/
theorem WellFormed.readsFrom_iff_path (ha : a.WellFormed) (hk : a.factory.storeKind.BuiltIn)
    (hs : ClosedUnder a.epsilonTargets s) (h : a.AnswersFrom s w) {k : Nat} :
    a.ReadsFrom s w k ↔ ∃ i ∈ s, Path a.edgesOf a.factory.storeKind i w k := by
  induction w generalizing s with
  | nil =>
    rw [readsFrom_nil hs]
    constructor
    · exact fun hk => ⟨k, hk, .nil k⟩
    · rintro ⟨i, hi, hp⟩
      exact ha.mem_of_path_nil hs hi hp rfl
  | cons x w ih =>
    by_cases hne : ∃ i, i ∈ s
    · obtain ⟨i, hi⟩ := hne
      have hfirst : ∀ j ∈ s, x ≠ .epsilon ∧ ∃ ts, a.targetsOf x j = .ok ts :=
        fun j hj => h 0 x rfl j ⟨j, hj, .nil j⟩
      have hx : x ≠ .epsilon := (hfirst i hi).1
      obtain ⟨ts, hts⟩ : ∃ ts, a.targetsFrom x s.ids = .ok ts :=
        targetsFrom_ok_iff.2 fun j hj => (hfirst j hj).2
      have hrest := (answersFrom_cons ha hs hx hts).1 h
      rw [ha.readsFrom_cons hs hx hts, ih (closedUnder_closure ha.epsilonTargets_lt) hrest]
      constructor
      · rintro ⟨j, hj, hp⟩
        obtain ⟨t, ht, hl⟩ := (mem_closure ha.epsilonTargets_lt).1 hj
        obtain ⟨l, hl', p, he, hm⟩ := (ha.mem_targetsFrom hk hx hts).1 (StateSet.mem_ofList.1 ht)
        exact ⟨l, hl', .read he hm (ha.path_of_leads hl hp)⟩
      · rintro ⟨j, hj, hp⟩
        obtain ⟨l, hl, p, t, he, hm, hp⟩ := ha.exists_edge_of_path hs hj hp rfl
        have ht := (ha.mem_targetsFrom hk hx hts).2 ⟨l, hl, p, he, hm⟩
        exact ⟨t, mem_closure_of_mem (StateSet.mem_ofList.2 ht), hp⟩
    · constructor
      · rintro ⟨i, hi, _⟩
        exact absurd ⟨i, hi⟩ hne
      · rintro ⟨i, hi, _⟩
        exact absurd ⟨i, hi⟩ hne

theorem AnswersFrom.take (h : a.AnswersFrom s w) (n : Nat) : a.AnswersFrom s (w.take n) := by
  intro m x hx k hk
  have hm : m < n := by
    apply Nat.lt_of_not_le
    intro hle
    rw [List.getElem?_take_eq_none hle] at hx
    cases hx
  rw [List.getElem?_take_of_lt hm] at hx
  rw [List.take_take, Nat.min_eq_left (Nat.le_of_lt hm)] at hk
  exact h m x hx k hk

/-! ### What is told -/

/-- What feeding a word from the frontier tells, and where it leaves the automaton: the longest part that is
read has been consumed, and what it is read to is active. -/
structure Fed (a : Automaton) (w : List Value) (b : Automaton) (r : Feed) : Prop where
  frame : b = { a with active := b.active }
  le_length : r.consumed ≤ w.length
  viable : ∀ m ≤ w.length, 0 < m → ((∃ k, a.ReadsFrom a.active (w.take m) k) ↔ m ≤ r.consumed)
  completed : r.completed = true ↔ r.consumed = w.length
  mem_active : ∀ k, k ∈ b.active ↔ a.ReadsFrom a.active (w.take r.consumed) k
  active_of_nothing : r.consumed = 0 → b.active = a.active
  markers : r.markers = b.currentMarkers
  paths : a.factory.storeKind.BuiltIn → ∀ m k,
    a.ReadsFrom a.active (w.take m) k ↔ ∃ i ∈ a.active, Path a.edgesOf a.factory.storeKind i (w.take m) k

theorem fed_inactive (hs : ∀ i, i ∉ a.active) (hr : r.consumed = 0) (hc : r.completed = true ↔ w = [])
    (hm : r.markers = a.currentMarkers) : a.Fed w a r where
  frame := rfl
  le_length := by omega
  viable := by
    intro m _ hpos
    constructor
    · rintro ⟨k, hk⟩
      exact absurd hk (not_readsFrom hs)
    · omega
  completed := by rw [hc, hr, eq_comm (a := 0), List.length_eq_zero_iff]
  mem_active := fun k => ⟨fun hk => absurd hk (hs k), fun hk => absurd hk (not_readsFrom hs)⟩
  active_of_nothing := fun _ => rfl
  markers := hm
  paths := by
    intro _ m k
    constructor
    · intro hk
      exact absurd hk (not_readsFrom hs)
    · rintro ⟨i, hi, _⟩
      exact absurd hi (hs i)

theorem fed_of_feedFrom (ha : a.WellFormed) (hs : ClosedUnder a.epsilonTargets a.active)
    (h : feedFrom 0 w a = (b, .ok r)) : a.Fed w b r := by
  -- Without active states not even the empty word is read, so the longest part that is read says nothing.
  by_cases hne : ∃ i, i ∈ a.active
  · obtain ⟨n, hn, hcompleted, hl, hmarkers⟩ := feedFrom_longest ha hs hne h
    have hn : n = r.consumed := by omega
    subst hn
    have hans : a.AnswersFrom a.active w := (feedFrom_ok_iff ha hs hne (c := 0)).1 ⟨r, congrArg Prod.snd h⟩
    have hframe : b = { a with active := b.active } := by
      have hmoved := moved_feedFrom ha 0 w
      rw [h] at hmoved
      cases hmoved <;> rfl
    exact {
      frame := hframe
      le_length := hl.le_length
      viable := fun m hm _ => hl.viable m hm
      completed := hcompleted
      mem_active := hl.mem_frontier
      active_of_nothing := by
        intro h0
        apply StateSet.ext
        intro k
        rw [hl.mem_frontier, h0, List.take_zero, readsFrom_nil hs]
      markers := by
        rw [hmarkers, currentMarkers, hframe]
        rfl
      paths := fun hk m k => ha.readsFrom_iff_path hk hs (hans.take m) }
  · have hnone : ∀ i, i ∉ a.active := fun i hi => hne ⟨i, hi⟩
    cases w with
    | nil =>
      cases h
      exact fed_inactive hnone rfl (by simp) rfl
    | cons x w =>
      by_cases hx : x = .epsilon
      · subst hx
        cases h
      · rw [feedFrom_inactive hnone hx] at h
        cases h
        exact fed_inactive hnone rfl (by simp) rfl

omit [TestFunctions] in
theorem HashableMarkers.mem_currentMarkers (ha : a.HashableMarkers) :
    (∀ m ∈ a.currentMarkers, ∃ i ∈ a.active, m ∈ a.markersAt i) ∧
      ∀ i ∈ a.active, ∀ m ∈ a.markersAt i, m.memberOf a.currentMarkers = true := by
  constructor
  · intro m hm
    obtain ⟨vs, hvs, hm⟩ := mem_of_mem_joinMarkers hm
    obtain ⟨i, hi, rfl⟩ := List.mem_map.1 hvs
    exact ⟨i, hi, hm⟩
  · intro i hi m hm
    exact memberOf_joinMarkers (ha.markersAt m hm) (List.mem_map.2 ⟨i, hi, rfl⟩) hm

theorem feed_list (w : List Value) (a : Automaton) : a.feed (.list w) = feedFrom 0 w a :=
  rfl

theorem feed_append (h : a.feed (.list u) = (b, .ok r)) (hr : r.completed = true) (v : List Value) :
    a.feed (.list (u ++ v)) = ((b.feed (.list v)).1, (b.feed (.list v)).2.map (Feed.behind r.consumed)) := by
  rw [feed_list] at h ⊢
  rw [feedFrom_append h hr, feedFrom_eq r.consumed, feed_list]

theorem feed_fails (h : a.feed (.list u) = (b, .ok r)) (hr : r.completed = true) {x : Value} (hx : x ≠ .epsilon)
    (hfails : ∃ i ∈ b.active, ∃ cause, b.targetsOf x i = .error cause) (rest : List Value) :
    ∃ i ∈ b.active, ∃ cause, b.targetsOf x i = .error cause ∧
      a.feed (.list (u ++ x :: rest)) = (b, .error (.fault cause)) := by
  obtain ⟨i, hi, cause, hcause, hfed⟩ := feedFrom_fails (c := r.consumed) hx hfails rest
  exact ⟨i, hi, cause, hcause, (feedFrom_append h hr _).trans hfed⟩

/-- Feeding from a closed frontier gives an answer exactly if all look-ups on the way do, and then it has
consumed the longest part of the word that can be read. A word that is consumed whole can be followed by more,
with the counts added; a rejected one is rejected alike with anything behind the rejected value. What fails is
epsilon or a value that cannot be looked up after a part that is consumed, with the frontier this part led to. -/
theorem feed_longest_in_parts (ha : a.Reachable) (hc : a.Closed) (w : List Value) :
    ((∃ b r, a.feed (.list w) = (b, .ok r)) ↔ a.AnswersAlong w) ∧
      (∀ b r, a.feed (.list w) = (b, .ok r) →
        a.Fed w b r ∧
        (∀ m ∈ r.markers, ∃ i ∈ b.active, m ∈ a.markersAt i) ∧
        (∀ i ∈ b.active, ∀ m ∈ a.markersAt i, m.memberOf r.markers = true) ∧
        (r.completed = true →
          (∀ v, a.feed (.list (w ++ v)) =
            ((b.feed (.list v)).1, (b.feed (.list v)).2.map (Feed.behind r.consumed))) ∧
          (∀ rest, a.feed (.list (w ++ .epsilon :: rest)) = (b, .error .epsilonInput)) ∧
          ∀ x ≠ .epsilon, (∃ i ∈ b.active, ∃ cause, b.targetsOf x i = .error cause) → ∀ rest,
            ∃ i ∈ b.active, ∃ cause, b.targetsOf x i = .error cause ∧
              a.feed (.list (w ++ x :: rest)) = (b, .error (.fault cause))) ∧
        (r.completed = false → ∀ v, v.take (r.consumed + 1) = w.take (r.consumed + 1) →
          a.feed (.list v) = (b, .ok r))) ∧
      ∀ b f, a.feed (.list w) = (b, .error f) →
        ∃ u x rest r, w = u ++ x :: rest ∧ a.feed (.list u) = (b, .ok r) ∧ r.completed = true ∧
          (x = .epsilon ∧ f = .epsilonInput ∨
            ∃ i ∈ b.active, ∃ cause, b.targetsOf x i = .error cause ∧ f = .fault cause) := by
  have hw := ha.wellFormed
  have hs : ClosedUnder a.epsilonTargets a.active := hw.closed_iff.1 hc
  refine ⟨?_, fun b r h => ?_, fun b f h => exists_of_feedFrom_failed h⟩
  · rw [← feedFrom_ok_iff_along hw hs (c := 0), feed_list]
    exact ⟨fun ⟨b, r, h⟩ => ⟨r, congrArg Prod.snd h⟩, fun ⟨r, h⟩ => ⟨_, r, Prod.ext rfl h⟩⟩
  · have hfed := fed_of_feedFrom hw hs h
    have hb : b.HashableMarkers := by
      rw [hfed.frame]
      exact ha.hashableMarkers
    have hmarkers : b.markersAt = a.markersAt := by
      rw [hfed.frame]
      rfl
    obtain ⟨hsub, hall⟩ := hb.mem_currentMarkers
    rw [hmarkers] at hsub hall
    rw [← hfed.markers] at hsub hall
    refine ⟨hfed, hsub, hall, fun hr => ⟨feed_append h hr, fun rest => ?_, fun x hx => feed_fails h hr hx⟩, ?_⟩
    · rw [feed_append h hr, feed_list]
      rfl
    · exact fun hr v hv => feedFrom_of_take h hr hv

omit [TestFunctions] in
/-- A digit leads to a state whose epsilon edge leads to a test that fails: the digit is consumed and what follows
it fails there. A letter is rejected at once, whatever follows. -/
theorem feed_longest_in_parts_failing : ∃ a b, @Reachable Matcher.catalogue a ∧ a.Closed ∧
    @AnswersAlong Matcher.catalogue a [.str "7"] ∧
    @Fed Matcher.catalogue a [.str "7"] b ⟨1, true, [.str "m", .str "n"]⟩ ∧ b.active.ids = [1, 2] ∧
    (∀ rest, ∃ cause,
      @feed Matcher.catalogue a (.list (.str "7" :: .str "x" :: rest)) = (b, .error (.fault cause))) ∧
    ∀ rest, @feed Matcher.catalogue a (.list (.str "x" :: rest)) = (a, .ok ⟨0, false, []⟩) := by
  let _ := Matcher.catalogue
  let cs : List (String × Command) := [("a", .new (.ofKind .callable) .null), ("a", .newStates 4),
    ("a", .newTransition (.int 0) (.int 1) (.function Matcher.digit)),
    ("a", .newTransition (.int 1) (.int 2) .epsilon),
    ("a", .newTransition (.int 2) (.int 3) (.function Matcher.failing)), ("a", .mark (.int 1) (.str "m")),
    ("a", .mark (.int 2) (.str "n")), ("a", .reset)]
  let start : Store :=
    ⟨.callable, [⟨.predicate (.function Matcher.digit), 1⟩], [], .entries [(.function Matcher.digit, 1)]⟩
  let next : Store := ⟨.callable, [⟨.epsilon, 2⟩], [2], .entries []⟩
  let last : Store :=
    ⟨.callable, [⟨.predicate (.function Matcher.failing), 3⟩], [], .entries [(.function Matcher.failing, 3)]⟩
  let a : Automaton := ⟨.null, .ofKind .callable, [start, next, last, .empty .callable],
    [[], [.str "m"], [.str "n"], []], .ofList [0]⟩
  let b : Automaton := { a with active := .ofList [1, 2] }
  have ha : (Session.run cs .empty).automaton? "a" = some a := by cbv
  have hr : a.Reachable := ⟨cs, "a", ha⟩
  have hp : Session.Throughout Session.StartsActive cs .empty :=
    ⟨trivial, trivial, trivial, trivial, trivial, trivial, trivial, trivial, trivial⟩
  have hc : a.Closed := Session.closed_run_and_add.1 cs hp _ _ ha
  have hfeed : a.feed (.list [.str "7"]) = (b, .ok ⟨1, true, [.str "m", .str "n"]⟩) := by cbv
  have hreject : a.feed (.list [.str "x"]) = (a, .ok ⟨0, false, []⟩) := by cbv
  obtain ⟨hans, hall, _⟩ := feed_longest_in_parts hr hc [.str "7"]
  obtain ⟨hfed, _, _, hgoes, _⟩ := hall _ _ hfeed
  obtain ⟨_, _, _, _, hstops⟩ := (feed_longest_in_parts hr hc [.str "x"]).2.1 _ _ hreject
  refine ⟨_, _, hr, hc, hans.1 ⟨_, _, hfeed⟩, hfed, rfl, fun rest => ?_, fun rest => ?_⟩
  · obtain ⟨_, _, cause, _, hfailed⟩ := (hgoes rfl).2.2 (.str "x") (by simp)
      ⟨2, List.mem_cons_of_mem _ (List.mem_singleton_self 2), _, rfl⟩ rest
    exact ⟨cause, hfailed⟩
  · exact hstops rfl _ rfl

end Automaton

end GuardedAutomata
