import GuardedAutomata.Proofs.Automaton.Link

/-!
# Concatenation

One automaton is continued by another when its markers are dropped, the other one is added, and the states
that carried markers are linked to the start of the copy. The result accepts the words that have a first
part accepted by the one and the rest accepted by the other: a way to a marker has to leave the first block,
and does so at a state that was marked.
-/

set_option autoImplicit false

namespace GuardedAutomata.Automaton

variable [TestFunctions]

def concatenate (ends : List Nat) (a b : Automaton) : Attempt Unit :=
  match a.dropMarkers.add b with
  | (c, .error f) => (c, .error f)
  | (c, .ok none) => (c, .ok ())
  | (c, .ok (some entry)) => linkAll entry ends c

variable {a b c : Automaton} {ends : List Nat} {u v w : List Value}

/-- Concatenating never fails; it links the two automata side by side. -/
theorem concatenate_eq (ha : a.WellFormed) (hb : b.WellFormed) (hf : a.factory = b.factory) (h0 : 0 < b.count)
    (hends : ∀ i ∈ ends, i < a.count) : ∃ c, concatenate ends a b = (c, .ok ()) ∧
      (spliced a.dropMarkers b).Linked ends a.count c := by
  have hadd := add_eq ha.dropMarkers hb hf h0
  have hcount : (spliced a.dropMarkers b).count = a.count + b.count := count_spliced _ _
  have hentry : a.count < (spliced a.dropMarkers b).count := by omega
  have hlt : ∀ i ∈ ends, i < (spliced a.dropMarkers b).count := fun i hi => by
    have := hends i hi
    omega
  obtain ⟨c, hlink, hc⟩ := linked_linkAll (ha.dropMarkers.spliced hb hf h0) hentry hlt
  exact ⟨c, by rw [concatenate, hadd]; exact hlink, hc⟩

section Linked

variable (hc : (spliced a.dropMarkers b).Linked ends a.count c) (hends : ∀ i ∈ ends, i < a.count)
  (ha : a.WellFormed) (hb : b.WellFormed) (h0 : 0 < a.count)

include hc ha h0

theorem Answered.of_concatenate_left (h : c.Answered (u ++ v)) : a.Answered u := by
  intro m x hx k hk
  have hm : m < u.length := (List.getElem?_eq_some_iff.1 hx).1
  obtain ⟨hlt, hread⟩ := Linked.reads_of_left (a := a.dropMarkers) hc ha.dropMarkers h0 hk
  obtain ⟨hne, ts, hts⟩ := h m x (by rwa [List.getElem?_append_left hm]) k
    (by rwa [List.take_append_of_le_length (Nat.le_of_lt hm)])
  rw [hc.targetsOf x hne, targetsOf_spliced_left hlt] at hts
  exact ⟨hne, ts, hts⟩

include hends hb

theorem reads_concatenate {q : Nat} : c.Reads 0 w q ↔ a.Reads 0 w q ∨
    ∃ u v e k, w = u ++ v ∧ e ∈ ends ∧ a.Reads 0 u e ∧ b.Reads 0 v k ∧ q = a.count + k :=
  Linked.reads_left (a := a.dropMarkers) hc hends ha.dropMarkers hb h0

/-- Only the second block has markers, so it is read to its marked states. -/
theorem recognizes_concatenate : c.Recognizes w ↔
    ∃ u v, w = u ++ v ∧ (∃ e ∈ ends, a.Reads 0 u e) ∧ b.Recognizes v := by
  have hleft : ∀ q < a.count, c.markersAt q = [] := fun q hq => by
    rw [hc.markersAt, markersAt_spliced_left ha.dropMarkers hq, markersAt_dropMarkers]
  have hright : ∀ k, c.markersAt (a.count + k) = b.markersAt k := fun k => by
    rw [hc.markersAt]
    exact markersAt_spliced_right ha.dropMarkers b k
  constructor
  · rintro ⟨q, hq, hm⟩
    rcases (reads_concatenate hc hends ha hb h0).1 hq with hq | ⟨u, v, e, k, rfl, he, hu, hv, rfl⟩
    · exact absurd (hleft q (Linked.reads_of_left (a := a.dropMarkers) hc ha.dropMarkers h0 hq).1) hm
    · rw [hright] at hm
      exact ⟨u, v, rfl, ⟨e, he, hu⟩, k, hv, hm⟩
  · rintro ⟨u, v, rfl, ⟨e, he, hu⟩, k, hv, hm⟩
    rw [← hright] at hm
    exact ⟨_, (reads_concatenate hc hends ha hb h0).2 (.inr ⟨u, v, e, k, rfl, he, hu, hv, rfl⟩), hm⟩

/-- Once the first part has been read to a link, the second block is asked what the whole is asked. -/
theorem Answered.of_concatenate_right (h : c.Answered (u ++ v)) {e : Nat} (he : e ∈ ends)
    (hu : a.Reads 0 u e) : b.Answered v := by
  intro m x hx k hk
  have hread : c.Reads 0 ((u ++ v).take (u.length + m)) (a.count + k) := by
    rw [List.take_length_add_append]
    exact (reads_concatenate hc hends ha hb h0).2 (.inr ⟨u, _, e, k, rfl, he, hu, hk, rfl⟩)
  obtain ⟨hne, ts, hts⟩ := h (u.length + m) x (by rwa [List.getElem?_append_right (Nat.le_add_right _ _),
    Nat.add_sub_cancel_left]) _ hread
  have hcopy := targetsOf_spliced_right (a := a.dropMarkers) (v := x) hb k
  rw [hc.targetsOf x hne] at hts
  change (spliced a.dropMarkers b).targetsOf x (a.count + k) = _ at hcopy
  rw [hcopy] at hts
  cases hb : b.targetsOf x k with
  | error cause =>
    rw [hb] at hts
    cases hts
  | ok us => exact ⟨hne, us, rfl⟩

end Linked

/-- An automaton whose markers are dropped, to which another one is added, and whose formerly marked states
are linked to the start of the copy, accepts a word exactly if the word has two parts that were accepted by
the one and the other. Nothing fails as long as every value can be looked up. -/
theorem accepts_concatenate (ha : a.Reachable) (hb : b.Reachable) (hf : a.factory = b.factory)
    (h0 : 0 < a.count) (h1 : 0 < b.count) (hends : ends.Perm a.marked.ids) :
    ∃ c, concatenate ends a b = (c, .ok ()) ∧ ∀ values w, values.elements = .ok w →
      ((∀ v ∈ w, v ≠ .epsilon ∧ c.Answers v) → ∃ r, (c.accepts values).2 = .ok r) ∧
      ∀ r, (c.accepts values).2 = .ok r → (r = true ↔ ∃ u v, w = u ++ v ∧
        (a.accepts (.list u)).2 = .ok true ∧ (b.accepts (.list v)).2 = .ok true) := by
  have ha := ha.wellFormed
  have hb := hb.wellFormed
  have hmarked : ∀ i, i ∈ ends ↔ i < a.count ∧ a.markersAt i ≠ [] := fun i => by
    rw [hends.mem_iff, StateSet.mem_ids, mem_marked]
  have hlt : ∀ i ∈ ends, i < a.count := fun i hi => ((hmarked i).1 hi).1
  obtain ⟨c, hrun, hc⟩ := concatenate_eq ha hb hf h1 hlt
  have hcount : 0 < c.count := by
    rw [hc.count, count_spliced]
    omega
  refine ⟨c, hrun, fun values w hvs => ⟨fun hans => ?_, fun r hr => ?_⟩⟩
  · exact (accepts_ok_iff hc.wellFormed hcount hvs).2 (answered_of_answers hans)
  · have hans : c.Answered w := (accepts_ok_iff hc.wellFormed hcount hvs).1 ⟨r, hr⟩
    have hrec : r = true ↔ c.Recognizes w := by
      rw [← (accepts_eq_true_iff hc.wellFormed hcount hvs).trans (and_iff_right hans), hr]
      simp
    rw [hrec, recognizes_concatenate hc hlt ha hb h0]
    constructor
    · rintro ⟨u, v, rfl, ⟨e, he, hu⟩, hv⟩
      refine ⟨u, v, rfl, (accepts_eq_true_iff ha h0 rfl).2 ⟨?_, e, hu, ((hmarked e).1 he).2⟩,
        (accepts_eq_true_iff hb h1 rfl).2 ⟨?_, hv⟩⟩
      · exact .of_concatenate_left hc ha h0 hans
      · exact .of_concatenate_right hc hlt ha hb h0 hans he hu
    · rintro ⟨u, v, rfl, hu, hv⟩
      obtain ⟨_, e, he, hm⟩ := (accepts_eq_true_iff ha h0 rfl).1 hu
      have hlt := (Linked.reads_of_left (a := a.dropMarkers) hc ha.dropMarkers h0 he).1
      exact ⟨u, v, rfl, ⟨e, (hmarked e).2 ⟨hlt, hm⟩, he⟩, ((accepts_eq_true_iff hb h1 rfl).1 hv).2⟩

omit [TestFunctions] in
/-- A marked state with a loop is continued by a start that is marked and has a loop itself. -/
theorem accepts_concatenate_loop : ∃ a b : Automaton, @Reachable Matcher.catalogue a ∧
    @Reachable Matcher.catalogue b ∧ ∃ c, concatenate [1] a b = (c, .ok ()) ∧ ∃ u v,
      [.str "1", .str "2", .str "x"] = u ++ v ∧ (@accepts Matcher.catalogue a (.list u)).2 = .ok true ∧
        (@accepts Matcher.catalogue b (.list v)).2 = .ok true := by
  let _ := Matcher.catalogue
  let cs : List (String × Command) := [("a", .new (.ofKind .callable) .null), ("a", .newStates 2),
    ("a", .newTransition (.int 0) (.int 1) (.function Matcher.digit)),
    ("a", .newTransition (.int 1) (.int 1) (.function Matcher.digit)), ("a", .mark (.int 1) .null),
    ("b", .new (.ofKind .callable) .null), ("b", .newState),
    ("b", .newTransition (.int 0) (.int 0) (.function Matcher.lower)), ("b", .mark (.int 0) .null)]
  have ha : (Session.run cs .empty).automaton? "a" = some _ := rfl
  have hb : (Session.run cs .empty).automaton? "b" = some _ := rfl
  obtain ⟨c, hc, hacc⟩ :=
    accepts_concatenate ⟨cs, "a", ha⟩ ⟨cs, "b", hb⟩ rfl (by decide) (by decide) (.refl [1])
  obtain rfl := congrArg Prod.fst hc
  have hword : (Value.list [.str "1", .str "2", .str "x"]).elements = .ok _ := rfl
  exact ⟨_, _, ⟨cs, "a", ha⟩, ⟨cs, "b", hb⟩, _, hc, ((hacc _ _ hword).2 true rfl).1 rfl⟩

end GuardedAutomata.Automaton
