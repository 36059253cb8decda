import GuardedAutomata.Proofs.Automaton.Link
import GuardedAutomata.Proofs.Automaton.Marker
import Mathlib

/-!
# Alternation

A fresh state that is linked to the start of each of several added automata offers them as branches. Nothing
leads back to it, so what is read from it is read by a branch, in the copy as in the automaton that was
added. The branch that reads on for longest settles how much is consumed, and a branch that has died no
longer adds its markers.
-/

set_option autoImplicit false

namespace GuardedAutomata.Automaton

theorem le_foldr_max {n : Nat} {ns : List Nat} : n ≤ ns.foldr max 0 ↔ n = 0 ∨ ∃ m ∈ ns, n ≤ m := by
  induction ns with
  | nil => simp
  | cons m ns ih =>
    rw [List.foldr_cons, le_max_iff, ih]
    simp only [List.mem_cons, exists_eq_or_imp]
    exact or_left_comm

variable [TestFunctions]

def addBranch (s b : Automaton) : Attempt Unit :=
  match s.add b with
  | (c, .error f) => (c, .error f)
  | (c, .ok none) => c.newTransition (.int 0) .null .epsilon
  | (c, .ok (some entry)) => c.newTransition (.int 0) (.state entry) .epsilon

def alternation : List Automaton → Automaton → Attempt Unit
  | [], s => (s, .ok ())
  | b :: rest, s =>
    match addBranch s b with
    | (c, .error f) => (c, .error f)
    | (c, .ok _) => alternation rest c

structure Branches (s : Automaton) (bs : List Automaton) : Prop where
  wellFormed : s.WellFormed
  count_pos : 0 < s.count
  markersAt_zero : s.markersAt 0 = []
  reads_zero : ∀ w, s.Reads 0 w 0 → w = []
  exists_branch : ∀ w q, s.Reads 0 w q → q ≠ 0 →
    ∃ b ∈ bs, ∃ k, b.Reads 0 w k ∧ b.markersAt k = s.markersAt q
  exists_copy : ∀ b ∈ bs, ∀ w k, b.Reads 0 w k → ∃ q, s.Reads 0 w q ∧ s.markersAt q = b.markersAt k ∧
    ∀ v, v ≠ .epsilon → (∃ ts, s.targetsOf v q = .ok ts) → ∃ ts, b.targetsOf v k = .ok ts

variable {s b c : Automaton} {bs done : List Automaton} {w : List Value} {q : Nat}

/-! ### Building -/

theorem reads_fresh {f : Factory} {name : Value} (h : (new f name).newState.1.Reads 0 w q) : w = [] ∧ q = 0 := by
  have hs : (new f name).newState.1.stores[0]? = some f.newStore := rfl
  cases h with
  | nil => exact ⟨rfl, rfl⟩
  | epsilon hj _ => cases hj
  | read ht _ =>
    obtain ⟨_, ts, hts, hj⟩ := ht
    rw [targetsOf, hs] at hts
    obtain ⟨e, he, _⟩ := (Store.sound_empty _).mem_edges_of_query hts hj
    cases he

theorem branches_fresh (f : Factory) (name : Value) : (new f name).newState.1.Branches [] where
  wellFormed := (wellFormed_new f name).newState
  count_pos := Nat.one_pos
  markersAt_zero := rfl
  reads_zero := fun _ h => (reads_fresh h).1
  exists_branch := fun _ _ h hq => absurd (reads_fresh h).2 hq
  exists_copy := by simp

/-- A new branch is read beside the earlier ones, from the start. -/
theorem Branches.reads_linked (h : s.Branches bs) (hb : b.WellFormed) (hc : (spliced s b).Linked [0] s.count c) :
    c.Reads 0 w q ↔ s.Reads 0 w q ∨ ∃ k, b.Reads 0 w k ∧ q = s.count + k := by
  rw [hc.reads_left (by simpa using h.count_pos) h.wellFormed hb h.count_pos]
  refine or_congr_right ⟨?_, ?_⟩
  -- The link leaves state 0, which nothing leads back to: before it, nothing was read.
  · rintro ⟨u, v, e, k, rfl, he, hu, hv, rfl⟩
    cases List.mem_singleton.1 he
    cases h.reads_zero u hu
    exact ⟨k, hv, rfl⟩
  · rintro ⟨k, hk, rfl⟩
    exact ⟨[], w, 0, k, rfl, List.mem_singleton.2 rfl, .nil 0, hk, rfl⟩

theorem Branches.linked (h : s.Branches bs) (hb : b.WellFormed) (hc : (spliced s b).Linked [0] s.count c) :
    c.Branches (bs ++ [b]) := by
  have hlt : ∀ {w q}, s.Reads 0 w q → q < s.count := fun hq =>
    (hc.reads_of_left h.wellFormed h.count_pos hq).1
  have hleft : ∀ {q}, q < s.count → c.markersAt q = s.markersAt q := fun hq => by
    rw [hc.markersAt, markersAt_spliced_left h.wellFormed hq]
  have hright : ∀ k, c.markersAt (s.count + k) = b.markersAt k := fun k => by
    rw [hc.markersAt, markersAt_spliced_right h.wellFormed]
  constructor
  · exact hc.wellFormed
  · rw [hc.count, count_spliced]
    exact Nat.add_pos_left h.count_pos _
  · rw [hleft h.count_pos, h.markersAt_zero]
  · intro w hw
    rcases (h.reads_linked hb hc).1 hw with hw | ⟨k, _, hk⟩
    · exact h.reads_zero w hw
    · have := h.count_pos
      omega
  · intro w q hq hne
    rcases (h.reads_linked hb hc).1 hq with hq | ⟨k, hk, rfl⟩
    · obtain ⟨d, hd, k, hk, hm⟩ := h.exists_branch w q hq hne
      exact ⟨d, List.mem_append_left _ hd, k, hk, by rw [hm, hleft (hlt hq)]⟩
    · exact ⟨b, by simp, k, hk, (hright k).symm⟩
  · intro d hd w k hk
    rcases List.mem_append.1 hd with hd | hd
    · obtain ⟨q, hq, hm, hans⟩ := h.exists_copy d hd w k hk
      refine ⟨q, (h.reads_linked hb hc).2 (.inl hq), by rw [hleft (hlt hq), hm], fun v hv hts => ?_⟩
      rw [hc.targetsOf v hv, targetsOf_spliced_left (hlt hq)] at hts
      exact hans v hv hts
    · cases List.mem_singleton.1 hd
      refine ⟨s.count + k, (h.reads_linked hb hc).2 (.inr ⟨k, hk, rfl⟩), hright k, fun v hv hts => ?_⟩
      rw [hc.targetsOf v hv, targetsOf_spliced_right hb] at hts
      cases hd : b.targetsOf v k with
      | error cause => simp [hd, Except.map] at hts
      | ok us => exact ⟨us, rfl⟩

theorem Branches.addBranch (h : s.Branches bs) (hb : b.WellFormed) (hf : s.factory = b.factory)
    (h0 : 0 < b.count) : ∃ c, addBranch s b = (c, .ok ()) ∧ c.Branches (bs ++ [b]) ∧ c.factory = s.factory := by
  have hcount : (spliced s b).count = s.count + b.count := count_spliced s b
  have hzero : (spliced s b).resolve (.int 0) = .ok 0 := (resolve_int (n := 0)).2 ⟨by omega, rfl⟩
  have hentry : (spliced s b).resolve (.state s.count) = .ok s.count := resolve_state.2 ⟨by omega, rfl⟩
  obtain ⟨c, hlink, hc⟩ := linked_newTransition (h.wellFormed.spliced hb hf h0) hzero hentry
  refine ⟨c, ?_, h.linked hb hc, hc.factory⟩
  rw [Automaton.addBranch, add_eq h.wellFormed hb hf h0]
  exact hlink

/-- Adding branches one by one never fails. -/
theorem Branches.alternation (h : s.Branches done)
    (hbs : ∀ b ∈ bs, b.WellFormed ∧ b.factory = s.factory ∧ 0 < b.count) :
    ∃ c, alternation bs s = (c, .ok ()) ∧ c.Branches (done ++ bs) := by
  induction bs generalizing s done with
  | nil => exact ⟨s, rfl, by simpa using h⟩
  | cons b bs ih =>
    obtain ⟨⟨hb, hf, h0⟩, hrest⟩ := List.forall_mem_cons.1 hbs
    obtain ⟨c, hadd, hc, hfactory⟩ := h.addBranch hb hf.symm h0
    obtain ⟨d, hrun, hd⟩ := ih hc (by rwa [hfactory])
    refine ⟨d, ?_, by simpa using hd⟩
    rw [Automaton.alternation, hadd]
    exact hrun

/-! ### Reading -/

theorem Branches.answered (h : s.Branches bs) (hans : s.Answered w) (hb : b ∈ bs) : b.Answered w := by
  intro m v hv k hk
  obtain ⟨q, hq, _, hcopy⟩ := h.exists_copy b hb _ k hk
  obtain ⟨hne, hts⟩ := hans m v hv q hq
  exact ⟨hne, hcopy v hne hts⟩

theorem Branches.recognizes_iff (h : s.Branches bs) : s.Recognizes w ↔ ∃ b ∈ bs, b.Recognizes w := by
  constructor
  · rintro ⟨q, hq, hm⟩
    have hne : q ≠ 0 := by
      rintro rfl
      exact hm h.markersAt_zero
    obtain ⟨b, hb, k, hk, heq⟩ := h.exists_branch w q hq hne
    exact ⟨b, hb, k, hk, by rwa [heq]⟩
  · rintro ⟨b, hb, k, hk, hm⟩
    obtain ⟨q, hq, heq, _⟩ := h.exists_copy b hb w k hk
    exact ⟨q, hq, by rwa [heq]⟩

/-- Something but nothing is read from the start only by a branch. -/
theorem Branches.viable_iff (h : s.Branches bs) :
    (∃ q, s.Reads 0 w q) ↔ w = [] ∨ ∃ b ∈ bs, ∃ k, b.Reads 0 w k := by
  constructor
  · rintro ⟨q, hq⟩
    by_cases h0 : q = 0
    · subst h0
      exact .inl (h.reads_zero w hq)
    · obtain ⟨b, hb, k, hk, _⟩ := h.exists_branch w q hq h0
      exact .inr ⟨b, hb, k, hk⟩
  · rintro (rfl | ⟨b, hb, k, hk⟩)
    · exact ⟨0, .nil 0⟩
    · obtain ⟨q, hq, _⟩ := h.exists_copy b hb w k hk
      exact ⟨q, hq⟩

theorem Consumes.exists_state {r : Feed} {m : Value} (h : s.Consumes w r) (hm : m ∈ r.markers) :
    ∃ k, s.Reads 0 (w.take r.consumed) k ∧ m ∈ s.markersAt k := by
  obtain ⟨t, ht, hmarkers⟩ := h.markers
  rw [hmarkers] at hm
  obtain ⟨vs, hvs, hm⟩ := mem_of_mem_joinMarkers hm
  obtain ⟨k, hk, rfl⟩ := List.mem_map.1 hvs
  exact ⟨k, (ht k).1 (StateSet.mem_ids.1 hk), hm⟩

theorem Consumes.memberOf_markers {r : Feed} {m : Value} {k : Nat} (h : s.Consumes w r)
    (hk : s.Reads 0 (w.take r.consumed) k) (hm : m ∈ s.markersAt k) (hhash : m.unhashable? = none) :
    m.memberOf r.markers = true := by
  obtain ⟨t, ht, hmarkers⟩ := h.markers
  rw [hmarkers]
  exact memberOf_joinMarkers hhash (List.mem_map_of_mem (StateSet.mem_ids.2 ((ht k).2 hk))) hm

section Feeding

variable {r : Feed} {outcome : Automaton → Feed}

variable (h : s.Branches bs) (hr : s.Consumes w r) (hout : ∀ b ∈ bs, b.Consumes w (outcome b))

include h hr hout

/-- The whole reads on for as long as some branch does. -/
theorem Branches.consumed_eq : r.consumed = (bs.map fun b => (outcome b).consumed).foldr max 0 := by
  -- A length is at most the count exactly if so much can be read, so the counts compare as what can be read.
  have hle : ∀ m ≤ w.length, m ≤ r.consumed ↔ m ≤ (bs.map fun b => (outcome b).consumed).foldr max 0 := by
    intro m hm
    have hnil : w.take m = [] ↔ m = 0 := by
      rw [← List.length_eq_zero_iff, List.length_take_of_le hm]
    rw [← hr.viable m hm, h.viable_iff, hnil, le_foldr_max]
    simp only [List.mem_map, exists_exists_and_eq_and]
    refine or_congr_right (exists_congr fun b => and_congr_right fun hb => ?_)
    exact (hout b hb).viable m hm
  have hmax : (bs.map fun b => (outcome b).consumed).foldr max 0 ≤ w.length := by
    rcases le_foldr_max.1 (Nat.le_refl ((bs.map fun b => (outcome b).consumed).foldr max 0)) with h0 | ⟨n, hn, hle⟩
    · omega
    · obtain ⟨b, hb, rfl⟩ := List.mem_map.1 hn
      exact Nat.le_trans hle (hout b hb).le_length
  exact Nat.le_antisymm ((hle _ hr.le_length).1 (Nat.le_refl _)) ((hle _ hmax).2 (Nat.le_refl _))

theorem Branches.consumed_le (hb : b ∈ bs) : (outcome b).consumed ≤ r.consumed := by
  rw [h.consumed_eq hr hout]
  exact le_foldr_max.2 (.inr ⟨_, List.mem_map_of_mem hb, Nat.le_refl _⟩)

/-- Every marker comes from a branch that has read on for longest. -/
theorem Branches.marker_of_branch (hhash : ∀ b ∈ bs, b.HashableMarkers) {m : Value} (hm : m ∈ r.markers) :
    ∃ b ∈ bs, (outcome b).consumed = r.consumed ∧ m.memberOf (outcome b).markers = true := by
  obtain ⟨q, hq, hm⟩ := hr.exists_state hm
  have hne : q ≠ 0 := by
    rintro rfl
    rw [h.markersAt_zero] at hm
    cases hm
  obtain ⟨b, hb, k, hk, heq⟩ := h.exists_branch _ q hq hne
  have hc : (outcome b).consumed = r.consumed :=
    Nat.le_antisymm (h.consumed_le hr hout hb) (((hout b hb).viable _ hr.le_length).1 ⟨k, hk⟩)
  rw [← heq] at hm
  exact ⟨b, hb, hc, (hout b hb).memberOf_markers (by rwa [hc]) hm ((hhash b hb).markersAt m hm)⟩

omit hout in
theorem Branches.marker_of_longest (hhash : b.HashableMarkers) (hb : b ∈ bs) {o : Feed} (ho : b.Consumes w o)
    (hc : o.consumed = r.consumed) {m : Value} (hm : m ∈ o.markers) : m.memberOf r.markers = true := by
  obtain ⟨k, hk, hm⟩ := ho.exists_state hm
  obtain ⟨q, hq, heq, _⟩ := h.exists_copy b hb _ k hk
  exact hr.memberOf_markers (hc ▸ hq) (heq ▸ hm) (hhash.markersAt m hm)

end Feeding

/-- A fresh automaton with one state to which automata are added as branches accepts a word exactly if some
branch does. It consumes as much of the word as the branch that consumes most, and ends with the markers of
all branches that consume as much. Nothing fails as long as every value can be looked up. -/
theorem feed_alternation {f : Factory} (name : Value)
    (hbs : ∀ b ∈ bs, b.Reachable ∧ b.factory = f ∧ 0 < b.count) :
    ∃ s, alternation bs (new f name).newState.1 = (s, .ok ()) ∧ ∀ values w, values.elements = .ok w →
      ((∀ v ∈ w, v ≠ .epsilon ∧ s.Answers v) → ∃ r, (s.reset.feed values).2 = .ok r) ∧
      ∀ r, (s.reset.feed values).2 = .ok r →
        ((s.accepts values).2 = .ok true ↔ ∃ b ∈ bs, (b.accepts values).2 = .ok true) ∧
        ∃ outcome : Automaton → Feed, (∀ b ∈ bs, (b.reset.feed values).2 = .ok (outcome b)) ∧
          r.consumed = (bs.map fun b => (outcome b).consumed).foldr max 0 ∧
          (∀ m ∈ r.markers, ∃ b ∈ bs, (outcome b).consumed = r.consumed ∧
            m.memberOf (outcome b).markers = true) ∧
          ∀ b ∈ bs, (outcome b).consumed = r.consumed →
            ∀ m ∈ (outcome b).markers, m.memberOf r.markers = true := by
  have hw : ∀ b ∈ bs, b.WellFormed := fun b hb => (hbs b hb).1.wellFormed
  have h0 : ∀ b ∈ bs, 0 < b.count := fun b hb => (hbs b hb).2.2
  have hhash : ∀ b ∈ bs, b.HashableMarkers := fun b hb => (hbs b hb).1.hashableMarkers
  obtain ⟨s, hrun, hs⟩ := (branches_fresh f name).alternation fun b hb => ⟨hw b hb, (hbs b hb).2⟩
  rw [List.nil_append] at hs
  refine ⟨s, hrun, fun values w hvs => ⟨fun hans => ?_, fun r hr => ?_⟩⟩
  · exact (feed_ok_iff hs.wellFormed hs.count_pos hvs).2 (answered_of_answers hans)
  · have hans : s.Answered w := (feed_ok_iff hs.wellFormed hs.count_pos hvs).1 ⟨r, hr⟩
    -- Outcomes are wanted of the branches only; elsewhere any will do.
    have hfeeds : ∀ b : Automaton, ∃ o, b ∈ bs → (b.reset.feed values).2 = .ok o := by
      intro b
      by_cases hb : b ∈ bs
      · obtain ⟨o, ho⟩ := (feed_ok_iff (hw b hb) (h0 b hb) hvs).2 (hs.answered hans hb)
        exact ⟨o, fun _ => ho⟩
      · exact ⟨r, fun h => absurd h hb⟩
    choose outcome hout using hfeeds
    have hcons := consumes_of_feed hs.wellFormed hs.count_pos hvs hr
    have houts : ∀ b ∈ bs, b.Consumes w (outcome b) := fun b hb =>
      consumes_of_feed (hw b hb) (h0 b hb) hvs (hout b hb)
    refine ⟨?_, outcome, hout, hs.consumed_eq hcons houts, ?_, ?_⟩
    · rw [accepts_eq_true_iff hs.wellFormed hs.count_pos hvs, hs.recognizes_iff, and_iff_right hans]
      refine exists_congr fun b => and_congr_right fun hb => ?_
      rw [accepts_eq_true_iff (hw b hb) (h0 b hb) hvs, and_iff_right (hs.answered hans hb)]
    · exact fun m hm => hs.marker_of_branch hcons houts hhash hm
    · exact fun b hb hc m hm => hs.marker_of_longest hcons (hhash b hb) hb (houts b hb) hc hm

omit [TestFunctions] in
/-- A branch that dies after the digit leaves the consumed count and the markers to the one that reads on. -/
theorem feed_alternation_longest : ∃ a b : Automaton, @Reachable Matcher.catalogue a ∧
    @Reachable Matcher.catalogue b ∧ ∃ s,
      alternation [a, b] (new (.ofKind .callable) .null).newState.1 = (s, .ok ()) ∧
      (@accepts Matcher.catalogue s (.list [.str "1", .str "x"])).2 = .ok true ∧
      ∃ r, (@feed Matcher.catalogue s.reset (.list [.str "1", .str "x"])).2 = .ok r ∧ r.consumed = 2 ∧
        ∀ m ∈ r.markers, m.memberOf [.str "long"] = true := by
  let _ := Matcher.catalogue
  let cs : List (String × Command) := [("a", .new (.ofKind .callable) .null), ("a", .newStates 2),
    ("a", .newTransition (.int 0) (.int 1) (.function Matcher.digit)), ("a", .mark (.int 1) (.str "short")),
    ("b", .new (.ofKind .callable) .null), ("b", .newStates 3),
    ("b", .newTransition (.int 0) (.int 1) (.function Matcher.digit)),
    ("b", .newTransition (.int 1) (.int 2) (.function Matcher.lower)), ("b", .mark (.int 2) (.str "long"))]
  let a : Automaton := ((Session.run cs .empty).automaton? "a").getD default
  let b : Automaton := ((Session.run cs .empty).automaton? "b").getD default
  have ha : Reachable a := ⟨cs, "a", rfl⟩
  have hb : Reachable b := ⟨cs, "b", rfl⟩
  have hbs : ∀ c ∈ [a, b], c.Reachable ∧ c.factory = .ofKind .callable ∧ 0 < c.count :=
    List.forall_mem_cons.2 ⟨⟨ha, rfl, by decide⟩, List.forall_mem_singleton.2 ⟨hb, rfl, by decide⟩⟩
  obtain ⟨s, hs, hfeed⟩ := feed_alternation .null hbs
  obtain rfl : (alternation [a, b] (new (.ofKind .callable) .null).newState.1).1 = s := congrArg Prod.fst hs
  have hr : (feed (reset (alternation [a, b] (new (.ofKind .callable) .null).newState.1).1)
      (.list [.str "1", .str "x"])).2 = .ok ⟨2, true, [.str "long"]⟩ := by cbv
  have hacc : (accepts b (.list [.str "1", .str "x"])).2 = .ok true := by cbv
  obtain ⟨haccepts, outcome, hout, hconsumed, hmarkers, _⟩ := (hfeed _ _ rfl).2 _ hr
  have hshort : (feed (reset a) (.list [.str "1", .str "x"])).2 = .ok ⟨1, false, [.str "short"]⟩ := by cbv
  have hlong : (feed (reset b) (.list [.str "1", .str "x"])).2 = .ok ⟨2, true, [.str "long"]⟩ := by cbv
  rw [hout a (by simp), Except.ok.injEq] at hshort
  rw [hout b (by simp), Except.ok.injEq] at hlong
  refine ⟨a, b, ha, hb, _, hs, haccepts.2 ⟨b, by simp, hacc⟩, _, hr, rfl, fun m hm => ?_⟩
  obtain ⟨c, hc, hlongest, hm⟩ := hmarkers m hm
  rw [List.mem_cons, List.mem_singleton] at hc
  rcases hc with rfl | rfl
  · rw [hshort] at hlongest
    cases hlongest
  · rwa [hlong] at hm

end GuardedAutomata.Automaton
