import GuardedAutomata.Proofs.Automaton.Mirror
import GuardedAutomata.Proofs.Automaton.Marker
import GuardedAutomata.Proofs.Definition.Outcome
import GuardedAutomata.Proofs.Session.Growth
import GuardedAutomata.Proofs.Store.Scan
import GuardedAutomata.Proofs.Value.Before
import Mathlib

/-!
# Ranges of characters

An edge that a range of characters guards can be replaced by one edge for each of the characters, in an automaton over
symbols. Ranges are scanned with comparisons and symbols are found by an index, but both automata read every text alike.
-/

set_option autoImplicit false

namespace GuardedAutomata

/-! ### Characters -/

def Text.charsBetween (low high : Char) : List Char :=
  ((List.range' low.toNat (high.toNat + 1 - low.toNat)).filter Nat.isValidChar).map Char.ofNat

theorem Text.mem_charsBetween {low high c : Char} : c ∈ charsBetween low high ↔ low ≤ c ∧ c ≤ high := by
  have hle : ∀ d e : Char, d ≤ e ↔ d.toNat ≤ e.toNat := fun _ _ => .rfl
  rw [hle, hle, charsBetween, List.mem_map]
  constructor
  · rintro ⟨n, hn, rfl⟩
    rw [List.mem_filter, List.mem_range'_1, decide_eq_true_iff] at hn
    rw [Char.toNat_ofNat, if_pos hn.2]
    omega
  · rintro ⟨hlow, hhigh⟩
    refine ⟨c.toNat, List.mem_filter.2 ⟨List.mem_range'_1.2 ⟨hlow, by omega⟩, decide_eq_true c.valid⟩, ?_⟩
    exact Char.ofNat_toNat c

namespace Value

variable {c d : Char}

theorem compare_ofChar : compare .lessOrEqual (.ofChar c) (.ofChar d) = .ok (decide (c ≤ d)) := by
  refine congrArg Except.ok ?_
  rw [Bool.eq_iff_iff, Comparison.texts]
  simp only [Bool.not_eq_true', decide_eq_false_iff_not, decide_eq_true_eq, Text.singleton_lt_singleton, Char.not_lt]

theorem equal_ofChar : (ofChar c).equal (ofChar d) = true ↔ c = d := by
  simp [ofChar, equal]

theorem same_ofChar : (ofChar c).same (ofChar d) = true ↔ c = d := by
  simp [ofChar, same, equal, sameNan]

end Value

namespace StoreKind

variable [TestFunctions] {low high c d : Char}

theorem matches_range_ofChar :
    range.Matches (.range (.ofChar low) (.ofChar high)) (.ofChar c) ↔ low ≤ c ∧ c ≤ high := by
  constructor
  · rintro (_ | _ | ⟨hlow, hhigh⟩)
    rw [Value.compare_ofChar, Except.ok.injEq, decide_eq_true_iff] at hlow hhigh
    exact ⟨hlow, hhigh⟩
  · rintro ⟨hlow, hhigh⟩
    refine .within ?_ ?_
    · rw [Value.compare_ofChar, decide_eq_true hlow]
    · rw [Value.compare_ofChar, decide_eq_true hhigh]

theorem matches_symbol_ofChar : symbol.Matches (.ofChar d) (.ofChar c) ↔ d = c := by
  have hchar : ∀ origin, Value.ofChar c ≠ .float (.nan origin) := fun _ h => by cases h
  rw [matches_symbol_iff]
  simpa [hchar] using Value.equal_ofChar

end StoreKind

namespace Automaton

def IsCharacters (a : Automaton) : Prop :=
  ∀ i p t, ⟨.predicate p, t⟩ ∈ a.edgesOf i → ∃ low high, p = .range (.ofChar low) (.ofChar high)

/-- An automaton over symbols with the same states, markers and epsilon edges, and for each character of a range an edge
in place of the one that the range guards. -/
structure Expands (a e : Automaton) : Prop where
  kind : e.factory.storeKind = .symbol
  count : e.count = a.count
  markersAt : ∀ i, e.markersAt i = a.markersAt i
  epsilon : ∀ i t, ⟨.epsilon, t⟩ ∈ e.edgesOf i ↔ ⟨.epsilon, t⟩ ∈ a.edgesOf i
  symbols : ∀ i p t, ⟨.predicate p, t⟩ ∈ e.edgesOf i ↔ ∃ low high c,
    ⟨.predicate (.range (.ofChar low) (.ofChar high)), t⟩ ∈ a.edgesOf i ∧ low ≤ c ∧ c ≤ high ∧ p = .ofChar c

/-! ### Reading -/

section Reading

variable [TestFunctions] {a e : Automaton} {v : Value}

/-- A character leads to the same states in both automata, and no look-up of one fails. -/
theorem Expands.mirrors (ha : a.WellFormed) (he : e.WellFormed) (hk : a.factory.storeKind = .range)
    (hc : a.IsCharacters) (h : a.Expands e) : Mirrors (fun v => ∃ c, v = .ofChar c) a e where
  count := h.count
  markersAt := h.markersAt
  epsilon := fun i t => by rw [ha.mem_epsilonTargets, he.mem_epsilonTargets, h.epsilon]
  targets := by
    rintro v ⟨c, rfl⟩ i
    have hne : Value.ofChar c ≠ .epsilon := nofun
    obtain ⟨ts, hts⟩ : ∃ ts, a.targetsOf (.ofChar c) i = .ok ts := answers_of_stores (fun s hs =>
      (ha.stores s hs).sound.query_ok_range ((ha.stores s hs).kind.trans hk) hne) i
    obtain ⟨us, hus⟩ : ∃ us, e.targetsOf (.ofChar c) i = .ok us := answers_of_stores (fun s hs =>
      ((he.stores s hs).sound.query_ok_iff_symbol ((he.stores s hs).kind.trans h.kind) hne).2 rfl) i
    refine ⟨ts, us, hts, hus, fun t => ?_⟩
    rw [ha.mem_targetsOf (hk ▸ .inr (.inl rfl)) hne hts, he.mem_targetsOf (h.kind ▸ .inl rfl) hne hus, hk, h.kind]
    constructor
    · rintro ⟨p, hp, hmatch⟩
      obtain ⟨low, high, d, hedge, hlow, hhigh, rfl⟩ := (h.symbols i p t).1 hp
      obtain rfl := StoreKind.matches_symbol_ofChar.1 hmatch
      exact ⟨_, hedge, StoreKind.matches_range_ofChar.2 ⟨hlow, hhigh⟩⟩
    · rintro ⟨p, hp, hmatch⟩
      obtain ⟨low, high, rfl⟩ := hc i p t hp
      obtain ⟨hlow, hhigh⟩ := StoreKind.matches_range_ofChar.1 hmatch
      exact ⟨_, (h.symbols i _ t).2 ⟨low, high, c, hp, hlow, hhigh, rfl⟩, StoreKind.matches_symbol_ofChar.2 rfl⟩

end Reading

end Automaton

/-! ### Edges in place of one -/

def Value.char? : Value → Option Char
  | .str s =>
    match s.toList with
    | [c] => some c
    | _ => none
  | _ => none

theorem Value.char?_ofChar (c : Char) : (ofChar c).char? = some c := by
  simp [ofChar, char?]

namespace Edge

def expanded (e : Edge) : List Edge :=
  match e.guard with
  | .predicate (.range low high) =>
    match low.char?, high.char? with
    | some first, some last => (Text.charsBetween first last).map fun c => ⟨.predicate (.ofChar c), e.target⟩
    | _, _ => []
  | _ => [e]

theorem expanded_range (low high : Char) (t : Nat) : expanded ⟨.predicate (.range (.ofChar low) (.ofChar high)), t⟩ =
    (Text.charsBetween low high).map fun c => ⟨.predicate (.ofChar c), t⟩ := by
  simp only [expanded, Value.char?_ofChar]

def IsCharacter (e : Edge) : Prop :=
  e.guard = .epsilon ∨ ∃ c, e.guard = .predicate (.ofChar c)

variable {d e : Edge} {es : List Edge}

theorem IsCharacter.settled (h : e.IsCharacter) : Store.Settled .symbol e.guard := by
  rcases h with h | ⟨c, h⟩
  · rw [h]
    exact Store.settled_epsilon _
  · rw [h]
    exact ⟨rfl, rfl⟩

theorem IsCharacter.eq (hd : d.IsCharacter) (he : e.IsCharacter) (h : d.equal e = true) : d = e := by
  obtain ⟨g, t⟩ := d
  obtain ⟨g', t'⟩ := e
  obtain ⟨hguard, htarget⟩ := Bool.and_eq_true_iff.1 h
  obtain rfl : t = t' := by simpa using htarget
  rcases hd with rfl | ⟨c, rfl⟩ <;> rcases he with rfl | ⟨c', rfl⟩
  · rfl
  · cases hguard
  · cases hguard
  · rw [Value.same_ofChar.1 hguard]

/-- Of edges that are equal only to themselves none is lost. -/
theorem mem_firsts_characters (hes : ∀ e ∈ es, e.IsCharacter) : e ∈ firsts es ↔ e ∈ es := by
  have hhashable : ∀ e ∈ es, e.guard.value.unhashable? = none := fun e he =>
    Value.checkHashable_iff.1 (hes e he).settled.2
  rw [mem_firsts_iff hhashable]
  constructor
  · rintro ⟨before, after, rfl, -⟩
    exact List.mem_append_right _ List.mem_cons_self
  · intro he
    obtain ⟨before, after, rfl, hnew⟩ := List.eq_append_cons_of_mem he
    refine ⟨before, after, rfl, fun d hd => Bool.eq_false_iff.2 fun heq => hnew ?_⟩
    rwa [← (hes d (List.mem_append_left _ hd)).eq (hes e he) heq]

end Edge

namespace Automaton

variable {a b c : Automaton} {i : Nat}

def expandedAt (a : Automaton) (i : Nat) : List Edge :=
  (a.edgesOf i).flatMap Edge.expanded

theorem mem_expandedAt (hc : a.IsCharacters) {g : Guard} {t : Nat} : ⟨g, t⟩ ∈ a.expandedAt i ↔
    g = .epsilon ∧ ⟨.epsilon, t⟩ ∈ a.edgesOf i ∨ ∃ low high c,
      ⟨.predicate (.range (.ofChar low) (.ofChar high)), t⟩ ∈ a.edgesOf i ∧ low ≤ c ∧ c ≤ high ∧
        g = .predicate (.ofChar c) := by
  rw [expandedAt, List.mem_flatMap]
  constructor
  · rintro ⟨⟨h, u⟩, he, hmem⟩
    cases h with
    | epsilon =>
      cases List.mem_singleton.1 hmem
      exact .inl ⟨rfl, he⟩
    | predicate p =>
      obtain ⟨low, high, rfl⟩ := hc i p u he
      rw [Edge.expanded_range] at hmem
      obtain ⟨c, hbetween, hedge⟩ := List.mem_map.1 hmem
      cases hedge
      obtain ⟨hlow, hhigh⟩ := Text.mem_charsBetween.1 hbetween
      exact .inr ⟨low, high, c, he, hlow, hhigh, rfl⟩
  · rintro (⟨rfl, he⟩ | ⟨low, high, c, he, hlow, hhigh, rfl⟩)
    · exact ⟨_, he, List.mem_singleton_self _⟩
    · refine ⟨_, he, ?_⟩
      rw [Edge.expanded_range]
      exact List.mem_map.2 ⟨c, Text.mem_charsBetween.2 ⟨hlow, hhigh⟩, rfl⟩

theorem isCharacter_expandedAt (hc : a.IsCharacters) : ∀ e ∈ a.expandedAt i, e.IsCharacter := by
  rintro ⟨g, t⟩ he
  rcases (mem_expandedAt hc).1 he with ⟨rfl, -⟩ | ⟨_, _, c, _, _, _, rfl⟩
  · exact .inl rfl
  · exact .inr ⟨c, rfl⟩

theorem WellFormed.expandedAt_lt (ha : a.WellFormed) (hc : a.IsCharacters) :
    ∀ e ∈ a.expandedAt i, e.target < a.count := by
  rintro ⟨g, t⟩ he
  rcases (mem_expandedAt hc).1 he with ⟨-, h⟩ | ⟨_, _, _, h, -⟩
  · have hlt := ha.target_lt h
    exact hlt
  · have hlt := ha.target_lt h
    exact hlt

/-! ### Building the expansion -/

open Session

def linking (i : Nat) (e : Edge) : Command :=
  .newTransition (.state i) (.state e.target) e.guard.value

def growing (a : Automaton) (i : Nat) : List Command :=
  .newState :: (a.markersAt i).map (.mark (.state i))

def expanding (a : Automaton) : List Command :=
  (List.range a.count).flatMap a.growing ++
    (List.range a.count).flatMap fun i => (a.expandedAt i).map (linking i)

theorem grows_expanding (a : Automaton) : ∀ c ∈ a.expanding, Grows c := by
  intro c hc
  rcases List.mem_append.1 hc with hc | hc
  · obtain ⟨i, _, hc⟩ := List.mem_flatMap.1 hc
    rcases List.mem_cons.1 hc with rfl | hc
    · trivial
    · obtain ⟨m, _, rfl⟩ := List.mem_map.1 hc
      trivial
  · obtain ⟨i, _, hc⟩ := List.mem_flatMap.1 hc
    obtain ⟨e, _, rfl⟩ := List.mem_map.1 hc
    trivial

theorem Grown.append {mss nss : List (List Value)} (h : a.Grown mss b) (g : b.Grown nss c) :
    a.Grown (mss ++ nss) c where
  wellFormed := g.wellFormed
  name := g.name.trans h.name
  factory := g.factory.trans h.factory
  stores := by
    rw [g.stores, h.stores, h.factory, List.append_assoc, List.length_append, List.replicate_append_replicate]
  markers := by rw [g.markers, h.markers, List.append_assoc]

variable [TestFunctions]

theorem foldl_mark {ms : List Value} (h : addMarkers i ms a = .ok b) :
    (ms.map (Command.mark (.state i))).foldl left a = b := by
  induction ms generalizing a with
  | nil =>
    cases h
    rfl
  | cons m ms ih =>
    unfold addMarkers at h
    rw [List.map_cons, List.foldl_cons, left_mark]
    split at h
    · cases h
    next c _ hc =>
      rw [hc]
      exact ih h

/-- A state is made again with its markers. -/
theorem grown_growing_one (hb : b.WellFormed) (hi : b.count = i) (hd : Value.Distinct (a.markersAt i))
    (hm : ∀ m ∈ a.markersAt i, m.unhashable? = none) : b.Grown [a.markersAt i] ((a.growing i).foldl left b) := by
  have hnone : [⟨i, a.markersAt i⟩].findSome? StateEntry.problem? = none := by
    refine List.findSome?_eq_none_iff.2 fun s hs => List.findSome?_eq_none_iff.2 fun m hms => ?_
    obtain rfl := List.mem_singleton.1 hs
    rw [Value.keyProblem?, hm m hms]
    rfl
  have hmeets := addStates_meets [⟨i, a.markersAt i⟩] hb
  rw [hnone, List.map_singleton, Value.firsts_distinct hd] at hmeets
  obtain ⟨c, hc, hgrown⟩ := hmeets
  rw [addStates, hi] at hc
  cases hadd : addMarkers i (a.markersAt i) b.newState.1 with
  | error f =>
    rw [hadd] at hc
    cases hc
  | ok d =>
    rw [hadd] at hc
    cases hc
    rw [growing, List.foldl_cons]
    exact (foldl_mark hadd).symm ▸ hgrown

theorem grown_growing (ha : a.WellFormed) (hm : a.HashableMarkers) (f : Factory) (name : Value) (n : Nat) :
    (new f name).Grown ((List.range n).map a.markersAt)
      (((List.range n).flatMap a.growing).foldl left (new f name)) := by
  induction n with
  | zero => exact ⟨wellFormed_new f name, rfl, rfl, rfl, rfl⟩
  | succ n ih =>
    rw [List.range_succ, List.flatMap_append, List.foldl_append, List.flatMap_singleton, List.map_append]
    refine ih.append (grown_growing_one ih.wellFormed ?_ (ha.distinct_markersAt n) hm.markersAt)
    rw [count, ih.stores]
    simp [new]

/-- The edges of one state are added behind those it has. -/
theorem extends_linking_one (hb : b.WellFormed) (hi : i < b.count) (es : List Edge)
    (hes : ∀ e ∈ es, e.target < b.count ∧ Store.Settled b.factory.storeKind e.guard) :
    b.Extends (fun l => if l = i then es else []) ((es.map (linking i)).foldl left b) := by
  induction es generalizing b with
  | nil => simpa using extends_nothing hb
  | cons e es ih =>
    obtain ⟨⟨ht, hsettled⟩, hrest⟩ := List.forall_mem_cons.1 hes
    obtain ⟨c, hc, hext⟩ := extends_newTransition hb hi ht hsettled
    have hleft : left b (linking i e) = c := (left_newTransition _ _ _ _).trans (congrArg Prod.fst hc)
    rw [List.map_cons, List.foldl_cons, hleft]
    have hnext := hext.append (ih hext.wellFormed (hext.count ▸ hi) (by rwa [hext.count, hext.factory]))
    have hadded : (fun l => (if l = i then [⟨e.guard, e.target⟩] else []) ++ if l = i then es else []) =
        fun l => if l = i then e :: es else [] := by
      funext l
      split <;> rfl
    rwa [hadded] at hnext

/-- State by state, edges are added. -/
theorem extends_linking (hb : b.WellFormed) {n : Nat} (es : Nat → List Edge) (hn : n ≤ b.count)
    (hes : ∀ i, ∀ e ∈ es i, e.target < b.count ∧ Store.Settled b.factory.storeKind e.guard) :
    b.Extends (fun i => if i < n then es i else [])
      (((List.range n).flatMap fun i => (es i).map (linking i)).foldl left b) := by
  induction n with
  | zero => simpa using extends_nothing hb
  | succ n ih =>
    have hext := ih (Nat.le_of_succ_le hn)
    rw [List.range_succ, List.flatMap_append, List.foldl_append, List.flatMap_singleton]
    have hone := extends_linking_one (i := n) hext.wellFormed (by rw [hext.count]; omega) (es n)
      (by rw [hext.count, hext.factory]; exact hes n)
    have hadded : (fun i => (if i < n then es i else []) ++ if i = n then es n else []) =
        fun i => if i < n + 1 then es i else [] := by
      funext i
      rcases Nat.lt_trichotomy i n with h | rfl | h
      · simp [h, Nat.ne_of_lt h, Nat.lt_succ_of_lt h]
      · simp
      · simp [Nat.not_lt.2 (Nat.le_of_lt h), Nat.ne_of_gt h, Nat.not_lt.2 (Nat.succ_le_of_lt h)]
    have hboth := hext.append hone
    rwa [hadded] at hboth

def expansion (a : Automaton) : Automaton :=
  a.expanding.foldl left (new (.ofKind .symbol) a.name)

theorem reachable_expansion (a : Automaton) : a.expansion.Reachable := by
  refine ⟨("a", .new (.ofKind .symbol) a.name) :: a.expanding.map (Prod.mk "a"), "a", ?_⟩
  rw [run_cons]
  exact automaton_run_growth (automaton_assign_self _ _ _) a.grows_expanding

theorem expands_expansion (ha : a.WellFormed) (hm : a.HashableMarkers) (hc : a.IsCharacters) :
    a.Expands a.expansion := by
  have hgrown := grown_growing ha hm (.ofKind .symbol) a.name a.count
  have hexp : a.expansion = ((List.range a.count).flatMap fun i => (a.expandedAt i).map (linking i)).foldl left
      (((List.range a.count).flatMap a.growing).foldl left (new (.ofKind .symbol) a.name)) := List.foldl_append
  rw [hexp]
  generalize ((List.range a.count).flatMap a.growing).foldl left (new (.ofKind .symbol) a.name) = b at hgrown
  have hcount : b.count = a.count := by
    rw [count, hgrown.stores]
    simp [new]
  have hfactory : b.factory = .ofKind .symbol := hgrown.factory
  have hext := extends_linking hgrown.wellFormed a.expandedAt (Nat.le_of_eq hcount.symm)
    fun i e he => by
      rw [hcount, hfactory]
      exact ⟨ha.expandedAt_lt hc e he, (isCharacter_expandedAt hc e he).settled⟩
  generalize ((List.range a.count).flatMap fun i => (a.expandedAt i).map (linking i)).foldl left b = e at hext
  have hedges : ∀ i g t, ⟨g, t⟩ ∈ e.edgesOf i ↔ ⟨g, t⟩ ∈ a.expandedAt i := by
    intro i g t
    have hnone : b.edgesOf i = [] := by
      by_cases hi : i < a.count <;> simp [edgesOf, hgrown.stores, new, Factory.newStore, hi]
    have hall : (if i < a.count then a.expandedAt i else []) = a.expandedAt i := by
      split
      · rfl
      next hi =>
        have hout : a.stores[i]? = none := List.getElem?_eq_none_iff.2 (Nat.not_lt.1 hi)
        simp [expandedAt, edgesOf, hout]
    rw [hext.edgesOf, hnone, hall, Edge.insertAll_eq_firsts]
    exact Edge.mem_firsts_characters (isCharacter_expandedAt hc)
  exact {
    kind := by rw [hext.factory, hfactory]; rfl
    count := hext.count.trans hcount
    markersAt := fun i => by
      rw [hext.markersAt, markersAt, hgrown.markers]
      by_cases hi : i < a.count
      · simp [new, hi]
      · have hout : a.markersAt i = [] := by
          by_contra hne
          exact hi (ha.lt_count_of_markersAt hne)
        simp [new, hi, hout]
    epsilon := fun i t => by simp [hedges, mem_expandedAt hc]
    symbols := fun i p t => by simp [hedges, mem_expandedAt hc] }

variable {e : Automaton}

/-- Every automaton whose ranges go from a character to a character has an expansion, and reads every text like any
expansion: the frontiers after a restart and after every character are the same, and so is what feeding tells. -/
theorem feed_expanded (ha : a.Reachable) (hk : a.factory.storeKind = .range) (hc : a.IsCharacters) :
    (∃ e : Automaton, e.Reachable ∧ a.Expands e) ∧ ∀ e : Automaton, e.Reachable → a.Expands e →
      e.reset.active = a.reset.active ∧ ∀ text : String, ∃ r,
        (a.reset.feed (.str text)).2 = .ok r ∧ (e.reset.feed (.str text)).2 = .ok r ∧
        (e.reset.feed (.str text)).1.active = (a.reset.feed (.str text)).1.active ∧
        (a.accepts (.str text)).2 = .ok r.accepted ∧ (e.accepts (.str text)).2 = .ok r.accepted := by
  refine ⟨⟨a.expansion, a.reachable_expansion, expands_expansion ha.wellFormed ha.hashableMarkers hc⟩, ?_⟩
  intro e he h
  have hmirrors := h.mirrors ha.wellFormed he.wellFormed hk hc
  refine ⟨hmirrors.active_reset ha.wellFormed he.wellFormed, fun text => ?_⟩
  refine hmirrors.feed_reset ha.wellFormed he.wellFormed (w := text.toList.map .ofChar) rfl fun v hv => ?_
  obtain ⟨c, _, rfl⟩ := List.mem_map.1 hv
  exact ⟨nofun, c, rfl⟩

omit [TestFunctions] in
/-- Two ranges overlap in one letter, and a third one is that letter alone; the text is read through all of them. -/
theorem feed_expanded_overlap : ∃ a e : Automaton, @Reachable Matcher.catalogue a ∧ @Reachable Matcher.catalogue e ∧
    a.Expands e ∧ a.factory.storeKind = .range ∧ e.factory.storeKind = .symbol ∧
    (@feed Matcher.catalogue a.reset (.str "cbx")).2 = .ok ⟨2, false, [.str "m"]⟩ ∧
    (@feed Matcher.catalogue e.reset (.str "cbx")).2 = .ok ⟨2, false, [.str "m"]⟩ ∧
    (@accepts Matcher.catalogue e (.str "cb")).2 = .ok true := by
  let _ := Matcher.catalogue
  let cs : List (String × Command) := [("a", .new (.ofKind .range) .null), ("a", .newStates 3),
    ("a", .newTransition (.int 0) (.int 1) (.list [.str "a", .str "c"])),
    ("a", .newTransition (.int 0) (.int 2) (.list [.str "c", .str "e"])),
    ("a", .newTransition (.int 1) (.int 2) .epsilon), ("a", .newTransition (.int 2) (.int 2) (.str "b")),
    ("a", .mark (.int 2) (.str "m"))]
  let fromA : Value := .range (.ofChar 'a') (.ofChar 'c')
  let fromC : Value := .range (.ofChar 'c') (.ofChar 'e')
  let onlyB : Value := .range (.ofChar 'b') (.ofChar 'b')
  let zero : Store := ⟨.range, [⟨.predicate fromA, 1⟩, ⟨.predicate fromC, 2⟩], [], .entries [(fromA, 1), (fromC, 2)]⟩
  let two : Store := ⟨.range, [⟨.predicate onlyB, 2⟩], [], .entries [(onlyB, 2)]⟩
  let a : Automaton := ⟨.null, .ofKind .range, [zero, ⟨.range, [⟨.epsilon, 2⟩], [2], .entries []⟩, two],
    [[], [], [.str "m"]], .ofList [0]⟩
  have hr : Reachable a := ⟨cs, "a", by cbv⟩
  have hc : a.IsCharacters := by
    rintro (_ | _ | _ | i) p t h
    · rcases List.mem_cons.1 h with h | h
      · cases h
        exact ⟨_, _, rfl⟩
      · cases List.mem_singleton.1 h
        exact ⟨_, _, rfl⟩
    · cases List.mem_singleton.1 h
    · cases List.mem_singleton.1 h
      exact ⟨_, _, rfl⟩
    · cases h
  obtain ⟨⟨e, he, hexpands⟩, hall⟩ := feed_expanded hr rfl hc
  obtain ⟨r, hfeed, hfeedE, -⟩ := (hall e he hexpands).2 "cbx"
  obtain ⟨s, hfeedS, -, -, haccepts, hacceptsE⟩ := (hall e he hexpands).2 "cb"
  have hpart : (a.reset.feed (.str "cbx")).2 = .ok ⟨2, false, [.str "m"]⟩ := by cbv
  have hwhole : (a.accepts (.str "cb")).2 = .ok true := by cbv
  refine ⟨a, e, hr, he, hexpands, rfl, hexpands.kind, hpart, ?_, ?_⟩
  · rw [hfeedE, ← hfeed, hpart]
  · rw [hacceptsE, ← haccepts, hwhole]

end Automaton

end GuardedAutomata
