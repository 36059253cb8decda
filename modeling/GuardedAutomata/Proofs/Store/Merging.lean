import GuardedAutomata.Proofs.Store.Lookup
import GuardedAutomata.Proofs.Value.Order

/-!
# Merged stores

Of equal edges that are put into a store the first one stays. The others may have had another predicate, a
number of another type for example, but equal predicates pass the same tests; so a store that gathers the
edges of others answers with the targets of all of them, and with nothing else.
-/

set_option autoImplicit false

namespace GuardedAutomata

theorem Range.contains_congr {low high bottom top : Value} (hlow : Value.ComparedAs .lessOrEqual low bottom)
    (hhigh : Value.ComparedAs .lessOrEqual high top) (v : Value) :
    Range.contains low high v = Range.contains bottom top v := by
  rw [Bool.eq_iff_iff, StoreKind.contains_iff, StoreKind.contains_iff, hlow.left, hhigh.right]

/-- Predicates of one key give every test the same outcome. -/
theorem StoreKind.test_congr [TestFunctions] (k : StoreKind) {p q : Value} (hp : p.unhashable? = none)
    (hq : q.unhashable? = none) (hkey : p.key = q.key) (v : Value) : k.test p v = k.test q v := by
  cases k with
  | range =>
    cases p with
    | range low high =>
      cases q with
      | range bottom top =>
        rw [Value.key, Value.key, Key.bounds.injEq] at hkey
        obtain ⟨hl, hh⟩ := Value.unhashable_range hp
        obtain ⟨hb, ht⟩ := Value.unhashable_range hq
        have hcontains : Range.contains low high v = Range.contains bottom top v :=
          Range.contains_congr (Value.comparedAs_of_key _ hl hb hkey.1) (Value.comparedAs_of_key _ hh ht hkey.2) v
        simp only [test, hcontains]
      | _ => cases hkey
    | _ =>
      cases q with
      | range _ _ => cases hkey
      | _ => rfl
  | callable =>
    cases p with
    | function f =>
      cases q with
      | function g =>
        cases hkey
        rfl
      | _ => cases hkey
    | _ =>
      cases q with
      | function _ => cases hkey
      | _ => rfl
  | symbol | upper | unnamed => simp only [test, Value.same_left_congr hp hq hkey v]

theorem StoreKind.passes_congr [TestFunctions] (k : StoreKind) {p q : Value} (hp : p.unhashable? = none)
    (hq : q.unhashable? = none) (h : p.same q = true) (v : Value) : k.passes v p = k.passes v q := by
  rw [passes, passes, k.test_congr hp hq ((Value.same_iff_key hp hq).1 h)]

namespace Store

structure Gathers (k : StoreKind) (es : List Edge) (s : Store) : Prop where
  kind : s.kind = k
  sound : s.Sound
  mem : ∀ e ∈ s.edges, e ∈ es
  covers : ∀ e ∈ es, ∃ d ∈ s.edges, d = e ∨ d.equal e = true

variable {k : StoreKind} {s : Store} {es fs : List Edge}

theorem gathers_empty (k : StoreKind) : (empty k).Gathers k [] where
  kind := rfl
  sound := sound_empty k
  mem := fun _ he => he
  covers := by simp

theorem Gathers.put (h : s.Gathers k es) {e : Edge} (he : Settled k e.guard) :
    ∃ t, s.put e.guard e.target = .ok t ∧ t.Gathers k (es ++ [e]) := by
  rw [← h.kind] at he
  obtain ⟨t, hput⟩ : ∃ t, s.put e.guard e.target = .ok t := ⟨_, put_of_settled he e.target⟩
  have hedges : t.edges = Edge.insertInto s.edges e := edges_put he hput
  refine ⟨t, hput, (kind_put hput).trans h.kind, sound_put h.sound hput, ?_, ?_⟩
  · intro d hd
    rw [hedges, Edge.insertInto] at hd
    split at hd
    · exact List.mem_append_left _ (h.mem d hd)
    · exact List.append_subset.2 ⟨fun d hd => List.mem_append_left _ (h.mem d hd), by simp⟩ hd
  · intro d hd
    rw [hedges, Edge.insertInto]
    split
    next hany =>
      rcases List.mem_append.1 hd with hd | hd
      · exact h.covers d hd
      · cases List.mem_singleton.1 hd
        obtain ⟨c, hc, hce⟩ := List.any_eq_true.1 hany
        exact ⟨c, hc, .inr hce⟩
    · rcases List.mem_append.1 hd with hd | hd
      · obtain ⟨c, hc, hcd⟩ := h.covers d hd
        exact ⟨c, List.mem_append_left _ hc, hcd⟩
      · exact ⟨d, List.mem_append_right _ hd, .inl rfl⟩

theorem Gathers.putAll (h : s.Gathers k es) (hfs : ∀ e ∈ fs, Settled k e.guard) :
    ∃ t, s.putAll .ok fs = (t, .ok ()) ∧ t.Gathers k (es ++ fs) := by
  induction fs generalizing s es with
  | nil => exact ⟨s, rfl, by rwa [List.append_nil]⟩
  | cons e fs ih =>
    obtain ⟨he, hfs⟩ := List.forall_mem_cons.1 hfs
    obtain ⟨t, hput, ht⟩ := h.put he
    obtain ⟨u, hall, hu⟩ := ih ht hfs
    exact ⟨u, by simp only [Store.putAll, hput, hall], by simpa using hu⟩

/-! ### What a gathering store answers -/

theorem Gathers.mem_epsilon (h : s.Gathers k es) {j : Nat} : j ∈ s.epsilon ↔ ⟨.epsilon, j⟩ ∈ es := by
  rw [h.sound.mem_epsilon]
  refine ⟨h.mem _, fun he => ?_⟩
  obtain ⟨d, hd, rfl | heq⟩ := h.covers _ he
  · exact hd
  · obtain ⟨g, t⟩ := d
    cases g with
    | epsilon =>
      have htj : t = j := by simpa [Edge.equal, Guard.equal] using heq
      exact htj ▸ hd
    | predicate p => simp [Edge.equal, Guard.equal] at heq

variable [TestFunctions]

/-- A target is found behind the edge that stays exactly if it is behind one of those there were. -/
theorem Gathers.exists_passing (h : s.Gathers k es) (hes : ∀ e ∈ es, Settled k e.guard) {v : Value} {j : Nat} :
    (∃ p, ⟨.predicate p, j⟩ ∈ s.edges ∧ k.passes v p = true) ↔
      ∃ p, ⟨.predicate p, j⟩ ∈ es ∧ k.passes v p = true := by
  constructor
  · rintro ⟨p, hp, hpass⟩
    exact ⟨p, h.mem _ hp, hpass⟩
  · rintro ⟨p, hp, hpass⟩
    obtain ⟨d, hd, rfl | heq⟩ := h.covers _ hp
    · exact ⟨p, hd, hpass⟩
    · obtain ⟨g, t⟩ := d
      cases g with
      | epsilon => simp [Edge.equal, Guard.equal] at heq
      | predicate q =>
        obtain ⟨hsame, rfl⟩ : q.same p = true ∧ t = j := by simpa [Edge.equal, Guard.equal] using heq
        have hhp : p.unhashable? = none := Value.checkHashable_iff.1 (hes _ hp).2
        have hhq : q.unhashable? = none := Value.checkHashable_iff.1 (hes _ (h.mem _ hd)).2
        exact ⟨q, hd, by rw [k.passes_congr hhq hhp hsame, hpass]⟩

structure Answering (k : StoreKind) (v : Value) (s : Store) : Prop where
  kind : s.kind = k
  sound : s.Sound
  query : ∃ ts, s.query v = .ok ts

theorem Answering.search {v : Value} (hv : v ≠ .epsilon) (h : s.Answering k v) :
    ∃ ts, Index.search k v s.entries = .ok ts := by
  obtain ⟨ts, hts⟩ := h.query
  rw [query_of_ne_epsilon hv, h.sound.lookup_eq, h.kind] at hts
  exact ⟨ts, hts⟩

/-- A value that can be looked up where the edges come from can be looked up where they are gathered. -/
theorem Gathers.answering (h : s.Gathers k es) {v : Value} (hv : v ≠ .epsilon)
    (hone : ∃ t, Answering k v t) (hall : ∀ e ∈ es, ∃ t, Answering k v t ∧ e ∈ t.edges) : s.Answering k v := by
  refine ⟨h.kind, h.sound, ?_⟩
  rw [query_of_ne_epsilon hv, h.sound.lookup_eq, h.kind, Index.search_ok_iff]
  split
  next hgroup =>
    -- Grouped symbols: whether a key can be looked up does not depend on the entries.
    obtain ⟨t, ht⟩ := hone
    have hkey := Index.search_ok_iff.1 (ht.search hv)
    rwa [if_pos hgroup] at hkey
  next hgroup =>
    rintro ⟨p, j⟩ he
    obtain ⟨t, ht, hp⟩ := hall _ (h.mem _ (mem_entries.1 he))
    have htest := Index.search_ok_iff.1 (ht.search hv)
    rw [if_neg hgroup] at htest
    exact htest _ (mem_entries.2 hp)

end Store

end GuardedAutomata
