import GuardedAutomata.Proofs.Store.History

/-!
# Looking up is scanning

Beside the edge list a store keeps what it answers queries from. However it has been filled, it answers like a scan
of the edge list: with the targets of the edges whose predicates match, in their order, and for epsilon with the
targets of the edges that epsilon itself guards.
-/

set_option autoImplicit false

namespace GuardedAutomata

variable [TestFunctions]

namespace StoreKind

instance (k : StoreKind) : Decidable k.BuiltIn :=
  inferInstanceAs (Decidable (k = symbol ∨ k = range ∨ k = callable))

theorem Matches.builtIn {k : StoreKind} {p v : Value} (h : k.Matches p v) : k.BuiltIn := by
  cases h with
  | equal _ | identical _ => exact .inl rfl
  | within _ _ => exact .inr (.inl rfl)
  | answered _ _ => exact .inr (.inr rfl)

instance (k : StoreKind) (p v : Value) : Decidable (k.Matches p v) :=
  decidable_of_iff (k.BuiltIn ∧ k.passes v p = true)
    ⟨fun ⟨hk, hp⟩ => (passes_iff_matches hk p v).1 hp,
      fun h => ⟨h.builtIn, (passes_iff_matches h.builtIn p v).2 h⟩⟩

theorem decide_matches {k : StoreKind} (hk : k.BuiltIn) (p v : Value) : decide (k.Matches p v) = k.passes v p := by
  rw [Bool.eq_iff_iff, decide_eq_true_iff, passes_iff_matches hk]

theorem test_range (p v : Value) : ∃ b, range.test p v = .ok b := by
  cases p <;> exact ⟨_, rfl⟩

theorem test_callable_ok_iff (p v : Value) :
    (∃ b, callable.test p v = .ok b) ↔ ∀ f, p = .function f → ∃ answer, f.apply v = .ok answer := by
  cases p with
  | function f =>
    have htest : (∃ b, callable.test (.function f) v = .ok b) ↔ ∃ answer, f.apply v = .ok answer := by
      rw [test]
      cases f.apply v <;> simp
    rw [htest]
    constructor
    · rintro h g ⟨⟩
      exact h
    · exact fun h => h f rfl
  | _ => simp [test]

end StoreKind

namespace Index

omit [TestFunctions] in
theorem symbols_addToGroup (p : Value) (t : Nat) (gs : List (Value × List Nat)) :
    (addToGroup p t gs).map Prod.fst = Value.insertInto (gs.map Prod.fst) p := by
  induction gs with
  | nil => rfl
  | cons g gs ih =>
    obtain ⟨q, ts⟩ := g
    rw [Value.insertInto, Value.memberOf] at ih ⊢
    rw [addToGroup, List.map_cons, List.any_cons]
    cases hq : q.same p with
    | true => simp
    | false =>
      simp only [Bool.false_or, Bool.false_eq_true, if_false, List.map_cons, ih]
      split <;> simp

omit [TestFunctions] in
theorem symbols_insertAll (entries : List (Value × Nat)) (gs : List (Value × List Nat)) :
    (entries.foldl (fun gs e => addToGroup e.1 e.2 gs) gs).map Prod.fst =
      (entries.map Prod.fst).foldl Value.insertInto (gs.map Prod.fst) := by
  induction entries generalizing gs with
  | nil => rfl
  | cons e entries ih => rw [List.foldl_cons, ih, symbols_addToGroup, List.map_cons, List.foldl_cons]

end Index

namespace Store

variable {k : StoreKind} {s : Store} {v : Value}

omit [TestFunctions] in
theorem symbols_of_groups {gs : List (Value × List Nat)} (h : s.index = .groups gs) :
    s.symbols = gs.map Prod.fst := by
  obtain ⟨_, _, _, _⟩ := s
  cases h
  rfl

omit [TestFunctions] in
theorem Sound.symbols_eq (hs : s.Sound) (hk : s.kind.isGrouped = true) :
    s.symbols = Value.firsts (s.entries.map Prod.fst) := by
  have hindex : s.index = .groups (s.entries.foldl (fun gs e => Index.addToGroup e.1 e.2 gs) []) := by
    rw [hs.index_eq, Index.empty, if_pos hk, Index.insertAll_groups]
  rw [symbols_of_groups hindex, Index.symbols_insertAll, List.map_nil, Value.insertAll_eq_firsts]

omit [TestFunctions] in
theorem Sound.mem_symbols (hs : s.Sound) (hk : s.kind.isGrouped = true) {p : Value} : p ∈ s.symbols ↔
    ∃ before after, s.entries.map Prod.fst = before ++ p :: after ∧ ∀ q ∈ before, q.same p = false := by
  have hhashable : ∀ q ∈ s.entries.map Prod.fst, q.unhashable? = none := by
    intro q hq
    obtain ⟨e, he, rfl⟩ := List.mem_map.1 hq
    exact hs.hashable_entries e he
  have hkey : ∀ q ∈ s.entries.map Prod.fst, ∀ r ∈ s.entries.map Prod.fst, q.same r = true ↔ q.key = r.key :=
    fun q hq r hr => Value.same_iff_key (hhashable q hq) (hhashable r hr)
  rw [hs.symbols_eq hk]
  exact mem_eraseDupsBy_iff hkey

theorem Sound.query_ok_iff (hs : s.Sound) (hv : v ≠ .epsilon) : (∃ ts, s.query v = .ok ts) ↔
    if s.kind.isGrouped then ∃ key, s.kind.lookupKey v = .ok key ∧ key.checkHashable = .ok ()
    else ∀ e ∈ s.entries, ∃ b, s.kind.test e.1 v = .ok b := by
  rw [query_of_ne_epsilon hv, hs.lookup_eq, Index.search_ok_iff]

theorem Sound.query_ok_iff_symbol (hs : s.Sound) (hk : s.kind = .symbol) (hv : v ≠ .epsilon) :
    (∃ ts, s.query v = .ok ts) ↔ v.unhashable? = none := by
  rw [hs.query_ok_iff hv, hk]
  simp [StoreKind.isGrouped, StoreKind.lookupKey, Value.checkHashable_iff]

theorem Sound.query_ok_range (hs : s.Sound) (hk : s.kind = .range) (hv : v ≠ .epsilon) :
    ∃ ts, s.query v = .ok ts := by
  rw [hs.query_ok_iff hv, hk]
  exact fun e _ => StoreKind.test_range e.1 v

theorem Sound.query_ok_iff_callable (hs : s.Sound) (hk : s.kind = .callable) (hv : v ≠ .epsilon) :
    (∃ ts, s.query v = .ok ts) ↔ ∀ f t, (.function f, t) ∈ s.entries → ∃ answer, f.apply v = .ok answer := by
  rw [hs.query_ok_iff hv, hk]
  simp only [StoreKind.isGrouped, Bool.false_eq_true, if_false, StoreKind.test_callable_ok_iff]
  constructor
  · exact fun h f t he => h _ he f rfl
  · rintro h ⟨p, t⟩ he f rfl
    exact h f t he

/-- However a store of a kind that matching is specified for has been filled, a query that gives an answer gives the
targets of the edges whose predicates match, in their order. A symbol matches what it equals, and what is not a
number matches itself besides. Epsilon is answered by the targets of the edges that it guards, and the symbols are
the predicates without an equal one before them. -/
theorem query_eq_scan (hk : k.BuiltIn) (cs : List Filling) (hs : s = (empty k).fillAll cs) :
    (∀ v ts, v ≠ .epsilon → s.query v = .ok ts → ts = (s.entries.filter fun e => k.Matches e.1 v).map Prod.snd) ∧
    (k = .symbol → ∀ p v, k.Matches p v ↔
      p.equal v = true ∨ ∃ origin, p = .float (.nan origin) ∧ v = .float (.nan origin)) ∧
    (∀ v, v ≠ .epsilon →
      (k = .symbol → ((∃ ts, s.query v = .ok ts) ↔ v.unhashable? = none)) ∧
      (k = .range → ∃ ts, s.query v = .ok ts) ∧
      (k = .callable → ((∃ ts, s.query v = .ok ts) ↔
        ∀ f t, (.function f, t) ∈ s.entries → ∃ answer, f.apply v = .ok answer))) ∧
    s.query .epsilon = .ok (s.edges.filterMap Edge.epsilonTarget?) ∧
    (k = .symbol →
      s.symbols = Value.firsts (s.entries.map Prod.fst) ∧ Value.Distinct s.symbols ∧
      ∀ p, p ∈ s.symbols ↔
        ∃ before after, s.entries.map Prod.fst = before ++ p :: after ∧ ∀ q ∈ before, q.same p = false) := by
  have hsound : s.Sound := hs ▸ sound_fillAll k cs
  have hkind : s.kind = k := hs ▸ kind_fillAll k cs
  subst hkind
  refine ⟨fun v ts hv h => ?_, fun hk p v => ?_, fun v hv => ⟨fun hk => ?_, fun hk => ?_, fun hk => ?_⟩, ?_,
    fun hk => ⟨?_, ?_, fun p => ?_⟩⟩
  · rw [hsound.query_eq_ok hk hv h, Index.matched]
    simp only [StoreKind.decide_matches hk]
  · rw [hk]
    exact StoreKind.matches_symbol_iff
  · exact hsound.query_ok_iff_symbol hk hv
  · exact hsound.query_ok_range hk hv
  · exact hsound.query_ok_iff_callable hk hv
  · rw [query, hsound.epsilon_eq]
  · exact hsound.symbols_eq (hk ▸ rfl)
  · rw [hsound.symbols_eq (hk ▸ rfl)]
    exact Value.distinct_firsts _
  · exact hsound.mem_symbols (hk ▸ rfl)

omit [TestFunctions] in
/-- 1 and true are one symbol, told in the form that came first, whose targets stand in the order of the edges.
What wraps epsilon or nothing into a predicate is a symbol of its own, and no epsilon edge. -/
theorem query_eq_scan_ones : ∃ (cs : List Filling) (s : Store), s = (empty .symbol).fillAll cs ∧
    @query Matcher.catalogue s (.bool true) = .ok [3, 2] ∧
    (∀ p, @StoreKind.Matches Matcher.catalogue .symbol p (.bool true) ↔ p.equal (.bool true) = true) ∧
    @query Matcher.catalogue s .epsilon = .ok [4] ∧
    s.symbols = [.int 1, .epsilon, .null] ∧ ¬ ∃ ts, @query Matcher.catalogue s (.list []) = .ok ts := by
  let _ := Matcher.catalogue
  let cs : List Filling := [.put (.int 1) 3, .put (.predicate .epsilon) 3, .put (.bool true) 3, .put .epsilon 4,
    .put .null 5, .put (.predicate .null) 5,
    .merge ⟨.symbol, [⟨.predicate (.bool true), 0⟩, ⟨.predicate (.list []), 1⟩], [], .groups []⟩
      fun t => .ok (t + 2)]
  let s : Store := ⟨.symbol, [⟨.predicate (.int 1), 3⟩, ⟨.predicate .epsilon, 3⟩, ⟨.epsilon, 4⟩,
    ⟨.predicate .null, 5⟩, ⟨.predicate (.bool true), 2⟩], [4],
    .groups [(.int 1, [3, 2]), (.epsilon, [3]), (.null, [5])]⟩
  have hs : (empty .symbol).fillAll cs = s := by cbv
  obtain ⟨hscan, hequal, hok, hepsilon, hsymbols⟩ := query_eq_scan (.inl rfl) cs hs.symm
  obtain ⟨ts, hts⟩ := ((hok (.bool true) (by simp)).1 rfl).2 rfl
  refine ⟨cs, s, hs.symm, ?_, fun p => (hequal rfl p _).trans (by simp), hepsilon, ?_, ?_⟩
  · rw [hts, hscan _ ts (by simp) hts]
    cbv
  · rw [(hsymbols rfl).1]
    cbv
  · rw [(hok (.list []) (by simp)).1 rfl]
    simp [Value.unhashable?]

omit [TestFunctions] in
/-- What is not a number equals nothing, but a symbol store finds it by itself. -/
theorem query_not_a_number : ∃ (cs : List Filling) (n : Value),
    (∀ e ∈ ((empty .symbol).fillAll cs).entries, e.1.equal n = false) ∧
    @query Matcher.catalogue ((empty .symbol).fillAll cs) n = .ok [1] := by
  let _ := Matcher.catalogue
  let n : Value := .float (.nan 0)
  have hs : (empty .symbol).fillAll [.put n 1] =
      ⟨.symbol, [⟨.predicate n, 1⟩], [], .groups [(n, [1])]⟩ := by cbv
  refine ⟨[.put n 1], n, ?_, ?_⟩
  · rw [hs]
    exact List.forall_mem_singleton.2 (by cbv)
  · rw [hs]
    cbv

end Store

end GuardedAutomata
