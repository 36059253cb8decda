import GuardedAutomata.Proofs.Store.Merging
import GuardedAutomata.Proofs.Value.Spelling

/-!
# Stores in two spellings

Two stores whose edges differ only in how their predicates are spelled answer every query alike, and stay so when an
edge is put into both: it is refused by both, there already in both, or recorded by both.
-/

set_option autoImplicit false

namespace GuardedAutomata

inductive Guard.Spelled (R : Value → Value → Prop) : Guard → Guard → Prop
  | epsilon : Spelled R .epsilon .epsilon
  | predicate {p q : Value} : R p q → Spelled R (.predicate p) (.predicate q)

inductive Edge.Spelled (R : Value → Value → Prop) : Edge → Edge → Prop
  | intro {g h : Guard} (target : Nat) : g.Spelled R h → Spelled R ⟨g, target⟩ ⟨h, target⟩

/-- What spellings of values have in common: they are keys together, and then the same one, they are read as guards
together, and a store of any kind records them together. -/
structure Spelling (R : Value → Value → Prop) : Prop where
  refl : ∀ v, R v v
  symm : ∀ {v w}, R v w → R w v
  hashable : ∀ {v w}, R v w → v.unhashable? = none → w.unhashable? = none
  key : ∀ {v w}, R v w → v.unhashable? = none → v.key = w.key
  guard : ∀ {v w g}, R v w → Guard.ofValue v = .ok g → ∃ h, Guard.ofValue w = .ok h ∧ g.Spelled R h
  coerce : ∀ {v w p} (k : StoreKind), R v w → k.coerce v = .ok p → p.unhashable? = none →
    ∃ q, k.coerce w = .ok q ∧ R p q

theorem spelling_eq : Spelling Eq where
  refl := fun _ => rfl
  symm := Eq.symm
  hashable := fun h hv => h ▸ hv
  key := fun h _ => h ▸ rfl
  guard := by
    rintro v _ g rfl hg
    refine ⟨g, hg, ?_⟩
    cases g with
    | epsilon => exact .epsilon
    | predicate p => exact .predicate rfl
  coerce := by
    rintro v _ p k rfl hp -
    exact ⟨p, hp, rfl⟩

namespace Value.Respelled

variable {v w p : Value} {g : Guard}

theorem guard (h : Respelled v w) (hg : Guard.ofValue v = .ok g) :
    ∃ h, Guard.ofValue w = .ok h ∧ g.Spelled Respelled h := by
  cases v with
  | null => cases hg
  | epsilon =>
    cases hg
    rw [h.epsilon]
    exact ⟨_, rfl, .epsilon⟩
  | predicate x =>
    cases hg
    obtain ⟨y, rfl, hxy⟩ := h.predicate
    exact ⟨_, rfl, .predicate hxy⟩
  | _ =>
    cases hg
    refine ⟨.predicate w, ?_, .predicate h⟩
    -- None of the other forms of a guard is a spelling of this one.
    cases w with
    | null => cases h.symm.null
    | epsilon => cases h.symm.epsilon
    | predicate x =>
      obtain ⟨_, hv, -⟩ := h.symm.predicate
      cases hv
    | _ => rfl

theorem function {f : Matcher} (h : Respelled (.function f) w) : w = .function f := by
  rcases h with rfl | h | h
  · rfl
  all_goals cases w <;> simp_all [same, equal, sameNan, sameNumber, number?]

theorem coerce (k : StoreKind) (h : Respelled v w) (hp : k.coerce v = .ok p) (hh : p.unhashable? = none) :
    ∃ q, k.coerce w = .ok q ∧ Respelled p q := by
  cases k with
  | range =>
    obtain ⟨q, hq, hpq⟩ := (Range.denotes_of_parse hp).respelled hh h
    exact ⟨q, hq.parse_eq, hpq⟩
  | callable =>
    cases v with
    | function f =>
      rw [h.function]
      exact ⟨p, hp, .refl p⟩
    | _ => cases hp
  | symbol | upper | unnamed =>
    cases hp
    exact ⟨w, rfl, h⟩

end Value.Respelled

theorem spelling_respelled : Spelling Value.Respelled where
  refl := Value.Respelled.refl
  symm := Value.Respelled.symm
  hashable := Value.Respelled.hashable
  key := Value.Respelled.key
  guard := Value.Respelled.guard
  coerce := Value.Respelled.coerce

variable {R : Value → Value → Prop} {es fs : List Edge} {d e : Edge} {g h : Guard}

theorem Spelling.parse (hR : Spelling R) (k : StoreKind) {v w p : Value} (hvw : R v w) (hp : k.parse v = .ok p)
    (hh : p.unhashable? = none) : ∃ q, k.parse w = .ok q ∧ R p q := by
  cases k with
  | callable => cases hp
  | range => exact hR.coerce .range hvw hp hh
  | symbol | upper | unnamed => exact hR.coerce .symbol hvw hp hh

namespace Guard.Spelled

theorem symm (hR : Spelling R) (hg : g.Spelled R h) : h.Spelled R g := by
  cases hg with
  | epsilon => exact .epsilon
  | predicate hpq => exact .predicate (hR.symm hpq)

theorem refl (hR : Spelling R) (g : Guard) : g.Spelled R g := by
  cases g with
  | epsilon => exact .epsilon
  | predicate p => exact .predicate (hR.refl p)

theorem hashable (hR : Spelling R) (hg : g.Spelled R h) (hv : g.value.unhashable? = none) :
    h.value.unhashable? = none := by
  cases hg with
  | epsilon => exact hv
  | @predicate p q hpq =>
    have hq : q.unhashable? = none := hR.hashable hpq hv
    exact hq

/-- Guards in two spellings are equal to the same guards. -/
theorem equal_congr (hR : Spelling R) {k l : Guard} (hgh : g.Spelled R h) (hkl : k.Spelled R l)
    (hg : g.value.unhashable? = none) (hk : k.value.unhashable? = none) : g.equal k = h.equal l := by
  cases hgh with
  | epsilon => cases hkl <;> rfl
  | @predicate p q hpq =>
    cases hkl with
    | epsilon => rfl
    | @predicate x y hxy =>
      have hp : p.unhashable? = none := hg
      have hx : x.unhashable? = none := hk
      rw [Guard.equal, Guard.equal, Value.same_left_congr hp (hR.hashable hpq hp) (hR.key hpq hp),
        Value.same_right_congr hx (hR.hashable hxy hx) (hR.key hxy hx)]

end Guard.Spelled

namespace Edge.Spelled

theorem symm (hR : Spelling R) (hd : d.Spelled R e) : e.Spelled R d := by
  obtain ⟨target, hg⟩ := hd
  exact ⟨target, hg.symm hR⟩

theorem refl (hR : Spelling R) (e : Edge) : e.Spelled R e :=
  ⟨e.target, .refl hR e.guard⟩

theorem relabel (f : Nat → Nat) (hd : d.Spelled R e) : (d.relabel f).Spelled R (e.relabel f) := by
  obtain ⟨target, hg⟩ := hd
  exact ⟨f target, hg⟩

end Edge.Spelled

abbrev Edge.AllSpelled (R : Value → Value → Prop) : List Edge → List Edge → Prop :=
  List.Forall₂ (Edge.Spelled R)

namespace Edge.AllSpelled

theorem symm (hR : Spelling R) (hes : AllSpelled R es fs) : AllSpelled R fs es :=
  (hes.imp fun _ _ hd => hd.symm hR).flip

theorem refl (hR : Spelling R) (es : List Edge) : AllSpelled R es es :=
  List.forall₂_same.2 fun e _ => .refl hR e

theorem eq_of_eq (hes : AllSpelled Eq es fs) : es = fs := by
  induction hes with
  | nil => rfl
  | cons hd _ ih =>
    obtain ⟨target, hg⟩ := hd
    cases hg with
    | epsilon => rw [ih]
    | predicate hpq => rw [hpq, ih]

theorem exists_of_mem (hes : AllSpelled R es fs) (he : e ∈ fs) : ∃ d ∈ es, d.Spelled R e := by
  induction hes with
  | nil => cases he
  | cons hxy _ ih =>
    rcases List.mem_cons.1 he with rfl | he
    · exact ⟨_, List.mem_cons_self .., hxy⟩
    · obtain ⟨d, hd, hde⟩ := ih he
      exact ⟨d, List.mem_cons_of_mem _ hd, hde⟩

theorem epsilonTargets_eq (hes : AllSpelled R es fs) :
    es.filterMap epsilonTarget? = fs.filterMap epsilonTarget? := by
  induction hes with
  | nil => rfl
  | cons hd _ ih =>
    obtain ⟨target, hg⟩ := hd
    cases hg <;> simp [List.filterMap_cons, epsilonTarget?, ih]

theorem entries (hes : AllSpelled R es fs) :
    List.Forall₂ (fun x y : Value × Nat => R x.1 y.1 ∧ x.2 = y.2) (es.filterMap entry?) (fs.filterMap entry?) := by
  induction hes with
  | nil => exact .nil
  | cons hd _ ih =>
    obtain ⟨target, hg⟩ := hd
    cases hg with
    | epsilon => exact ih
    | predicate hpq => exact .cons ⟨hpq, rfl⟩ ih

/-- An edge is there already in both spellings or in none. -/
theorem any_equal (hR : Spelling R) (hes : AllSpelled R es fs) (hde : d.Spelled R e)
    (hh : ∀ d ∈ es, d.guard.value.unhashable? = none) (hd : d.guard.value.unhashable? = none) :
    es.any (·.equal d) = fs.any (·.equal e) := by
  induction hes with
  | nil => rfl
  | cons hxy _ ih =>
    obtain ⟨hx, hrest⟩ := List.forall_mem_cons.1 hh
    rw [List.any_cons, List.any_cons, ih hrest]
    obtain ⟨_, hg⟩ := hxy
    obtain ⟨_, hk⟩ := hde
    rw [Edge.equal, Edge.equal, hg.equal_congr hR hk hx hd]

end Edge.AllSpelled

namespace Store

variable {s t u : Store} {i : Nat}

/-- A store records a guard in each of its spellings. -/
theorem coerceGuard_spelled (hR : Spelling R) (hk : s.kind = t.kind) (hgh : g.Spelled R h) {k : Guard}
    (hc : s.coerceGuard g = .ok k) (hv : k.value.unhashable? = none) :
    ∃ l, t.coerceGuard h = .ok l ∧ k.Spelled R l := by
  cases hgh with
  | epsilon =>
    cases hc
    exact ⟨_, rfl, .epsilon⟩
  | predicate hpq =>
    simp only [coerceGuard] at hc ⊢
    split at hc
    · cases hc
    next p hp =>
      cases hc
      obtain ⟨q, hq, hpq⟩ := hR.coerce _ hpq hp hv
      exact ⟨.predicate q, by rw [← hk, hq], .predicate hpq⟩

/-- What is put into a store can be put, in another spelling, into one whose edges are spelled in another way. -/
theorem put_spelled (hR : Spelling R) (hs : s.Sound) (hk : s.kind = t.kind)
    (hes : Edge.AllSpelled R s.edges t.edges) (hgh : g.Spelled R h) (hu : s.put g i = .ok u) :
    ∃ v, t.put h i = .ok v ∧ Edge.AllSpelled R u.edges v.edges := by
  obtain ⟨k, hc, hv, rfl⟩ := put_eq_ok hu
  rw [Value.checkHashable_iff] at hv
  obtain ⟨l, hl, hkl⟩ := coerceGuard_spelled hR hk hgh hc hv
  have hany := hes.any_equal hR ⟨i, hkl⟩ (fun d hd => Value.checkHashable_iff.1 (hs.settled d hd).2) hv
  have hput : t.put h i = .ok (if t.edges.any (·.equal ⟨l, i⟩) then t else t.record ⟨l, i⟩) := by
    simp [put, hl, Value.checkHashable_iff.2 (hkl.hashable hR hv)]
  refine ⟨_, hput, ?_⟩
  rw [hany]
  split
  · exact hes
  · rw [edges_record, edges_record]
    exact List.rel_append hes (.cons ⟨i, hkl⟩ .nil)

end Store

/-! ### Queries -/

section Queries

variable [TestFunctions] {v : Value}

/-- Entries whose predicates have the same keys are searched alike. -/
theorem Index.search_congr (hR : Spelling R) (k : StoreKind) (v : Value) {xs ys : List (Value × Nat)}
    (hxs : List.Forall₂ (fun x y : Value × Nat => R x.1 y.1 ∧ x.2 = y.2) xs ys)
    (hh : ∀ x ∈ xs, x.1.unhashable? = none) : search k v xs = search k v ys := by
  have hscan : scan k v xs = scan k v ys := by
    induction hxs with
    | nil => rfl
    | @cons x y xs ys hxy _ ih =>
      obtain ⟨p, i⟩ := x
      obtain ⟨q, j⟩ := y
      obtain ⟨hpq, hij⟩ := hxy
      obtain ⟨hp, hh⟩ := List.forall_mem_cons.1 hh
      simp only [scan, k.test_congr hp (hR.hashable hpq hp) (hR.key hpq hp) v, ih hh, show i = j from hij]
  have hmatched : ∀ key : Value, matched (·.same key) xs = matched (·.same key) ys := by
    intro key
    clear hscan
    induction hxs with
    | nil => rfl
    | @cons x y xs ys hxy _ ih =>
      obtain ⟨hpq, hij⟩ := hxy
      obtain ⟨hp, hh⟩ := List.forall_mem_cons.1 hh
      have ih := ih hh
      simp only [matched, List.filter_cons, Value.same_left_congr hp (hR.hashable hpq hp) (hR.key hpq hp)] at ih ⊢
      split <;> simp [ih, hij]
  simp only [search, hscan, hmatched]

theorem Store.query_spelled (hR : Spelling R) {s t : Store} (hs : s.Sound) (ht : t.Sound) (hk : s.kind = t.kind)
    (hes : Edge.AllSpelled R s.edges t.edges) (v : Value) : s.query v = t.query v := by
  by_cases hv : v = .epsilon
  · subst hv
    rw [query, query, hs.epsilon_eq, ht.epsilon_eq, hes.epsilonTargets_eq]
  · rw [query_of_ne_epsilon hv, query_of_ne_epsilon hv, hs.lookup_eq, ht.lookup_eq, ← hk]
    exact Index.search_congr hR _ v hes.entries hs.hashable_entries

/-! ### The values that are looked up -/

variable {w : Value}

omit [TestFunctions] in
theorem Range.contains_respelled (low high : Value) (hvw : v.Respelled w) (hv : v.unhashable? = none) :
    Range.contains low high v = Range.contains low high w := by
  rw [Bool.eq_iff_iff, StoreKind.contains_iff, StoreKind.contains_iff, (hvw.comparedAs hv _).right,
    (hvw.comparedAs hv _).left]

theorem Index.search_respelled {k : StoreKind} (hk : k = .symbol ∨ k = .range) (hvw : v.Respelled w)
    (hv : v.unhashable? = none) (entries : List (Value × Nat)) : search k v entries = search k w entries := by
  rcases hk with rfl | rfl
  · have hw := hvw.hashable hv
    have hsame : (·.same v) = (·.same w : Value → Bool) := funext (Value.same_right_congr hv hw (hvw.key hv))
    simp only [search, StoreKind.isGrouped, StoreKind.lookupKey, Value.checkHashable_iff.2 hv,
      Value.checkHashable_iff.2 hw, hsame, if_true]
  · have htest : ∀ p, StoreKind.range.test p v = StoreKind.range.test p w := by
      intro p
      cases p with
      | range low high => rw [StoreKind.test, StoreKind.test, Range.contains_respelled low high hvw hv]
      | _ => rfl
    change scan .range v entries = scan .range w entries
    induction entries with
    | nil => rfl
    | cons e entries ih => rw [scan, scan, htest, ih]

theorem Store.query_respelled {s : Store} (hs : s.Sound) (hk : s.kind = .symbol ∨ s.kind = .range)
    (hvw : v.Respelled w) (hv : v.unhashable? = none) : s.query v = s.query w := by
  by_cases hepsilon : v = .epsilon
  · subst hepsilon
    rw [hvw.epsilon]
  · have hw : w ≠ .epsilon := by
      rintro rfl
      exact hepsilon hvw.symm.epsilon
    rw [query_of_ne_epsilon hepsilon, query_of_ne_epsilon hw, hs.lookup_eq, hs.lookup_eq,
      Index.search_respelled hk hvw hv]

end Queries

end GuardedAutomata
