import GuardedAutomata.Proofs.Store.Recorded
import GuardedAutomata.Proofs.Value.Key

/-!
# Lookups

A store answers a query from its index, and what it answers are the targets of the recorded edges whose
predicates match, in the order of recording. Ranges and test functions are tried one by one; symbols are
found by groups, which agrees with trying them one by one because being the same is an equivalence.
-/

set_option autoImplicit false

namespace GuardedAutomata

theorem Value.checkHashable_iff {v : Value} : v.checkHashable = .ok () ↔ v.unhashable? = none := by
  unfold checkHashable
  split <;> simp_all

namespace Index

def matched (passes : Value → Bool) (entries : List (Value × Nat)) : List Nat :=
  (entries.filter fun e => passes e.1).map Prod.snd

def Hashable (gs : List (Value × List Nat)) : Prop :=
  ∀ g ∈ gs, g.1.unhashable? = none

theorem hashable_addToGroup {p : Value} (hp : p.unhashable? = none) (t : Nat)
    {gs : List (Value × List Nat)} (hg : Hashable gs) : Hashable (addToGroup p t gs) := by
  induction gs with
  | nil => simpa [Hashable, addToGroup] using hp
  | cons g gs ih =>
    obtain ⟨q, ts⟩ := g
    obtain ⟨hq, hrest⟩ := List.forall_mem_cons.1 hg
    unfold addToGroup
    split
    · exact List.forall_mem_cons.2 ⟨hq, hrest⟩
    · exact List.forall_mem_cons.2 ⟨hq, ih hrest⟩

/-- A new target is found behind the ones found before, under the symbols that are the same. -/
theorem group_addToGroup {p v : Value} (hp : p.unhashable? = none) (hv : v.unhashable? = none) (t : Nat)
    {gs : List (Value × List Nat)} (hg : Hashable gs) :
    group v (addToGroup p t gs) = group v gs ++ if p.same v then [t] else [] := by
  induction gs with
  | nil => simp [addToGroup, group]
  | cons g gs ih =>
    obtain ⟨q, ts⟩ := g
    obtain ⟨hq, hrest⟩ := List.forall_mem_cons.1 hg
    have hqp := Value.same_iff_key hq hp
    have hqv := Value.same_iff_key hq hv
    have hpv := Value.same_iff_key hp hv
    by_cases same : q.same p = true
    · have hv' : q.same v = p.same v := by
        rw [Bool.eq_iff_iff, hqv, hpv, hqp.1 same]
      cases h : p.same v <;> simp [addToGroup, group, same, hv', h]
    · by_cases found : q.same v = true
      -- A symbol that is not the same as the group's own is not the one looked up either.
      · have hne : p.same v = false := by
          rw [Bool.eq_false_iff, Ne, hpv]
          intro h
          exact same (hqp.2 ((hqv.1 found).trans h.symm))
        simp [addToGroup, group, same, found, hne]
      · simp [addToGroup, group, same, found, ih hrest]

theorem group_insertAll {v : Value} (hv : v.unhashable? = none) {entries : List (Value × Nat)}
    (he : ∀ e ∈ entries, e.1.unhashable? = none) {gs : List (Value × List Nat)} (hg : Hashable gs) :
    group v (entries.foldl (fun gs e => addToGroup e.1 e.2 gs) gs) =
      group v gs ++ matched (·.same v) entries := by
  induction entries generalizing gs with
  | nil => simp [matched]
  | cons e entries ih =>
    obtain ⟨hp, hrest⟩ := List.forall_mem_cons.1 he
    rw [List.foldl_cons, ih hrest (hashable_addToGroup hp e.2 hg), group_addToGroup hp hv e.2 hg]
    cases h : e.1.same v <;> simp [matched, h]

theorem insertAll_groups (entries : List (Value × Nat)) (gs : List (Value × List Nat)) :
    entries.foldl (fun index e => index.insert e.1 e.2) (groups gs) =
      groups (entries.foldl (fun gs e => addToGroup e.1 e.2 gs) gs) := by
  induction entries generalizing gs with
  | nil => rfl
  | cons e entries ih => exact ih _

theorem insertAll_entries (new old : List (Value × Nat)) :
    new.foldl (fun index e => index.insert e.1 e.2) (entries old) = entries (old ++ new) := by
  induction new generalizing old with
  | nil => simp
  | cons e new ih =>
    rw [List.foldl_cons, insert, ih]
    simp

end Index

namespace Store

def entries (s : Store) : List (Value × Nat) :=
  s.edges.filterMap Edge.entry?

theorem mem_entries {s : Store} {p : Value} {t : Nat} :
    (p, t) ∈ s.entries ↔ ⟨.predicate p, t⟩ ∈ s.edges := by
  rw [entries, List.mem_filterMap]
  constructor
  · rintro ⟨⟨g, u⟩, he, hu⟩
    cases g with
    | epsilon => cases hu
    | predicate q =>
      cases hu
      exact he
  · intro h
    exact ⟨_, h, rfl⟩

theorem Sound.index_eq {s : Store} (hs : s.Sound) :
    s.index = s.entries.foldl (fun index e => index.insert e.1 e.2) (Index.empty s.kind) := by
  have h := congrArg Store.index hs.recorded
  rwa [index_recordAll] at h

theorem Sound.hashable_entries {s : Store} (hs : s.Sound) :
    ∀ e ∈ s.entries, e.1.unhashable? = none := by
  rintro ⟨p, t⟩ he
  exact Value.checkHashable_iff.1 (hs.settled _ (mem_entries.1 he)).2

end Store

section Matching

variable [TestFunctions]

namespace StoreKind

def BuiltIn (k : StoreKind) : Prop :=
  k = symbol ∨ k = range ∨ k = callable

/-- When a predicate matches an input value. A symbol matches what it equals; one that is not a number
equals nothing, but is still found by itself. -/
inductive Matches : StoreKind → Value → Value → Prop
  | equal {p v : Value} : p.equal v = true → Matches symbol p v
  | identical (origin : Nat) : Matches symbol (.float (.nan origin)) (.float (.nan origin))
  | within {low high v : Value} : Value.compare .lessOrEqual low v = .ok true →
      Value.compare .lessOrEqual v high = .ok true → Matches range (.range low high) v
  | answered {f : Matcher} {v answer : Value} : f.apply v = .ok answer → answer.truthy = true →
      Matches callable (.function f) v

def passes (k : StoreKind) (v p : Value) : Bool :=
  match k.test p v with
  | .ok b => b
  | .error _ => false

theorem matches_symbol_iff {p v : Value} : symbol.Matches p v ↔
    p.equal v = true ∨ ∃ origin, p = .float (.nan origin) ∧ v = .float (.nan origin) := by
  constructor
  · intro h
    cases h with
    | equal he => exact .inl he
    | identical origin => exact .inr ⟨origin, rfl, rfl⟩
  · rintro (he | ⟨origin, rfl, rfl⟩)
    · exact .equal he
    · exact .identical origin

theorem passes_symbol (p v : Value) : symbol.passes v p = true ↔ symbol.Matches p v := by
  have h : symbol.passes v p = true ↔ p.equal v = true ∨ Value.sameNan p v = true := by
    simp [passes, test, Value.same]
  rw [h, Value.sameNan_iff, matches_symbol_iff]

omit [TestFunctions] in
theorem contains_iff {low high v : Value} : Range.contains low high v = true ↔
    Value.compare .lessOrEqual low v = .ok true ∧ Value.compare .lessOrEqual v high = .ok true := by
  unfold Range.contains
  split
  next hl => cases Value.compare .lessOrEqual v high <;> simp [hl]
  next hl => simp [show Value.compare .lessOrEqual low v ≠ .ok true from hl]

theorem passes_range (p v : Value) : range.passes v p = true ↔ range.Matches p v := by
  constructor
  · intro h
    cases p with
    | range low high =>
      obtain ⟨hl, hh⟩ := contains_iff.1 h
      exact .within hl hh
    | _ => cases h
  · intro h
    cases h with
    | within hl hh => exact contains_iff.2 ⟨hl, hh⟩

theorem passes_callable (p v : Value) : callable.passes v p = true ↔ callable.Matches p v := by
  constructor
  · intro h
    cases p with
    | function f =>
      cases ha : f.apply v with
      | ok answer =>
        simp only [passes, test, ha] at h
        exact .answered ha h
      | error cause => simp [passes, test, ha] at h
    | _ => cases h
  · intro h
    cases h with
    | answered ha ht => simp [passes, test, ha, ht]

theorem passes_iff_matches {k : StoreKind} (hk : k.BuiltIn) (p v : Value) :
    k.passes v p = true ↔ k.Matches p v := by
  rcases hk with rfl | rfl | rfl
  · exact passes_symbol p v
  · exact passes_range p v
  · exact passes_callable p v

end StoreKind

theorem Index.scan_eq_ok {k : StoreKind} {v : Value} {entries : List (Value × Nat)} {ts : List Nat}
    (h : scan k v entries = .ok ts) : ts = matched (k.passes v) entries := by
  induction entries generalizing ts with
  | nil =>
    cases h
    rfl
  | cons e entries ih =>
    obtain ⟨p, t⟩ := e
    simp only [scan] at h
    split at h
    · cases h
    next b hb =>
      split at h
      · cases h
      next rest hr =>
        cases h
        rw [ih hr]
        cases b <;> simp [matched, StoreKind.passes, hb]

def Index.search (k : StoreKind) (v : Value) (entries : List (Value × Nat)) : Except Fault (List Nat) :=
  if k.isGrouped then
    match k.lookupKey v with
    | .error cause => .error cause
    | .ok key =>
      match key.checkHashable with
      | .error cause => .error cause
      | .ok _ => .ok (matched (·.same key) entries)
  else scan k v entries

theorem Index.scan_ok_iff {k : StoreKind} {v : Value} {entries : List (Value × Nat)} :
    (∃ ts, scan k v entries = .ok ts) ↔ ∀ e ∈ entries, ∃ b, k.test e.1 v = .ok b := by
  induction entries with
  | nil => simp [scan]
  | cons e entries ih =>
    obtain ⟨p, t⟩ := e
    rw [List.forall_mem_cons, ← ih, scan]
    cases k.test p v with
    | error cause => simp
    | ok b => cases scan k v entries <;> simp

theorem Index.search_ok_iff {k : StoreKind} {v : Value} {entries : List (Value × Nat)} :
    (∃ ts, search k v entries = .ok ts) ↔
      if k.isGrouped then ∃ key, k.lookupKey v = .ok key ∧ key.checkHashable = .ok ()
      else ∀ e ∈ entries, ∃ b, k.test e.1 v = .ok b := by
  unfold search
  split
  · cases k.lookupKey v with
    | error cause => simp
    | ok key => cases h : key.checkHashable <;> simp [h]
  · exact scan_ok_iff

/-- The answers are the targets of some entries, picked by their predicates. -/
theorem Index.search_eq_ok {k : StoreKind} {v : Value} {entries : List (Value × Nat)} {ts : List Nat}
    (h : search k v entries = .ok ts) : ∃ passes, ts = matched passes entries := by
  unfold search at h
  split at h
  · split at h
    · cases h
    · split at h
      · cases h
      · cases h
        exact ⟨_, rfl⟩
  · exact ⟨_, scan_eq_ok h⟩

theorem Index.search_builtIn {k : StoreKind} (hk : k.BuiltIn) {v : Value} {entries : List (Value × Nat)}
    {ts : List Nat} (h : search k v entries = .ok ts) : ts = matched (k.passes v) entries := by
  rcases hk with rfl | rfl | rfl
  · simp only [search, StoreKind.isGrouped, StoreKind.lookupKey, if_true] at h
    split at h
    · cases h
    · cases h
      rfl
  · exact scan_eq_ok h
  · exact scan_eq_ok h

namespace Store

theorem query_of_ne_epsilon {s : Store} {v : Value} (hv : v ≠ .epsilon) :
    s.query v = s.index.lookup s.kind v := by
  cases v <;> first | exact absurd rfl hv | rfl

/-- The index answers like a search of the recorded entries, fault for fault. -/
theorem Sound.lookup_eq {s : Store} (hs : s.Sound) (v : Value) :
    s.index.lookup s.kind v = Index.search s.kind v s.entries := by
  rw [hs.index_eq, Index.empty, Index.search]
  cases hk : s.kind.isGrouped with
  | false =>
    rw [if_neg Bool.false_ne_true, if_neg Bool.false_ne_true, Index.insertAll_entries, List.nil_append,
      Index.lookup]
  | true =>
    rw [if_pos rfl, if_pos rfl, Index.insertAll_groups, Index.lookup]
    cases s.kind.lookupKey v with
    | error cause => rfl
    | ok key =>
      cases hh : key.checkHashable with
      | error cause => simp [hh]
      | ok _ =>
        have hnil : Index.Hashable [] := by simp [Index.Hashable]
        have hg := Index.group_insertAll (Value.checkHashable_iff.1 hh) hs.hashable_entries hnil
        simp [hh, hg, Index.group]

theorem Sound.query_eq_ok {s : Store} (hs : s.Sound) (hk : s.kind.BuiltIn) {v : Value}
    (hv : v ≠ .epsilon) {ts : List Nat} (h : s.query v = .ok ts) :
    ts = Index.matched (s.kind.passes v) s.entries := by
  rw [query_of_ne_epsilon hv, hs.lookup_eq] at h
  exact Index.search_builtIn hk h

theorem Sound.mem_query {s : Store} (hs : s.Sound) (hk : s.kind.BuiltIn) {v : Value} (hv : v ≠ .epsilon)
    {ts : List Nat} (h : s.query v = .ok ts) {t : Nat} :
    t ∈ ts ↔ ∃ p, ⟨.predicate p, t⟩ ∈ s.edges ∧ s.kind.Matches p v := by
  rw [hs.query_eq_ok hk hv h]
  simp [Index.matched, StoreKind.passes_iff_matches hk, mem_entries, and_comm]

theorem Sound.mem_edges_of_query {s : Store} (hs : s.Sound) {v : Value} {ts : List Nat}
    (h : s.query v = .ok ts) {t : Nat} (ht : t ∈ ts) : ∃ e ∈ s.edges, e.target = t := by
  by_cases hv : v = .epsilon
  · subst hv
    cases h
    exact ⟨_, hs.mem_epsilon.1 ht, rfl⟩
  · rw [query_of_ne_epsilon hv, hs.lookup_eq] at h
    obtain ⟨passes, rfl⟩ := Index.search_eq_ok h
    obtain ⟨⟨p, u⟩, he, rfl⟩ := List.mem_map.1 ht
    exact ⟨_, mem_entries.1 (List.mem_filter.1 he).1, rfl⟩

end Store

end Matching

end GuardedAutomata
