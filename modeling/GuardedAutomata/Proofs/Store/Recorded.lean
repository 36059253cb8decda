import GuardedAutomata.Proofs.Value.Distinct
import GuardedAutomata.Store.Basic

/-!
# Recorded edges

A sound store is what its edge list gives when the edges are recorded one after the other: no two edges
are the same, and every guard has the form in which it would be recorded again. Putting an edge keeps a
store sound, and merging a sound store into an empty one reproduces its edges one for one, with changed
targets.
-/

set_option autoImplicit false

namespace GuardedAutomata

namespace Range

theorem make_eq_ok {low high r : Value} (h : make low high = .ok r) : r = .range low high := by
  unfold make at h
  split at h
  · cases h
  · cases h
  · cases h
    rfl

def Made (r : Value) : Prop :=
  ∃ low high, r = .range low high ∧ make low high = .ok r

theorem made_of_ofBounds {raw low high r : Value} (h : ofBounds raw low high = .ok r) : Made r := by
  unfold ofBounds at h
  split at h
  next hm =>
    cases h
    exact ⟨low, high, make_eq_ok hm, hm⟩
  · cases h

/-- Only ranges that can be made are read. -/
theorem made_of_parse {raw r : Value} (h : parse raw = .ok r) : Made r := by
  unfold parse at h
  split at h
  · exact made_of_ofBounds h
  · split at h
    · exact made_of_ofBounds h
    · exact made_of_ofBounds h
    · exact absurd h (refuse_ne_ok _ _)
  · exact made_of_ofBounds h
  · exact made_of_ofBounds h
  · exact absurd h (refuse_ne_ok _ _)

theorem Made.parse {r : Value} (h : Made r) : parse r = .ok r := by
  obtain ⟨low, high, rfl, hm⟩ := h
  rw [Range.parse, ofBounds, hm]

end Range

/-- A recorded predicate would be recorded as it is. -/
theorem StoreKind.coerce_of_coerce {k : StoreKind} {p q : Value} (h : k.coerce p = .ok q) :
    k.coerce q = .ok q := by
  cases k with
  | range => exact (Range.made_of_parse h).parse
  | callable =>
    simp only [coerce] at h
    split at h
    · cases h
      rfl
    · cases h
  | _ => rfl

namespace Edge

def relabel (f : Nat → Nat) (e : Edge) : Edge :=
  ⟨e.guard, f e.target⟩

@[simp] theorem guard_relabel (f : Nat → Nat) (e : Edge) : (e.relabel f).guard = e.guard := rfl

@[simp] theorem target_relabel (f : Nat → Nat) (e : Edge) : (e.relabel f).target = f e.target := rfl

@[simp] theorem relabel_self : relabel (fun i => i) = id := rfl

@[simp] theorem relabel_comp (m n : Nat) :
    relabel (· + n) ∘ relabel (· + m) = relabel (· + (m + n)) := by
  funext e
  simp [relabel, Nat.add_assoc]

theorem equal_relabel {f : Nat → Nat} (hf : Function.Injective f) (d e : Edge) :
    (d.relabel f).equal (e.relabel f) = d.equal e := by
  have h : (f d.target == f e.target) = (d.target == e.target) := by
    rw [Bool.eq_iff_iff, beq_iff_eq, beq_iff_eq]
    exact ⟨fun h => hf h, congrArg f⟩
  simp only [relabel, equal, h]

def Distinct (es : List Edge) : Prop :=
  es.Pairwise fun d e => d.equal e = false

theorem distinct_relabel {f : Nat → Nat} (hf : Function.Injective f) {es : List Edge}
    (h : Distinct es) : Distinct (es.map (relabel f)) := by
  refine List.pairwise_map.2 (h.imp fun hde => ?_)
  rw [equal_relabel hf, hde]

def insertInto (es : List Edge) (e : Edge) : List Edge :=
  if es.any (·.equal e) then es else es ++ [e]

def firsts (es : List Edge) : List Edge :=
  es.eraseDupsBy fun e d => d.equal e

theorem insertAll_eq_firsts (es : List Edge) : es.foldl insertInto [] = firsts es :=
  foldl_keepNew equal es

def epsilonTarget? (e : Edge) : Option Nat :=
  match e.guard with
  | .epsilon => some e.target
  | .predicate _ => none

def entry? (e : Edge) : Option (Value × Nat) :=
  match e.guard with
  | .epsilon => none
  | .predicate p => some (p, e.target)

end Edge

namespace Store

def Settled (k : StoreKind) (g : Guard) : Prop :=
  (empty k).coerceGuard g = .ok g ∧ g.value.checkHashable = .ok ()

theorem settled_epsilon (k : StoreKind) : Settled k .epsilon :=
  ⟨rfl, rfl⟩

theorem coerceGuard_empty (s : Store) (g : Guard) : (empty s.kind).coerceGuard g = s.coerceGuard g := by
  cases g <;> rfl

theorem settled_of_coerceGuard {s : Store} {g h : Guard} (hc : s.coerceGuard g = .ok h)
    (hh : h.value.checkHashable = .ok ()) : Settled s.kind h := by
  refine ⟨?_, hh⟩
  rw [coerceGuard_empty]
  cases g with
  | epsilon =>
    cases hc
    rfl
  | predicate p =>
    simp only [coerceGuard] at hc
    split at hc
    · cases hc
    next q hq =>
      cases hc
      simp [coerceGuard, StoreKind.coerce_of_coerce hq]

theorem Settled.coerce {k : StoreKind} {p : Value} (h : Settled k (.predicate p)) : k.coerce p = .ok p := by
  have hc := h.1
  simp only [coerceGuard] at hc
  split at hc
  · cases hc
  next hq =>
    cases hc
    exact hq

def recordAll (s : Store) (es : List Edge) : Store :=
  es.foldl record s

@[simp] theorem recordAll_nil (s : Store) : s.recordAll [] = s := rfl

@[simp] theorem recordAll_cons (s : Store) (e : Edge) (es : List Edge) :
    s.recordAll (e :: es) = (s.record e).recordAll es := rfl

theorem recordAll_append (s : Store) (es fs : List Edge) :
    s.recordAll (es ++ fs) = (s.recordAll es).recordAll fs :=
  List.foldl_append

@[simp] theorem edges_recordAll (s : Store) (es : List Edge) :
    (s.recordAll es).edges = s.edges ++ es := by
  induction es generalizing s with
  | nil => simp
  | cons e es ih => simp [ih]

@[simp] theorem kind_recordAll (s : Store) (es : List Edge) : (s.recordAll es).kind = s.kind := by
  induction es generalizing s with
  | nil => rfl
  | cons e es ih => rw [recordAll_cons, ih, kind_record]

theorem epsilon_recordAll (s : Store) (es : List Edge) :
    (s.recordAll es).epsilon = s.epsilon ++ es.filterMap Edge.epsilonTarget? := by
  induction es generalizing s with
  | nil => simp
  | cons e es ih =>
    obtain ⟨g, t⟩ := e
    rw [recordAll_cons, ih]
    cases g <;> simp [record, List.filterMap_cons, Edge.epsilonTarget?]

theorem index_recordAll (s : Store) (es : List Edge) :
    (s.recordAll es).index =
      (es.filterMap Edge.entry?).foldl (fun index e => index.insert e.1 e.2) s.index := by
  induction es generalizing s with
  | nil => rfl
  | cons e es ih =>
    obtain ⟨g, t⟩ := e
    rw [recordAll_cons, ih]
    cases g <;> simp [record, List.filterMap_cons, Edge.entry?]

structure Sound (s : Store) : Prop where
  recorded : s = (empty s.kind).recordAll s.edges
  settled : ∀ e ∈ s.edges, Settled s.kind e.guard
  distinct : Edge.Distinct s.edges

theorem sound_empty (k : StoreKind) : (empty k).Sound where
  recorded := rfl
  settled := by simp
  distinct := .nil

theorem sound_recordAll {k : StoreKind} {es : List Edge} (hs : ∀ e ∈ es, Settled k e.guard)
    (hd : Edge.Distinct es) : ((empty k).recordAll es).Sound where
  recorded := by simp [empty]
  settled := by simpa [empty] using hs
  distinct := by simpa [empty] using hd

theorem sound_put {s u : Store} (hs : s.Sound) {guard : Guard} {target : Nat}
    (h : s.put guard target = .ok u) : u.Sound := by
  obtain ⟨g, hc, hh, rfl⟩ := put_eq_ok h
  split
  · exact hs
  next hnew =>
    have hr : s.record ⟨g, target⟩ = (empty s.kind).recordAll (s.edges ++ [⟨g, target⟩]) := by
      rw [recordAll_append, ← hs.recorded]
      rfl
    rw [hr]
    refine sound_recordAll ?_ ?_
    · intro e he
      rcases List.mem_append.1 he with he | he
      · exact hs.settled e he
      · cases List.mem_singleton.1 he
        exact settled_of_coerceGuard hc hh
    · refine List.pairwise_append.2 ⟨hs.distinct, List.pairwise_singleton _ _, ?_⟩
      intro d hd e he
      cases List.mem_singleton.1 he
      rw [List.any_eq_true, not_exists] at hnew
      simpa [hd] using hnew d

theorem put_of_settled {s : Store} {g : Guard} (h : Settled s.kind g) (t : Nat) :
    s.put g t = .ok (if s.edges.any (·.equal ⟨g, t⟩) then s else s.record ⟨g, t⟩) := by
  have hc := h.1
  rw [coerceGuard_empty] at hc
  simp [put, hc, h.2]

theorem edges_put {s u : Store} {g : Guard} {t : Nat} (h : Settled s.kind g) (hu : s.put g t = .ok u) :
    u.edges = Edge.insertInto s.edges ⟨g, t⟩ := by
  rw [put_of_settled h] at hu
  cases hu
  unfold Edge.insertInto
  split
  · rfl
  · exact edges_record _ _

theorem put_settled {s : Store} {e : Edge} (hg : Settled s.kind e.guard)
    (hnew : ∀ d ∈ s.edges, d.equal e = false) : s.put e.guard e.target = .ok (s.record e) := by
  have hany : s.edges.any (·.equal e) = false := by
    rw [List.any_eq_false]
    intro d hd
    simp [hnew d hd]
  rw [put_of_settled hg, hany, if_neg Bool.false_ne_true]

/-- Settled edges that stay distinct are all recorded, with their targets changed. -/
theorem putAll_settled (f : Nat → Nat) {s : Store} {es : List Edge}
    (hs : ∀ e ∈ es, Settled s.kind e.guard) (hd : Edge.Distinct (s.edges ++ es.map (Edge.relabel f))) :
    s.putAll (fun t => .ok (f t)) es = (s.recordAll (es.map (Edge.relabel f)), .ok ()) := by
  induction es generalizing s with
  | nil => rfl
  | cons e es ih =>
    have hnew : ∀ d ∈ s.edges, d.equal (e.relabel f) = false := by
      intro d hd'
      exact (List.pairwise_append.1 hd).2.2 d hd' _ (by simp)
    have hput : s.put e.guard (f e.target) = .ok (s.record (e.relabel f)) :=
      put_settled (e := e.relabel f) (hs e (by simp)) hnew
    simp only [putAll, hput]
    refine ih ?_ ?_
    · intro d hd'
      rw [kind_record]
      exact hs d (by simp [hd'])
    · simpa using hd

theorem merge_empty {f : Nat → Nat} (hf : Function.Injective f) {s : Store} (hs : s.Sound) :
    (empty s.kind).merge s (fun t => .ok (f t)) =
      ((empty s.kind).recordAll (s.edges.map (Edge.relabel f)), .ok ()) :=
  putAll_settled f hs.settled (by simpa using Edge.distinct_relabel hf hs.distinct)

theorem sound_relabel {f : Nat → Nat} (hf : Function.Injective f) {s : Store} (hs : s.Sound) :
    ((empty s.kind).recordAll (s.edges.map (Edge.relabel f))).Sound := by
  refine sound_recordAll ?_ (Edge.distinct_relabel hf hs.distinct)
  simpa using hs.settled

theorem Sound.epsilon_eq {s : Store} (hs : s.Sound) :
    s.epsilon = s.edges.filterMap Edge.epsilonTarget? := by
  have h := congrArg Store.epsilon hs.recorded
  rwa [epsilon_recordAll] at h

/-- The epsilon list holds the targets of the epsilon edges. -/
theorem Sound.mem_epsilon {s : Store} (hs : s.Sound) {j : Nat} :
    j ∈ s.epsilon ↔ ⟨.epsilon, j⟩ ∈ s.edges := by
  rw [hs.epsilon_eq, List.mem_filterMap]
  constructor
  · rintro ⟨⟨g, t⟩, he, ht⟩
    cases g with
    | epsilon =>
      cases ht
      exact he
    | predicate p => cases ht
  · intro h
    exact ⟨_, h, rfl⟩

end Store

end GuardedAutomata
