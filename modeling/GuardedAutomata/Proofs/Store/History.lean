import GuardedAutomata.Proofs.Store.Lookup
import Mathlib

/-!
# What a store has been filled with

A store is filled by putting edges and by merging stores, itself among them. Each call offers edges one after the
other, in the form in which they would be recorded, up to one that is refused. The edge list is the history of the
accepted offers, of which the first of equal ones each is kept.
-/

set_option autoImplicit false

namespace GuardedAutomata

/-! ### Equal edges -/

def Guard.key : Guard → Option Key
  | epsilon => none
  | predicate p => some p.key

theorem Guard.equal_iff_key {g h : Guard} (hg : g.value.unhashable? = none) (hh : h.value.unhashable? = none) :
    g.equal h = true ↔ g.key = h.key := by
  cases g with
  | epsilon => cases h <;> simp [equal, key]
  | predicate p =>
    cases h with
    | epsilon => simp [equal, key]
    | predicate q =>
      rw [equal, key, key, Option.some.injEq]
      exact Value.same_iff_key hg hh

namespace Edge

def key (e : Edge) : Option Key × Nat :=
  (e.guard.key, e.target)

theorem equal_iff_key {d e : Edge} (hd : d.guard.value.unhashable? = none)
    (he : e.guard.value.unhashable? = none) : d.equal e = true ↔ d.key = e.key := by
  rw [equal, Bool.and_eq_true, Guard.equal_iff_key hd he, beq_iff_eq, key, key, Prod.mk.injEq]

theorem firsts_append (es fs : List Edge) : firsts (es ++ fs) = fs.foldl insertInto (firsts es) := by
  rw [← insertAll_eq_firsts, List.foldl_append, insertAll_eq_firsts]

theorem mem_firsts_iff {es : List Edge} (hes : ∀ e ∈ es, e.guard.value.unhashable? = none) {e : Edge} :
    e ∈ firsts es ↔ ∃ before after, es = before ++ e :: after ∧ ∀ d ∈ before, d.equal e = false := by
  have hkey : ∀ d ∈ es, ∀ e ∈ es, d.equal e = true ↔ d.key = e.key :=
    fun d hd e he => equal_iff_key (hes d hd) (hes e he)
  exact mem_eraseDupsBy_iff hkey

/-! ### Offers -/

def coerced (k : StoreKind) (guard : Guard) (target : Nat) : Except Failure Edge :=
  match (Store.empty k).coerceGuard guard with
  | .error f => .error f
  | .ok g =>
    match g.value.checkHashable with
    | .error cause => .error (.fault cause)
    | .ok _ => .ok ⟨g, target⟩

def copied (k : StoreKind) (relabel : Nat → Except Fault Nat) (e : Edge) : Except Failure Edge :=
  match relabel e.target with
  | .error cause => .error (.fault cause)
  | .ok target => coerced k e.guard target

end Edge

def accepted : List (Except Failure Edge) → List Edge
  | .ok e :: rest => e :: accepted rest
  | _ => []

def outcome : List (Except Failure Edge) → Except Failure Unit
  | [] => .ok ()
  | .ok _ :: rest => outcome rest
  | .error f :: _ => .error f

inductive Filling where
  | put (guard : Value) (target : Nat)
  | merge (other : Store) (relabel : Nat → Except Fault Nat)
  | mergeSelf (relabel : Nat → Except Fault Nat)

def Filling.offers (k : StoreKind) (held : List Edge) : Filling → List (Except Failure Edge)
  | put guard target =>
    match Guard.ofValue guard with
    | .error f => [.error f]
    | .ok g => [Edge.coerced k g target]
  | merge other relabel => other.edges.map (Edge.copied k relabel)
  | mergeSelf relabel => held.map (Edge.copied k relabel)

def history (k : StoreKind) (cs : List Filling) : List Edge :=
  -- A store that is merged into itself offers the edges that the past has left it with.
  cs.foldl (fun past c => past ++ accepted (c.offers k (Edge.firsts past))) []

section Accepted

variable {e : Edge} {es : List Edge} {f : Failure} {offer : Edge → Except Failure Edge}

theorem mem_of_mem_accepted {xs : List (Except Failure Edge)} (h : e ∈ accepted xs) : .ok e ∈ xs := by
  induction xs with
  | nil => cases h
  | cons x xs ih =>
    cases x with
    | error f => cases h
    | ok d =>
      rcases List.mem_cons.1 h with rfl | h
      · exact List.mem_cons_self
      · exact List.mem_cons_of_mem _ (ih h)

theorem length_accepted_le (xs : List (Except Failure Edge)) : (accepted xs).length ≤ xs.length := by
  induction xs with
  | nil => exact Nat.le_refl 0
  | cons x xs ih =>
    cases x with
    | error f => exact Nat.zero_le _
    | ok d => exact Nat.succ_le_succ ih

theorem outcome_eq_ok_iff : outcome (es.map offer) = .ok () ↔ ∀ e ∈ es, ∃ d, offer e = .ok d := by
  induction es with
  | nil => simp [outcome]
  | cons e es ih =>
    rw [List.forall_mem_cons, List.map_cons]
    cases offer e with
    | error f => simp [outcome]
    | ok d => simp [outcome, ih]

/-- When an offer is refused, exactly the offers before it have been accepted. -/
theorem exists_refused (h : outcome (es.map offer) = .error f) :
    ∃ before e after ds, es = before ++ e :: after ∧ offer e = .error f ∧ before.map offer = ds.map .ok ∧
      accepted (es.map offer) = ds := by
  induction es with
  | nil => cases h
  | cons e es ih =>
    rw [List.map_cons] at h ⊢
    cases he : offer e with
    | error g =>
      rw [he] at h
      cases h
      exact ⟨[], e, es, [], rfl, he, rfl, rfl⟩
    | ok d =>
      rw [he] at h
      obtain ⟨before, c, after, ds, rfl, hc, hbefore, hds⟩ := ih h
      exact ⟨e :: before, c, after, d :: ds, rfl, hc, by simp [he, hbefore], by rw [accepted, hds]⟩

end Accepted

namespace Store

variable {k : StoreKind} {s t : Store} {cs : List Filling} {e : Edge}

def fill (s : Store) : Filling → Store × Except Failure Unit
  | .put guard target =>
    match Guard.ofValue guard with
    | .error f => (s, .error f)
    | .ok g =>
      match s.put g target with
      | .error f => (s, .error f)
      | .ok t => (t, .ok ())
  | .merge other relabel => s.merge other relabel
  | .mergeSelf relabel => s.merge s relabel

def fillAll (s : Store) (cs : List Filling) : Store :=
  cs.foldl (fun s c => (s.fill c).1) s

def keep (s : Store) (e : Edge) : Store :=
  if s.edges.any (·.equal e) then s else s.record e

@[simp] theorem edges_keep (s : Store) (e : Edge) : (s.keep e).edges = Edge.insertInto s.edges e := by
  unfold keep Edge.insertInto
  split
  · rfl
  · exact edges_record s e

@[simp] theorem kind_keep (s : Store) (e : Edge) : (s.keep e).kind = s.kind := by
  unfold keep
  split
  · rfl
  · exact kind_record s e

theorem edges_keepAll (s : Store) (es : List Edge) :
    (es.foldl keep s).edges = es.foldl Edge.insertInto s.edges := by
  induction es generalizing s with
  | nil => rfl
  | cons e es ih => rw [List.foldl_cons, ih, edges_keep, List.foldl_cons]

theorem kind_keepAll (s : Store) (es : List Edge) : (es.foldl keep s).kind = s.kind := by
  induction es generalizing s with
  | nil => rfl
  | cons e es ih => rw [List.foldl_cons, ih, kind_keep]

/-! ### One call -/

theorem put_eq_coerced (s : Store) (guard : Guard) (target : Nat) :
    s.put guard target = (Edge.coerced s.kind guard target).map s.keep := by
  rw [put, Edge.coerced, coerceGuard_empty]
  cases s.coerceGuard guard with
  | error f => rfl
  | ok g =>
    simp only
    cases g.value.checkHashable <;> rfl

theorem putAll_eq (s : Store) (relabel : Nat → Except Fault Nat) (es : List Edge) :
    s.putAll relabel es =
      ((accepted (es.map (Edge.copied s.kind relabel))).foldl keep s,
        outcome (es.map (Edge.copied s.kind relabel))) := by
  induction es generalizing s with
  | nil => rfl
  | cons e es ih =>
    rw [putAll, List.map_cons, Edge.copied]
    cases relabel e.target with
    | error cause => rfl
    | ok target =>
      simp only [put_eq_coerced]
      cases Edge.coerced s.kind e.guard target with
      | error f => rfl
      | ok d =>
        simp only [Except.map, accepted, outcome, List.foldl_cons, ih, kind_keep]

/-- A call records the edges that are accepted, and tells the first refusal. -/
theorem fill_eq (s : Store) (c : Filling) :
    s.fill c = ((accepted (c.offers s.kind s.edges)).foldl keep s, outcome (c.offers s.kind s.edges)) := by
  cases c with
  | put guard target =>
    rw [fill, Filling.offers]
    cases Guard.ofValue guard with
    | error f => rfl
    | ok g =>
      simp only [put_eq_coerced]
      cases Edge.coerced s.kind g target <;> rfl
  | merge other relabel => exact putAll_eq s relabel other.edges
  | mergeSelf relabel => exact putAll_eq s relabel s.edges

theorem kind_fill (s : Store) (c : Filling) : (s.fill c).1.kind = s.kind := by
  rw [fill_eq, kind_keepAll]

theorem edges_fill (s : Store) (c : Filling) :
    (s.fill c).1.edges = (accepted (c.offers s.kind s.edges)).foldl Edge.insertInto s.edges := by
  rw [fill_eq, edges_keepAll]

/-! ### What is accepted is settled -/

theorem settled_of_coerced {guard : Guard} {target : Nat} (h : Edge.coerced k guard target = .ok e) :
    Settled k e.guard := by
  unfold Edge.coerced at h
  split at h
  · cases h
  next g hg =>
    split at h
    · cases h
    next hh =>
      cases h
      exact settled_of_coerceGuard hg hh

theorem settled_of_copied {relabel : Nat → Except Fault Nat} {d : Edge} (h : Edge.copied k relabel d = .ok e) :
    Settled k e.guard := by
  unfold Edge.copied at h
  split at h
  · cases h
  · exact settled_of_coerced h

theorem settled_of_accepted {held : List Edge} {c : Filling} (h : e ∈ accepted (c.offers k held)) :
    Settled k e.guard := by
  have hoffer := mem_of_mem_accepted h
  cases c with
  | put guard target =>
    rw [Filling.offers] at hoffer
    split at hoffer
    · cases List.mem_singleton.1 hoffer
    · exact settled_of_coerced (List.mem_singleton.1 hoffer).symm
  | merge other relabel =>
    obtain ⟨d, _, hd⟩ := List.mem_map.1 hoffer
    exact settled_of_copied hd
  | mergeSelf relabel =>
    obtain ⟨d, _, hd⟩ := List.mem_map.1 hoffer
    exact settled_of_copied hd

theorem Sound.keepAll (hs : s.Sound) {es : List Edge} (hes : ∀ e ∈ es, Settled s.kind e.guard) :
    (es.foldl keep s).Sound := by
  induction es generalizing s with
  | nil => exact hs
  | cons e es ih =>
    obtain ⟨he, hes⟩ := List.forall_mem_cons.1 hes
    have hput : s.put e.guard e.target = .ok (s.keep e) := put_of_settled he e.target
    exact ih (sound_put hs hput) (by rwa [kind_keep])

theorem Sound.fill (hs : s.Sound) (c : Filling) : (s.fill c).1.Sound := by
  rw [fill_eq]
  exact hs.keepAll fun e he => settled_of_accepted he

theorem copied_of_settled {relabel : Nat → Except Fault Nat} (h : Settled k e.guard) :
    Edge.copied k relabel e =
      match relabel e.target with
      | .error cause => .error (.fault cause)
      | .ok target => .ok ⟨e.guard, target⟩ := by
  rw [Edge.copied]
  cases relabel e.target with
  | error cause => rfl
  | ok target => simp only [Edge.coerced, h.1, h.2]

/-! ### Any number of calls -/

theorem fillAll_append (s : Store) (cs : List Filling) (c : Filling) :
    s.fillAll (cs ++ [c]) = ((s.fillAll cs).fill c).1 := by
  rw [fillAll, List.foldl_append]
  rfl

theorem history_append (k : StoreKind) (cs : List Filling) (c : Filling) :
    history k (cs ++ [c]) = history k cs ++ accepted (c.offers k (Edge.firsts (history k cs))) := by
  rw [history, List.foldl_append]
  rfl

theorem kind_fillAll (k : StoreKind) (cs : List Filling) : ((empty k).fillAll cs).kind = k := by
  induction cs using List.reverseRecOn with
  | nil => rfl
  | append_singleton cs c ih => rw [fillAll_append, kind_fill, ih]

theorem sound_fillAll (k : StoreKind) (cs : List Filling) : ((empty k).fillAll cs).Sound := by
  induction cs using List.reverseRecOn with
  | nil => exact sound_empty k
  | append_singleton cs c ih =>
    rw [fillAll_append]
    exact ih.fill c

theorem edges_fillAll (k : StoreKind) (cs : List Filling) :
    ((empty k).fillAll cs).edges = Edge.firsts (history k cs) := by
  -- On the last call, since what it offers depends on the ones before.
  induction cs using List.reverseRecOn with
  | nil => rfl
  | append_singleton cs c ih =>
    rw [fillAll_append, edges_fill, kind_fillAll, ih, history_append, Edge.firsts_append]

theorem settled_history (k : StoreKind) (cs : List Filling) : ∀ e ∈ history k cs, Settled k e.guard := by
  induction cs using List.reverseRecOn with
  | nil => simp [history]
  | append_singleton cs c ih =>
    rw [history_append]
    intro e he
    rcases List.mem_append.1 he with he | he
    · exact ih e he
    · exact settled_of_accepted he

theorem hashable_history (k : StoreKind) (cs : List Filling) :
    ∀ e ∈ history k cs, e.guard.value.unhashable? = none := fun e he =>
  Value.checkHashable_iff.1 (settled_history k cs e he).2

/-! ### Merging a store into itself, and into an empty one -/

structure Doubled (relabel : Nat → Except Fault Nat) (s : Store) (merged : Store × Except Failure Unit) :
    Prop where
  kept : s.edges <+: merged.1.edges
  copies : ∀ e ∈ merged.1.edges, e ∈ s.edges ∨ ∃ d ∈ s.edges, relabel d.target = .ok e.target ∧ e.guard = d.guard
  size_le : merged.1.size ≤ s.size + s.size
  ok_iff : merged.2 = .ok () ↔ ∀ e ∈ s.edges, ∃ target, relabel e.target = .ok target

theorem Sound.copied (hs : s.Sound) (relabel : Nat → Except Fault Nat) {d : Edge} (hd : d ∈ s.edges) :
    Edge.copied s.kind relabel d = .ok e ↔ relabel d.target = .ok e.target ∧ e.guard = d.guard := by
  obtain ⟨g, t⟩ := e
  rw [copied_of_settled (hs.settled d hd)]
  cases relabel d.target <;> simp [eq_comm, and_comm]

theorem Sound.mergeSelf (hs : s.Sound) (relabel : Nat → Except Fault Nat) :
    Doubled relabel s (s.fill (.mergeSelf relabel)) where
  kept := by
    rw [edges_fill]
    exact prefix_foldl_keepNew Edge.equal _ _
  copies := by
    intro e he
    rw [edges_fill] at he
    refine (List.mem_append.1 ((foldl_keepNew_sublist Edge.equal _ _).subset he)).imp_right fun he => ?_
    obtain ⟨d, hd, hcopied⟩ := List.mem_map.1 (mem_of_mem_accepted he)
    exact ⟨d, hd, (hs.copied relabel hd).1 hcopied⟩
  size_le := by
    have hadded := (foldl_keepNew_sublist Edge.equal s.edges
      (accepted (s.edges.map (Edge.copied s.kind relabel)))).length_le
    have haccepted := length_accepted_le (s.edges.map (Edge.copied s.kind relabel))
    rw [List.length_append] at hadded
    rw [List.length_map] at haccepted
    rw [size, edges_fill, Filling.offers, size]
    exact hadded.trans (Nat.add_le_add_left haccepted _)
  ok_iff := by
    rw [fill_eq, Filling.offers, outcome_eq_ok_iff]
    refine forall₂_congr fun e he => ?_
    constructor
    · rintro ⟨d, hd⟩
      exact ⟨d.target, ((hs.copied relabel he).1 hd).1⟩
    · rintro ⟨t, ht⟩
      exact ⟨⟨e.guard, t⟩, (hs.copied relabel he).2 ⟨ht, rfl⟩⟩

/-- The edges of a store that starts empty are the history of what it has been filled with, of which the first of
equal edges each is kept; calls that fail are no exception. Merged edges of a store of the same kind change their
targets only. A merge that fails keeps exactly the edges before the one that is refused. Merged into itself a store
gains copies of the edges it had, and merged into an empty one of its kind it is reproduced edge for edge. -/
theorem edges_eq_history (k : StoreKind) (cs : List Filling) (hs : s = (empty k).fillAll cs) :
    (s.edges = Edge.firsts (history k cs) ∧ s.edges.Sublist (history k cs) ∧
      ∀ e, e ∈ s.edges ↔ ∃ before after, history k cs = before ++ e :: after ∧ ∀ d ∈ before, d.equal e = false) ∧
    (s.size = s.edges.length ∧ Edge.Distinct s.edges) ∧
    (∀ c, (s.fill c).2 = outcome (c.offers k s.edges)) ∧
    (∀ ds relabel, ∀ e ∈ ((empty k).fillAll ds).edges, ∀ d,
      Edge.copied k relabel e = .ok d ↔ relabel e.target = .ok d.target ∧ d.guard = e.guard) ∧
    (∀ other relabel f, (s.fill (.merge other relabel)).2 = .error f →
      ∃ before e after ds, other.edges = before ++ e :: after ∧ Edge.copied k relabel e = .error f ∧
        before.map (Edge.copied k relabel) = ds.map .ok ∧
        (s.fill (.merge other relabel)).1.edges = Edge.firsts (history k cs ++ ds)) ∧
    (∀ relabel, Doubled relabel s (s.fill (.mergeSelf relabel))) ∧
    ∀ f, Function.Injective f → ∃ t, (empty k).merge s (fun target => .ok (f target)) = (t, .ok ()) ∧
      t.edges = s.edges.map (Edge.relabel f) := by
  have hsound : s.Sound := hs ▸ sound_fillAll k cs
  have hkind : s.kind = k := hs ▸ kind_fillAll k cs
  have hedges : s.edges = Edge.firsts (history k cs) := hs ▸ edges_fillAll k cs
  refine ⟨⟨hedges, ?_, fun e => ?_⟩, ⟨rfl, hsound.distinct⟩, fun c => ?_, ?_, ?_, hsound.mergeSelf, fun f hf => ?_⟩
  · rw [hedges]
    exact eraseDupsBy_sublist Edge.equal (history k cs)
  · rw [hedges]
    exact Edge.mem_firsts_iff (hashable_history k cs)
  · rw [fill_eq, hkind]
  · intro ds relabel e he d
    have hcopied := (sound_fillAll k ds).copied (e := d) relabel he
    rwa [kind_fillAll] at hcopied
  · intro other relabel f h
    rw [fill_eq, hkind] at h
    obtain ⟨before, e, after, ds, hsplit, he, hbefore, hds⟩ := exists_refused h
    refine ⟨before, e, after, ds, hsplit, he, hbefore, ?_⟩
    rw [edges_fill, hkind, Filling.offers, hds, hedges, Edge.firsts_append]
  · refine ⟨_, hkind ▸ merge_empty hf hsound, ?_⟩
    rw [edges_recordAll, edges_empty, List.nil_append]

/-- True is not added behind 1, which it equals; nothing and an unhashable symbol are refused, and so is the second
edge when the store is merged into itself with targets that can be changed for state 0 only. -/
theorem edges_eq_history_symbols : ∃ (relabel : Nat → Except Fault Nat) (cs : List Filling) (s : Store),
    s = (empty .symbol).fillAll cs ∧
    history .symbol cs = [⟨.predicate (.int 1), 0⟩, ⟨.predicate (.bool true), 0⟩, ⟨.predicate (.str "a"), 1⟩,
      ⟨.predicate (.int 1), 5⟩] ∧
    s.edges = [⟨.predicate (.int 1), 0⟩, ⟨.predicate (.str "a"), 1⟩, ⟨.predicate (.int 1), 5⟩] ∧
    s.edges = Edge.firsts (history .symbol cs) ∧
    (∃ before e after, s.edges = before ++ e :: after ∧
      Edge.copied .symbol relabel e = .error (.fault (.raised "no state"))) ∧
    ∃ t, (empty .symbol).merge s (fun target => .ok (target + 7)) = (t, .ok ()) ∧
      t.edges = s.edges.map (Edge.relabel (· + 7)) := by
  let relabel : Nat → Except Fault Nat := fun target => if target = 0 then .ok 5 else .error (.raised "no state")
  let cs : List Filling := [.put (.int 1) 0, .put (.bool true) 0, .put .null 0, .put (.list []) 0,
    .put (.str "a") 1, .mergeSelf relabel]
  let s : Store := ⟨.symbol, [⟨.predicate (.int 1), 0⟩, ⟨.predicate (.str "a"), 1⟩, ⟨.predicate (.int 1), 5⟩], [],
    .groups [(.int 1, [0, 5]), (.str "a", [1])]⟩
  have hs : (empty .symbol).fillAll cs = s := by cbv
  have hhistory : history .symbol cs = [⟨.predicate (.int 1), 0⟩, ⟨.predicate (.bool true), 0⟩,
    ⟨.predicate (.str "a"), 1⟩, ⟨.predicate (.int 1), 5⟩] := by cbv
  have hfails : (s.fill (.merge s relabel)).2 = .error (.fault (.raised "no state")) := by cbv
  obtain ⟨⟨hfirsts, _⟩, _, _, _, hrefused, _, hcopy⟩ := edges_eq_history .symbol cs hs.symm
  obtain ⟨before, e, after, _, hsplit, he, _⟩ := hrefused s relabel _ hfails
  exact ⟨relabel, cs, s, hs.symm, hhistory, rfl, hfirsts, ⟨before, e, after, hsplit, he⟩,
    hcopy (· + 7) fun _ _ => Nat.add_right_cancel⟩

end Store

end GuardedAutomata
