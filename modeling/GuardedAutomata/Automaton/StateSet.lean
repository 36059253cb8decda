/-!
# Sets of states

A set of state ids as its members in increasing order, so that two sets with the same members are equal.
-/

set_option autoImplicit false

namespace GuardedAutomata

structure StateSet where
  ids : List Nat
  increasing : ids.Pairwise (· < ·)
  deriving DecidableEq

namespace StateSet

instance : Membership Nat StateSet := ⟨fun s i => i ∈ s.ids⟩

instance (i : Nat) (s : StateSet) : Decidable (i ∈ s) :=
  inferInstanceAs (Decidable (i ∈ s.ids))

theorem mem_ids {i : Nat} {s : StateSet} : i ∈ s.ids ↔ i ∈ s := Iff.rfl

def empty : StateSet := ⟨[], .nil⟩

instance : Inhabited StateSet := ⟨empty⟩

def place (n : Nat) : List Nat → List Nat
  | [] => [n]
  | m :: rest => if n < m then n :: m :: rest else if n = m then m :: rest else m :: place n rest

theorem mem_place {i n : Nat} {l : List Nat} : i ∈ place n l ↔ i = n ∨ i ∈ l := by
  induction l with
  | nil => simp [place]
  | cons m rest ih =>
    by_cases h : n < m
    · simp [place, h]
    · by_cases e : n = m
      · simp [place, e]
      · simp only [place, h, e, if_false, List.mem_cons, ih]
        grind

theorem place_increasing {n : Nat} {l : List Nat} (h : l.Pairwise (· < ·)) :
    (place n l).Pairwise (· < ·) := by
  induction l with
  | nil => simp [place]
  | cons m rest ih =>
    rw [List.pairwise_cons] at h
    by_cases hn : n < m
    · simp only [place, hn, if_true, List.pairwise_cons, List.mem_cons, forall_eq_or_imp, true_and]
      exact ⟨fun a ha => Nat.lt_trans hn (h.1 a ha), h⟩
    · by_cases e : n = m
      · simpa only [place, e, Nat.lt_irrefl, if_false, if_true, List.pairwise_cons] using h
      · simp only [place, hn, e, if_false, List.pairwise_cons]
        refine ⟨fun a ha => ?_, ih h.2⟩
        rcases mem_place.1 ha with rfl | ha
        · omega
        · exact h.1 a ha

def insert (s : StateSet) (n : Nat) : StateSet :=
  ⟨place n s.ids, place_increasing s.increasing⟩

def insertAll (s : StateSet) (ns : List Nat) : StateSet :=
  ns.foldl insert s

def ofList (ns : List Nat) : StateSet :=
  empty.insertAll ns

def union (s t : StateSet) : StateSet :=
  s.insertAll t.ids

def isEmpty (s : StateSet) : Bool :=
  s.ids.isEmpty

def size (s : StateSet) : Nat :=
  s.ids.length

def shift (offset : Nat) (s : StateSet) : StateSet :=
  ofList (s.ids.map (· + offset))

theorem mem_insert {i n : Nat} {s : StateSet} : i ∈ s.insert n ↔ i = n ∨ i ∈ s :=
  mem_place

theorem mem_insertAll {i : Nat} {s : StateSet} {ns : List Nat} :
    i ∈ s.insertAll ns ↔ i ∈ ns ∨ i ∈ s := by
  induction ns generalizing s with
  | nil => simp [insertAll]
  | cons n rest ih =>
    have := ih (s := s.insert n)
    simp only [insertAll, List.foldl_cons, List.mem_cons] at this ⊢
    rw [this, mem_insert]
    grind

theorem not_mem_empty (i : Nat) : i ∉ empty := List.not_mem_nil

theorem mem_ofList {i : Nat} {ns : List Nat} : i ∈ ofList ns ↔ i ∈ ns := by
  simp [ofList, mem_insertAll, not_mem_empty]

theorem mem_union {i : Nat} {s t : StateSet} : i ∈ s.union t ↔ i ∈ t ∨ i ∈ s := by
  simp [union, mem_insertAll, mem_ids]

theorem mem_shift {i offset : Nat} {s : StateSet} :
    i ∈ s.shift offset ↔ ∃ j, j ∈ s ∧ j + offset = i := by
  simp [shift, mem_ofList, mem_ids]

/-- An increasing list is determined by its members. -/
theorem ids_ext : {l m : List Nat} → l.Pairwise (· < ·) → m.Pairwise (· < ·) →
    (∀ i, i ∈ l ↔ i ∈ m) → l = m
  | [], [], _, _, _ => rfl
  | [], b :: _, _, _, h => absurd ((h b).2 (by simp)) (by simp)
  | a :: _, [], _, _, h => absurd ((h a).1 (by simp)) (by simp)
  | a :: l, b :: m, hl, hm, h => by
    rw [List.pairwise_cons] at hl hm
    have e : a = b := by
      have ha := (h a).1 (by simp)
      have hb := (h b).2 (by simp)
      grind
    subst e
    rw [ids_ext hl.2 hm.2 fun i => by grind]

theorem ext {s t : StateSet} (h : ∀ i, i ∈ s ↔ i ∈ t) : s = t := by
  obtain ⟨l, hl⟩ := s
  obtain ⟨m, hm⟩ := t
  have e : l = m := ids_ext hl hm h
  subst e
  rfl

end StateSet

end GuardedAutomata
