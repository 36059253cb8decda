import GuardedAutomata.Proofs.Value.Order
import Mathlib.Data.List.Forall2

/-!
# The order as a relation

Which values have an order, and which of two comes before the other: numbers by their places, whatever their types;
text, bytes, dates, moments of one sort, sets and states among themselves; two sequences of one type at the first
place where their items are not the same. A comparison gives an answer for the values that have an order, and it
says which one comes before; for all others it gives none.
-/

set_option autoImplicit false

namespace GuardedAutomata

theorem Text.singleton_lt_singleton {c d : Char} : String.singleton c < String.singleton d ↔ c < d := by
  rw [String.lt_iff, String.toList_singleton, String.toList_singleton, List.cons_lt_cons_iff]
  simp

inductive Position.Before : Position → Position → Prop
  | bottom (n : Int) : Before .bottom (.at n)
  | top (n : Int) : Before (.at n) .top
  | ends : Before .bottom .top
  | units {m n : Int} : m < n → Before (.at m) (.at n)

namespace Comparison

theorem positions_less_iff {p q : Position} : Comparison.less.positions p q = true ↔ p.Before q := by
  constructor
  · intro h
    cases p with
    | bottom =>
      cases q with
      | bottom => cases h
      | «at» n => exact .bottom n
      | top => exact .ends
    | «at» m =>
      cases q with
      | bottom => cases h
      | «at» n => exact .units (of_decide_eq_true h)
      | top => exact .top m
    | top =>
      cases q <;> cases h
  · intro h
    cases h with
    | units h => exact decide_eq_true h
    | _ => rfl

theorem words_less_iff {as bs : List Nat} : Comparison.less.words as bs = true ↔ as < bs := by
  induction as generalizing bs with
  | nil => cases bs <;> simp [words, onEqual]
  | cons a as ih =>
    cases bs with
    | nil => simp [words]
    | cons b bs =>
      rw [words, List.cons_lt_cons_iff]
      by_cases hab : a = b
      · simp [hab, ih]
      · simp [hab]

end Comparison

namespace Value

def IsSequence (seq : List Value → Value) : Prop :=
  seq = list ∨ seq = tuple

def SameItems : List Value → List Value → Prop :=
  List.Forall₂ fun a b => a.same b = true

inductive Comparable : Value → Value → Prop
  | number {a b : Value} {x y : Number} : a.number? = some x → b.number? = some y → Comparable a b
  | text (s t : String) : Comparable (str s) (str t)
  | bytes (as bs : List Nat) : Comparable (bytes as) (bytes bs)
  | date (d e : Date) : Comparable (date d) (date e)
  | moment {m n : Moment} : m.comparable n = true → Comparable (moment m) (moment n)
  | set (as bs : List Value) : Comparable (set as) (set bs)
  | state (i j : Nat) : Comparable (state i) (state j)
  | starts {seq : List Value → Value} {us vs : List Value} (rest : List Value) :
      IsSequence seq → SameItems us vs → Comparable (seq us) (seq (vs ++ rest))
  | continues {seq : List Value → Value} {us vs : List Value} (rest : List Value) :
      IsSequence seq → SameItems us vs → Comparable (seq (us ++ rest)) (seq vs)
  | differ {seq : List Value → Value} {us vs : List Value} {a b : Value} (as bs : List Value) :
      IsSequence seq → SameItems us vs → a.same b = false → Comparable a b →
        Comparable (seq (us ++ a :: as)) (seq (vs ++ b :: bs))

inductive Before : Value → Value → Prop
  | number {a b : Value} {x y : Number} {p q : Position} : a.number? = some x → b.number? = some y →
      x.position? = some p → y.position? = some q → p.Before q → Before a b
  | text {s t : String} : s < t → Before (str s) (str t)
  | bytes {as bs : List Nat} : as < bs → Before (bytes as) (bytes bs)
  | date {d e : Date} : d.dayNumber < e.dayNumber → Before (date d) (date e)
  | moment {m n : Moment} : m.comparable n = true → m.instant < n.instant → Before (moment m) (moment n)
  | set {as bs : List Value} : subset as bs = true → as.length ≠ bs.length → Before (set as) (set bs)
  | state {i j : Nat} : i < j → Before (state i) (state j)
  | starts {seq : List Value → Value} {us vs : List Value} (b : Value) (rest : List Value) :
      IsSequence seq → SameItems us vs → Before (seq us) (seq (vs ++ b :: rest))
  | differ {seq : List Value → Value} {us vs : List Value} {a b : Value} (as bs : List Value) :
      IsSequence seq → SameItems us vs → a.same b = false → Before a b →
        Before (seq (us ++ a :: as)) (seq (vs ++ b :: bs))

variable {a b : Value} {as bs us vs : List Value} {seq : List Value → Value} {r : Bool}

/-! ### What is compared -/

theorem compare_sequences (c : Comparison) (hseq : IsSequence seq) (as bs : List Value) :
    compare c (seq as) (seq bs) = compareItems c as bs := by
  rcases hseq with rfl | rfl <;> rfl

theorem compareItems_append (c : Comparison) (h : SameItems us vs) (as bs : List Value) :
    compareItems c (us ++ as) (vs ++ bs) = compareItems c as bs := by
  induction h with
  | nil => rfl
  | cons hab _ ih => rw [List.cons_append, List.cons_append, compareItems, if_pos hab, ih]

theorem compareItems_starts (c : Comparison) (h : SameItems us vs) (b : Value) (rest : List Value) :
    compareItems c us (vs ++ b :: rest) = .ok true := by
  have hitems := compareItems_append c h [] (b :: rest)
  rwa [List.append_nil] at hitems

theorem compareItems_differ (c : Comparison) (h : SameItems us vs) (hab : a.same b = false) :
    compareItems c (us ++ a :: as) (vs ++ b :: bs) = compare c a b := by
  rw [compareItems_append c h, compareItems, hab, if_neg Bool.false_ne_true]

theorem compare_numbers {x y : Number} (ha : a.number? = some x) (hb : b.number? = some y) (c : Comparison) :
    compare c a b = .ok (c.numbers x y) := by
  simp only [compare_of_number_left ha, compareNumbers, ha, hb]

theorem numbers_less_iff {x y : Number} : Comparison.less.numbers x y = true ↔
    ∃ p q, x.position? = some p ∧ y.position? = some q ∧ p.Before q := by
  rw [Comparison.numbers_eq]
  cases x.position? <;> cases y.position? <;> simp [Comparison.positions_less_iff]

/-! ### From the relation to the comparison -/

theorem Before.compare (h : Before a b) : compare .less a b = .ok true := by
  induction h with
  | number ha hb hx hy h => rw [compare_numbers ha hb, numbers_less_iff.2 ⟨_, _, hx, hy, h⟩]
  | text h => exact congrArg Except.ok (decide_eq_true h)
  | bytes h => exact congrArg Except.ok (Comparison.words_less_iff.2 h)
  | date h => exact congrArg Except.ok (decide_eq_true (Int.ofNat_lt.2 h))
  | moment hc h =>
    rw [Value.compare, Comparison.moments, if_pos hc]
    exact congrArg Except.ok (decide_eq_true h)
  | set hsub hne => simp [Value.compare, hsub, hne]
  | state h => exact congrArg Except.ok (decide_eq_true (Int.ofNat_lt.2 h))
  | starts b rest hseq h => rw [compare_sequences _ hseq, compareItems_starts _ h]
  | differ as bs hseq h hab _ ih => rw [compare_sequences _ hseq, compareItems_differ _ h hab, ih]

theorem Comparable.compare (h : Comparable a b) (c : Comparison) : ∃ r, compare c a b = .ok r := by
  induction h with
  | number ha hb => exact ⟨_, compare_numbers ha hb c⟩
  | moment h => exact ⟨_, by rw [Value.compare, Comparison.moments, if_pos h]⟩
  | starts rest hseq h =>
    rw [compare_sequences _ hseq]
    cases rest with
    | nil =>
      have hitems := compareItems_append c h [] []
      rw [List.append_nil] at hitems
      exact ⟨_, hitems⟩
    | cons b rest => exact ⟨true, compareItems_starts c h b rest⟩
  | continues rest hseq h =>
    rw [compare_sequences _ hseq]
    have hitems := compareItems_append c h rest []
    rw [List.append_nil] at hitems
    rw [hitems]
    cases rest with
    | nil => exact ⟨_, rfl⟩
    | cons a rest => exact ⟨_, rfl⟩
  | differ as bs hseq h hab _ ih =>
    rw [compare_sequences _ hseq, compareItems_differ _ h hab]
    exact ih
  | _ => exact ⟨_, rfl⟩

/-! ### From the comparison to the relation -/

def Told (a b : Value) (r : Bool) : Prop :=
  Comparable a b ∧ (r = true → Before a b)

theorem told_numbers (h : compareNumbers .less a b = .ok r) : Told a b r := by
  unfold compareNumbers at h
  split at h
  next x y ha hb =>
    cases h
    refine ⟨.number ha hb, fun h => ?_⟩
    obtain ⟨p, q, hp, hq, hpq⟩ := numbers_less_iff.1 h
    exact .number ha hb hp hq hpq
  · cases h

mutual

theorem told_compare : {a b : Value} → {r : Bool} → compare .less a b = .ok r → Told a b r
  | str s, b, r, h => by
    cases b with
    | str t =>
      cases h
      exact ⟨.text s t, fun h => .text (of_decide_eq_true h)⟩
    | _ => cases h
  | bytes as, b, r, h => by
    cases b with
    | bytes bs =>
      cases h
      exact ⟨.bytes as bs, fun h => .bytes (Comparison.words_less_iff.1 h)⟩
    | _ => cases h
  | date d, b, r, h => by
    cases b with
    | date e =>
      cases h
      exact ⟨.date d e, fun h => .date (Int.ofNat_lt.1 (of_decide_eq_true h))⟩
    | _ => cases h
  | moment m, b, r, h => by
    cases b with
    | moment n =>
      simp only [compare, Comparison.moments] at h
      split at h
      next hc =>
        cases h
        exact ⟨.moment hc, fun h => .moment hc (of_decide_eq_true h)⟩
      · cases h
    | _ => cases h
  | set as, b, r, h => by
    cases b with
    | set bs =>
      cases h
      refine ⟨.set as bs, fun h => ?_⟩
      have hproper : subset as bs = true ∧ as.length ≠ bs.length := by simpa using h
      exact .set hproper.1 hproper.2
    | _ => cases h
  | state i, b, r, h => by
    cases b with
    | state j =>
      cases h
      exact ⟨.state i j, fun h => .state (Int.ofNat_lt.1 (of_decide_eq_true h))⟩
    | _ => cases h
  | list as, b, r, h => by
    cases b with
    | list bs => exact told_items (.inl rfl) .nil h
    | _ => cases h
  | tuple as, b, r, h => by
    cases b with
    | tuple bs => exact told_items (.inr rfl) .nil h
    | _ => cases h
  | bool _, _, _, h | int _, _, _, h | float _, _, _, h => told_numbers (by rwa [compare_of_number_left rfl] at h)
  | null, b, _, h | dict _, b, _, h | enclosing _, b, _, h | epsilon, b, _, h | predicate _, b, _, h
  | range _ _, b, _, h | function _, b, _, h => by
    cases b <;> cases h

/-- Behind items that are the same, by induction on the items. -/
theorem told_items {seq : List Value → Value} (hseq : IsSequence seq) : {as bs us vs : List Value} → {r : Bool} →
    SameItems us vs → compareItems .less as bs = .ok r → Told (seq (us ++ as)) (seq (vs ++ bs)) r
  | [], [], us, vs, _, hpre, h => by
    cases h
    rw [List.append_nil]
    exact ⟨.starts [] hseq hpre, fun hr => absurd hr Bool.false_ne_true⟩
  | [], b :: bs, us, vs, _, hpre, h => by
    rw [List.append_nil]
    exact ⟨.starts _ hseq hpre, fun _ => .starts b bs hseq hpre⟩
  | a :: as, [], us, vs, _, hpre, h => by
    cases h
    rw [List.append_nil vs]
    exact ⟨.continues _ hseq hpre, fun hr => absurd hr Bool.false_ne_true⟩
  | a :: as, b :: bs, us, vs, r, hpre, h => by
    rw [compareItems] at h
    split at h
    next hab =>
      have hpre : SameItems (us ++ [a]) (vs ++ [b]) := List.rel_append hpre (.cons hab .nil)
      have htold := told_items hseq hpre h
      rwa [List.append_cons us, List.append_cons vs]
    next hab =>
      have hab : a.same b = false := by simpa using hab
      have htold := told_compare h
      exact ⟨.differ as bs hseq hpre hab htold.1, fun hr => .differ as bs hseq hpre hab (htold.2 hr)⟩

end

/-! ### Both ways -/

theorem compare_ok_iff : (∃ r, compare .less a b = .ok r) ↔ Comparable a b :=
  ⟨fun ⟨_, h⟩ => (told_compare h).1, fun h => h.compare .less⟩

theorem compare_less_iff : compare .less a b = .ok true ↔ Before a b :=
  ⟨fun h => (told_compare h).2 rfl, Before.compare⟩

theorem compare_not_less_iff : compare .less a b = .ok false ↔ Comparable a b ∧ ¬ Before a b := by
  rw [← compare_ok_iff, ← compare_less_iff]
  cases compare .less a b with
  | error f => simp
  | ok r => cases r <;> simp

end Value

end GuardedAutomata
