import GuardedAutomata.Proofs.Store.Recorded
import GuardedAutomata.Proofs.Value.Before

/-!
# Written ranges

What is read as a range: a range itself, one character, two characters in order around a dash, and a pair of bounds
that have an order, the second not before the first. Whatever else is given is refused as invalid, unless its form
is wrong and it cannot be written: the refusal quotes it, and fails with what keeps it from being written.
-/

set_option autoImplicit false

namespace GuardedAutomata

inductive Fault.OfOrder : Fault → Prop
  | unordered (sign left right : String) : OfOrder (.unordered sign left right)
  | mixedDates : OfOrder .mixedDates
  | mixedZones : OfOrder .mixedZones
  | emptyRange (low high : Value) : OfOrder (.emptyRange low high)

namespace Value

/-! ### Depth -/

/-- The largest depth that operations on values are held to follow: each of them goes down by calls inside calls. -/
def mostDepth : Nat := 200

mutual

def depth : Value → Nat
  | list items => depths items + 1
  | tuple items => depths items + 1
  | set items => depths items + 1
  | dict entries => entryDepths entries + 1
  | predicate v => depth v + 1
  | range low high => max (depth low) (depth high) + 1
  | enclosing _ => mostDepth + 1
  | _ => 0

def depths : List Value → Nat
  | [] => 0
  | v :: rest => max (depth v) (depths rest)

def entryDepths : List (Value × Value) → Nat
  | [] => 0
  | (k, v) :: rest => max (max (depth k) (depth v)) (entryDepths rest)

end

def Shallow (v : Value) : Prop :=
  v.depth ≤ mostDepth

instance (v : Value) : Decidable v.Shallow :=
  inferInstanceAs (Decidable (v.depth ≤ mostDepth))

/-! ### Comparisons -/

theorem ofOrder_compareNumbers {c : Comparison} {a b : Value} {f : Fault} (h : compareNumbers c a b = .error f) :
    f.OfOrder := by
  unfold compareNumbers at h
  split at h
  · cases h
  · cases h
    exact .unordered _ _ _

mutual

/-- Two values without an order are the only fault of a comparison, however deep they lie. -/
theorem ofOrder_compare {c : Comparison} {f : Fault} : {a b : Value} → compare c a b = .error f → f.OfOrder
  | list as, b, h => by
    cases b with
    | list bs => exact ofOrder_compareItems (show compareItems c as bs = .error f from h)
    | _ =>
      cases h
      exact .unordered _ _ _
  | tuple as, b, h => by
    cases b with
    | tuple bs => exact ofOrder_compareItems (show compareItems c as bs = .error f from h)
    | _ =>
      cases h
      exact .unordered _ _ _
  | date d, b, h => by
    cases b with
    | date e => cases h
    | moment n =>
      cases h
      exact .mixedDates
    | _ =>
      cases h
      exact .unordered _ _ _
  | moment m, b, h => by
    cases b with
    | date e =>
      cases h
      exact .mixedDates
    | moment n =>
      simp only [compare, Comparison.moments] at h
      split at h
      · cases h
      · cases h
        exact .mixedZones
    | _ =>
      cases h
      exact .unordered _ _ _
  | bool _, b, h | int _, b, h | float _, b, h => by
    rw [compare_of_number_left rfl] at h
    exact ofOrder_compareNumbers h
  | str _, b, h | bytes _, b, h | set _, b, h | state _, b, h | null, b, h | dict _, b, h | enclosing _, b, h
  | epsilon, b, h | predicate _, b, h | range _ _, b, h | function _, b, h => by
    cases b <;> cases h
    all_goals exact .unordered _ _ _

theorem ofOrder_compareItems {c : Comparison} {f : Fault} :
    {as bs : List Value} → compareItems c as bs = .error f → f.OfOrder
  | [], [], h => by cases h
  | [], _ :: _, h => by cases h
  | _ :: _, [], h => by cases h
  | a :: as, b :: bs, h => by
    rw [compareItems] at h
    split at h
    · exact ofOrder_compareItems h
    · exact ofOrder_compare h

end

end Value

namespace Range

open Value

variable {raw low high r : Value} {f : Failure}

/-- What a written range stands for. -/
inductive Denotes : Value → Value → Prop
  | range {low high : Value} : Comparable high low → ¬ Before high low → Denotes (.range low high) (.range low high)
  | char (c : Char) : Denotes (.str (String.singleton c)) (.range (.ofChar c) (.ofChar c))
  | dash {x y : Char} : x.toNat ≤ y.toNat →
      Denotes (.str (String.ofList [x, '-', y])) (.range (.ofChar x) (.ofChar y))
  | list {x y : Value} : Comparable y x → ¬ Before y x → Denotes (.list [x, y]) (.range x y)
  | tuple {x y : Value} : Comparable y x → ¬ Before y x → Denotes (.tuple [x, y]) (.range x y)

theorem make_eq_ok_iff : make low high = .ok r ↔ r = .range low high ∧ Comparable high low ∧ ¬ Before high low := by
  rw [← compare_not_less_iff, make]
  cases compare .less high low with
  | error f => simp
  | ok b => cases b <;> simp [eq_comm]

theorem ofBounds_eq_ok_iff :
    ofBounds raw low high = .ok r ↔ r = .range low high ∧ Comparable high low ∧ ¬ Before high low := by
  rw [← make_eq_ok_iff, ofBounds]
  cases make low high <;> simp

theorem ofOrder_make {cause : Fault} (h : make low high = .error cause) : cause.OfOrder := by
  unfold make at h
  split at h
  next hc =>
    cases h
    exact ofOrder_compare hc
  · cases h
    exact .emptyRange low high
  · cases h

inductive IsPair : Value → Prop
  | range (low high : Value) : IsPair (.range low high)
  | list (low high : Value) : IsPair (.list [low, high])
  | tuple (low high : Value) : IsPair (.tuple [low, high])

/-- A refusal: the bounds have no order or the wrong one, or no form fits; then the text of what is refused is asked
for. -/
inductive Refused (raw : Value) : Failure → Prop
  | bounds {cause : Fault} : cause.OfOrder → Refused raw (.badBounds cause raw)
  | form : raw.hasText = true → Refused raw (.badRange raw)
  | unwritten : raw.hasText = false → ¬ IsPair raw → Refused raw (.fault (.longInteger none))

theorem Refused.family? (h : Refused raw f) (hw : raw.hasText = true ∨ IsPair raw) : f.family? = some .validation := by
  cases h with
  | bounds _ | form _ => rfl
  | unwritten ht hp => exact absurd hw (by simp [ht, hp])

theorem refused_ofBounds (h : ofBounds raw low high = .error f) : Refused raw f := by
  unfold ofBounds at h
  split at h
  · cases h
  next hm =>
    cases h
    exact .bounds (ofOrder_make hm)

theorem refused_refuse (hp : ¬ IsPair raw) (h : refuse raw = .error f) : Refused raw f := by
  unfold refuse checkText at h
  cases ht : raw.hasText <;> rw [ht] at h <;> cases h
  · exact .unwritten ht hp
  · exact .form ht

theorem refused_parse (h : parse raw = .error f) : Refused raw f := by
  unfold parse at h
  split at h
  · exact refused_ofBounds h
  · split at h
    · exact refused_ofBounds h
    · exact refused_ofBounds h
    · exact refused_refuse nofun h
  · exact refused_ofBounds h
  · exact refused_ofBounds h
  next hrange hstr hlist htuple =>
    refine refused_refuse ?_ h
    rintro (_ | _ | _)
    · exact hrange _ _ rfl
    · exact hlist _ _ rfl
    · exact htuple _ _ rfl

theorem parse_of_unwritten (ht : raw.hasText = false) (hp : ¬ IsPair raw) :
    parse raw = .error (.fault (.longInteger none)) := by
  unfold parse
  split
  · exact absurd (.range _ _) hp
  · cases ht
  · exact absurd (.list _ _) hp
  · exact absurd (.tuple _ _) hp
  · rw [refuse, checkText, ht]
    rfl

/-! ### Characters as bounds -/

theorem comparable_ofChar (c d : Char) : Comparable (.ofChar c) (.ofChar d) :=
  .text _ _

theorem before_ofChar_iff {c d : Char} : Before (.ofChar c) (.ofChar d) ↔ c.toNat < d.toNat := by
  have hlt : c < d ↔ c.toNat < d.toNat := .rfl
  rw [← hlt, ← Text.singleton_lt_singleton, ← compare_less_iff]
  simp [Value.ofChar, Value.compare, Comparison.texts]

/-! ### The grammar -/

theorem Denotes.parse_eq (h : Denotes raw r) : parse raw = .ok r := by
  cases h with
  | range hc hb => exact ofBounds_eq_ok_iff.2 ⟨rfl, hc, hb⟩
  | char c =>
    have hb : ¬ Before (.ofChar c) (.ofChar c) := fun h => Nat.lt_irrefl _ (before_ofChar_iff.1 h)
    simp only [parse, String.toList_singleton]
    exact ofBounds_eq_ok_iff.2 ⟨rfl, comparable_ofChar c c, hb⟩
  | @dash x y hxy =>
    have hb : ¬ Before (.ofChar y) (.ofChar x) := fun h => Nat.not_le_of_lt (before_ofChar_iff.1 h) hxy
    simp only [parse, String.toList_ofList]
    exact ofBounds_eq_ok_iff.2 ⟨rfl, comparable_ofChar y x, hb⟩
  | list hc hb => exact ofBounds_eq_ok_iff.2 ⟨rfl, hc, hb⟩
  | tuple hc hb => exact ofBounds_eq_ok_iff.2 ⟨rfl, hc, hb⟩

theorem denotes_of_parse (h : parse raw = .ok r) : Denotes raw r := by
  unfold parse at h
  split at h
  next low high =>
    obtain ⟨rfl, hc, hb⟩ := ofBounds_eq_ok_iff.1 h
    exact .range hc hb
  next s =>
    split at h
    next c hs =>
      obtain ⟨rfl, -, -⟩ := ofBounds_eq_ok_iff.1 h
      obtain rfl : s = String.singleton c := String.toList_injective (by rw [hs, String.toList_singleton])
      exact .char c
    next x y hs =>
      obtain ⟨rfl, -, hb⟩ := ofBounds_eq_ok_iff.1 h
      obtain rfl : s = String.ofList [x, '-', y] := String.toList_injective (by rw [hs, String.toList_ofList])
      exact .dash (Nat.le_of_not_lt fun hlt => hb (before_ofChar_iff.2 hlt))
    · exact absurd h (refuse_ne_ok _ _)
  next x y =>
    obtain ⟨rfl, hc, hb⟩ := ofBounds_eq_ok_iff.1 h
    exact .list hc hb
  next x y =>
    obtain ⟨rfl, hc, hb⟩ := ofBounds_eq_ok_iff.1 h
    exact .tuple hc hb
  · exact absurd h (refuse_ne_ok _ _)

/-- Of what is not too deep exactly what stands for a range is read, as the range that it stands for. Everything
else that can be written is refused as invalid, and so are bounds that cannot; no other failure comes out of a
comparison. What has no form of a range and cannot be written gets away with the fault of writing it, which is not
told as invalid. In no range that is read does the high bound come before the low one. -/
theorem parse_exact (raw : Value) :
    (raw.Shallow →
      (∀ r, StoreKind.range.parse raw = .ok r ↔ Denotes raw r) ∧
      ((¬ ∃ r, Denotes raw r) → raw.hasText = true ∨ IsPair raw →
        ∃ f, StoreKind.range.parse raw = .error f ∧ Refused raw f ∧ f.family? = some .validation) ∧
      (raw.hasText = false → ¬ IsPair raw →
        ∃ f, StoreKind.range.parse raw = .error f ∧ f = .fault (.longInteger none) ∧ f.family? = none)) ∧
      ∀ r, StoreKind.range.parse raw = .ok r →
        ∃ low high, r = .range low high ∧ Comparable high low ∧ ¬ Before high low := by
  have hiff : ∀ r, StoreKind.range.parse raw = .ok r ↔ Denotes raw r := fun r => ⟨denotes_of_parse, Denotes.parse_eq⟩
  refine ⟨fun _ => ⟨hiff, fun hnone hw => ?_, fun ht hp => ?_⟩, fun r h => ?_⟩
  · cases h : StoreKind.range.parse raw with
    | ok r => exact absurd ⟨r, (hiff r).1 h⟩ hnone
    | error f =>
      have hrefused : Refused raw f := refused_parse h
      exact ⟨f, rfl, hrefused, hrefused.family? hw⟩
  · exact ⟨_, parse_of_unwritten ht hp, rfl, rfl⟩
  · obtain ⟨low, high, rfl, hm⟩ := made_of_parse h
    exact ⟨low, high, rfl, (make_eq_ok_iff.1 hm).2⟩

/-- Three dashes are a dash alone. Pairs are compared at their second items, since the numbers in front are the same,
and a number has no place among texts. -/
theorem parse_exact_nested :
    StoreKind.range.parse (.str "---") = .ok (.range (.ofChar '-') (.ofChar '-')) ∧
      (∃ f, StoreKind.range.parse (.list [.tuple [.int 1, .str "b"], .tuple [.bool true, .str "a"]]) = .error f ∧
        f.family? = some .validation) ∧
      (∃ f, StoreKind.range.parse (.tuple [.list [.str "a"], .list [.int 0]]) = .error f ∧
        f.family? = some .validation) ∧
      ∃ low high, StoreKind.range.parse (.list [.tuple [.int 1, .str "a"], .tuple [.bool true, .str "b"]]) =
        .ok (.range low high) ∧ Comparable high low ∧ ¬ Before high low := by
  have hdash : StoreKind.range.parse (.str (String.ofList ['-', '-', '-'])) =
      .ok (.range (.ofChar '-') (.ofChar '-')) :=
    (((parse_exact _).1 (by decide)).1 _).2 (.dash (Nat.le_refl _))
  have hfirst : SameItems [.bool true] [.int 1] := .cons (by cbv) .nil
  have hsecond : Value.same (.str "a") (.str "b") = false := by cbv
  have hbefore : Before (.tuple ([.bool true] ++ [.str "a"])) (.tuple ([.int 1] ++ [.str "b"])) :=
    .differ [] [] (.inr rfl) hfirst hsecond (.text (by decide))
  have hdown : ¬ ∃ r, Denotes (.list [.tuple [.int 1, .str "b"], .tuple [.bool true, .str "a"]]) r := by
    rintro ⟨r, hr⟩
    cases hr with
    | list _ hb => exact hb hbefore
  have hfault : compare .less (.list [.int 0]) (.list [.str "a"]) = .error (.unordered "<" "int" "str") := by cbv
  have hmixed : ¬ ∃ r, Denotes (.tuple [.list [.str "a"], .list [.int 0]]) r := by
    rintro ⟨r, hr⟩
    cases hr with
    | tuple hc _ =>
      obtain ⟨b, hb⟩ := hc.compare .less
      cases hfault.symm.trans hb
  have hup : StoreKind.range.parse (.list [.tuple [.int 1, .str "a"], .tuple [.bool true, .str "b"]]) =
      .ok (.range (.tuple [.int 1, .str "a"]) (.tuple [.bool true, .str "b"])) := by cbv
  obtain ⟨f, hf, -, hfamily⟩ := ((parse_exact _).1 (by decide)).2.1 hdown (.inr (.list _ _))
  obtain ⟨g, hg, -, hgamily⟩ := ((parse_exact _).1 (by decide)).2.1 hmixed (.inr (.tuple _ _))
  obtain ⟨low, high, hr, hordered⟩ := (parse_exact _).2 _ hup
  exact ⟨hdash, ⟨f, hf, hfamily⟩, ⟨g, hg, hgamily⟩, low, high, hr ▸ hup, hordered⟩

theorem parse_int_of_unwritten {n : Int} (h : Integer.hasText n = false) :
    (Value.int n).Shallow ∧ (¬ ∃ r, Denotes (.int n) r) ∧
      StoreKind.range.parse (.int n) = .error (.fault (.longInteger none)) := by
  have ht : (Value.int n).hasText = false := by rw [Value.hasText, h]
  have hparse := parse_of_unwritten ht nofun
  refine ⟨Nat.zero_le _, ?_, hparse⟩
  rintro ⟨r, hr⟩
  cases hr

/-- The least integer that has no text stands for no range, and is not refused as invalid. -/
theorem parse_leastLong : (¬ ∃ r, Denotes (.int Integer.leastLong) r) ∧
    ∃ f, StoreKind.range.parse (.int Integer.leastLong) = .error f ∧ f.family? ≠ some .validation :=
  have h := parse_int_of_unwritten Integer.hasText_leastLong
  ⟨h.2.1, _, h.2.2, nofun⟩

end Range

end GuardedAutomata
