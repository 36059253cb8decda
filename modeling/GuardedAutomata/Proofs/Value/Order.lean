import GuardedAutomata.Proofs.Value.Key
import GuardedAutomata.Value.Order

/-!
# Order and keys

Values of one key take the same part in every comparison. Numbers are compared by their places, moments by
their instants, sequences by the first items that differ; so a value can be replaced by one of its key, on
either side, and only the text of a refusal can tell.
-/

set_option autoImplicit false

namespace GuardedAutomata

namespace Comparison

/-- Numbers are compared by their places. -/
theorem numbers_eq (c : Comparison) (x y : Number) : c.numbers x y =
    match x.position?, y.position? with
    | some p, some q => c.positions p q
    | _, _ => false := by
  cases x with
  | double d => rfl
  | whole m =>
    cases y with
    | double d => rfl
    | whole n =>
      cases c with
      | less => simp only [numbers, ints, Number.position?, positions, Int.mul_lt_mul_right Double.unitsPerOne_pos]
      | lessOrEqual =>
        simp only [numbers, ints, Number.position?, positions, Int.mul_le_mul_right Double.unitsPerOne_pos]

end Comparison

namespace Value

variable {a b : Value}

mutual

/-- What is the same as a value that can be a key can be one, too. -/
theorem hashable_iff_of_same : {a b : Value} → a.same b = true → (a.unhashable? = none ↔ b.unhashable? = none)
  | tuple as, b, h => by
    obtain ⟨bs, rfl, hitems⟩ := tuple_same_iff.1 h
    exact hashable_iff_of_sameItems hitems
  | predicate v, b, h => by
    obtain ⟨w, rfl, hvw⟩ := predicate_same_iff.1 h
    have hiff : v.unhashable? = none ↔ w.unhashable? = none := hashable_iff_of_same hvw
    exact hiff
  | range low high, b, h => by
    obtain ⟨bottom, top, rfl, hlow, hhigh⟩ := range_same_iff.1 h
    have hl := hashable_iff_of_same hlow
    have hh := hashable_iff_of_same hhigh
    unfold unhashable?
    cases hlow : low.unhashable? <;> cases hbottom : bottom.unhashable? <;> simp_all
  | enclosing c, b, h => by
    cases b with
    | enclosing d =>
      have hcd : c = d := by simpa [same, equal, sameNan] using h
      rw [hcd]
    | _ => simp [same, equal, sameNan, sameNumber, number?] at h
  | list _, b, h | set _, b, h | dict _, b, h | null, b, h | bool _, b, h | int _, b, h | float _, b, h
  | str _, b, h | bytes _, b, h | date _, b, h | moment _, b, h | epsilon, b, h | state _, b, h
  | function _, b, h => by
    cases b <;> simp_all [unhashable?, same, equal, sameNan, sameNumber, number?]

theorem hashable_iff_of_sameItems : {as bs : List Value} → equalItems as bs = true →
    (unhashableItem? as = none ↔ unhashableItem? bs = none)
  | [], [], _ => Iff.rfl
  | [], _ :: _, h => by simp [equalItems] at h
  | _ :: _, [], h => by simp [equalItems] at h
  | a :: as, b :: bs, h => by
    rw [equalItems, Bool.and_eq_true] at h
    have hhead : a.unhashable? = none ↔ b.unhashable? = none := hashable_iff_of_same h.1
    have htail := hashable_iff_of_sameItems h.2
    unfold unhashableItem?
    cases ha : a.unhashable? <;> cases hb : b.unhashable? <;> simp_all

end

section Keys

variable (ha : a.unhashable? = none) (hb : b.unhashable? = none) (hkey : a.key = b.key)

include ha hb hkey

theorem same_left_congr (v : Value) : a.same v = b.same v := by
  rw [Bool.eq_iff_iff]
  by_cases hv : v.unhashable? = none
  · rw [same_iff_key ha hv, same_iff_key hb hv, hkey]
  · have hna : a.same v ≠ true := fun h => hv ((hashable_iff_of_same h).1 ha)
    have hnb : b.same v ≠ true := fun h => hv ((hashable_iff_of_same h).1 hb)
    simp [hna, hnb]

theorem same_right_congr (v : Value) : v.same a = v.same b := by
  rw [Bool.eq_iff_iff]
  by_cases hv : v.unhashable? = none
  · rw [same_iff_key hv ha, same_iff_key hv hb, hkey]
  · have hna : v.same a ≠ true := fun h => hv ((hashable_iff_of_same h).2 ha)
    have hnb : v.same b ≠ true := fun h => hv ((hashable_iff_of_same h).2 hb)
    simp [hna, hnb]

end Keys

/-! ### Comparisons -/

theorem compareNumbers_toOption (c : Comparison) (a b : Value) : (compareNumbers c a b).toOption =
    match a.number?, b.number? with
    | some x, some y => some (c.numbers x y)
    | _, _ => none := by
  unfold compareNumbers
  cases a.number? <;> cases b.number? <;> rfl

theorem compare_of_number_left {x : Number} (ha : a.number? = some x) (c : Comparison) (v : Value) :
    compare c a v = compareNumbers c a v := by
  cases a <;> first | cases ha; done | cases v <;> rfl

theorem compare_of_number_right {x : Number} (ha : a.number? = some x) (c : Comparison) (v : Value) :
    compare c v a = compareNumbers c v a := by
  cases a <;> first | cases ha; done | cases v <;> rfl

theorem number_of_key {x : Number} (ha : a.number? = some x) (hkey : a.key = b.key) :
    ∃ y, b.number? = some y ∧ x.position? = y.position? := by
  rw [key_of_number ha] at hkey
  cases hb : b.number? with
  | some y =>
    rw [key_of_number hb, Key.number.injEq] at hkey
    exact ⟨y, rfl, congrArg Prod.fst hkey⟩
  | none => cases b <;> first | cases hb; done | cases hkey

def ComparedAs (c : Comparison) (a b : Value) : Prop :=
  ∀ v, (compare c a v).toOption = (compare c b v).toOption ∧
    (compare c v a).toOption = (compare c v b).toOption

theorem comparedAs_number {x : Number} (ha : a.number? = some x) (hkey : a.key = b.key) (c : Comparison) :
    ComparedAs c a b := by
  obtain ⟨y, hb, hxy⟩ := number_of_key ha hkey
  intro v
  rw [compare_of_number_left ha, compare_of_number_left hb, compare_of_number_right ha,
    compare_of_number_right hb]
  simp only [compareNumbers_toOption, ha, hb, Comparison.numbers_eq]
  constructor <;> cases v.number? <;> simp only [hxy]

mutual

/-- Values of one key are compared alike. -/
theorem comparedAs_of_key (c : Comparison) : {a b : Value} → a.unhashable? = none → b.unhashable? = none →
    a.key = b.key → ComparedAs c a b
  | bool _, b, _, _, hkey => comparedAs_number rfl hkey c
  | int _, b, _, _, hkey => comparedAs_number rfl hkey c
  | float _, b, _, _, hkey => comparedAs_number rfl hkey c
  | tuple as, b, ha, hb, hkey => by
    cases b with
    | tuple bs =>
      rw [key, key, Key.sequence.injEq] at hkey
      intro v
      cases v with
      | tuple vs => exact comparedItems_of_keys c ha hb hkey vs
      | _ => exact ⟨rfl, rfl⟩
    | _ => cases hkey
  | moment m, b, _, _, hkey => by
    cases b with
    | moment n =>
      rw [key, key, Key.instant.injEq] at hkey
      intro v
      cases v with
      | moment l =>
        simp only [compare, Comparison.moments, Moment.comparable, hkey]
        exact ⟨rfl, rfl⟩
      | _ => exact ⟨rfl, rfl⟩
    | _ => cases hkey
  | predicate _, b, _, _, hkey => by
    cases b with
    | predicate _ =>
      intro v
      cases v <;> exact ⟨rfl, rfl⟩
    | _ => cases hkey
  | range _ _, b, _, _, hkey => by
    cases b with
    | range _ _ =>
      intro v
      cases v <;> exact ⟨rfl, rfl⟩
    | _ => cases hkey
  | list _, _, ha, _, _ => by simp [unhashable?] at ha
  | set _, _, ha, _, _ => by simp [unhashable?] at ha
  | dict _, _, ha, _, _ => by simp [unhashable?] at ha
  | null, b, _, _, hkey | str _, b, _, _, hkey | bytes _, b, _, _, hkey | date _, b, _, _, hkey
  | enclosing _, b, _, _, hkey | epsilon, b, _, _, hkey | state _, b, _, _, hkey
  | function _, b, _, _, hkey => by
    cases b <;> cases hkey
    exact fun v => ⟨rfl, rfl⟩

theorem comparedItems_of_keys (c : Comparison) : {as bs : List Value} → unhashableItem? as = none →
    unhashableItem? bs = none → keys as = keys bs → ∀ vs,
      (compareItems c as vs).toOption = (compareItems c bs vs).toOption ∧
        (compareItems c vs as).toOption = (compareItems c vs bs).toOption
  | [], [], _, _, _, _ => ⟨rfl, rfl⟩
  | [], _ :: _, _, _, h, _ => by cases h
  | _ :: _, [], _, _, h, _ => by cases h
  | a :: as, b :: bs, ha, hb, h, vs => by
    obtain ⟨ha, has⟩ := unhashableItem_cons ha
    obtain ⟨hb, hbs⟩ := unhashableItem_cons hb
    rw [keys, keys, List.cons.injEq] at h
    cases vs with
    | nil => exact ⟨rfl, rfl⟩
    | cons v vs =>
      obtain ⟨hleft, hright⟩ := comparedAs_of_key c ha hb h.1 v
      obtain ⟨hlefts, hrights⟩ := comparedItems_of_keys c has hbs h.2 vs
      simp only [compareItems, same_left_congr ha hb h.1 v, same_right_congr ha hb h.1 v]
      constructor
      · split
        · exact hlefts
        · exact hleft
      · split
        · exact hrights
        · exact hright

end

theorem toOption_eq_some {ε α : Type} {answer : Except ε α} {r : α} :
    answer.toOption = some r ↔ answer = .ok r := by
  cases answer <;> simp [Except.toOption]

theorem ComparedAs.left {c : Comparison} (h : ComparedAs c a b) {v : Value} {r : Bool} :
    compare c a v = .ok r ↔ compare c b v = .ok r := by
  rw [← toOption_eq_some, (h v).1, toOption_eq_some]

theorem ComparedAs.right {c : Comparison} (h : ComparedAs c a b) {v : Value} {r : Bool} :
    compare c v a = .ok r ↔ compare c v b = .ok r := by
  rw [← toOption_eq_some, (h v).2, toOption_eq_some]

end Value

end GuardedAutomata
