import GuardedAutomata.Value.Fault

/-!
# Keys of values

Every hashable value has a key, and two of them are the same exactly when their keys are equal. Numbers
of all types are identified by their place on the number line, moments by their place in time, and what
is not a number by where it was made. Being the same is therefore an equivalence of hashable values,
which is what an index by symbols rests on.
-/

set_option autoImplicit false

namespace GuardedAutomata

theorem Double.unitsPerOne_pos : 0 < (Double.unitsPerOne : Int) := by
  have h : 0 < Double.unitsPerOne := by
    delta Double.unitsPerOne
    generalize 1074 = n
    exact Nat.two_pow_pos n
  omega

namespace Number

theorem position_whole_inj {m n : Int} : (whole m).position? = (whole n).position? ↔ m = n := by
  simp only [position?, Option.some.injEq, Position.at.injEq]
  exact Int.mul_eq_mul_right_iff (Int.ne_of_gt Double.unitsPerOne_pos)

theorem position_whole_ne_none (n : Int) : (whole n).position? ≠ none :=
  Option.some_ne_none _

theorem same_place_iff (p q : Option Position) :
    (match p, q with
      | some p, some q => p == q
      | _, _ => false) = true ↔ p = q ∧ p ≠ none := by
  cases p <;> cases q <;> simp

theorem equal_iff {x y : Number} :
    x.equal y = true ↔ x.position? = y.position? ∧ x.position? ≠ none := by
  cases x with
  | double c => exact same_place_iff _ _
  | whole m =>
    cases y with
    | double d => exact same_place_iff _ _
    | whole n =>
      rw [equal, beq_iff_eq, position_whole_inj]
      exact ⟨fun h => ⟨h, position_whole_ne_none m⟩, And.left⟩

def origin? : Number → Option Nat
  | double (.nan origin) => some origin
  | _ => none

def key (x : Number) : Option Position × Option Nat :=
  (x.position?, x.origin?)

theorem position_eq_none_iff {x : Number} : x.position? = none ↔ x.origin? ≠ none := by
  cases x with
  | whole n => exact ⟨fun h => absurd h (position_whole_ne_none n), fun h => absurd rfl h⟩
  | double d => cases d <;> simp [position?, origin?]

theorem key_eq_iff {x y : Number} :
    x.key = y.key ↔ x.equal y = true ∨ x.origin? = y.origin? ∧ x.origin? ≠ none := by
  have hx := @position_eq_none_iff x
  have hy := @position_eq_none_iff y
  rw [equal_iff, key, key, Prod.mk.injEq]
  grind

end Number

inductive Key where
  | number (key : Option Position × Option Nat)
  | instant (zoned : Bool) (microseconds : Int)
  | plain (v : Value)
  | sequence (keys : List Key)
  | wrapped (k : Key)
  | bounds (low high : Key)

namespace Value

mutual

def key : Value → Key
  | bool b => .number (Number.whole (if b then 1 else 0)).key
  | int n => .number (Number.whole n).key
  | float x => .number (Number.double x).key
  | moment m => .instant m.offset.isSome m.instant
  | tuple items => .sequence (keys items)
  | predicate v => .wrapped (key v)
  | range low high => .bounds (key low) (key high)
  | v => .plain v

def keys : List Value → List Key
  | [] => []
  | v :: rest => key v :: keys rest

end

theorem key_of_number {v : Value} {x : Number} (h : v.number? = some x) : v.key = .number x.key := by
  cases v <;> simp_all [number?, key]

theorem origin_eq_some_iff {a : Value} {x : Number} (ha : a.number? = some x) (i : Nat) :
    x.origin? = some i ↔ a = float (.nan i) := by
  cases a with
  | bool b => cases ha; simp [Number.origin?]
  | int n => cases ha; simp [Number.origin?]
  | float d =>
    cases ha
    cases d <;> simp [Number.origin?]
  | _ => cases ha

theorem sameNan_iff {a b : Value} : sameNan a b = true ↔ ∃ i, a = float (.nan i) ∧ b = float (.nan i) := by
  constructor
  · intro h
    unfold sameNan at h
    split at h
    · rw [beq_iff_eq] at h
      subst h
      exact ⟨_, rfl, rfl⟩
    · cases h
  · rintro ⟨i, rfl, rfl⟩
    simp [sameNan]

theorem sameNan_iff_origin {a b : Value} {x y : Number} (ha : a.number? = some x)
    (hb : b.number? = some y) : sameNan a b = true ↔ x.origin? = y.origin? ∧ x.origin? ≠ none := by
  rw [sameNan_iff]
  simp only [← origin_eq_some_iff ha, ← origin_eq_some_iff hb]
  cases x.origin? <;> simp [eq_comm]

theorem same_number_iff {a b : Value} {x y : Number} (ha : a.number? = some x)
    (hb : b.number? = some y) : (sameNumber a b || sameNan a b) = true ↔ a.key = b.key := by
  rw [key_of_number ha, key_of_number hb, Key.number.injEq, Number.key_eq_iff, Bool.or_eq_true,
    sameNan_iff_origin ha hb, sameNumber, ha, hb]

theorem same_iff_key_of_number {a : Value} {x : Number} (ha : a.number? = some x) (b : Value) :
    a.same b = true ↔ a.key = b.key := by
  cases hb : b.number? with
  | some y =>
    rw [← same_number_iff ha hb]
    cases a <;> cases b <;> simp_all [number?, same, equal]
  | none =>
    rw [key_of_number ha]
    cases a <;> cases b <;> simp_all [number?, same, equal, sameNumber, sameNan, key]

/-! ### What is the same as a value that holds others -/

section Holding

variable {a v low high : Value} {as : List Value} {es : List (Value × Value)}

theorem list_same_iff : (list as).same v = true ↔ ∃ items, v = list items ∧ equalItems as items = true := by
  cases v <;> simp [same, equal, sameNan, sameNumber, number?]

theorem same_list_iff : v.same (list as) = true ↔ ∃ items, v = list items ∧ equalItems items as = true := by
  cases v <;> simp [same, equal, sameNan, sameNumber, number?]

theorem tuple_same_iff : (tuple as).same v = true ↔ ∃ items, v = tuple items ∧ equalItems as items = true := by
  cases v <;> simp [same, equal, sameNan, sameNumber, number?]

theorem same_tuple_iff : v.same (tuple as) = true ↔ ∃ items, v = tuple items ∧ equalItems items as = true := by
  cases v <;> simp [same, equal, sameNan, sameNumber, number?]

theorem set_same_iff : (set as).same v = true ↔
    ∃ items, v = set items ∧ as.length = items.length ∧ subset as items = true := by
  cases v <;> simp [same, equal, sameNan, sameNumber, number?]

theorem same_set_iff : v.same (set as) = true ↔
    ∃ items, v = set items ∧ items.length = as.length ∧ subset items as = true := by
  cases v <;> simp [same, equal, sameNan, sameNumber, number?]

theorem dict_same_iff : (dict es).same v = true ↔
    ∃ entries, v = dict entries ∧ es.length = entries.length ∧ equalEntries es entries = true := by
  cases v <;> simp [same, equal, sameNan, sameNumber, number?]

theorem same_dict_iff : v.same (dict es) = true ↔
    ∃ entries, v = dict entries ∧ entries.length = es.length ∧ equalEntries entries es = true := by
  cases v <;> simp [same, equal, sameNan, sameNumber, number?]

theorem predicate_same_iff : (predicate a).same v = true ↔ ∃ b, v = predicate b ∧ a.same b = true := by
  cases v <;> simp [same, equal, sameNan, sameNumber, number?]

theorem same_predicate_iff : v.same (predicate a) = true ↔ ∃ b, v = predicate b ∧ b.same a = true := by
  cases v <;> simp [same, equal, sameNan, sameNumber, number?]

theorem range_same_iff : (range low high).same v = true ↔
    ∃ bottom top, v = range bottom top ∧ low.same bottom = true ∧ high.same top = true := by
  cases v <;> simp [same, equal, sameNan, sameNumber, number?, and_assoc]

theorem same_range_iff : v.same (range low high) = true ↔
    ∃ bottom top, v = range bottom top ∧ bottom.same low = true ∧ top.same high = true := by
  cases v <;> simp [same, equal, sameNan, sameNumber, number?, and_assoc]

end Holding

theorem unhashable_range {low high : Value} (h : (range low high).unhashable? = none) :
    low.unhashable? = none ∧ high.unhashable? = none := by
  cases hl : low.unhashable? <;> simp_all [unhashable?]

theorem unhashableItem_cons {v : Value} {rest : List Value} (h : unhashableItem? (v :: rest) = none) :
    v.unhashable? = none ∧ unhashableItem? rest = none := by
  cases hv : v.unhashable? <;> simp_all [unhashableItem?]

mutual

/-- Hashable values are the same exactly when they have one key. -/
theorem same_iff_key : {a b : Value} → a.unhashable? = none → b.unhashable? = none →
    (a.same b = true ↔ a.key = b.key)
  | bool _, b, _, _ => same_iff_key_of_number rfl b
  | int _, b, _, _ => same_iff_key_of_number rfl b
  | float _, b, _, _ => same_iff_key_of_number rfl b
  | tuple items, b, ha, hb => by
    cases b with
    | tuple others =>
      rw [key, key, Key.sequence.injEq, ← sameItems_iff_keys ha hb]
      simp [same, equal, sameNan]
    | _ => simp [same, equal, sameNan, key, sameNumber, number?]
  | predicate v, b, ha, hb => by
    cases b with
    | predicate w =>
      have h : v.same w = true ↔ v.key = w.key := same_iff_key ha hb
      rw [key, key, Key.wrapped.injEq, ← h]
      simp [same, equal, sameNan]
    | _ => simp [same, equal, sameNan, key, sameNumber, number?]
  | range low high, b, ha, hb => by
    cases b with
    | range bottom top =>
      have hl := same_iff_key (unhashable_range ha).1 (unhashable_range hb).1
      have hh := same_iff_key (unhashable_range ha).2 (unhashable_range hb).2
      rw [key, key, Key.bounds.injEq, ← hl, ← hh]
      simp [same, equal, sameNan]
    | _ => simp [same, equal, sameNan, key, sameNumber, number?]
  | list _, _, ha, _ => by simp [unhashable?] at ha
  | set _, _, ha, _ => by simp [unhashable?] at ha
  | dict _, _, ha, _ => by simp [unhashable?] at ha
  | moment _, b, _, _ => by
    cases b <;> simp [same, equal, sameNan, key, sameNumber, number?, Moment.same, Moment.comparable]
  | null, b, _, _ | str _, b, _, _ | bytes _, b, _, _ | date _, b, _, _ | enclosing _, b, _, _
  | epsilon, b, _, _ | state _, b, _, _ | function _, b, _, _ => by
    cases b <;> simp [same, equal, sameNan, key, sameNumber, number?]

theorem sameItems_iff_keys : {as bs : List Value} → unhashableItem? as = none →
    unhashableItem? bs = none → (equalItems as bs = true ↔ keys as = keys bs)
  | [], [], _, _ => by simp [equalItems, keys]
  | [], _ :: _, _, _ => by simp [equalItems, keys]
  | _ :: _, [], _, _ => by simp [equalItems, keys]
  | a :: as, b :: bs, ha, hb => by
    obtain ⟨ha, has⟩ := unhashableItem_cons ha
    obtain ⟨hb, hbs⟩ := unhashableItem_cons hb
    rw [equalItems, Bool.and_eq_true, sameItems_iff_keys has hbs, keys, keys, List.cons.injEq,
      ← same_iff_key ha hb, same]

end

end Value

end GuardedAutomata
