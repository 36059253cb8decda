import GuardedAutomata.Proofs.Value.WrittenRange

/-!
# Spellings of a value

1, 1.0 and true are one number in three spellings, and so are the sequences, wrapped values and ranges that hold them.
Among the values that can be keys equality is an equivalence, apart from what is not a number; a written range that is
spelled in another way is still a written range, with bounds that are spelled in another way.
-/

set_option autoImplicit false

namespace GuardedAutomata

namespace Value

variable {u v w low high bottom top : Value} {s : String}

/-! ### Equality -/

theorem equal_nan (i : Nat) (w : Value) : (Value.float (.nan i)).equal w = false := by
  have hnumber : (Value.float (.nan i)).equal w = sameNumber (.float (.nan i)) w := by cases w <;> simp only [equal]
  rw [hnumber, sameNumber]
  cases w.number? with
  | none => rfl
  | some y => exact Bool.eq_false_iff.2 fun h => (Number.equal_iff.1 h).2 rfl

theorem equal_iff_same : v.equal w = true ↔ v.same w = true ∧ ∀ i, v ≠ .float (.nan i) := by
  constructor
  · intro h
    refine ⟨by simp [same, h], ?_⟩
    rintro i rfl
    exact Bool.noConfusion ((equal_nan i w).symm.trans h)
  · rintro ⟨h, hnan⟩
    rcases Bool.or_eq_true_iff.1 h with h | h
    · exact h
    · obtain ⟨i, hv, -⟩ := sameNan_iff.1 h
      exact absurd hv (hnan i)

abbrev Definite : Type :=
  {v : Value // v.unhashable? = none ∧ ∀ i, v ≠ .float (.nan i)}

theorem Definite.equal_iff_key {v w : Definite} : v.1.equal w.1 = true ↔ v.1.key = w.1.key := by
  rw [equal_iff_same, same_iff_key v.2.1 w.2.1, and_iff_left v.2.2]

theorem equivalence_equal : Equivalence fun v w : Definite => v.1.equal w.1 = true where
  refl := fun _ => Definite.equal_iff_key.2 rfl
  symm := fun h => Definite.equal_iff_key.2 (Definite.equal_iff_key.1 h).symm
  trans := fun h g => Definite.equal_iff_key.2 ((Definite.equal_iff_key.1 h).trans (Definite.equal_iff_key.1 g))

/-! ### Spellings -/

def Respelled (v w : Value) : Prop :=
  v = w ∨ v.same w = true ∨ w.same v = true

namespace Respelled

theorem refl (v : Value) : Respelled v v :=
  .inl rfl

theorem symm (h : Respelled v w) : Respelled w v := by
  rcases h with h | h | h
  · exact .inl h.symm
  · exact .inr (.inr h)
  · exact .inr (.inl h)

theorem hashable (h : Respelled v w) (hv : v.unhashable? = none) : w.unhashable? = none := by
  rcases h with rfl | h | h
  · exact hv
  · exact (hashable_iff_of_same h).1 hv
  · exact (hashable_iff_of_same h).2 hv

theorem key (h : Respelled v w) (hv : v.unhashable? = none) : v.key = w.key := by
  have hw := h.hashable hv
  rcases h with rfl | h | h
  · rfl
  · exact (same_iff_key hv hw).1 h
  · exact ((same_iff_key hw hv).1 h).symm

theorem of_key (hv : v.unhashable? = none) (hw : w.unhashable? = none) (h : v.key = w.key) : Respelled v w :=
  .inr (.inl ((same_iff_key hv hw).2 h))

theorem comparedAs (h : Respelled v w) (hv : v.unhashable? = none) (c : Comparison) : ComparedAs c v w :=
  comparedAs_of_key c hv (h.hashable hv) (h.key hv)

/-! ### What has one spelling, and what has its parts spelled -/

theorem null (h : Respelled .null w) : w = .null := by
  rcases h with rfl | h | h
  · rfl
  all_goals cases w <;> simp [same, equal, sameNan, sameNumber, number?] at h ⊢

theorem epsilon (h : Respelled .epsilon w) : w = .epsilon := by
  rcases h with rfl | h | h
  · rfl
  all_goals cases w <;> simp [same, equal, sameNan, sameNumber, number?] at h ⊢

theorem str (h : Respelled (.str s) w) : w = .str s := by
  rcases h with rfl | h | h
  · rfl
  all_goals cases w <;> simp_all [same, equal, sameNan, sameNumber, number?]

theorem predicate (h : Respelled (.predicate v) w) : ∃ x, w = .predicate x ∧ Respelled v x := by
  rcases h with rfl | h | h
  · exact ⟨v, rfl, .refl v⟩
  · obtain ⟨x, rfl, hx⟩ := predicate_same_iff.1 h
    exact ⟨x, rfl, .inr (.inl hx)⟩
  · obtain ⟨x, rfl, hx⟩ := same_predicate_iff.1 h
    exact ⟨x, rfl, .inr (.inr hx)⟩

def Bounds (low high bottom top : Value) : Prop :=
  Respelled low bottom ∧ Respelled high top

theorem range (h : Respelled (.range low high) w) :
    ∃ bottom top, w = .range bottom top ∧ Bounds low high bottom top := by
  rcases h with rfl | h | h
  · exact ⟨low, high, rfl, .refl low, .refl high⟩
  · obtain ⟨bottom, top, rfl, hl, hh⟩ := range_same_iff.1 h
    exact ⟨bottom, top, rfl, .inr (.inl hl), .inr (.inl hh)⟩
  · obtain ⟨bottom, top, rfl, hl, hh⟩ := same_range_iff.1 h
    exact ⟨bottom, top, rfl, .inr (.inr hl), .inr (.inr hh)⟩

theorem pair {ws : List Value} (h : equalItems [low, high] ws = true ∨ equalItems ws [low, high] = true) :
    ∃ bottom top, ws = [bottom, top] ∧ Bounds low high bottom top := by
  match ws with
  | [] | [_] | _ :: _ :: _ :: _ => simp [equalItems] at h
  | [bottom, top] =>
    refine ⟨bottom, top, rfl, ?_⟩
    simp only [equalItems, Bool.and_true, Bool.and_eq_true, ← same.eq_def] at h
    rcases h with ⟨hl, hh⟩ | ⟨hl, hh⟩
    · exact ⟨.inr (.inl hl), .inr (.inl hh)⟩
    · exact ⟨.inr (.inr hl), .inr (.inr hh)⟩

theorem list (h : Respelled (.list [low, high]) w) :
    ∃ bottom top, w = .list [bottom, top] ∧ Bounds low high bottom top := by
  rcases h with rfl | h | h
  · exact ⟨low, high, rfl, .refl low, .refl high⟩
  · obtain ⟨ws, rfl, hitems⟩ := list_same_iff.1 h
    obtain ⟨bottom, top, rfl, hb⟩ := pair (.inl hitems)
    exact ⟨bottom, top, rfl, hb⟩
  · obtain ⟨ws, rfl, hitems⟩ := same_list_iff.1 h
    obtain ⟨bottom, top, rfl, hb⟩ := pair (.inr hitems)
    exact ⟨bottom, top, rfl, hb⟩

theorem tuple (h : Respelled (.tuple [low, high]) w) :
    ∃ bottom top, w = .tuple [bottom, top] ∧ Bounds low high bottom top := by
  rcases h with rfl | h | h
  · exact ⟨low, high, rfl, .refl low, .refl high⟩
  · obtain ⟨ws, rfl, hitems⟩ := tuple_same_iff.1 h
    obtain ⟨bottom, top, rfl, hb⟩ := pair (.inl hitems)
    exact ⟨bottom, top, rfl, hb⟩
  · obtain ⟨ws, rfl, hitems⟩ := same_tuple_iff.1 h
    obtain ⟨bottom, top, rfl, hb⟩ := pair (.inr hitems)
    exact ⟨bottom, top, rfl, hb⟩

end Respelled

end Value

/-! ### Ranges -/

namespace Range

open Value

variable {v w p low high bottom top : Value}

theorem respelled_bounds (hr : (Value.range low high).unhashable? = none) (hb : Respelled.Bounds low high bottom top) :
    Respelled (.range low high) (.range bottom top) := by
  obtain ⟨hlow, hhigh⟩ := unhashable_range hr
  obtain ⟨hl, hh⟩ := hb
  have hs : (Value.range bottom top).unhashable? = none := by
    simp [unhashable?, hl.hashable hlow, hh.hashable hhigh]
  exact .of_key hr hs (by rw [key, key, hl.key hlow, hh.key hhigh])

theorem ordered_respelled (hr : (Value.range low high).unhashable? = none)
    (hb : Respelled.Bounds low high bottom top) (h : Comparable high low ∧ ¬ Before high low) :
    Comparable top bottom ∧ ¬ Before top bottom := by
  obtain ⟨hlow, hhigh⟩ := unhashable_range hr
  obtain ⟨hl, hh⟩ := hb
  rwa [← compare_not_less_iff, ← (hl.comparedAs hlow _).right, ← (hh.comparedAs hhigh _).left, compare_not_less_iff]

/-- A written range in another spelling is a written range in another spelling. -/
theorem Denotes.respelled (h : Denotes v p) (hp : p.unhashable? = none) (hvw : Respelled v w) :
    ∃ q, Denotes w q ∧ Respelled p q := by
  cases h with
  | range hc hb =>
    obtain ⟨bottom, top, rfl, hbounds⟩ := hvw.range
    obtain ⟨hc, hb⟩ := ordered_respelled hp hbounds ⟨hc, hb⟩
    exact ⟨_, .range hc hb, respelled_bounds hp hbounds⟩
  | char c =>
    rw [hvw.str]
    exact ⟨_, .char c, .refl _⟩
  | dash hxy =>
    rw [hvw.str]
    exact ⟨_, .dash hxy, .refl _⟩
  | list hc hb =>
    obtain ⟨bottom, top, rfl, hbounds⟩ := hvw.list
    obtain ⟨hc, hb⟩ := ordered_respelled hp hbounds ⟨hc, hb⟩
    exact ⟨_, .list hc hb, respelled_bounds hp hbounds⟩
  | tuple hc hb =>
    obtain ⟨bottom, top, rfl, hbounds⟩ := hvw.tuple
    obtain ⟨hc, hb⟩ := ordered_respelled hp hbounds ⟨hc, hb⟩
    exact ⟨_, .tuple hc hb, respelled_bounds hp hbounds⟩

end Range

end GuardedAutomata
