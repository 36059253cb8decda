import GuardedAutomata.Proofs.Value.Before
import GuardedAutomata.Proofs.Value.Distinct
import Mathlib.Data.List.Nodup
import Mathlib.Data.List.Perm.Subperm

/-!
# Values in place of each other

A value is the same as itself. Of two values that are the same each can take the place of the other: they are the
same as all others together, and compared with all others alike. That holds of lists, sets and dictionaries as well,
as long as the members of a set and the keys of a dictionary are what they must be, keys that occur once.
-/

set_option autoImplicit false

namespace GuardedAutomata

namespace Value

variable {a b low high bottom top : Value} {as bs items : List Value} {es fs entries : List (Value × Value)}

/-! ### Collections -/

theorem equalItems_iff : equalItems as bs = true ↔ SameItems as bs := by
  induction as generalizing bs with
  | nil => cases bs <;> simp [equalItems, SameItems]
  | cons a as ih =>
    cases bs with
    | nil => simp [equalItems, SameItems]
    | cons b bs =>
      rw [equalItems, ← same, Bool.and_eq_true, ih]
      simp only [SameItems, List.forall₂_cons]

theorem subset_iff : subset as bs = true ↔ ∀ a ∈ as, ∃ b ∈ bs, a.same b = true := by
  induction as with
  | nil => simp [subset]
  | cons a as ih => simp [subset, ih, same]

def SameEntry (e f : Value × Value) : Prop :=
  e.1.same f.1 = true ∧ e.2.same f.2 = true

theorem equalEntries_iff : equalEntries es fs = true ↔ ∀ e ∈ es, ∃ f ∈ fs, SameEntry e f := by
  induction es with
  | nil => simp [equalEntries]
  | cons e es ih =>
    obtain ⟨k, v⟩ := e
    rw [equalEntries, Bool.and_eq_true, ih, List.forall_mem_cons]
    simp [SameEntry, same]

mutual

theorem same_refl : (v : Value) → v.same v = true
  | list items =>
    list_same_iff.2 ⟨items, rfl, equalItems_iff.2 (List.forall₂_same.2 (same_refl_of_mem items))⟩
  | tuple items =>
    tuple_same_iff.2 ⟨items, rfl, equalItems_iff.2 (List.forall₂_same.2 (same_refl_of_mem items))⟩
  | set items =>
    set_same_iff.2 ⟨items, rfl, rfl, subset_iff.2 fun v hv => ⟨v, hv, same_refl_of_mem items v hv⟩⟩
  | dict entries =>
    dict_same_iff.2 ⟨entries, rfl, rfl, equalEntries_iff.2 fun e he => ⟨e, he, sameEntry_refl_of_mem entries e he⟩⟩
  | predicate v => predicate_same_iff.2 ⟨v, rfl, same_refl v⟩
  | range low high => range_same_iff.2 ⟨low, high, rfl, same_refl low, same_refl high⟩
  | bool _ | int _ | float _ => (same_iff_key_of_number rfl _).2 rfl
  | null | str _ | bytes _ | date _ | moment _ | enclosing _ | epsilon | state _ | function _ => by
    simp [same, equal, Moment.same, Moment.comparable]

theorem same_refl_of_mem : (items : List Value) → ∀ v ∈ items, v.same v = true
  | [] => by simp
  | v :: rest => List.forall_mem_cons.2 ⟨same_refl v, same_refl_of_mem rest⟩

theorem sameEntry_refl_of_mem : (entries : List (Value × Value)) → ∀ e ∈ entries, SameEntry e e
  | [] => by simp
  | (k, v) :: rest => List.forall_mem_cons.2 ⟨⟨same_refl k, same_refl v⟩, sameEntry_refl_of_mem rest⟩

end

/-! ### Partners -/

structure Paired {α : Type} (R : α → α → Prop) (xs ys : List α) : Prop where
  left : ∀ x ∈ xs, ∃ y ∈ ys, R x y
  right : ∀ y ∈ ys, ∃ x ∈ xs, R x y

namespace Paired

variable {α : Type} {R : α → α → Prop} {xs ys : List α} {p : α → Prop}

theorem forall_iff (h : Paired R xs ys) (hp : ∀ x y, R x y → (p x ↔ p y)) : (∀ x ∈ xs, p x) ↔ ∀ y ∈ ys, p y := by
  constructor
  · intro hxs y hy
    obtain ⟨x, hx, hxy⟩ := h.right y hy
    exact (hp x y hxy).1 (hxs x hx)
  · intro hys x hx
    obtain ⟨y, hy, hxy⟩ := h.left x hx
    exact (hp x y hxy).2 (hys y hy)

theorem exists_iff (h : Paired R xs ys) (hp : ∀ x y, R x y → (p x ↔ p y)) : (∃ x ∈ xs, p x) ↔ ∃ y ∈ ys, p y := by
  constructor
  · rintro ⟨x, hx, hpx⟩
    obtain ⟨y, hy, hxy⟩ := h.left x hx
    exact ⟨y, hy, (hp x y hxy).1 hpx⟩
  · rintro ⟨y, hy, hpy⟩
    obtain ⟨x, hx, hxy⟩ := h.right y hy
    exact ⟨x, hx, (hp x y hxy).2 hpy⟩

/-- Among as many members, told apart by keys, partners for one side are partners for the other. -/
theorem of_keys {key : α → Key} (hxs : (xs.map key).Nodup) (hys : (ys.map key).Nodup)
    (hlength : xs.length = ys.length) (h : ∀ x ∈ xs, ∃ y ∈ ys, key x = key y ∧ R x y) : Paired R xs ys where
  left := fun x hx =>
    have ⟨y, hy, _, hxy⟩ := h x hx
    ⟨y, hy, hxy⟩
  right := by
    have hsub : xs.map key ⊆ ys.map key := by
      intro k hk
      obtain ⟨x, hx, rfl⟩ := List.mem_map.1 hk
      obtain ⟨y, hy, hkey, -⟩ := h x hx
      exact hkey ▸ List.mem_map_of_mem hy
    have hperm : (xs.map key).Perm (ys.map key) :=
      (hxs.subperm hsub).perm_of_length_le (by simp [hlength])
    intro y hy
    -- The partner of the member with its key has that key too, and there is only one such.
    obtain ⟨x, hx, hxy⟩ := List.mem_map.1 (hperm.symm.subset (List.mem_map_of_mem hy))
    obtain ⟨z, hz, hxz, hR⟩ := h x hx
    obtain rfl : z = y := List.inj_on_of_nodup_map hys hz hy (hxz.symm.trans hxy)
    exact ⟨x, hx, hR⟩

end Paired

/-! ### Proper values -/

structure Keyed (items : List Value) : Prop where
  hashable : ∀ v ∈ items, v.unhashable? = none
  distinct : Distinct items

theorem Keyed.nodup (h : Keyed items) : (items.map key).Nodup :=
  (distinct_iff_keys h.hashable).1 h.distinct

inductive Proper : Value → Prop
  | key {v : Value} : v.unhashable? = none → Proper v
  | enclosing (c : Container) : Proper (.enclosing c)
  | list {items : List Value} : (∀ v ∈ items, Proper v) → Proper (.list items)
  | tuple {items : List Value} : (∀ v ∈ items, Proper v) → Proper (.tuple items)
  | set {items : List Value} : Keyed items → Proper (.set items)
  | dict {entries : List (Value × Value)} :
      Keyed (entries.map Prod.fst) → (∀ e ∈ entries, Proper e.2) → Proper (.dict entries)
  | predicate {v : Value} : Proper v → Proper (.predicate v)
  | range {low high : Value} : Proper low → Proper high → Proper (.range low high)

namespace Proper

theorem of_list (h : Proper (.list items)) : ∀ v ∈ items, Proper v := by
  cases h with
  | key h => simp [unhashable?] at h
  | list h => exact h

theorem of_tuple (h : Proper (.tuple items)) : ∀ v ∈ items, Proper v := by
  cases h with
  | key h =>
    replace h : unhashableItem? items = none := h
    induction items with
    | nil => simp
    | cons v rest ih =>
      obtain ⟨hv, hrest⟩ := unhashableItem_cons h
      exact List.forall_mem_cons.2 ⟨.key hv, ih hrest⟩
  | tuple h => exact h

theorem of_set (h : Proper (.set items)) : Keyed items := by
  cases h with
  | key h => simp [unhashable?] at h
  | set h => exact h

theorem of_dict (h : Proper (.dict entries)) : Keyed (entries.map Prod.fst) ∧ ∀ e ∈ entries, Proper e.2 := by
  cases h with
  | key h => simp [unhashable?] at h
  | dict hkeys h => exact ⟨hkeys, h⟩

theorem of_predicate {v : Value} (h : Proper (.predicate v)) : Proper v := by
  cases h with
  | key h => exact .key h
  | predicate h => exact h

theorem of_range {low high : Value} (h : Proper (.range low high)) : Proper low ∧ Proper high := by
  cases h with
  | key h => exact ⟨.key (unhashable_range h).1, .key (unhashable_range h).2⟩
  | range hl hh => exact ⟨hl, hh⟩

end Proper

/-! ### Replacements -/

/-- The one value can take the place of the other: wherever values are matched, and, but for the text of a refusal,
wherever they are compared. -/
structure Replaces (a b : Value) : Prop where
  matchedLeft : ∀ v : Value, a.same v = b.same v
  matchedRight : ∀ v : Value, v.same a = v.same b
  compared : ∀ c, ComparedAs c a b

theorem replaces_refl (a : Value) : Replaces a a :=
  ⟨fun _ => rfl, fun _ => rfl, fun _ _ => ⟨rfl, rfl⟩⟩

theorem replaces_of_hashable (ha : a.unhashable? = none) (h : a.same b = true) : Replaces a b := by
  have hb : b.unhashable? = none := (hashable_iff_of_same h).1 ha
  have hkey : a.key = b.key := (same_iff_key ha hb).1 h
  exact ⟨same_left_congr ha hb hkey, same_right_congr ha hb hkey, fun c => comparedAs_of_key c ha hb hkey⟩

section Items

variable (h : List.Forall₂ Replaces as bs) (vs : List Value)

include h

theorem equalItems_congr : equalItems as vs = equalItems bs vs ∧ equalItems vs as = equalItems vs bs := by
  induction h generalizing vs with
  | nil => exact ⟨rfl, rfl⟩
  | cons hab _ ih =>
    cases vs with
    | nil => simp [equalItems]
    | cons v vs =>
      rw [equalItems, equalItems, equalItems, equalItems, ← same, ← same, ← same, ← same, hab.matchedLeft v,
        hab.matchedRight v, (ih vs).1, (ih vs).2]
      exact ⟨rfl, rfl⟩

theorem compareItems_congr (c : Comparison) : (compareItems c as vs).toOption = (compareItems c bs vs).toOption ∧
    (compareItems c vs as).toOption = (compareItems c vs bs).toOption := by
  induction h generalizing vs with
  | nil => exact ⟨rfl, rfl⟩
  | cons hab _ ih =>
    cases vs with
    | nil => exact ⟨rfl, rfl⟩
    | cons v vs =>
      simp only [compareItems, hab.matchedLeft v, hab.matchedRight v]
      constructor
      · split
        · exact (ih vs).1
        · exact (hab.compared c v).1
      · split
        · exact (ih vs).2
        · exact (hab.compared c v).2

end Items

theorem replaced_items (has : ∀ a ∈ as, ∀ {b}, Proper b → a.same b = true → Replaces a b) (hbs : ∀ b ∈ bs, Proper b)
    (h : SameItems as bs) : List.Forall₂ Replaces as bs := by
  obtain ⟨hlength, hsame⟩ := List.forall₂_iff_zip.1 h
  refine List.forall₂_iff_zip.2 ⟨hlength, fun hab => ?_⟩
  obtain ⟨ha, hb⟩ := List.of_mem_zip hab
  exact has _ ha (hbs _ hb) (hsame hab)

theorem replaces_list (h : List.Forall₂ Replaces as bs) : Replaces (list as) (list bs) where
  matchedLeft := fun v => by
    rw [Bool.eq_iff_iff, list_same_iff, list_same_iff]
    simp only [(equalItems_congr h _).1]
  matchedRight := fun v => by
    rw [Bool.eq_iff_iff, same_list_iff, same_list_iff]
    simp only [(equalItems_congr h _).2]
  compared := fun c v => by
    cases v with
    | list vs => exact compareItems_congr h vs c
    | _ => exact ⟨rfl, rfl⟩

theorem replaces_tuple (h : List.Forall₂ Replaces as bs) : Replaces (tuple as) (tuple bs) where
  matchedLeft := fun v => by
    rw [Bool.eq_iff_iff, tuple_same_iff, tuple_same_iff]
    simp only [(equalItems_congr h _).1]
  matchedRight := fun v => by
    rw [Bool.eq_iff_iff, same_tuple_iff, same_tuple_iff]
    simp only [(equalItems_congr h _).2]
  compared := fun c v => by
    cases v with
    | tuple vs => exact compareItems_congr h vs c
    | _ => exact ⟨rfl, rfl⟩

theorem subset_congr (h : Paired Replaces as bs) (vs : List Value) :
    subset as vs = subset bs vs ∧ subset vs as = subset vs bs := by
  constructor
  · rw [Bool.eq_iff_iff, subset_iff, subset_iff]
    refine h.forall_iff fun x y hxy => ?_
    simp only [hxy.matchedLeft]
  · rw [Bool.eq_iff_iff, subset_iff, subset_iff]
    refine forall₂_congr fun v _ => h.exists_iff fun x y hxy => ?_
    rw [hxy.matchedRight]

theorem replaces_set (hlength : as.length = bs.length) (h : Paired Replaces as bs) :
    Replaces (set as) (set bs) where
  matchedLeft := fun v => by
    rw [Bool.eq_iff_iff, set_same_iff, set_same_iff]
    simp only [hlength, (subset_congr h _).1]
  matchedRight := fun v => by
    rw [Bool.eq_iff_iff, same_set_iff, same_set_iff]
    simp only [hlength, (subset_congr h _).2]
  compared := fun c v => by
    cases v with
    | set vs => simp only [compare, hlength, subset_congr h vs, and_self]
    | _ => exact ⟨rfl, rfl⟩

def ReplacesEntry (e f : Value × Value) : Prop :=
  Replaces e.1 f.1 ∧ Replaces e.2 f.2

theorem equalEntries_congr (h : Paired ReplacesEntry es fs) (gs : List (Value × Value)) :
    equalEntries es gs = equalEntries fs gs ∧ equalEntries gs es = equalEntries gs fs := by
  constructor
  · rw [Bool.eq_iff_iff, equalEntries_iff, equalEntries_iff]
    refine h.forall_iff fun x y hxy => ?_
    simp only [SameEntry, hxy.1.matchedLeft, hxy.2.matchedLeft]
  · rw [Bool.eq_iff_iff, equalEntries_iff, equalEntries_iff]
    refine forall₂_congr fun v _ => h.exists_iff fun x y hxy => ?_
    rw [SameEntry, SameEntry, hxy.1.matchedRight, hxy.2.matchedRight]

theorem replaces_dict (hlength : es.length = fs.length) (h : Paired ReplacesEntry es fs) :
    Replaces (dict es) (dict fs) where
  matchedLeft := fun v => by
    rw [Bool.eq_iff_iff, dict_same_iff, dict_same_iff]
    simp only [hlength, (equalEntries_congr h _).1]
  matchedRight := fun v => by
    rw [Bool.eq_iff_iff, same_dict_iff, same_dict_iff]
    simp only [hlength, (equalEntries_congr h _).2]
  compared := fun c v => by cases v <;> exact ⟨rfl, rfl⟩

theorem replaces_predicate (h : Replaces a b) : Replaces (predicate a) (predicate b) where
  matchedLeft := fun v => by
    rw [Bool.eq_iff_iff, predicate_same_iff, predicate_same_iff]
    simp only [h.matchedLeft]
  matchedRight := fun v => by
    rw [Bool.eq_iff_iff, same_predicate_iff, same_predicate_iff]
    simp only [h.matchedRight]
  compared := fun c v => by cases v <;> exact ⟨rfl, rfl⟩

theorem replaces_range (hl : Replaces low bottom) (hh : Replaces high top) :
    Replaces (range low high) (range bottom top) where
  matchedLeft := fun v => by
    rw [Bool.eq_iff_iff, range_same_iff, range_same_iff]
    simp only [hl.matchedLeft, hh.matchedLeft]
  matchedRight := fun v => by
    rw [Bool.eq_iff_iff, same_range_iff, same_range_iff]
    simp only [hl.matchedRight, hh.matchedRight]
  compared := fun c v => by cases v <;> exact ⟨rfl, rfl⟩

theorem paired_members (has : Keyed as) (hbs : Keyed bs) (hlength : as.length = bs.length)
    (h : subset as bs = true) : Paired Replaces as bs := by
  refine .of_keys has.nodup hbs.nodup hlength fun x hx => ?_
  obtain ⟨y, hy, hxy⟩ := subset_iff.1 h x hx
  have hkey : x.key = y.key := (same_iff_key (has.hashable x hx) (hbs.hashable y hy)).1 hxy
  exact ⟨y, hy, hkey, replaces_of_hashable (has.hashable x hx) hxy⟩

theorem paired_entries (hes : Keyed (es.map Prod.fst)) (hfs : Keyed (fs.map Prod.fst)) (hlength : es.length = fs.length)
    (h : equalEntries es fs = true)
    (hvalues : ∀ e ∈ es, ∀ f ∈ fs, e.2.same f.2 = true → Replaces e.2 f.2) : Paired ReplacesEntry es fs := by
  have hnodup : ∀ {gs : List (Value × Value)}, Keyed (gs.map Prod.fst) → (gs.map (key ∘ Prod.fst)).Nodup := by
    intro gs hgs
    simpa using hgs.nodup
  refine .of_keys (hnodup hes) (hnodup hfs) hlength fun e he => ?_
  obtain ⟨f, hf, hkeys, hef⟩ := equalEntries_iff.1 h e he
  have hhashable : e.1.unhashable? = none := hes.hashable _ (List.mem_map_of_mem he)
  have hkey : e.1.key = f.1.key := (same_iff_key hhashable (hfs.hashable _ (List.mem_map_of_mem hf))).1 hkeys
  exact ⟨f, hf, hkey, replaces_of_hashable hhashable hkeys, hvalues e he f hf hef⟩

/-- Of two proper values that are the same each can take the place of the other. By induction on how the first is made:
what it holds can be replaced, so it can be. -/
theorem replaces_of_same (ha : Proper a) (hb : Proper b) (h : a.same b = true) : Replaces a b := by
  induction ha generalizing b with
  | key ha => exact replaces_of_hashable ha h
  | enclosing c =>
    obtain rfl : b = .enclosing c := by cases b <;> simp_all [same, equal, sameNan, sameNumber, number?]
    exact replaces_refl _
  | list _ ih =>
    obtain ⟨bs, rfl, hitems⟩ := list_same_iff.1 h
    exact replaces_list (replaced_items ih hb.of_list (equalItems_iff.1 hitems))
  | tuple _ ih =>
    obtain ⟨bs, rfl, hitems⟩ := tuple_same_iff.1 h
    exact replaces_tuple (replaced_items ih hb.of_tuple (equalItems_iff.1 hitems))
  | set has =>
    obtain ⟨bs, rfl, hlength, hsub⟩ := set_same_iff.1 h
    exact replaces_set hlength (paired_members has hb.of_set hlength hsub)
  | dict hes _ ih =>
    obtain ⟨fs, rfl, hlength, hentries⟩ := dict_same_iff.1 h
    refine replaces_dict hlength (paired_entries hes hb.of_dict.1 hlength hentries fun e he f hf => ?_)
    exact ih e he (hb.of_dict.2 f hf)
  | predicate _ ih =>
    obtain ⟨b, rfl, hab⟩ := predicate_same_iff.1 h
    exact replaces_predicate (ih hb.of_predicate hab)
  | range _ _ ihl ihh =>
    obtain ⟨bottom, top, rfl, hl, hh⟩ := range_same_iff.1 h
    exact replaces_range (ihl hb.of_range.1 hl) (ihh hb.of_range.2 hh)

end Value

end GuardedAutomata
