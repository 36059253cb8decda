import GuardedAutomata.Proofs.Store.Merging
import GuardedAutomata.Proofs.Value.Replacement
import GuardedAutomata.Proofs.Value.Spelling

/-!
# The written form of a range

Of all the texts and pairs that stand for a range one is its written form: the character, if that is all there is
between the bounds, and the list of both bounds otherwise. It is read back as the range it was written for, whatever
the bounds are, and two of them are equal exactly if the ranges are.
-/

set_option autoImplicit false

namespace GuardedAutomata.Range

open Value

variable {r s v w low high bottom top : Value}

inductive WrittenAs : Value → Value → Prop
  | char (c : Char) : WrittenAs (.range (.ofChar c) (.ofChar c)) (.ofChar c)
  | pair {low high : Value} : (∀ c, low = .ofChar c → high ≠ .ofChar c) →
      WrittenAs (.range low high) (.list [low, high])

theorem exists_ofChar (h : isOneChar low = true) : ∃ c, low = .ofChar c := by
  unfold isOneChar at h
  split at h
  next s =>
    rw [beq_iff_eq, ← String.length_toList, List.length_eq_one_iff] at h
    obtain ⟨c, hc⟩ := h
    refine ⟨c, congrArg Value.str ?_⟩
    rw [← String.toList_inj, hc, String.toList_singleton]
  · cases h

theorem eq_ofChar {c : Char} (h : Respelled (.ofChar c) v) : v = .ofChar c :=
  Respelled.str h

theorem written_alone_iff : (isOneChar low && low.equal high) = true ↔ ∃ c, low = .ofChar c ∧ high = .ofChar c := by
  rw [Bool.and_eq_true]
  constructor
  · rintro ⟨hlow, hequal⟩
    obtain ⟨c, rfl⟩ := exists_ofChar hlow
    exact ⟨c, rfl, eq_ofChar (.inr (.inl (equal_iff_same.1 hequal).1))⟩
  · rintro ⟨c, rfl, rfl⟩
    simp [isOneChar, Value.ofChar, Value.equal]

theorem writtenAs_dump (low high : Value) : WrittenAs (.range low high) (dump low high) := by
  by_cases h : (isOneChar low && low.equal high) = true
  · rw [dump, if_pos h]
    obtain ⟨c, rfl, rfl⟩ := written_alone_iff.1 h
    exact .char c
  · rw [dump, if_neg h]
    exact .pair fun c hlow hhigh => h (written_alone_iff.2 ⟨c, hlow, hhigh⟩)

/-- Ranges are written, and nothing else is. -/
theorem dump_eq_ok_iff : StoreKind.range.dump r = .ok w ↔ WrittenAs r w := by
  constructor
  · intro h
    cases r with
    | range low high =>
      cases h
      exact writtenAs_dump low high
    | _ => cases h
  · intro h
    cases h with
    | char c => exact congrArg Except.ok (if_pos (written_alone_iff.2 ⟨c, rfl, rfl⟩))
    | pair hpair =>
      refine congrArg Except.ok (if_neg fun h => ?_)
      obtain ⟨c, hlow, hhigh⟩ := written_alone_iff.1 h
      exact hpair c hlow hhigh

theorem WrittenAs.ne_null (h : WrittenAs r w) : w ≠ .null := by
  rintro rfl
  cases h

theorem dump_ne_null (low high : Value) : dump low high ≠ .null :=
  (writtenAs_dump low high).ne_null

theorem WrittenAs.denotes (h : WrittenAs r w) (hr : Made r) : Denotes w r := by
  cases h with
  | char c => exact .char c
  | pair _ =>
    obtain ⟨low, high, hrange, hm⟩ := hr
    cases hrange
    obtain ⟨-, hcomparable, hordered⟩ := make_eq_ok_iff.1 hm
    exact .list hcomparable hordered

theorem parse_dump (hmake : make low high = .ok (.range low high)) :
    parse (dump low high) = .ok (.range low high) :=
  ((writtenAs_dump low high).denotes ⟨low, high, rfl, hmake⟩).parse_eq

/-! ### Equal forms, equal ranges -/

theorem range_equal_iff :
    (Value.range low high).equal (.range bottom top) = true ↔ low.same bottom = true ∧ high.same top = true := by
  simp only [Value.equal, ← same.eq_def, Bool.and_eq_true]

theorem pair_equal_iff :
    (Value.list [low, high]).equal (.list [bottom, top]) = true ↔ low.same bottom = true ∧ high.same top = true := by
  simp only [Value.equal, equalItems, ← same.eq_def, Bool.and_eq_true, and_true]

theorem not_equal_ofChar_pair (c : Char) : (Value.ofChar c).equal (.list [low, high]) ≠ true := by
  simp [Value.ofChar, Value.equal, sameNumber, number?]

theorem not_equal_pair_ofChar (c : Char) : (Value.list [low, high]).equal (.ofChar c) ≠ true := by
  simp [Value.ofChar, Value.equal, sameNumber, number?]

/-- Written forms are equal exactly if the ranges are. -/
theorem WrittenAs.equal_iff (hr : WrittenAs r v) (hs : WrittenAs s w) : v.equal w = true ↔ r.equal s = true := by
  cases hr with
  | char c =>
    cases hs with
    | char d =>
      have hnumber : ∀ i, Value.ofChar c ≠ .float (.nan i) := fun i h => by cases h
      rw [range_equal_iff, and_self, equal_iff_same, and_iff_left hnumber]
    | pair h =>
      refine iff_of_false (not_equal_ofChar_pair c) fun hequal => ?_
      obtain ⟨hlow, hhigh⟩ := range_equal_iff.1 hequal
      exact h c (eq_ofChar (.inr (.inl hlow))) (eq_ofChar (.inr (.inl hhigh)))
  | pair h =>
    cases hs with
    | char d =>
      refine iff_of_false (not_equal_pair_ofChar d) fun hequal => ?_
      obtain ⟨hlow, hhigh⟩ := range_equal_iff.1 hequal
      exact h d (eq_ofChar (.inr (.inr hlow))) (eq_ofChar (.inr (.inr hhigh)))
    | pair _ => rw [pair_equal_iff, range_equal_iff]

theorem equal_refl (low high : Value) : (Value.range low high).equal (.range low high) = true :=
  range_equal_iff.2 ⟨same_refl low, same_refl high⟩

theorem contains_of_equal (hr : (Value.range low high).Proper) (hs : (Value.range bottom top).Proper)
    (h : (Value.range low high).equal (.range bottom top) = true) (v : Value) :
    contains low high v = contains bottom top v := by
  obtain ⟨hl, hh⟩ := hr.of_range
  obtain ⟨hb, ht⟩ := hs.of_range
  obtain ⟨hlow, hhigh⟩ := range_equal_iff.1 h
  exact contains_congr ((replaces_of_same hl hb hlow).compared _) ((replaces_of_same hh ht hhigh).compared _) v

/-- Every range that can be made has its written form, and is read back from it as it was, bounds and all; only
equal ranges have equal written forms. Equal ranges contain the same values, and what was read once is read again as
itself. -/
theorem dump_reads_back :
    (∀ low high r, make low high = .ok r → ∃ w, StoreKind.range.dump r = .ok w ∧ WrittenAs r w ∧ w ≠ .null ∧
      StoreKind.range.parse w = .ok r ∧ r.equal r = true) ∧
    (∀ r s v w, StoreKind.range.dump r = .ok v → StoreKind.range.dump s = .ok w →
      (v.equal w = true ↔ r.equal s = true)) ∧
    (∀ low high bottom top, (Value.range low high).Proper → (Value.range bottom top).Proper →
      (Value.range low high).equal (.range bottom top) = true →
        ∀ v, contains low high v = contains bottom top v) ∧
    ∀ raw r, StoreKind.range.coerce raw = .ok r → StoreKind.range.coerce r = .ok r ∧ r.equal r = true := by
  refine ⟨fun low high r hm => ?_, fun r s v w hv hw => ?_, fun low high bottom top hr hs h v => ?_, fun raw r h => ?_⟩
  · obtain rfl := make_eq_ok hm
    have hw : WrittenAs (.range low high) (dump low high) := writtenAs_dump low high
    exact ⟨_, dump_eq_ok_iff.2 hw, hw, hw.ne_null, parse_dump hm, equal_refl low high⟩
  · exact (dump_eq_ok_iff.1 hv).equal_iff (dump_eq_ok_iff.1 hw)
  · exact contains_of_equal hr hs h v
  · obtain ⟨low, high, rfl, -⟩ := made_of_parse h
    exact ⟨StoreKind.coerce_of_coerce h, equal_refl low high⟩

/-- Bounds that look like a written range themselves are read back as bounds. Of two equal ranges of lists one is
spelled with true for 1, and what is between the bounds of the one is between those of the other. -/
theorem dump_reads_back_lists :
    (∃ w, StoreKind.range.dump (.range (.str "a-z") (.str "a-z")) = .ok w ∧ w ≠ .null ∧
      StoreKind.range.parse w = .ok (.range (.str "a-z") (.str "a-z"))) ∧
    (Value.list [.list [.int 1, .str "b"], .list [.int 2]]).equal
      (.list [.list [.bool true, .str "b"], .list [.int 2]]) = true ∧
    contains (.list [.bool true, .str "b"]) (.list [.int 2]) (.list [.int 1, .str "c"]) = true ∧
    StoreKind.range.coerce (.str "a-c") = .ok (.range (.ofChar 'a') (.ofChar 'c')) ∧
    StoreKind.range.coerce (.range (.ofChar 'a') (.ofChar 'c')) = .ok (.range (.ofChar 'a') (.ofChar 'c')) := by
  obtain ⟨hback, hforms, hcontains, hstable⟩ := dump_reads_back
  have hmake : make (.str "a-z") (.str "a-z") = .ok (.range (.str "a-z") (.str "a-z")) := by cbv
  obtain ⟨w, hw, -, hnull, hparse, -⟩ := hback _ _ _ hmake
  have hproper : ∀ v, v.unhashable? = none → Proper (.range (.list [v, .str "b"]) (.list [.int 2])) := fun v hv =>
    .range (.list (List.forall_mem_cons.2 ⟨.key hv, List.forall_mem_singleton.2 (.key rfl)⟩))
      (.list (List.forall_mem_singleton.2 (.key rfl)))
  have hequal : (Value.range (.list [.int 1, .str "b"]) (.list [.int 2])).equal
      (.range (.list [.bool true, .str "b"]) (.list [.int 2])) = true := by cbv
  have hbetween : contains (.list [.int 1, .str "b"]) (.list [.int 2]) (.list [.int 1, .str "c"]) = true := by cbv
  have hread : StoreKind.range.coerce (.str "a-c") = .ok (.range (.ofChar 'a') (.ofChar 'c')) := by cbv
  refine ⟨⟨w, hw, hnull, hparse⟩, (hforms _ _ _ _ (by cbv) (by cbv)).2 hequal, ?_, hread, (hstable _ _ hread).1⟩
  rw [← hcontains _ _ _ _ (hproper _ rfl) (hproper _ rfl) hequal, hbetween]

end GuardedAutomata.Range
