import GuardedAutomata.Proofs.Terminal.Tag

/-!
# Escaped text

Escaped text has no tags, whatever text it was and whatever stands behind it. Escaping puts an odd number of
backslashes in front of every tag of a text and leaves the rest as it is, so the brackets stand in the same order
as before, and no other tag comes up between them.
-/

set_option autoImplicit false

namespace GuardedAutomata.Terminal.Markup

variable {c : Char} {cs rest : List Char} {fuel : Nat}

theorem escapeTags_of_none (h : guardedTag? (c :: rest) = none) (fuel : Nat) :
    escapeTags (fuel + 1) (c :: rest) = c :: escapeTags fuel rest := by
  rw [escapeTags, h]

theorem escapeTags_guarded {inside : List Char} (h : IsInside inside) (count : Nat) (rest : List Char) (fuel : Nat) :
    escapeTags (fuel + 1) (List.replicate count '\\' ++ '[' :: (inside ++ ']' :: rest)) =
      List.replicate (2 * count + 1) '\\' ++ '[' :: (inside ++ ']' :: escapeTags fuel rest) := by
  have hdrop := drop_guarded count inside rest
  obtain ⟨c, more, hcs⟩ := List.exists_cons_of_ne_nil
    (show List.replicate count '\\' ++ '[' :: (inside ++ ']' :: rest) ≠ [] by simp)
  have hg : guardedTag? (c :: more) = some (count, inside) := guardedTag?_eq_some_iff.2 ⟨h, rest, hcs.symm⟩
  rw [hcs] at hdrop ⊢
  rw [escapeTags, hg]
  simp [hdrop]

/-- The first bracket of a text is that of the escaped text. -/
theorem firstBracket_escapeTags (h : cs.length < fuel) :
    ((escapeTags fuel cs).dropWhile isInner).head? = (cs.dropWhile isInner).head? := by
  induction cs using tag_induction generalizing fuel with
  | nil => cases fuel <;> rfl
  | plain c rest hg ih =>
    obtain ⟨fuel, rfl⟩ := Nat.exists_eq_add_one_of_ne_zero (Nat.ne_zero_of_lt h)
    rw [List.length_cons] at h
    rw [escapeTags_of_none hg, List.dropWhile_cons, List.dropWhile_cons]
    split
    · exact ih (by omega)
    · rfl
  | guarded count inside rest hinside ih =>
    obtain ⟨fuel, rfl⟩ := Nat.exists_eq_add_one_of_ne_zero (Nat.ne_zero_of_lt h)
    have hguard : ∀ n, ∀ d ∈ List.replicate n '\\', isInner d = true := by
      intro n d hd
      rw [List.eq_of_mem_replicate hd]
      rfl
    rw [escapeTags_guarded hinside, List.dropWhile_append_of_pos (hguard _), List.dropWhile_append_of_pos (hguard _)]
    rfl

/-- Escaped text starts as the text does, or with a backslash. -/
theorem head?_escapeTags (cs : List Char) (fuel : Nat) :
    (escapeTags fuel cs).head? = cs.head? ∨ (escapeTags fuel cs).head? = some '\\' := by
  cases fuel with
  | zero => exact .inl rfl
  | succ fuel =>
    cases cs using tag_induction with
    | nil => exact .inl rfl
    | plain c rest hg => exact .inl (by rw [escapeTags_of_none hg]; rfl)
    | guarded count inside rest hinside =>
      rw [escapeTags_guarded hinside]
      exact .inr rfl

/-- A bracket that starts no tag starts none in front of escaped text: the inside and the bracket that would make it
one would have been there before. -/
theorem guardedTag?_bracket_escapeTags (h : guardedTag? ('[' :: rest) = none) (hfuel : rest.length < fuel) :
    guardedTag? ('[' :: escapeTags fuel rest) = none := by
  rw [Option.eq_none_iff_forall_ne_some]
  rintro ⟨count, inside⟩ hsome
  obtain ⟨⟨c, more, rfl, hc, hmore⟩, back, hback⟩ := guardedTag?_eq_some_iff.1 hsome
  obtain rfl : count = 0 := by
    cases count with
    | zero => rfl
    | succ count => cases (List.cons.inj hback).1
  have hescaped : escapeTags fuel rest = c :: (more ++ ']' :: back) := (List.cons.inj hback).2
  have hhead : rest.head? = some c := by
    have hslash : c ≠ '\\' := by
      rintro rfl
      revert hc
      decide
    rcases head?_escapeTags rest fuel with hsame | hother
    · rw [← hsame, hescaped]
      rfl
    · rw [hescaped] at hother
      exact absurd (Option.some.inj hother) hslash
  have hbracket : (rest.dropWhile isInner).head? = some ']' := by
    rw [← firstBracket_escapeTags hfuel, hescaped, List.dropWhile_cons_of_pos (isInner_of_startsTag hc),
      List.dropWhile_append_of_pos hmore]
    rfl
  obtain ⟨front, rfl⟩ := List.head?_eq_some_iff.1 hhead
  obtain ⟨after, hafter⟩ := List.head?_eq_some_iff.1 hbracket
  have hinside : IsInside (c :: front.takeWhile isInner) :=
    ⟨c, _, rfl, hc, fun d hd => List.mem_takeWhile_imp hd⟩
  have htag : guardedTag? ('[' :: c :: front) = some (0, c :: front.takeWhile isInner) := by
    refine guardedTag?_eq_some_iff.2 ⟨hinside, after, ?_⟩
    rw [List.dropWhile_cons_of_pos (isInner_of_startsTag hc)] at hafter
    rw [← hafter]
    simp
  cases h.symm.trans htag

/-- Where no tag stood, none stands in front of escaped text. -/
theorem guardedTag?_escapeTags (h : guardedTag? (c :: rest) = none) (hfuel : rest.length < fuel) :
    guardedTag? (c :: escapeTags fuel rest) = none := by
  induction rest generalizing c fuel with
  | nil => cases fuel <;> exact h
  | cons d rest ih =>
    by_cases hslash : c = '\\'
    · subst hslash
      obtain ⟨fuel, rfl⟩ := Nat.exists_eq_add_one_of_ne_zero (Nat.ne_zero_of_lt hfuel)
      rw [List.length_cons] at hfuel
      rw [guardedTag?_backslash, Option.map_eq_none_iff] at h ⊢
      rw [escapeTags_of_none h]
      exact ih h (by omega)
    · by_cases hopen : c = '['
      · subst hopen
        exact guardedTag?_bracket_escapeTags h hfuel
      · exact guardedTag?_of_ne hopen hslash

theorem tags_escapeTags (h : cs.length < fuel) : tags (escapeTags fuel cs) = [] := by
  induction cs using tag_induction generalizing fuel with
  | nil => cases fuel <;> rfl
  | plain c rest hg ih =>
    obtain ⟨fuel, rfl⟩ := Nat.exists_eq_add_one_of_ne_zero (Nat.ne_zero_of_lt h)
    rw [List.length_cons] at h
    rw [escapeTags_of_none hg, tags_of_none (guardedTag?_escapeTags hg (by omega)), ih (by omega)]
  | guarded count inside rest hinside ih =>
    obtain ⟨fuel, rfl⟩ := Nat.exists_eq_add_one_of_ne_zero (Nat.ne_zero_of_lt h)
    have hlength : rest.length < fuel := by
      simp at h
      omega
    rw [escapeTags_guarded hinside, tags_guarded hinside, ih hlength, if_pos (by omega)]
    rfl

theorem tags_escape (cs : List Char) : tags (escape cs) = [] := by
  have hescaped : tags (escapeTags (cs.length + 1) cs) = [] := tags_escapeTags (by omega)
  unfold escape
  dsimp only
  split
  · exact hescaped
  · rw [tags_append ⟨by decide, by decide⟩, hescaped]
    rfl
  · exact hescaped

theorem tags_escape_append {back : List Char} (h : Detached back) (cs : List Char) :
    tags (escape cs ++ back) = tags back := by
  rw [tags_append h, tags_escape, List.nil_append]

theorem escapeTags_of_notMem (h : '[' ∉ cs) (fuel : Nat) : escapeTags fuel cs = cs := by
  induction cs generalizing fuel with
  | nil => cases fuel <;> rfl
  | cons c rest ih =>
    cases fuel with
    | zero => rfl
    | succ fuel =>
      rw [escapeTags_of_none (guardedTag?_of_notMem h), ih fun hmem => h (List.mem_cons_of_mem c hmem)]

theorem notMem_escape (h : '[' ∉ cs) : '[' ∉ escape cs := by
  unfold escape
  dsimp only
  rw [escapeTags_of_notMem h]
  split
  · exact h
  · rw [List.mem_append, not_or]
    exact ⟨h, by decide⟩
  · exact h

/-- Escaping ends a text as it ended. -/
theorem getLast?_escapeTags (h : cs.length < fuel) : (escapeTags fuel cs).getLast? = cs.getLast? := by
  induction cs using tag_induction generalizing fuel with
  | nil => cases fuel <;> rfl
  | plain c rest hg ih =>
    obtain ⟨fuel, rfl⟩ := Nat.exists_eq_add_one_of_ne_zero (Nat.ne_zero_of_lt h)
    rw [List.length_cons] at h
    rw [escapeTags_of_none hg, List.getLast?_cons, List.getLast?_cons, ih (by omega)]
  | guarded count inside rest hinside ih =>
    obtain ⟨fuel, rfl⟩ := Nat.exists_eq_add_one_of_ne_zero (Nat.ne_zero_of_lt h)
    have hlength : rest.length < fuel := by
      simp at h
      omega
    rw [escapeTags_guarded hinside]
    simp [List.getLast?_append, List.getLast?_cons, ih hlength]

theorem escape_of_notMem (h : '\\' ∉ cs) : escape cs = escapeTags (cs.length + 1) cs := by
  have hlast : (escapeTags (cs.length + 1) cs).reverse.head? ≠ some '\\' := by
    rw [List.head?_reverse, getLast?_escapeTags (Nat.lt_succ_self _)]
    exact fun hlast => h (List.mem_of_getLast? hlast)
  unfold escape
  dsimp only
  split
  · rfl
  next heq => exact absurd (by rw [heq]; rfl) hlast
  · rfl

end GuardedAutomata.Terminal.Markup
