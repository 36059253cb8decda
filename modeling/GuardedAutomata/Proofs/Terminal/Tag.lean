import GuardedAutomata.Terminal.Markup
import Mathlib.Data.List.Infix
import Mathlib.Data.List.TakeWhile

/-!
# Tags of markup

Whether markup can be shown hangs on its tags alone: each tag that closes must find one of its name open, and each
tag that opens must name a style that can be read. Where the tags of a text stand is told by its characters: a
bracket, the inside of the tag and the other bracket, with an even number of backslashes in front. Behind a text
may stand whatever does not complete a tag of it; then the tags of both are found one after the other.
-/

set_option autoImplicit false

namespace GuardedAutomata.Terminal.Markup

variable {c : Char} {cs rest front back inside : List Char} {count : Nat}

/-! ### Where tags stand -/

def isInner (c : Char) : Bool :=
  c != ']' && c != '['

def IsInside (inside : List Char) : Prop :=
  ∃ c more, inside = c :: more ∧ startsTag c = true ∧ ∀ d ∈ more, isInner d = true

theorem isInner_of_startsTag (h : startsTag c = true) : isInner c = true := by
  unfold startsTag at h
  have hopen : c ≠ '[' := by
    rintro rfl
    revert h
    decide
  have hclose : c ≠ ']' := by
    rintro rfl
    revert h
    decide
  simp [isInner, hopen, hclose]

theorem IsInside.inner (h : IsInside inside) : ∀ d ∈ inside, isInner d = true := by
  obtain ⟨c, more, rfl, hc, hmore⟩ := h
  exact List.forall_mem_cons.2 ⟨isInner_of_startsTag hc, hmore⟩

theorem tagInside?_eq_some_iff :
    tagInside? cs = some inside ↔ IsInside inside ∧ ∃ rest, cs = '[' :: (inside ++ ']' :: rest) := by
  constructor
  · intro h
    unfold tagInside? at h
    split at h
    next c rest =>
      split at h
      next hc =>
        dsimp only at h
        split at h
        next hhead =>
          obtain rfl := Option.some.inj h
          obtain ⟨back, hback⟩ := List.head?_eq_some_iff.1 hhead
          refine ⟨⟨c, _, rfl, hc, fun d hd => List.mem_takeWhile_imp hd⟩, back, ?_⟩
          rw [List.cons_append, ← hback, ← List.prefix_append_drop (List.takeWhile_prefix _)]
        next => cases h
      next => cases h
    next => cases h
  · rintro ⟨⟨c, more, rfl, hc, hmore⟩, rest, rfl⟩
    have hinside : (more ++ ']' :: rest).takeWhile (fun d => d != ']' && d != '[') = more :=
      (List.takeWhile_append_of_pos hmore).trans (by simp [isInner])
    simp [tagInside?, hc, hinside]

theorem backslashes_replicate (count : Nat) (cs : List Char) :
    backslashes (List.replicate count '\\' ++ '[' :: cs) = count := by
  rw [backslashes, List.takeWhile_append_of_pos (by simp)]
  simp

/-- A guarded tag stands at the front of a text: its backslashes, its brackets and its inside. -/
theorem guardedTag?_eq_some_iff : guardedTag? cs = some (count, inside) ↔
    IsInside inside ∧ ∃ rest, cs = List.replicate count '\\' ++ '[' :: (inside ++ ']' :: rest) := by
  rw [guardedTag?, Option.map_eq_some_iff]
  constructor
  · rintro ⟨inside, htag, heq⟩
    obtain ⟨rfl, rfl⟩ := Prod.mk.inj heq
    obtain ⟨hinside, rest, hrest⟩ := tagInside?_eq_some_iff.1 htag
    have hguard : cs.takeWhile (· == '\\') = List.replicate (backslashes cs) '\\' :=
      List.eq_replicate_of_mem fun d hd => by simpa using List.mem_takeWhile_imp hd
    refine ⟨hinside, rest, ?_⟩
    rw [← hrest, ← hguard, backslashes, ← List.prefix_append_drop (List.takeWhile_prefix _)]
  · rintro ⟨hinside, rest, rfl⟩
    refine ⟨inside, ?_, by rw [backslashes_replicate]⟩
    rw [backslashes_replicate, List.drop_left' (by simp)]
    exact tagInside?_eq_some_iff.2 ⟨hinside, rest, rfl⟩

theorem guardedTag?_backslash (cs : List Char) :
    guardedTag? ('\\' :: cs) = (guardedTag? cs).map fun guarded => (guarded.1 + 1, guarded.2) := by
  simp [guardedTag?, backslashes, Function.comp_def]

theorem drop_guarded (count : Nat) (inside rest : List Char) :
    (List.replicate count '\\' ++ '[' :: (inside ++ ']' :: rest)).drop (count + inside.length + 2) = rest := by
  have hfront : List.replicate count '\\' ++ '[' :: (inside ++ ']' :: rest) =
      (List.replicate count '\\' ++ '[' :: (inside ++ [']'])) ++ rest := by simp
  rw [hfront, List.drop_left' (by simp; omega)]

/-- A text is read from the front: a character that starts no guarded tag, or a whole guarded tag. -/
@[elab_as_elim]
theorem tag_induction {motive : List Char → Prop} (nil : motive [])
    (plain : ∀ c rest, guardedTag? (c :: rest) = none → motive rest → motive (c :: rest))
    (guarded : ∀ count inside rest, IsInside inside → motive rest →
      motive (List.replicate count '\\' ++ '[' :: (inside ++ ']' :: rest))) (cs : List Char) : motive cs := by
  induction hn : cs.length using Nat.strong_induction_on generalizing cs with
  | _ n ih =>
    subst hn
    cases cs with
    | nil => exact nil
    | cons c rest =>
      cases hg : guardedTag? (c :: rest) with
      | none => exact plain c rest hg (ih _ (by simp) rest rfl)
      | some tag =>
        obtain ⟨count, inside⟩ := tag
        obtain ⟨hinside, more, heq⟩ := guardedTag?_eq_some_iff.1 hg
        rw [heq] at ih ⊢
        exact guarded count inside more hinside (ih _ (by simp; omega) more rfl)

/-! ### Reading tags -/

def insides : List Piece → List (List Char)
  | [] => []
  | .text _ :: rest => insides rest
  | .tag _ inside :: rest => inside :: insides rest

def tags (cs : List Char) : List (List Char) :=
  insides (pieces cs)

theorem insides_append (ps qs : List Piece) : insides (ps ++ qs) = insides ps ++ insides qs := by
  induction ps with
  | nil => rfl
  | cons p ps ih => cases p <;> simp [insides, ih]

theorem insides_guardedPieces (position count : Nat) (inside : List Char) :
    insides (guardedPieces position count inside) = if count % 2 = 1 then [] else [inside] := by
  unfold guardedPieces
  split <;> rfl

/-- Which tags are read depends neither on where the reading starts nor on what has been read. -/
theorem insides_piecesFrom {fuel other : Nat} (h : cs.length < fuel) (ho : cs.length < other) (position place : Nat)
    (acc read : List Char) :
    insides (piecesFrom fuel position acc cs) = insides (piecesFrom other place read cs) := by
  induction fuel generalizing other cs position place acc read with
  | zero => omega
  | succ fuel ih =>
    obtain ⟨other, rfl⟩ : ∃ n, other = n + 1 := ⟨other - 1, by omega⟩
    cases cs with
    | nil => rfl
    | cons c rest =>
      rw [List.length_cons] at h ho
      rw [piecesFrom, piecesFrom]
      cases hg : guardedTag? (c :: rest) with
      | none => exact ih (by omega) (by omega) _ _ _ _
      | some guarded =>
        obtain ⟨count, inside⟩ := guarded
        have hlength : ((c :: rest).drop (count + inside.length + 2)).length ≤ rest.length := by
          rw [List.length_drop, List.length_cons]
          omega
        simp only [insides, insides_append, insides_guardedPieces]
        exact congrArg _ (ih (by omega) (by omega) _ _ _ _)

theorem tags_of_none (h : guardedTag? (c :: rest) = none) : tags (c :: rest) = tags rest := by
  rw [tags, pieces, piecesFrom, h]
  exact insides_piecesFrom (by simp) (by simp) _ _ _ _

theorem tags_guarded (h : IsInside inside) (count : Nat) (rest : List Char) :
    tags (List.replicate count '\\' ++ '[' :: (inside ++ ']' :: rest)) =
      (if count % 2 = 1 then [] else [inside]) ++ tags rest := by
  have hlength : rest.length < (List.replicate count '\\' ++ '[' :: (inside ++ ']' :: rest)).length := by
    simp
    omega
  obtain ⟨c, more, hcs⟩ := List.exists_cons_of_ne_nil
    (show List.replicate count '\\' ++ '[' :: (inside ++ ']' :: rest) ≠ [] by simp)
  have hg : guardedTag? (c :: more) = some (count, inside) := guardedTag?_eq_some_iff.2 ⟨h, rest, hcs.symm⟩
  have hdrop := drop_guarded count inside rest
  rw [hcs] at hdrop hlength ⊢
  rw [tags, pieces, piecesFrom, hg]
  simp only [insides, insides_append, insides_guardedPieces]
  rw [hdrop]
  exact congrArg _ (insides_piecesFrom hlength (by simp) _ _ _ _)

theorem tags_tag (h : IsInside inside) (rest : List Char) :
    tags ('[' :: (inside ++ ']' :: rest)) = inside :: tags rest :=
  tags_guarded h 0 rest

/-! ### Texts behind one another -/

/-- A text that does not complete a tag of a text in front of it: it comes to no closing bracket before an opening one,
and its own first bracket has no backslash in front that would join others. -/
def Detached (back : List Char) : Prop :=
  (back.dropWhile isInner).head? ≠ some ']' ∧ (back.dropWhile (· == '\\')).head? ≠ some '['

instance : DecidablePred Detached := fun _ => inferInstanceAs (Decidable (_ ∧ _))

theorem detached_of_notMem (hopen : '[' ∉ back) (hclose : ']' ∉ back) : Detached back := by
  constructor
  · intro hhead
    exact hclose ((List.dropWhile_suffix _).subset (List.mem_of_mem_head? hhead))
  · intro hhead
    exact hopen ((List.dropWhile_suffix _).subset (List.mem_of_mem_head? hhead))

theorem Detached.append (h : Detached front) (hopen : '[' ∈ front) : Detached (front ++ back) := by
  have hkept (p : Char → Bool) (hp : p '[' = false) :
      ((front ++ back).dropWhile p).head? = (front.dropWhile p).head? := by
    have hne : front.dropWhile p ≠ [] := fun hnil => by
      rw [List.dropWhile_eq_nil_iff.1 hnil _ hopen] at hp
      cases hp
    rw [List.dropWhile_append, if_neg (by simpa using hne), List.head?_append_of_ne_nil _ hne]
  exact ⟨hkept isInner (by decide) ▸ h.1, hkept (· == '\\') (by decide) ▸ h.2⟩

theorem guardedTag?_append (h : Detached back) (front : List Char) :
    guardedTag? (front ++ back) = guardedTag? front := by
  ext ⟨count, inside⟩
  rw [guardedTag?_eq_some_iff, guardedTag?_eq_some_iff]
  refine and_congr_right fun hinside => ⟨?_, ?_⟩
  · rintro ⟨rest, hrest⟩
    rcases List.append_eq_append_iff.1 hrest with ⟨guard, hguard, hback⟩ | ⟨own, rfl, hown⟩
    · -- All of the text in front is backslashes, so the tag would be one of the text behind.
      have hall : ∀ d ∈ guard, (d == '\\') = true := fun d hd => by
        simpa using List.eq_of_mem_replicate (hguard ▸ List.mem_append_right front hd)
      refine absurd ?_ h.2
      rw [hback, List.dropWhile_append_of_pos hall]
      rfl
    · cases own with
      | nil =>
        refine absurd ?_ h.2
        rw [← show _ = back from hown]
        rfl
      | cons d own =>
        rw [List.cons_append, List.cons.injEq] at hown
        obtain ⟨rfl, hown⟩ := hown
        rcases List.append_eq_append_iff.1 hown with ⟨more, rfl, hback⟩ | ⟨more, hmore, hback⟩
        · cases more with
          | nil =>
            refine absurd ?_ h.1
            rw [← show _ = back from hback]
            rfl
          | cons d more =>
            obtain ⟨rfl, -⟩ := List.cons.inj hback
            exact ⟨more, rfl⟩
        · have hall : ∀ d ∈ more, isInner d = true := fun d hd =>
            hinside.inner d (hmore ▸ List.mem_append_right own hd)
          refine absurd ?_ h.1
          rw [hback, List.dropWhile_append_of_pos hall]
          rfl
  · rintro ⟨rest, rfl⟩
    exact ⟨rest ++ back, by simp⟩

theorem tags_append (h : Detached back) (front : List Char) : tags (front ++ back) = tags front ++ tags back := by
  induction front using tag_induction with
  | nil => rfl
  | plain c rest hg ih =>
    have happend := guardedTag?_append h (c :: rest)
    rw [hg, List.cons_append] at happend
    rw [tags_of_none hg, List.cons_append, tags_of_none happend, ih]
  | guarded count inside rest hinside ih =>
    have hfront : List.replicate count '\\' ++ '[' :: (inside ++ ']' :: rest) ++ back =
        List.replicate count '\\' ++ '[' :: (inside ++ ']' :: (rest ++ back)) := by simp
    rw [hfront, tags_guarded hinside, tags_guarded hinside, ih, List.append_assoc]

theorem guardedTag?_of_ne (hopen : c ≠ '[') (hslash : c ≠ '\\') : guardedTag? (c :: rest) = none := by
  rw [Option.eq_none_iff_forall_ne_some]
  rintro ⟨count, inside⟩ hsome
  obtain ⟨-, more, hmore⟩ := guardedTag?_eq_some_iff.1 hsome
  cases count with
  | zero => exact hopen (List.cons.inj hmore).1
  | succ count => exact hslash (List.cons.inj hmore).1

theorem guardedTag?_of_notMem (h : '[' ∉ cs) : guardedTag? cs = none := by
  rw [Option.eq_none_iff_forall_ne_some]
  rintro ⟨count, inside⟩ hsome
  obtain ⟨-, more, hmore⟩ := guardedTag?_eq_some_iff.1 hsome
  exact h (hmore ▸ by simp)

theorem tags_of_notMem (h : '[' ∉ cs) : tags cs = [] := by
  induction cs with
  | nil => rfl
  | cons c rest ih =>
    rw [tags_of_none (guardedTag?_of_notMem h)]
    exact ih fun hc => h (List.mem_cons_of_mem c hc)

theorem tags_plain_append (hopen : '[' ∉ front) (hslash : '\\' ∉ front) (back : List Char) :
    tags (front ++ back) = tags back := by
  induction front with
  | nil => rfl
  | cons c rest ih =>
    rw [List.mem_cons, not_or] at hopen hslash
    rw [List.cons_append, tags_of_none (guardedTag?_of_ne (Ne.symm hopen.1) (Ne.symm hslash.1)), ih hopen.2 hslash.2]

/-- A tag behind text without brackets is read, or is text itself because of the backslashes in front of it. -/
theorem tags_append_tag (hfront : '[' ∉ front) (h : IsInside inside) (rest : List Char) :
    tags (front ++ '[' :: (inside ++ ']' :: rest)) = tags rest ∨
      tags (front ++ '[' :: (inside ++ ']' :: rest)) = inside :: tags rest := by
  induction front with
  | nil => exact .inr (tags_tag h rest)
  | cons c front ih =>
    cases hg : guardedTag? (c :: (front ++ '[' :: (inside ++ ']' :: rest))) with
    | none =>
      rw [List.cons_append, tags_of_none hg]
      exact ih fun hmem => hfront (List.mem_cons_of_mem c hmem)
    | some guarded =>
      obtain ⟨count, other⟩ := guarded
      obtain ⟨-, more, heq⟩ := guardedTag?_eq_some_iff.1 hg
      have hguard : c :: front = List.replicate count '\\' := by
        have htake := congrArg (List.takeWhile (· != '[')) heq
        rw [← List.cons_append, List.takeWhile_append_of_pos, List.takeWhile_append_of_pos (by simp)] at htake
        · simpa using htake
        · intro d hd
          rw [bne_iff_ne]
          rintro rfl
          exact hfront hd
      rw [hguard, tags_guarded h]
      split
      · exact .inl rfl
      · exact .inr rfl

end GuardedAutomata.Terminal.Markup
