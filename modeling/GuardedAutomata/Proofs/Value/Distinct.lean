import GuardedAutomata.Proofs.Value.Key
import Mathlib.Data.List.Induction

/-!
# Distinct values

A set is kept as a list in which no value is the same as one before it. Adding values one after the other keeps
the first of those that are the same.
-/

set_option autoImplicit false

namespace GuardedAutomata

section FirstOfEach

variable {α : Type} (same : α → α → Bool)

def keepNew (kept : List α) (x : α) : List α :=
  if kept.any (same · x) then kept else kept ++ [x]

theorem pairwise_keepNew {kept : List α} (h : kept.Pairwise fun x y => same x y = false) (x : α) :
    (keepNew same kept x).Pairwise fun x y => same x y = false := by
  unfold keepNew
  split
  · exact h
  next hnew =>
    refine List.pairwise_append.2 ⟨h, List.pairwise_singleton _ _, ?_⟩
    intro y hy z hz
    cases List.mem_singleton.1 hz
    rw [List.any_eq_true, not_exists] at hnew
    simpa [hy] using hnew y

theorem prefix_foldl_keepNew (kept xs : List α) : kept <+: xs.foldl (keepNew same) kept := by
  induction xs generalizing kept with
  | nil => exact List.prefix_refl kept
  | cons x xs ih =>
    refine List.IsPrefix.trans ?_ (ih (keepNew same kept x))
    unfold keepNew
    split
    · exact List.prefix_refl kept
    · exact List.prefix_append kept [x]

theorem foldl_keepNew_sublist (kept xs : List α) : (xs.foldl (keepNew same) kept).Sublist (kept ++ xs) := by
  induction xs generalizing kept with
  | nil => simp
  | cons x xs ih =>
    have hone : (keepNew same kept x).Sublist (kept ++ [x]) := by
      unfold keepNew
      split
      · exact List.sublist_append_left kept [x]
      · exact .refl _
    have hrest := (ih (keepNew same kept x)).trans (hone.append (.refl xs))
    rwa [List.append_assoc, List.singleton_append] at hrest

theorem foldl_keepNew (xs : List α) : xs.foldl (keepNew same) [] = xs.eraseDupsBy fun x y => same y x := by
  have hloop : ∀ kept : List α,
      xs.foldl (keepNew same) kept = List.eraseDupsBy.loop (fun x y => same y x) xs kept.reverse := by
    induction xs with
    | nil => simp [List.eraseDupsBy.loop]
    | cons x xs ih =>
      intro kept
      rw [List.foldl_cons, ih, keepNew, List.eraseDupsBy.loop, List.any_reverse]
      cases kept.any (same · x) <;> simp
  exact hloop []

theorem eraseDupsBy_snoc (xs : List α) (x : α) :
    (xs ++ [x]).eraseDupsBy (fun x y => same y x) = keepNew same (xs.eraseDupsBy fun x y => same y x) x := by
  rw [← foldl_keepNew, List.foldl_append, foldl_keepNew]
  rfl

theorem pairwise_eraseDupsBy (xs : List α) :
    (xs.eraseDupsBy fun x y => same y x).Pairwise fun x y => same x y = false := by
  induction xs using List.reverseRecOn with
  | nil => exact .nil
  | append_singleton xs x ih =>
    rw [eraseDupsBy_snoc]
    exact pairwise_keepNew same ih x

theorem eraseDupsBy_sublist (xs : List α) : (xs.eraseDupsBy fun x y => same y x).Sublist xs := by
  rw [← foldl_keepNew]
  exact foldl_keepNew_sublist same [] xs

variable {same} {β : Type} {key : α → β} {xs : List α}

/-- Every item that is left out is the same as one that is kept. -/
theorem exists_same_of_mem (hkey : ∀ x ∈ xs, ∀ y ∈ xs, same x y = true ↔ key x = key y) {x : α} (hx : x ∈ xs) :
    ∃ y ∈ xs.eraseDupsBy fun x y => same y x, same y x = true := by
  induction xs using List.reverseRecOn with
  | nil => cases hx
  | append_singleton xs z ih =>
    have hkey' : ∀ x ∈ xs, ∀ y ∈ xs, same x y = true ↔ key x = key y := fun x hx y hy =>
      hkey x (List.mem_append_left _ hx) y (List.mem_append_left _ hy)
    rw [eraseDupsBy_snoc, keepNew]
    rcases List.mem_append.1 hx with hx | hx
    · obtain ⟨y, hy, hyx⟩ := ih hkey' hx
      split
      · exact ⟨y, hy, hyx⟩
      · exact ⟨y, List.mem_append_left _ hy, hyx⟩
    · cases List.mem_singleton.1 hx
      split
      next hany =>
        obtain ⟨y, hy, hyx⟩ := List.any_eq_true.1 hany
        exact ⟨y, hy, hyx⟩
      · have hx : x ∈ xs ++ [x] := List.mem_append_right _ (List.mem_singleton_self x)
        exact ⟨x, List.mem_append_right _ (List.mem_singleton_self x), (hkey x hx x hx).2 rfl⟩

/-- What is kept are the items without an equal one before them. -/
theorem mem_eraseDupsBy_iff (hkey : ∀ x ∈ xs, ∀ y ∈ xs, same x y = true ↔ key x = key y) {x : α} :
    (x ∈ xs.eraseDupsBy fun x y => same y x) ↔
      ∃ before after, xs = before ++ x :: after ∧ ∀ y ∈ before, same y x = false := by
  induction xs using List.reverseRecOn with
  | nil =>
    constructor
    · intro hx
      cases hx
    · rintro ⟨before, after, h, _⟩
      simp at h
  | append_singleton xs z ih =>
    have hkey' : ∀ x ∈ xs, ∀ y ∈ xs, same x y = true ↔ key x = key y := fun x hx y hy =>
      hkey x (List.mem_append_left _ hx) y (List.mem_append_left _ hy)
    rw [eraseDupsBy_snoc, keepNew]
    constructor
    · intro hx
      have hold : x ∈ (xs.eraseDupsBy fun x y => same y x) →
          ∃ before after, xs ++ [z] = before ++ x :: after ∧ ∀ y ∈ before, same y x = false := by
        intro hx
        obtain ⟨before, after, rfl, hbefore⟩ := (ih hkey').1 hx
        exact ⟨before, after ++ [z], by simp, hbefore⟩
      split at hx
      · exact hold hx
      next hnew =>
        rcases List.mem_append.1 hx with hx | hx
        · exact hold hx
        · cases List.mem_singleton.1 hx
          refine ⟨xs, [], rfl, fun y hy => ?_⟩
          -- An equal item before it would be the same as one that is kept, and so would this one be.
          rw [← Bool.not_eq_true]
          intro hyx
          obtain ⟨w, hw, hwy⟩ := exists_same_of_mem hkey' hy
          have hwxs : w ∈ xs := (eraseDupsBy_sublist same xs).subset hw
          have hx : x ∈ xs ++ [x] := List.mem_append_right _ (List.mem_singleton_self x)
          have hwx : key w = key x := ((hkey' w hwxs y hy).1 hwy).trans
            ((hkey y (List.mem_append_left _ hy) x hx).1 hyx)
          exact hnew (List.any_eq_true.2 ⟨w, hw, (hkey w (List.mem_append_left _ hwxs) x hx).2 hwx⟩)
    · rintro ⟨before, after, hsplit, hbefore⟩
      rcases List.eq_nil_or_concat after with rfl | ⟨rest, last, rfl⟩
      · obtain ⟨rfl, hzx⟩ := List.append_inj' hsplit rfl
        cases hzx
        rw [if_neg]
        · exact List.mem_append_right _ (List.mem_singleton_self x)
        · rw [List.any_eq_true]
          rintro ⟨y, hy, hyx⟩
          rw [hbefore y ((eraseDupsBy_sublist same xs).subset hy)] at hyx
          cases hyx
      · have hxs : xs = before ++ x :: rest := by
          have h : xs ++ [z] = (before ++ x :: rest) ++ [last] := by simpa using hsplit
          exact (List.append_inj' h rfl).1
        have hx := (ih hkey').2 ⟨before, rest, hxs, hbefore⟩
        split
        · exact hx
        · exact List.mem_append_left _ hx

end FirstOfEach

namespace Value

def Distinct (vs : List Value) : Prop :=
  vs.Pairwise fun v w => v.same w = false

theorem distinct_insertInto {vs : List Value} (h : Distinct vs) (v : Value) : Distinct (insertInto vs v) :=
  pairwise_keepNew same h v

/-- Values that are distinct from each other and from a set are all added to it. -/
theorem insertAll_distinct {vs ws : List Value} (h : Distinct (vs ++ ws)) :
    ws.foldl insertInto vs = vs ++ ws := by
  induction ws generalizing vs with
  | nil => simp
  | cons w ws ih =>
    have hnew : w.memberOf vs = false := by
      rw [memberOf, List.any_eq_false]
      intro v hv
      simp [(List.pairwise_append.1 h).2.2 v hv w (by simp)]
    rw [List.foldl_cons, insertInto, hnew, if_neg Bool.false_ne_true, ih (by simpa using h)]
    simp

def firsts (vs : List Value) : List Value :=
  vs.eraseDupsBy fun v w => w.same v

theorem insertAll_eq_firsts (vs : List Value) : vs.foldl insertInto [] = firsts vs :=
  foldl_keepNew same vs

theorem firsts_distinct {vs : List Value} (h : Distinct vs) : firsts vs = vs := by
  have hadd : vs.foldl insertInto [] = [] ++ vs := insertAll_distinct h
  rw [← insertAll_eq_firsts, hadd, List.nil_append]

theorem distinct_iff_keys {vs : List Value} (h : ∀ v ∈ vs, v.unhashable? = none) :
    Distinct vs ↔ (vs.map key).Nodup := by
  rw [Distinct, List.Nodup, List.pairwise_map]
  refine List.Pairwise.iff_of_mem fun hv hw => ?_
  rw [← Bool.not_eq_true, same_iff_key (h _ hv) (h _ hw)]

theorem distinct_firsts (vs : List Value) : Distinct (firsts vs) :=
  pairwise_eraseDupsBy same vs

end Value

end GuardedAutomata
