/-!
# Sorting by text

A stable insertion sort by a text key, in the order of code points.
-/

set_option autoImplicit false

namespace GuardedAutomata.Text

variable {α : Type}

def insertByKey (key : α → String) (x : α) : List α → List α
  | [] => [x]
  | y :: rest => if key y < key x then y :: insertByKey key x rest else x :: y :: rest

def sortByKey (key : α → String) (xs : List α) : List α :=
  xs.foldr (insertByKey key) []

theorem insertByKey_perm (key : α → String) (x : α) (xs : List α) :
    (insertByKey key x xs).Perm (x :: xs) := by
  induction xs with
  | nil => exact .refl _
  | cons y rest ih =>
    rw [insertByKey]
    split
    · exact (ih.cons y).trans (.swap x y rest)
    · exact .refl _

theorem sortByKey_perm (key : α → String) (xs : List α) : (sortByKey key xs).Perm xs := by
  induction xs with
  | nil => exact .refl _
  | cons x rest ih => exact (insertByKey_perm key x _).trans (ih.cons x)

theorem insertByKey_sorted {key : α → String} {x : α} {xs : List α}
    (h : xs.Pairwise (key · ≤ key ·)) : (insertByKey key x xs).Pairwise (key · ≤ key ·) := by
  induction xs with
  | nil => exact List.pairwise_singleton _ _
  | cons y rest ih =>
    have hy := List.pairwise_cons.1 h
    rw [insertByKey]
    by_cases hlt : key y < key x
    · rw [if_pos hlt, List.pairwise_cons]
      refine ⟨fun z hz => ?_, ih hy.2⟩
      rcases List.mem_cons.1 ((insertByKey_perm key x rest).mem_iff.1 hz) with rfl | hz
      · exact String.not_lt.1 fun h => String.lt_irrefl _ (String.lt_trans hlt h)
      · exact hy.1 z hz
    · have hle : key x ≤ key y := String.not_lt.1 hlt
      rw [if_neg hlt, List.pairwise_cons]
      refine ⟨fun z hz => ?_, h⟩
      rcases List.mem_cons.1 hz with rfl | hz
      · exact hle
      · exact String.le_trans hle (hy.1 z hz)

theorem sortByKey_sorted (key : α → String) (xs : List α) :
    (sortByKey key xs).Pairwise (key · ≤ key ·) := by
  induction xs with
  | nil => exact .nil
  | cons x rest ih => exact insertByKey_sorted ih

end GuardedAutomata.Text
