import Mathlib

/-!
# Delimited texts

A list can be cut at a delimiter that its front does not hold in one way only. So pieces that each end with a delimiter,
or that tell where they end in any other way, are found again in what they are joined to.
-/

set_option autoImplicit false

namespace GuardedAutomata.Text

/-! ### Texts without a character -/

theorem isDigit_of_mem_toString {n : Nat} {c : Char} (h : c ∈ (toString n).toList) : c.isDigit = true := by
  rw [Nat.toString_eq_ofList_toDigits, String.toList_ofList] at h
  exact Nat.isDigit_of_mem_toDigits (by decide) (by decide) h

theorem notMem_toString {c : Char} (hc : c.isDigit = false) (n : Nat) : c ∉ (toString n).toList := fun h => by
  rw [isDigit_of_mem_toString h] at hc
  cases hc

theorem notMem_append {c : Char} {s t : String} : c ∉ (s ++ t).toList ↔ c ∉ s.toList ∧ c ∉ t.toList := by
  rw [String.toList_append, List.mem_append, not_or]

theorem notMem_intercalate {c : Char} {mark : String} {texts : List String} (hmark : c ∉ mark.toList)
    (h : ∀ text ∈ texts, c ∉ text.toList) : c ∉ (mark.intercalate texts).toList := by
  rw [String.toList_intercalate]
  induction texts with
  | nil => simp
  | cons text rest ih =>
    obtain ⟨htext, hrest⟩ := List.forall_mem_cons.1 h
    cases rest with
    | nil => simpa using htext
    | cons next rest =>
      rw [List.map_cons, List.map_cons, List.intercalate_cons_cons, ← List.map_cons, List.mem_append, List.mem_append]
      simp only [htext, hmark, ih hrest, or_self, not_false_eq_true]

/-! ### Cutting at a delimiter -/

variable {α β : Type} {c : α} {xs ys us vs : List α}

theorem cut_unique (hxs : c ∉ xs) (hys : c ∉ ys) (h : xs ++ c :: us = ys ++ c :: vs) : xs = ys ∧ us = vs := by
  induction xs generalizing ys with
  | nil =>
    cases ys with
    | nil => exact ⟨rfl, (List.cons.inj h).2⟩
    | cons y ys => exact absurd ((List.cons.inj h).1 ▸ List.mem_cons_self) hys
  | cons x xs ih =>
    cases ys with
    | nil => exact absurd ((List.cons.inj h).1 ▸ List.mem_cons_self) hxs
    | cons y ys =>
      obtain ⟨rfl, hrest⟩ := List.cons.inj h
      obtain ⟨rfl, hback⟩ := ih (List.not_mem_of_not_mem_cons hxs) (List.not_mem_of_not_mem_cons hys) hrest
      exact ⟨rfl, hback⟩

/-- Pieces are found again in what they are joined to if none of them can be read as the front of another one. -/
theorem flatMap_unique {write : β → List α} {ps qs : List β} (hne : ∀ p, write p ≠ [])
    (hread : ∀ p ∈ ps, ∀ q ∈ qs, ∀ us vs, write p ++ us = write q ++ vs → p = q ∧ us = vs)
    (h : ps.flatMap write = qs.flatMap write) : ps = qs := by
  induction ps generalizing qs with
  | nil =>
    cases qs with
    | nil => rfl
    | cons q qs => exact absurd (List.append_eq_nil_iff.1 h.symm).1 (hne q)
  | cons p ps ih =>
    cases qs with
    | nil => exact absurd (List.append_eq_nil_iff.1 h).1 (hne p)
    | cons q qs =>
      obtain ⟨rfl, hrest⟩ := hread p List.mem_cons_self q List.mem_cons_self _ _ h
      rw [ih (fun p hp q hq => hread p (List.mem_cons_of_mem _ hp) q (List.mem_cons_of_mem _ hq)) hrest]

theorem ended_unique {ps qs : List (List α)} (hps : ∀ p ∈ ps, c ∉ p) (hqs : ∀ q ∈ qs, c ∉ q)
    (h : (ps.flatMap fun p => p ++ [c]) = qs.flatMap fun q => q ++ [c]) : ps = qs := by
  refine flatMap_unique (fun p => by simp) (fun p hp q hq us vs hboth => ?_) h
  exact cut_unique (hps p hp) (hqs q hq) (by simpa using hboth)

theorem intercalate_ended {ps : List (List α)} (hps : ps ≠ []) :
    [c].intercalate ps ++ [c] = ps.flatMap fun p => p ++ [c] := by
  induction ps with
  | nil => exact absurd rfl hps
  | cons p ps ih =>
    cases ps with
    | nil => simp
    | cons q ps =>
      rw [List.intercalate_cons_cons, List.append_assoc, ih (List.cons_ne_nil q ps)]
      rfl

theorem intercalate_unique {ps qs : List (List α)} (hps : ∀ p ∈ ps, c ∉ p) (hqs : ∀ q ∈ qs, c ∉ q) (hp : ps ≠ [])
    (hq : qs ≠ []) (h : [c].intercalate ps = [c].intercalate qs) : ps = qs :=
  ended_unique hps hqs (by rw [← intercalate_ended hp, h, intercalate_ended hq])

end GuardedAutomata.Text
