/-!
# Splitting text

A text is split at the places where a mark stands; joined with the mark again, the parts give the text.
-/

set_option autoImplicit false

namespace GuardedAutomata.Text

def splitAt (mark : Char) : List Char → List (List Char)
  | [] => [[]]
  | c :: rest =>
    if c = mark then [] :: splitAt mark rest
    else
      match splitAt mark rest with
      | [] => [[c]]
      | part :: parts => (c :: part) :: parts

def join (mark : Char) : List (List Char) → List Char
  | [] => []
  | [part] => part
  | part :: rest => part ++ mark :: join mark rest

theorem splitAt_ne_nil (mark : Char) (cs : List Char) : splitAt mark cs ≠ [] := by
  cases cs with
  | nil => simp [splitAt]
  | cons c rest =>
    rw [splitAt]
    split
    · simp
    · split <;> simp

theorem join_splitAt (mark : Char) (cs : List Char) : join mark (splitAt mark cs) = cs := by
  induction cs with
  | nil => rfl
  | cons c rest ih =>
    rw [splitAt]
    cases hs : splitAt mark rest with
    | nil => exact absurd hs (splitAt_ne_nil mark rest)
    | cons part parts =>
      rw [hs] at ih
      by_cases hc : c = mark
      · simp [hc, join, ih]
      · cases parts <;> simp_all [join]

end GuardedAutomata.Text
