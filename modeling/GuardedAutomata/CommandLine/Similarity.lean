import GuardedAutomata.Text.Sorted

/-!
# Similar words

A word that names nothing is told with the names it may have been meant for. Two words are compared by what
they share: their longest common part, what is shared in front of it, and what is shared behind it. They are
similar if three tenths of their characters, both words taken together, are shared by them.
-/

set_option autoImplicit false

namespace GuardedAutomata.CommandLine

structure Shared where
  first : Nat
  second : Nat
  length : Nat
  deriving DecidableEq, Repr

def alike : List Char → List Char → Nat
  | a :: as, b :: bs => if a = b then alike as bs + 1 else 0
  | _, _ => 0

def longestShared (as bs : List Char) : Shared :=
  (List.range as.length).foldl (fun best i =>
    (List.range bs.length).foldl (fun best j =>
      let length := alike (as.drop i) (bs.drop j)
      if best.length < length then ⟨i, j, length⟩ else best) best) ⟨0, 0, 0⟩

/-- The number of characters that two texts share; every step leaves less of the first one, so `fuel` can be
its length. -/
def sharedCount : Nat → List Char → List Char → Nat
  | 0, _, _ => 0
  | fuel + 1, as, bs =>
    let s := longestShared as bs
    if s.length = 0 then 0
    else
      sharedCount fuel (as.take s.first) (bs.take s.second) + s.length +
        sharedCount fuel (as.drop (s.first + s.length)) (bs.drop (s.second + s.length))

def isSimilar (name word : String) : Bool :=
  let as := name.toList
  let bs := word.toList
  decide (3 * (as.length + bs.length) ≤ 10 * sharedCount as.length as bs)

def similarNames (names : List String) (word : String) : List String :=
  Text.sortByKey id (names.filter fun name => isSimilar name word)

def meantText : List String → String
  | [] => ""
  | [name] => " Did you mean '" ++ name ++ "'?"
  | names =>
    " (Did you mean one of: " ++ ", ".intercalate (names.map fun name => "'" ++ name ++ "'") ++ "?)"

end GuardedAutomata.CommandLine
