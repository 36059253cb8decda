/-!
# Control sequences

An escape character and a bracket start a sequence that a terminal obeys: parameters, then intermediate
characters, then one final character. Plain output is written without such sequences.
-/

set_option autoImplicit false

namespace GuardedAutomata.Terminal.ControlSequence

def isParameter (c : Char) : Bool :=
  '0' ≤ c && c ≤ '?'

def isIntermediate (c : Char) : Bool :=
  ' ' ≤ c && c ≤ '/'

def isFinal (c : Char) : Bool :=
  '@' ≤ c && c ≤ '~'

def rest? (cs : List Char) : Option (List Char) :=
  match (cs.dropWhile isParameter).dropWhile isIntermediate with
  | c :: rest => if isFinal c then some rest else none
  | [] => none

theorem length_dropWhile_le (p : Char → Bool) (cs : List Char) : (cs.dropWhile p).length ≤ cs.length := by
  induction cs with
  | nil => exact Nat.le_refl _
  | cons c cs ih =>
    rw [List.dropWhile_cons]
    split
    · exact Nat.le_succ_of_le ih
    · exact Nat.le_refl _

theorem length_rest? {cs rest : List Char} (h : rest? cs = some rest) : rest.length < cs.length := by
  unfold rest? at h
  have hp := length_dropWhile_le isParameter cs
  have hi := length_dropWhile_le isIntermediate (cs.dropWhile isParameter)
  split at h
  · next c tail eq =>
    rw [eq] at hi
    split at h
    · cases h
      simp only [List.length_cons] at hi
      omega
    · cases h
  · cases h

def strip (cs : List Char) : List Char :=
  match cs with
  | '\x1B' :: '[' :: rest =>
    match _found : rest? rest with
    | some behind => strip behind
    | none => '\x1B' :: strip ('[' :: rest)
  | c :: rest => c :: strip rest
  | [] => []
termination_by cs.length
decreasing_by
  · have := length_rest? _found
    simp only [List.length_cons]
    omega
  · simp only [List.length_cons]
    omega
  · simp only [List.length_cons]
    omega

def stripText (s : String) : String :=
  String.ofList (strip s.toList)

end GuardedAutomata.Terminal.ControlSequence
