import GuardedAutomata.Value.Fault

/-!
# Problems of documents

Why a text has no value: it is not well formed, a part of it stands for nothing though it looks like a
number, a date or a truth value, or an escape stands for one half of a pair of code units, which is no
character and so no part of a text here.
-/

set_option autoImplicit false

namespace GuardedAutomata

inductive Problem where
  | malformed
  | fault (cause : Fault)
  | halfPair

namespace Problem

def required {α : Type} : Option α → Except Problem α
  | some a => .ok a
  | none => .error .malformed

def faulty {α : Type} : Except Fault α → Except Problem α
  | .ok a => .ok a
  | .error cause => .error (.fault cause)

end Problem

end GuardedAutomata
