/-!
# Runs of letters

Letters often have their forms in the other case at one distance. A run keeps such letters together.
-/

set_option autoImplicit false

namespace GuardedAutomata.Text

structure CaseRun where
  first : Nat
  last : Nat
  step : Nat
  shift : Int

def CaseRun.image? (r : CaseRun) (n : Nat) : Option Nat :=
  if r.first ≤ n ∧ n ≤ r.last ∧ (n - r.first) % r.step = 0 then some ((n : Int) + r.shift).toNat
  else none

end GuardedAutomata.Text
