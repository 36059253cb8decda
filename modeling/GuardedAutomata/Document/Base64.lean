/-!
# Base 64

Four characters of an alphabet of sixty-four stand for three bytes. Characters outside the alphabet are
passed over. An equals sign that completes four characters, of which two at least are of the alphabet, ends
the text; without one the text must end after four characters.
-/

set_option autoImplicit false

namespace GuardedAutomata.Base64

def digit? (c : Char) : Option Nat :=
  if 'A' ≤ c ∧ c ≤ 'Z' then some (c.toNat - 'A'.toNat)
  else if 'a' ≤ c ∧ c ≤ 'z' then some (c.toNat - 'a'.toNat + 26)
  else if c.isDigit then some (c.toNat - '0'.toNat + 52)
  else if c = '+' then some 62
  else if c = '/' then some 63
  else none

structure Quad where
  count : Nat
  bits : Nat

def Quad.push (q : Quad) (d : Nat) : Option Nat × Quad :=
  match q.count with
  | 0 => (none, ⟨1, d⟩)
  | 1 => (some (q.bits * 4 + d / 16), ⟨2, d % 16⟩)
  | 2 => (some (q.bits * 16 + d / 4), ⟨3, d % 4⟩)
  | _ => (some (q.bits * 64 + d), ⟨0, 0⟩)

def bytesFrom? (q : Quad) (pads : Nat) : List Char → Option (List Nat)
  | [] => if q.count = 0 then some [] else none
  | c :: rest =>
    if c = '=' then
      if q.count < 2 then bytesFrom? q pads rest
      else if 4 ≤ q.count + (pads + 1) then some []
      else bytesFrom? q (pads + 1) rest
    else
      match digit? c with
      | none => bytesFrom? q pads rest
      | some d =>
        let (byte, q) := q.push d
        (bytesFrom? q 0 rest).map (byte.toList ++ ·)

def decode? (cs : List Char) : Option (List Nat) :=
  if cs.all fun c => c.toNat < 0x80 then bytesFrom? ⟨0, 0⟩ 0 cs else none

end GuardedAutomata.Base64
