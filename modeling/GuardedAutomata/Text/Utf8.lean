/-!
# UTF-8

Bytes as text. What is not UTF-8 is reported with the bytes at fault, their position and the reason: a
byte that starts no character, a byte that does not continue one, or the end inside a character. Bytes
may come in pieces; a character cut off by the end of a piece is completed by the next one.
-/

set_option autoImplicit false

namespace GuardedAutomata

inductive Utf8Problem where
  | startByte
  | continuationByte
  | unexpectedEnd
  deriving DecidableEq, Repr

namespace Utf8Problem

def message : Utf8Problem → String
  | startByte => "invalid start byte"
  | continuationByte => "invalid continuation byte"
  | unexpectedEnd => "unexpected end of data"

end Utf8Problem

structure Undecodable where
  bytes : List Nat
  position : Nat
  problem : Utf8Problem

namespace Utf8

def tailLength? (first : Nat) : Option Nat :=
  if first < 0x80 then some 0
  else if 0xC2 ≤ first ∧ first < 0xE0 then some 1
  else if 0xE0 ≤ first ∧ first < 0xF0 then some 2
  else if 0xF0 ≤ first ∧ first < 0xF5 then some 3
  else none

def secondRange (first : Nat) : Nat × Nat :=
  if first = 0xE0 then (0xA0, 0xBF)
  else if first = 0xED then (0x80, 0x9F)
  else if first = 0xF0 then (0x90, 0xBF)
  else if first = 0xF4 then (0x80, 0x8F)
  else (0x80, 0xBF)

def tailCount : Nat → Nat × Nat → List Nat → Nat
  | 0, _, _ => 0
  | _ + 1, _, [] => 0
  | most + 1, (low, high), b :: rest =>
    if low ≤ b ∧ b ≤ high then tailCount most (0x80, 0xBF) rest + 1 else 0

def scalar (first : Nat) (tail : List Nat) : Nat :=
  let lead := match tail.length with
    | 0 => first
    | 1 => first - 0xC0
    | 2 => first - 0xE0
    | _ => first - 0xF0
  tail.foldl (fun n b => n * 64 + (b - 0x80)) lead

inductive Front where
  | character (c : Char) (width : Nat)
  | cut
  | fault (width : Nat) (problem : Utf8Problem)

def front (first : Nat) (rest : List Nat) : Front :=
  match tailLength? first with
  | none => .fault 1 .startByte
  | some length =>
    let count := tailCount length (secondRange first) rest
    if count = length then .character (Char.ofNat (scalar first (rest.take count))) (count + 1)
    else if rest.length = count then .cut
    else .fault (count + 1) .continuationByte

def isHalfPair : List Nat → Bool
  | [first, second] => first == 0xED && 0xA0 ≤ second && second ≤ 0xBF
  | _ => false

def decodeFrom (more : Bool) :
    Nat → Nat → List Char → List Nat → Except Undecodable (List Char × List Nat)
  | 0, _, acc, bytes => .ok (acc.reverse, bytes)
  | _ + 1, _, acc, [] => .ok (acc.reverse, [])
  | fuel + 1, position, acc, first :: rest =>
    match front first rest with
    | .character c width => decodeFrom more fuel (position + width) (c :: acc) (rest.drop (width - 1))
    | .cut => .ok (acc.reverse, first :: rest)
    | .fault width problem =>
      if more && isHalfPair (first :: rest) then .ok (acc.reverse, first :: rest)
      else .error ⟨(first :: rest).take width, position, problem⟩

def decode (bytes : List Nat) : Except Undecodable (List Char) :=
  match decodeFrom false bytes.length 0 [] bytes with
  | .error e => .error e
  | .ok (text, []) => .ok text
  | .ok (_, cut) => .error ⟨cut, bytes.length - cut.length, .unexpectedEnd⟩

/-- Decodes bytes in pieces of a size; positions count from the first byte of the piece, or from the first
byte of a character that the piece before it broke off. -/
def decodePieces (size : Nat) : Nat → List Nat → List Nat → Except Undecodable (List Char)
  | 0, _, _ => .ok []
  | fuel + 1, cut, bytes =>
    if bytes.isEmpty then decode cut
    else
      let piece := cut ++ bytes.take size
      match decodeFrom true piece.length 0 [] piece with
      | .error e => .error e
      | .ok (text, cut) =>
        match decodePieces size fuel cut (bytes.drop size) with
        | .error e => .error e
        | .ok more => .ok (text ++ more)

def encode (s : String) : List Nat :=
  s.toUTF8.toList.map UInt8.toNat

end Utf8

namespace Text

def unifyLines : List Char → List Char
  | [] => []
  | '\r' :: '\n' :: rest => '\n' :: unifyLines rest
  | '\r' :: rest => '\n' :: unifyLines rest
  | c :: rest => c :: unifyLines rest

end Text

end GuardedAutomata
