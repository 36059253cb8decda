import GuardedAutomata.Text.Unprintable

/-!
# Quoted text

Text in single quotes, or in double quotes when it holds a single quote and no double one. The quote,
the backslash, line ends and tabs are escaped by a backslash, other unprintable characters by their
code point in two, four or eight hexadecimal digits. Bytes are quoted alike behind the letter `b`; of them
only those of ASCII are printable.
-/

set_option autoImplicit false

namespace GuardedAutomata.Text

def hex (width n : Nat) : List Char :=
  let digits := Nat.toDigits 16 n
  List.replicate (width - digits.length) '0' ++ digits

def escapedCode (c : Char) : List Char :=
  let n := c.toNat
  if n < 0x100 then '\\' :: 'x' :: hex 2 n
  else if n < 0x10000 then '\\' :: 'u' :: hex 4 n
  else '\\' :: 'U' :: hex 8 n

def escaped (quote c : Char) : List Char :=
  if c = quote ∨ c = '\\' then ['\\', c]
  else if c = '\n' then ['\\', 'n']
  else if c = '\r' then ['\\', 'r']
  else if c = '\t' then ['\\', 't']
  else if isPrintable c then [c]
  else escapedCode c

def quoteFor (cs : List Char) : Char :=
  if '\'' ∈ cs ∧ '"' ∉ cs then '"' else '\''

def quotedChars (cs : List Char) : List Char :=
  let quote := quoteFor cs
  quote :: (cs.flatMap (escaped quote) ++ [quote])

def quoted (s : String) : String :=
  String.ofList (quotedChars s.toList)

def escapedByte (quote : Char) (b : Nat) : List Char :=
  if b < 0x80 then escaped quote (Char.ofNat b) else '\\' :: 'x' :: hex 2 b

def quotedBytes (bs : List Nat) : String :=
  let quote := quoteFor (bs.map Char.ofNat)
  String.ofList ('b' :: quote :: (bs.flatMap (escapedByte quote) ++ [quote]))

end GuardedAutomata.Text
