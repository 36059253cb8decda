import GuardedAutomata.Text.Split

/-!
# Paths

Paths of files as they are written in messages: without empty steps and steps that stay where they are.
The suffix of a path tells the format of its file.
-/

set_option autoImplicit false

namespace GuardedAutomata.Path

def stays (step : List Char) : Bool :=
  step.isEmpty || step == ['.']

def climbs (step : List Char) : Bool :=
  step == ['.', '.']

def steps (path : List Char) : List (List Char) :=
  (Text.splitAt '/' path).filter fun step => !stays step

def isLongName (name : List Char) : Bool :=
  255 < (String.ofList name).utf8ByteSize

def isLong (path : List Char) : Bool :=
  4095 < (String.ofList path).utf8ByteSize

def root : List Char → List Char
  | '/' :: '/' :: '/' :: _ => ['/']
  | '/' :: '/' :: _ => ['/', '/']
  | '/' :: _ => ['/']
  | _ => []

def plain (path : List Char) : List Char :=
  match root path ++ Text.join '/' (steps path) with
  | [] => ['.']
  | cs => cs

def name (path : List Char) : List Char :=
  (steps path).getLastD []

def suffix (path : List Char) : List Char :=
  let n := name path
  let behind := (n.reverse.takeWhile (· != '.')).reverse
  let before := n.length - behind.length
  if behind.isEmpty || before ≤ 1 then [] else '.' :: behind

end GuardedAutomata.Path
