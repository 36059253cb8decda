import GuardedAutomata.Terminal.Handler.Token

/-!
# Grammars of tokens

A form says what may stand at a place of a token sequence. Of two forms the first that fits is taken, and what
it has taken is not looked at again. A hint is a form of something wrong: in a reading that gives hints it
ends the reading with what it has to say, and else it fits nowhere.

A reading that comes to a token which tells of a problem ends with that problem.
-/

set_option autoImplicit false

namespace GuardedAutomata.Terminal.Handler

inductive Kind where
  | none
  | name (word : String)
  | constant (word : String)
  | literal
  | member
  | call
  | operation
  | comparison
  | conditional
  | assignment
  | sequence
  | dictionary
  | set
  deriving DecidableEq, Repr

namespace Kind

def noun : Kind → String
  | none => ""
  | name _ => "name"
  | constant word => word
  | literal => "literal"
  | member => "attribute"
  | call => "function call"
  | operation => "expression"
  | comparison => "comparison"
  | conditional => "conditional expression"
  | assignment => "named expression"
  | sequence => "tuple"
  | dictionary => "dict literal"
  | set => "set display"

def word : Kind → String
  | name word => word
  | _ => ""

end Kind

structure Position where
  kind : Kind
  depth : Nat
  rest : List Placed

abbrev Reading := Except String (Option Position)

inductive Form (ρ : Type) where
  | nothing
  | never
  | mark (text : String)
  | word (text : String)
  | startOf (words : List String)
  | name
  | number
  | quoted
  | lineEnd
  | indent
  | finish
  | rule (r : ρ)
  | both (first second : Form ρ)
  | either (first second : Form ρ)
  | many (form : Form ρ)
  | ahead (form : Form ρ)
  | without (form : Form ρ)
  | as (kind : Kind) (form : Form ρ)
  | named (words : List String)
  | bracketed
  | unaided (form : Form ρ)
  | hint (advice : Kind → String) (form : Form ρ)
  | refuse (problem : String) (form : Form ρ)

namespace Form

variable {ρ : Type}

def seq (forms : List (Form ρ)) : Form ρ :=
  forms.foldr both nothing

def choice (forms : List (Form ρ)) : Form ρ :=
  forms.foldr either never

def optional (form : Form ρ) : Form ρ :=
  either form nothing

def chain (first other : Form ρ) : Form ρ :=
  both first (many other)

def separated (item : Form ρ) : Form ρ :=
  chain item (both (mark ",") item)

end Form

def reservedWords : List String := [
  "False", "None", "True", "and", "as", "assert", "async", "await", "break", "class", "continue", "def",
  "del", "elif", "else", "except", "finally", "for", "from", "global", "if", "import", "in", "is", "lambda",
  "nonlocal", "not", "or", "pass", "raise", "return", "try", "while", "with", "yield"]

namespace Position

def token? (p : Position) : Except String (Option (Token × Position)) :=
  match p.rest with
  | [] => .ok none
  | ⟨token, depth⟩ :: rest =>
    match token with
    | .unclosed bracket =>
      let bracket := String.ofList [bracket]
      .error s!"'{bracket}' was never closed"
    | .broken problem _ => .error problem
    | token => .ok (some (token, { p with depth, rest }))

def take (p : Position) (test : Token → Bool) : Reading :=
  match p.token? with
  | .error problem => .error problem
  | .ok none => .ok none
  | .ok (some (token, behind)) => .ok (if test token then some behind else none)

def startsOne (words : List String) : Token → Bool
  | .word text => words.any fun word => text.toList.isPrefixOf word.toList
  | _ => false

def takeName (p : Position) : Reading :=
  match p.token? with
  | .ok (some (.word text, behind)) =>
    .ok (if reservedWords.contains text then none else some { behind with kind := .name text })
  | .ok _ => .ok none
  | .error problem => .error problem

def quotedTexts : Nat → Position → Except String (List (Bool × Bool) × Position)
  | 0, p => .ok ([], p)
  | fuel + 1, p =>
    match p.token? with
    | .ok (some (.quoted bytes plain, behind)) =>
      match quotedTexts fuel behind with
      | .ok (texts, last) => .ok ((bytes, plain) :: texts, last)
      | .error problem => .error problem
    | .ok _ => .ok ([], p)
    | .error problem => .error problem

def joinProblem? (bytes : Bool) : List (Bool × Bool) → Option String
  | [] => none
  | (isBytes, plain) :: rest =>
    if isBytes && !plain then some "bytes can only contain ASCII literal characters"
    else if isBytes != bytes then some "cannot mix bytes and nonbytes literals"
    else joinProblem? bytes rest

def takeQuoted (fuel : Nat) (p : Position) : Reading :=
  match p.quotedTexts fuel with
  | .error problem => .error problem
  | .ok ([], _) => .ok none
  | .ok ((bytes, plain) :: rest, behind) =>
    match joinProblem? bytes ((bytes, plain) :: rest) with
    | some problem => .error problem
    | none => .ok (some { behind with kind := .literal })

end Position

/-- What is known of the rules that have been read at a place, which is told by the number of tokens behind
it: where each of them ends, or that it does not fit. -/
structure Known (ρ : Type) where
  rule : ρ
  place : Nat
  result : Option Position

structure Grammar (ρ : Type) where
  form : ρ → Form ρ
  readOnce : ρ → Bool

abbrev Outcome (ρ : Type) := Except String (Option Position × List (Known ρ))

variable {ρ : Type} [DecidableEq ρ]

def Known.find? (known : List (Known ρ)) (rule : ρ) (place : Nat) : Option (Option Position) :=
  (known.find? fun k => k.place = place && k.rule = rule).map Known.result

def Outcome.ofReading (known : List (Known ρ)) : Reading → Outcome ρ
  | .ok result => .ok (result, known)
  | .error problem => .error problem

def Form.read (g : Grammar ρ) : Nat → Bool → Form ρ → Position → List (Known ρ) → Outcome ρ
  | 0, _, _, _, known => .ok (none, known)
  | fuel + 1, hints, form, p, known =>
    let read := Form.read g fuel hints
    let take (test : Token → Bool) : Outcome ρ := .ofReading known (p.take test)
    match form with
    | .nothing => .ok (some p, known)
    | .never => .ok (none, known)
    | .mark text => take (· = .mark text)
    | .word text => take (· = .word text)
    | .startOf words => take (Position.startsOne words)
    | .name => .ofReading known p.takeName
    | .number => take (· = .number)
    | .quoted => .ofReading known (p.takeQuoted fuel)
    | .lineEnd => take (· = .lineEnd)
    | .indent => take (· = .indent)
    | .finish => take (· = .finish)
    | .rule r =>
      if g.readOnce r then
        match Known.find? known r p.rest.length with
        | some result => .ok (result, known)
        | none =>
          match read (g.form r) p known with
          | .ok (result, known) => .ok (result, ⟨r, p.rest.length, result⟩ :: known)
          | .error problem => .error problem
      else read (g.form r) p known
    | .both first second =>
      match read first p known with
      | .ok (some behind, known) => read second behind known
      | other => other
    | .either first second =>
      match read first p known with
      | .ok (none, known) => read second p known
      | other => other
    | .many item =>
      match read item p known with
      | .ok (some behind, known) => read (.many item) behind known
      | .ok (none, known) => .ok (some p, known)
      | .error problem => .error problem
    | .ahead next =>
      match read next p known with
      | .ok (some _, known) => .ok (some p, known)
      | other => other
    | .without next =>
      match read next p known with
      | .ok (some _, known) => .ok (none, known)
      | .ok (none, known) => .ok (some p, known)
      | .error problem => .error problem
    | .as kind inner =>
      match read inner p known with
      | .ok (some behind, known) => .ok (some { behind with kind }, known)
      | other => other
    | .named words => .ok (if words.contains p.kind.word then some p else none, known)
    | .bracketed => .ok (if 0 < p.depth then some p else none, known)
    | .unaided inner => Form.read g fuel false inner p known
    | .hint advice wrong =>
      if hints then
        match read wrong p known with
        | .ok (some behind, _) => .error (advice behind.kind)
        | other => other
      else .ok (none, known)
    | .refuse problem wrong =>
      match read wrong p known with
      | .ok (some _, _) => .error problem
      | other => other

end GuardedAutomata.Terminal.Handler
