import GuardedAutomata.Automaton.Dot

/-!
# Tokens of a graph description

A graph description is read from the front, one character at a time: words, texts between double quotes, markup
between angle brackets, and marks. Between quotes a backslash stands for itself, but in front of a quote it only keeps
the quote from being the last one, and with a line end behind it both are left out. Comments are not read, since the
description of an automaton has none.
-/

set_option autoImplicit false

namespace GuardedAutomata.Dot

inductive Token where
  | word (cs : List Char)
  | text (cs : List Char)
  | markup (cs : List Char)
  | mark (c : Char)
  deriving DecidableEq, Repr

/-- What is being read: the token so far, within text whether an odd number of backslashes stands last, and within
markup how many brackets are open. -/
inductive Mode where
  | between
  | inWord (read : List Char)
  | inText (odd : Bool) (read : List Char)
  | inMarkup (depth : Nat) (read : List Char)
  deriving DecidableEq, Repr

def isBlank (c : Char) : Bool :=
  [' ', '\t', '\n', '\r'].contains c

def isMark (c : Char) : Bool :=
  ['[', ']', '\x7b', '\x7d', '=', ';', ',', ':', '+'].contains c

def isDelimiter (c : Char) : Bool :=
  isBlank c || isMark c

def isPart (c : Char) : Bool :=
  !isDelimiter c && c != '"' && c != '<'

def behindBackslash (c : Char) : List Char :=
  if c = '"' then ['"'] else if c = '\n' then [] else ['\\', c]

def start (c : Char) : List Token × Mode :=
  if isBlank c then ([], .between)
  else if isMark c then ([.mark c], .between)
  else if c = '"' then ([], .inText false [])
  else if c = '<' then ([], .inMarkup 0 [])
  else ([], .inWord [c])

def step : Mode → Char → List Token × Mode
  | .between, c => start c
  | .inWord read, c => if isPart c then ([], .inWord (read ++ [c])) else (.word read :: (start c).1, (start c).2)
  | .inText true read, c => ([], .inText false (read ++ behindBackslash c))
  | .inText false read, c =>
    if c = '"' then ([.text read], .between)
    else if c = '\\' then ([], .inText true read)
    else ([], .inText false (read ++ [c]))
  | .inMarkup depth read, c =>
    if c = '>' then
      match depth with
      | 0 => ([.markup read], .between)
      | depth + 1 => ([], .inMarkup depth (read ++ [c]))
    else ([], .inMarkup (if c = '<' then depth + 1 else depth) (read ++ [c]))

def run : Mode → List Char → List Token × Mode
  | m, [] => ([], m)
  | m, c :: rest => ((step m c).1 ++ (run (step m c).2 rest).1, (run (step m c).2 rest).2)

variable {m next : Mode} {c : Char} {cs back read : List Char} {ts us : List Token} {odd : Bool} {depth : Nat}

theorem run_append (m : Mode) (cs back : List Char) :
    run m (cs ++ back) = ((run m cs).1 ++ (run (run m cs).2 back).1, (run (run m cs).2 back).2) := by
  induction cs generalizing m with
  | nil => rfl
  | cons c cs ih => rw [List.cons_append, run, run, ih, List.append_assoc]

theorem run_append_of_eq (h : run m cs = (ts, next)) (back : List Char) :
    run m (cs ++ back) = (ts ++ (run next back).1, (run next back).2) := by
  rw [run_append, h]

theorem start_of_isDelimiter (h : isDelimiter c = true) :
    start c = (if isMark c then [.mark c] else [], .between) := by
  rw [isDelimiter, Bool.or_eq_true] at h
  rw [start]
  by_cases hblank : isBlank c = true
  · have hmark : isMark c = false := by
      rw [isBlank, List.contains_iff_mem] at hblank
      simp only [List.mem_cons, List.not_mem_nil, or_false] at hblank
      rcases hblank with rfl | rfl | rfl | rfl <;> rfl
    rw [if_pos hblank, if_neg (by simp [hmark])]
  · have hmark := h.resolve_left hblank
    rw [if_neg hblank, if_pos hmark, if_pos hmark]

/-! ### Words -/

theorem run_inWord (h : ∀ c ∈ cs, isPart c = true) (read : List Char) :
    run (.inWord read) cs = ([], .inWord (read ++ cs)) := by
  induction cs generalizing read with
  | nil => rw [run, List.append_nil]
  | cons c cs ih =>
    obtain ⟨hc, hcs⟩ := List.forall_mem_cons.1 h
    rw [run, step, if_pos hc, ih hcs, List.append_assoc]
    rfl

/-- A word is complete with the delimiter behind it. -/
theorem run_word (hne : cs ≠ []) (h : ∀ c ∈ cs, isPart c = true) (hc : isDelimiter c = true) :
    run .between (cs ++ [c]) = (.word cs :: (start c).1, .between) := by
  obtain ⟨first, rest, rfl⟩ := List.exists_cons_of_ne_nil hne
  obtain ⟨hfirst, hrest⟩ := List.forall_mem_cons.1 h
  have hstart : start first = ([], .inWord [first]) := by
    simp only [isPart, isDelimiter, Bool.and_eq_true, Bool.not_eq_true', Bool.or_eq_false_iff, bne_iff_ne] at hfirst
    obtain ⟨⟨⟨hblank, hmark⟩, hquote⟩, hangle⟩ := hfirst
    rw [start, if_neg (by simp [hblank]), if_neg (by simp [hmark]), if_neg hquote, if_neg hangle]
  have hword : run .between (first :: rest) = ([], .inWord (first :: rest)) := by
    rw [run, step, hstart, run_inWord hrest]
    rfl
  have hends : isPart c = false := by simp [isPart, hc]
  rw [run_append_of_eq hword, run, step, if_neg (by simp [hends]), run, start_of_isDelimiter hc]
  simp

theorem run_delimiter (h : isDelimiter c = true) : run .between [c] = ((start c).1, .between) := by
  rw [run, run, step, start_of_isDelimiter h]
  simp

/-! ### Texts and markup -/

/-- The first token behind the start of a text goes on with what has been read of it. -/
theorem run_inText_first (odd : Bool) (read cs : List Char) : (run (.inText odd read) cs).1 = [] ∨
    ∃ more ts, (run (.inText odd read) cs).1 = .text (read ++ more) :: ts := by
  induction cs generalizing odd read with
  | nil => exact .inl rfl
  | cons c cs ih =>
    have hkeeps (odd : Bool) (more : List Char) : (run (.inText odd (read ++ more)) cs).1 = [] ∨
        ∃ further ts, (run (.inText odd (read ++ more)) cs).1 = .text (read ++ further) :: ts := by
      refine (ih odd (read ++ more)).imp_right ?_
      rintro ⟨further, ts, hts⟩
      exact ⟨more ++ further, ts, by rw [hts, List.append_assoc]⟩
    rw [run]
    cases odd with
    | true => exact hkeeps false _
    | false =>
      rw [step]
      split
      · exact .inr ⟨[], _, by rw [List.append_nil]; rfl⟩
      · split
        · exact ih true read
        · exact hkeeps false [c]

theorem run_inMarkup_first (depth : Nat) (read cs : List Char) : (run (.inMarkup depth read) cs).1 = [] ∨
    ∃ more ts, (run (.inMarkup depth read) cs).1 = .markup more :: ts := by
  induction cs generalizing depth read with
  | nil => exact .inl rfl
  | cons c cs ih =>
    rw [run]
    simp only [step]
    split
    · cases depth with
      | zero => exact .inr ⟨read, _, rfl⟩
      | succ depth => exact ih depth _
    · exact ih _ _

end GuardedAutomata.Dot
