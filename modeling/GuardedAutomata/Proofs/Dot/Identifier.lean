import GuardedAutomata.Proofs.Dot.Token
import Mathlib.Data.List.TakeWhile

/-!
# Identifiers as tokens

An identifier is read as one token, and the token tells its text, unless the text looks like markup or ends in an odd
number of backslashes. The first is written raw, and the last backslash of the second keeps the quote behind it from
ending the text.
-/

set_option autoImplicit false

namespace GuardedAutomata.Dot

variable {c : Char} {cs back : List Char} {ts : List Token} {odd : Bool}

/-! ### Quoted text -/

def endsOdd (odd : Bool) : List Char → Bool
  | [] => odd
  | c :: rest => endsOdd (c == '\\' && !odd) rest

def unquoted : Bool → List Char → List Char
  | _, [] => []
  | true, c :: rest => behindBackslash c ++ unquoted false rest
  | false, c :: rest => if c = '\\' then unquoted true rest else c :: unquoted false rest

/-- Escaping keeps every quote of a text from ending it. -/
theorem run_escapeQuotes (odd : Bool) (read cs : List Char) :
    run (.inText odd read) (escapeQuotes odd cs) = ([], .inText (endsOdd odd cs) (read ++ unquoted odd cs)) := by
  induction cs generalizing odd read with
  | nil => simp [escapeQuotes, run, endsOdd, unquoted]
  | cons c rest ih =>
    by_cases hquote : c = '"'
    · subst hquote
      cases odd <;> simp [escapeQuotes, run, step, endsOdd, unquoted, behindBackslash, ih]
    · by_cases hslash : c = '\\'
      · subst hslash
        cases odd <;> simp [escapeQuotes, run, step, endsOdd, unquoted, behindBackslash, ih]
      · have hother : (c == '\\') = false := beq_false_of_ne hslash
        cases odd <;> simp [escapeQuotes, run, step, endsOdd, unquoted, hquote, hslash, hother, ih]

theorem unquoted_of_notMem (h : '\\' ∉ cs) : unquoted false cs = cs := by
  induction cs with
  | nil => rfl
  | cons c rest ih =>
    rw [List.mem_cons, not_or] at h
    rw [unquoted, if_neg (Ne.symm h.1), ih h.2]

theorem endsOdd_of_notMem (h : '\\' ∉ cs) : endsOdd false cs = false := by
  induction cs with
  | nil => rfl
  | cons c rest ih =>
    rw [List.mem_cons, not_or] at h
    rw [endsOdd, beq_false_of_ne (Ne.symm h.1)]
    exact ih h.2

/-! ### Bare text -/

def isPlain (c : Char) : Bool :=
  c.isAlphanum || ['_', '-', '.'].contains c

theorem isPart_of_isPlain (h : isPlain c = true) : isPart c = true := by
  have hnone {ds : List Char} (hds : ds.any isPlain = false) : ds.contains c = false := by
    rw [List.contains_eq_mem, decide_eq_false_iff_not]
    exact fun hmem => List.any_eq_false.1 hds c hmem h
  have hne {d : Char} (hd : isPlain d = false) : (c != d) = true := by
    rw [bne_iff_ne]
    rintro rfl
    rw [hd] at h
    cases h
  rw [isPart, isDelimiter, isBlank, isMark, hnone (by decide), hnone (by decide), hne rfl, hne rfl]
  rfl

theorem plain_of_isName (h : isName cs = true) : cs ≠ [] ∧ ∀ c ∈ cs, isPlain c = true := by
  unfold isName at h
  split at h
  · cases h
  next c rest =>
    have hchar {d : Char} (hd : isNameChar d = true) : isPlain d = true := by
      rw [isNameChar, Bool.or_eq_true, beq_iff_eq] at hd
      rcases hd with hd | rfl
      · rw [isPlain, hd, Bool.true_or]
      · rfl
    rw [Bool.and_eq_true, List.all_eq_true] at h
    refine ⟨List.cons_ne_nil c rest, List.forall_mem_cons.2 ⟨hchar ?_, fun d hd => hchar (h.2 d hd)⟩⟩
    rw [isNameStart, Bool.or_eq_true] at h
    rw [isNameChar, Char.isAlphanum, Bool.or_eq_true, Bool.or_eq_true]
    exact h.1.imp_left .inl

theorem isPlain_of_isDigit (h : c.isDigit = true) : isPlain c = true := by
  rw [isPlain, Char.isAlphanum, h, Bool.or_true, Bool.true_or]

theorem plain_of_isUnsigned (h : isUnsigned cs = true) : cs ≠ [] ∧ ∀ c ∈ cs, isPlain c = true := by
  have hdigits {ds : List Char} (hds : ds.all Char.isDigit = true) : ∀ d ∈ ds, isPlain d = true := fun d hd =>
    isPlain_of_isDigit (List.all_eq_true.1 hds d hd)
  unfold isUnsigned at h
  split at h
  next rest =>
    rw [Bool.and_eq_true] at h
    exact ⟨List.cons_ne_nil _ rest, List.forall_mem_cons.2 ⟨rfl, hdigits h.2⟩⟩
  next =>
    have hwhole : ∀ d ∈ cs.takeWhile Char.isDigit, isPlain d = true := fun d hd =>
      isPlain_of_isDigit (List.mem_takeWhile_imp hd)
    have hsplit : cs.takeWhile Char.isDigit ++ cs.dropWhile Char.isDigit = cs := List.takeWhile_append_dropWhile
    dsimp only at h
    split at h
    · cases h
    next hrest hne =>
      rw [hrest, List.append_nil] at hsplit
      rw [hsplit] at hne hwhole
      exact ⟨hne, hwhole⟩
    next fraction hrest hne =>
      rw [hrest] at hsplit
      rw [← hsplit]
      exact ⟨by simp, List.forall_mem_append.2 ⟨hwhole, List.forall_mem_cons.2 ⟨rfl, hdigits h⟩⟩⟩
    · cases h

theorem plain_of_isNumeral (h : isNumeral cs = true) : cs ≠ [] ∧ ∀ c ∈ cs, isPlain c = true := by
  unfold isNumeral at h
  split at h
  next rest => exact ⟨List.cons_ne_nil _ rest, List.forall_mem_cons.2 ⟨rfl, (plain_of_isUnsigned h).2⟩⟩
  next => exact plain_of_isUnsigned h

theorem eq_or_append_dropLineEnd (cs : List Char) : cs = dropLineEnd cs ∨ cs = dropLineEnd cs ++ ['\n'] := by
  unfold dropLineEnd
  split
  next hlast =>
    obtain ⟨front, rfl⟩ := List.getLast?_eq_some_iff.1 hlast
    rw [List.dropLast_concat]
    exact .inr rfl
  next => exact .inl rfl

theorem plain_of_isBare (h : isBare cs = true) : dropLineEnd cs ≠ [] ∧ ∀ c ∈ dropLineEnd cs, isPlain c = true := by
  rw [isBare, Bool.and_eq_true, Bool.or_eq_true] at h
  exact h.1.elim plain_of_isName plain_of_isNumeral

theorem endsOdd_of_isBare (h : isBare cs = true) : endsOdd false cs = false := by
  have hplain : '\\' ∉ dropLineEnd cs := fun hmem => by cases (plain_of_isBare h).2 _ hmem
  apply endsOdd_of_notMem
  rcases eq_or_append_dropLineEnd cs with heq | heq <;> rw [heq]
  · exact hplain
  · rw [List.mem_append, not_or]
    exact ⟨hplain, by decide⟩

theorem exists_cons_of_isBracketed (h : isBracketed cs = true) : ∃ rest, cs = '<' :: rest := by
  unfold isBracketed at h
  split at h
  next rest hangle =>
    rcases eq_or_append_dropLineEnd cs with heq | heq
    · exact ⟨rest, heq.trans hangle⟩
    · exact ⟨rest ++ ['\n'], heq.trans (by rw [hangle, List.cons_append])⟩
  next => cases h

theorem isBracketed_of_isBare (h : isBare cs = true) : isBracketed cs = false := by
  unfold isBracketed
  split
  next rest hangle => cases (plain_of_isBare h).2 '<' (hangle ▸ List.mem_cons_self)
  next => rfl

/-! ### Identifiers -/

def Sound (cs : List Char) : Prop :=
  isBracketed cs = false ∧ endsOdd false cs = false

instance : DecidablePred Sound := fun _ => inferInstanceAs (Decidable (_ ∧ _))

def token (cs : List Char) : Token :=
  if isBare cs then .word (dropLineEnd cs) else .text (unquoted false cs)

theorem sound_of_notMem (h : '\\' ∉ cs) (hangles : isBracketed cs = false) : Sound cs :=
  ⟨hangles, endsOdd_of_notMem h⟩

theorem run_identifier_bare (h : isBare cs = true) (hc : isDelimiter c = true) :
    run .between (cs ++ [c]) = (.word (dropLineEnd cs) :: (start c).1, .between) := by
  obtain ⟨hne, hplain⟩ := plain_of_isBare h
  have hpart : ∀ d ∈ dropLineEnd cs, isPart d = true := fun d hd => isPart_of_isPlain (hplain d hd)
  rcases eq_or_append_dropLineEnd cs with heq | heq
  · exact (congrArg (fun front => run .between (front ++ [c])) heq).trans (run_word hne hpart hc)
  · have hword := run_word hne hpart (c := '\n') rfl
    rw [← heq] at hword
    rw [run_append_of_eq hword, run_delimiter hc]
    rfl

/-- A sound identifier is read as its token with the delimiter behind it. -/
theorem run_identifier (h : Sound cs) (hc : isDelimiter c = true) :
    run .between (identifierChars cs ++ [c]) = (token cs :: (start c).1, .between) := by
  obtain ⟨hangles, heven⟩ := h
  unfold identifierChars token
  by_cases hbare : isBare cs = true
  · rw [if_pos (by simp [hbare]), if_pos hbare]
    exact run_identifier_bare hbare hc
  · rw [if_neg (by simp [hangles, hbare]), if_neg hbare]
    have hopened : run .between ('"' :: escapeQuotes false cs) = ([], .inText false (unquoted false cs)) := by
      rw [run, show step .between '"' = ([], .inText false []) from rfl, run_escapeQuotes, heven]
      rfl
    have hclosed : run .between ('"' :: (escapeQuotes false cs ++ ['"'])) =
        ([.text (unquoted false cs)], .between) := by
      rw [← List.cons_append, run_append_of_eq hopened]
      rfl
    rw [run_append_of_eq hclosed, run_delimiter hc]
    rfl

/-- An identifier that is not sound is not read as its token, whatever stands behind it. -/
theorem run_identifier_ne (h : ¬ Sound cs) (back : List Char) (ts : List Token) (m : Mode) :
    run .between (identifierChars cs ++ back) ≠ (token cs :: ts, m) := by
  intro hrun
  have hbare : isBare cs = false := by
    by_contra hbare
    rw [Bool.not_eq_false] at hbare
    exact h ⟨isBracketed_of_isBare hbare, endsOdd_of_isBare hbare⟩
  unfold identifierChars token at hrun
  rw [hbare, Bool.or_false, if_neg Bool.false_ne_true] at hrun
  have hfirst := congrArg Prod.fst hrun
  by_cases hangles : isBracketed cs = true
  · -- The bracket starts markup, so the first token can be nothing else.
    rw [if_pos hangles] at hfirst
    obtain ⟨rest, rfl⟩ := exists_cons_of_isBracketed hangles
    rcases run_inMarkup_first 0 [] (rest ++ back) with hnone | ⟨more, us, hmore⟩
    · cases hnone.symm.trans hfirst
    · cases hmore.symm.trans hfirst
  · rw [Bool.not_eq_true] at hangles
    have hodd : endsOdd false cs = true := by
      by_contra heven
      exact h ⟨hangles, Bool.not_eq_true _ ▸ heven⟩
    -- The quote behind the last backslash is read as part of the text, which goes on with it.
    have hopened : run .between ('"' :: (escapeQuotes false cs ++ ['"'])) =
        ([], .inText false (unquoted false cs ++ ['"'])) := by
      have hquoted := run_append_of_eq (run_escapeQuotes false [] cs) ['"']
      rw [hodd] at hquoted
      exact hquoted
    rw [if_neg (by simp [hangles]), run_append_of_eq hopened] at hfirst
    rcases run_inText_first false (unquoted false cs ++ ['"']) back with hnone | ⟨more, us, hmore⟩
    · rw [hnone] at hfirst
      cases hfirst
    · rw [hmore, List.nil_append, List.cons.injEq, Token.text.injEq] at hfirst
      simpa using congrArg List.length hfirst.1

end GuardedAutomata.Dot
