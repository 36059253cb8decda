import GuardedAutomata.Terminal.Wrap
import Mathlib

/-!
# What stays on lines

Where every character takes cells of its own, text that is put on lines keeps all its characters but blanks, in their
order: tabs become blanks, words go from line to line as they are, and where a line is cut off beyond its width no word
stands there any more. Text without line ends and tabs that fits on one line is that line.
-/

set_option autoImplicit false

namespace GuardedAutomata.Terminal

open Text (isBlank)

variable {most used : Nat} {c : Char} {cs back word line text : List Char} {words parts : List (List Char)}

/-! ### Blanks -/

def ink (cs : List Char) : List Char :=
  cs.filter (!isBlank ·)

theorem ink_append (cs back : List Char) : ink (cs ++ back) = ink cs ++ ink back :=
  List.filter_append cs back

theorem ink_eq_nil_iff : ink cs = [] ↔ ∀ c ∈ cs, isBlank c = true := by
  simp [ink]

theorem ink_flatten (parts : List (List Char)) : ink parts.flatten = (parts.map ink).flatten :=
  List.filter_flatten

theorem ink_flatten_congr {f : List Char → List Char} (h : ∀ part ∈ parts, ink (f part) = ink part) :
    ink (parts.map f).flatten = ink parts.flatten := by
  rw [ink_flatten, ink_flatten, List.map_map]
  exact congrArg _ (List.map_congr_left h)

theorem ink_join {mark : Char} (hmark : isBlank mark = true) (parts : List (List Char)) :
    ink (Text.join mark parts) = ink parts.flatten := by
  fun_induction Text.join mark parts with
  | case1 => rfl
  | case2 part => rw [List.flatten_singleton]
  | case3 part rest _ ih =>
    have hjoined : ink (mark :: Text.join mark rest) = ink (Text.join mark rest) :=
      List.filter_cons_of_neg (by simpa using hmark)
    rw [ink_append, hjoined, ih, List.flatten_cons, ink_append]

theorem ink_splitAt {mark : Char} (hmark : isBlank mark = true) (cs : List Char) :
    ink (Text.splitAt mark cs).flatten = ink cs := by
  rw [← ink_join hmark, Text.join_splitAt]

theorem trimEnd_eq (cs : List Char) : trimEnd cs = cs.rdropWhile isBlank :=
  rfl

theorem exists_blanks (cs : List Char) : ∃ blanks, cs = trimEnd cs ++ blanks ∧ ink blanks = [] := by
  refine ⟨cs.rtakeWhile isBlank, List.rdropWhile_append_rtakeWhile.symm, ?_⟩
  exact ink_eq_nil_iff.2 fun c hc => List.mem_rtakeWhile_imp hc

theorem ink_trimEnd (cs : List Char) : ink (trimEnd cs) = ink cs := by
  obtain ⟨blanks, hcs, hblanks⟩ := exists_blanks cs
  conv_rhs => rw [hcs, ink_append, hblanks, List.append_nil]

theorem trimEnd_isPrefix (cs : List Char) : trimEnd cs <+: cs :=
  List.rdropWhile_prefix isBlank cs

theorem trimEnd_eq_nil_iff : trimEnd cs = [] ↔ ink cs = [] := by
  rw [trimEnd_eq, List.rdropWhile_eq_nil_iff, ink_eq_nil_iff]

theorem trimEnd_append (cs back : List Char) :
    trimEnd (cs ++ back) = if ink back = [] then trimEnd cs else cs ++ trimEnd back := by
  rw [trimEnd, trimEnd, trimEnd, List.reverse_append, List.dropWhile_append]
  simp only [List.isEmpty_iff, List.dropWhile_eq_nil_iff, List.mem_reverse, ← ink_eq_nil_iff]
  split
  · rfl
  · simp

/-! ### Cells -/

/-- Every character of a text takes cells of its own: none joins its neighbours or selects a form. -/
def Separate (cs : List Char) : Prop :=
  ∀ c ∈ cs, c ≠ joiner ∧ c ≠ pictographSelector

instance : DecidablePred Separate := fun _ => List.decidableBAll _ _

def cells (cs : List Char) : Nat :=
  (cs.map charWidth).sum

theorem cells_cons (c : Char) (cs : List Char) : cells (c :: cs) = charWidth c + cells cs := rfl

theorem cells_append (cs back : List Char) : cells (cs ++ back) = cells cs + cells back := by
  rw [cells, List.map_append, List.sum_append]
  rfl

theorem cells_trimEnd_le (cs : List Char) : cells (trimEnd cs) ≤ cells cs := by
  obtain ⟨blanks, hcs, -⟩ := exists_blanks cs
  conv_rhs => rw [hcs, cells_append]
  exact Nat.le_add_right _ _

theorem charWidth_le (c : Char) : charWidth c ≤ 2 := by
  unfold charWidth
  split
  · decide
  · split
    · decide
    · split <;> decide

theorem Separate.subset (h : Separate text) (hcs : cs ⊆ text) : Separate cs :=
  fun c hc => h c (hcs hc)

theorem Separate.trimEnd (h : Separate cs) : Separate (trimEnd cs) :=
  h.subset (trimEnd_isPrefix cs).subset

theorem widthBehind_of_separate (h : Separate cs) (last : Option Char) : widthBehind last cs = cells cs := by
  fun_induction widthBehind last cs with
  | case1 => rfl
  | case2 => exact absurd rfl (h _ (List.mem_singleton_self _)).2
  | case3 => rfl
  | case4 => exact absurd rfl (h _ List.mem_cons_self).1
  | case5 => exact absurd rfl (h _ List.mem_cons_self).2
  | case6 last c d rest _ _ hzero ih =>
    rw [ih (List.forall_mem_cons.1 h).2, cells_cons c, hzero, Nat.zero_add]
  | case7 last c d rest _ _ _ ih => rw [ih (List.forall_mem_cons.1 h).2, cells_cons c]

theorem width_of_separate (h : Separate cs) : width cs = cells cs :=
  widthBehind_of_separate h none

/-! ### Graphemes -/

namespace Grapheme

variable {g : Grapheme} {gs : List Grapheme}

def Plain (g : Grapheme) : Prop :=
  ∃ c marks, g.text = c :: marks ∧ g.width = charWidth c ∧ ∀ mark ∈ marks, charWidth mark = 0

theorem plain_start (c : Char) : (start c).Plain :=
  ⟨c, [], rfl, rfl, List.forall_mem_nil _⟩

theorem Plain.extend (h : g.Plain) (hc : charWidth c = 0) : (g.extend [c]).Plain := by
  obtain ⟨first, marks, htext, hwidth, hmarks⟩ := h
  refine ⟨first, marks ++ [c], by rw [Grapheme.extend, htext, List.cons_append], hwidth, ?_⟩
  exact List.forall_mem_append.2 ⟨hmarks, List.forall_mem_singleton.2 hc⟩

theorem Plain.cells_front (h : g.Plain) (hcs : cs <+: g.text) (hne : cs ≠ []) : cells cs = g.width := by
  obtain ⟨first, marks, htext, hwidth, hmarks⟩ := h
  obtain ⟨c, rest, rfl⟩ := List.exists_cons_of_ne_nil hne
  rw [htext, List.cons_prefix_cons] at hcs
  obtain ⟨rfl, hrest⟩ := hcs
  have hnone : cells rest = 0 := List.sum_eq_zero (List.forall_mem_map.2 fun d hd => hmarks d (hrest.subset hd))
  rw [cells_cons, hnone, hwidth, Nat.add_zero]

theorem Plain.text_ne_nil (h : g.Plain) : g.text ≠ [] := by
  obtain ⟨c, marks, htext, -⟩ := h
  rw [htext]
  exact List.cons_ne_nil c marks

theorem Plain.cells_text (h : g.Plain) : cells g.text = g.width :=
  h.cells_front (List.prefix_refl _) h.text_ne_nil

theorem Plain.width_le (h : g.Plain) : g.width ≤ 2 := by
  obtain ⟨c, marks, -, hwidth, -⟩ := h
  exact hwidth ▸ charWidth_le c

/-- A grapheme behind the first one starts with a character that takes cells. -/
theorem behind_of_separate (h : Separate cs) (hg : g.Plain) (last : Option Char) :
    ∃ first rest, behind g last cs = first :: rest ∧ first.Plain ∧ first.width = g.width ∧
      ∀ other ∈ rest, other.Plain ∧ 0 < other.width := by
  fun_induction behind g last cs with
  | case1 g => exact ⟨g, [], rfl, hg, rfl, List.forall_mem_nil _⟩
  | case2 => exact absurd rfl (h _ (List.mem_singleton_self _)).1
  | case3 => exact absurd rfl (h _ (List.mem_singleton_self _)).2
  | case4 g last c _ _ hzero => exact ⟨g.extend [c], [], rfl, hg.extend hzero, rfl, List.forall_mem_nil _⟩
  | case5 g last c _ _ hcells =>
    exact ⟨g, [start c], rfl, hg, rfl, List.forall_mem_singleton.2 ⟨plain_start c, Nat.pos_of_ne_zero hcells⟩⟩
  | case6 => exact absurd rfl (h _ List.mem_cons_self).1
  | case7 => exact absurd rfl (h _ List.mem_cons_self).2
  | case8 g last c d rest _ _ hzero ih => exact ih (List.forall_mem_cons.1 h).2 (hg.extend hzero)
  | case9 g last c d rest _ _ hcells ih =>
    obtain ⟨first, others, hbehind, hfirst, hwidth, hothers⟩ := ih (List.forall_mem_cons.1 h).2 (plain_start c)
    have hpos : 0 < first.width := hwidth ▸ Nat.pos_of_ne_zero hcells
    exact ⟨g, first :: others, by rw [hbehind], hg, rfl, List.forall_mem_cons.2 ⟨⟨hfirst, hpos⟩, hothers⟩⟩

theorem ofText_of_separate (h : Separate (c :: cs)) :
    ∃ first rest, ofText (c :: cs) = first :: rest ∧ first.Plain ∧ ∀ other ∈ rest, other.Plain ∧ 0 < other.width := by
  obtain ⟨first, rest, heq, hfirst, -, hrest⟩ :=
    behind_of_separate (List.forall_mem_cons.1 h).2 (plain_start c) (if charWidth c = 0 then none else some c)
  exact ⟨first, rest, heq, hfirst, hrest⟩

theorem plain_of_mem_ofText (h : Separate cs) (hg : g ∈ ofText cs) : g.Plain := by
  cases cs with
  | nil => cases hg
  | cons c cs =>
    obtain ⟨first, rest, heq, hfirst, hrest⟩ := ofText_of_separate h
    rw [heq] at hg
    rcases List.mem_cons.1 hg with rfl | hg
    · exact hfirst
    · exact (hrest g hg).1

/-! ### Cutting -/

theorem toText_cons (g : Grapheme) (gs : List Grapheme) : toText (g :: gs) = g.text ++ toText gs :=
  List.flatMap_cons

theorem ink_cut_of_blank (h : ink (toText gs) = []) (most : Nat) : ink (cut most gs) = [] := by
  fun_induction cut most gs with
  | case1 => rfl
  | case2 => rfl
  | case3 most g rest _ ih =>
    rw [toText_cons, ink_append, List.append_eq_nil_iff] at h
    rw [ink_append, h.1, ih h.2, List.append_nil]
  | case4 => rfl

theorem cells_trimEnd_cons (hg : g.Plain) (h : ink (toText (g :: gs)) ≠ []) :
    cells (trimEnd (toText (g :: gs))) = g.width + cells (trimEnd (toText gs)) := by
  rw [toText_cons, ink_append] at h
  rw [toText_cons, trimEnd_append]
  split
  next hnone =>
    have hink : ink g.text ≠ [] := fun hg => h (by rw [hg, hnone, List.append_nil])
    rw [hg.cells_front (trimEnd_isPrefix g.text) (trimEnd_eq_nil_iff.not.2 hink), trimEnd_eq_nil_iff.2 hnone]
    rfl
  · rw [cells_append, hg.cells_text]

theorem ink_cut_cons (hg : g.Plain) (hmost : 0 < most)
    (hrest : ∀ left, cells (trimEnd (toText gs)) ≤ left → ink (cut left gs) = ink (toText gs))
    (h : cells (trimEnd (toText (g :: gs))) ≤ most) : ink (cut most (g :: gs)) = ink (toText (g :: gs)) := by
  obtain ⟨most, rfl⟩ := Nat.exists_eq_add_one_of_ne_zero hmost.ne'
  by_cases hnone : ink (toText (g :: gs)) = []
  · rw [hnone]
    exact ink_cut_of_blank hnone _
  · rw [cells_trimEnd_cons hg hnone] at h
    rw [cut, if_pos (by omega), toText_cons, ink_append, ink_append, hrest _ (by omega)]

theorem ink_cut (hgs : ∀ g ∈ gs, g.Plain ∧ 0 < g.width) (h : cells (trimEnd (toText gs)) ≤ most) :
    ink (cut most gs) = ink (toText gs) := by
  induction gs generalizing most with
  | nil => exact ink_cut_of_blank rfl most
  | cons g gs ih =>
    obtain ⟨⟨hg, hwidth⟩, hgs⟩ := List.forall_mem_cons.1 hgs
    by_cases hnone : ink (toText (g :: gs)) = []
    · rw [hnone]
      exact ink_cut_of_blank hnone most
    · have hmost : 0 < most := by
        rw [cells_trimEnd_cons hg hnone] at h
        omega
      exact ink_cut_cons hg hmost (fun left hleft => ih hgs hleft) h

theorem ink_cut_ofText (h : Separate cs) (hmost : 0 < most) (hcs : cells (trimEnd cs) ≤ most) :
    ink (cut most (ofText cs)) = ink cs := by
  cases cs with
  | nil => exact ink_cut_of_blank rfl most
  | cons c cs =>
    obtain ⟨first, rest, heq, hfirst, hrest⟩ := ofText_of_separate h
    have htext : toText (first :: rest) = c :: cs := by rw [← heq, toText_ofText]
    rw [heq, ← htext]
    exact ink_cut_cons hfirst hmost (fun left hleft => ink_cut hrest hleft) (by rwa [htext])

/-! ### Folding -/

theorem fold_ne_nil (most used : Nat) (part : List Char) (gs : List Grapheme) : fold most used part gs ≠ [] := by
  fun_induction fold most used part gs with
  | case1 => exact List.cons_ne_nil _ _
  | case2 => exact List.cons_ne_nil _ _
  | case3 => assumption

theorem flatten_fold (most used : Nat) (part : List Char) (gs : List Grapheme) :
    (fold most used part gs).flatten = part ++ toText gs := by
  fun_induction fold most used part gs with
  | case1 => rfl
  | case2 used part g rest _ ih => rw [List.flatten_cons, ih, toText_cons]
  | case3 used part g rest _ ih => rw [ih, toText_cons, List.append_assoc]

theorem cells_of_mem_fold {part : List Char} (hgs : ∀ g ∈ gs, g.Plain) (hmost : 2 ≤ most) (hused : used = cells part)
    (hfits : used ≤ most) : ∀ p ∈ fold most used part gs, cells p ≤ most := by
  fun_induction fold most used part gs with
  | case1 => exact List.forall_mem_singleton.2 (hused ▸ hfits)
  | case2 used part g rest _ ih =>
    obtain ⟨hg, hrest⟩ := List.forall_mem_cons.1 hgs
    exact List.forall_mem_cons.2 ⟨hused ▸ hfits, ih hrest hg.cells_text.symm (hg.width_le.trans hmost)⟩
  | case3 used part g rest hle ih =>
    obtain ⟨hg, hrest⟩ := List.forall_mem_cons.1 hgs
    exact ih hrest (by rw [cells_append, hused, hg.cells_text]) (by omega)

end Grapheme

/-! ### Lines -/

theorem Separate.of_ink_eq (h : Separate back) (heq : ink cs = ink back) : Separate cs := by
  intro c hc
  by_contra hnot
  have hkept : isBlank c = false := by
    rw [not_and_or, not_not, not_not] at hnot
    rcases hnot with rfl | rfl <;> rfl
  have hmem : c ∈ ink cs := List.mem_filter.2 ⟨hc, by rw [hkept]; rfl⟩
  rw [heq] at hmem
  exact hnot (h c (List.mem_of_mem_filter hmem))

theorem Separate.part {part : List Char} (h : Separate parts.flatten) (hpart : part ∈ parts) : Separate part :=
  fun c hc => h c (List.mem_flatten.2 ⟨part, hpart, hc⟩)

theorem ink_fillTabs (column : Nat) (parts : List (List Char)) : ink (fillTabs column parts) = ink parts.flatten := by
  fun_induction fillTabs column parts with
  | case1 => rfl
  | case2 _ part => rw [List.flatten_singleton]
  | case3 column part rest hne reached stop ih =>
    have hblanks : ink (List.replicate (1 + stop - reached) ' ') = [] :=
      ink_eq_nil_iff.2 fun c hc => by rw [List.eq_of_mem_replicate hc]; rfl
    rw [ink_append, ink_append, ih, hblanks, List.append_nil, List.flatten_cons, ink_append]

theorem ink_expandTabs (line : List Char) : ink (expandTabs line) = ink line := by
  rw [expandTabs, ink_fillTabs, ink_splitAt rfl]

theorem wordsWithBlanks_of_blank {inBlanks : Bool} (h : ink (word ++ cs) = []) :
    wordsWithBlanks inBlanks word cs = [] := by
  fun_induction wordsWithBlanks inBlanks word cs with
  | case1 => rfl
  | case2 inBlanks word hword =>
    rw [List.append_nil] at h
    exact absurd (List.all_eq_true.2 (ink_eq_nil_iff.1 h)) hword
  | case3 inBlanks word c rest _ ih => exact ih (by rwa [List.append_assoc, List.singleton_append])
  | case4 word c rest hc => exact absurd (ink_eq_nil_iff.1 h c (List.mem_append_right word List.mem_cons_self)) hc
  | case5 inBlanks word c rest _ _ ih => exact ih (by rwa [List.append_assoc, List.singleton_append])

/-- Words with the blanks behind them are the whole text, unless it is blank. -/
theorem flatten_wordsWithBlanks {inBlanks : Bool} (h : ink (word ++ cs) ≠ []) :
    (wordsWithBlanks inBlanks word cs).flatten = word ++ cs := by
  fun_induction wordsWithBlanks inBlanks word cs with
  | case1 inBlanks word hblank =>
    rw [List.append_nil] at h
    exact absurd (ink_eq_nil_iff.2 (List.all_eq_true.1 hblank)) h
  | case2 => rw [List.flatten_singleton, List.append_nil]
  | case3 inBlanks word c rest _ ih =>
    rw [ih (by rwa [List.append_assoc, List.singleton_append]), List.append_assoc, List.singleton_append]
  | case4 word c rest hc ih =>
    have hrest : ink ([c] ++ rest) ≠ [] := fun hink => hc (ink_eq_nil_iff.1 hink c List.mem_cons_self)
    rw [List.flatten_cons, ih hrest, List.singleton_append]
  | case5 inBlanks word c rest _ _ ih =>
    rw [ih (by rwa [List.append_assoc, List.singleton_append]), List.append_assoc, List.singleton_append]

theorem flatten_fillLines (most used : Nat) (line : List Char) (words : List (List Char)) :
    (fillLines most .fold used line words).flatten = line ++ words.flatten := by
  have hstart (line : List Char) : (if line.isEmpty then [] else [line]).flatten = line := by
    cases line <;> simp
  induction words generalizing used line with
  | nil => rfl
  | cons word rest ih =>
    rw [fillLines]
    simp only
    split
    · rw [ih, List.append_assoc, List.flatten_cons]
    · split
      · rw [List.flatten_cons, ih, List.flatten_cons]
      · have hne := Grapheme.fold_ne_nil most 0 [] (Grapheme.ofText word)
        have hlast := List.dropLast_append_getLast hne
        have hfold := Grapheme.flatten_fold most 0 [] (Grapheme.ofText word)
        rw [← hlast, List.flatten_append, List.flatten_singleton, Grapheme.toText_ofText, List.nil_append] at hfold
        rw [List.flatten_append, List.flatten_append, hstart, ih, List.getLastD_eq_getLast?,
          List.getLast?_eq_getLast_of_ne_nil hne, Option.getD_some, List.append_assoc,
          ← List.append_assoc _ _ rest.flatten, hfold, List.flatten_cons]

/-- All that stands beyond the width of a line is blank. -/
theorem cells_of_mem_fillLines (hmost : 2 ≤ most) (hline : Separate line) (hwords : Separate words.flatten)
    (hused : used = cells line) (h : cells (trimEnd line) ≤ most) :
    ∀ l ∈ fillLines most .fold used line words, cells (trimEnd l) ≤ most := by
  induction words generalizing used line with
  | nil => exact List.forall_mem_singleton.2 h
  | cons word rest ih =>
    have hrest : Separate rest.flatten := hwords.subset (List.subset_append_right word rest.flatten)
    have hword : Separate word := hwords.part List.mem_cons_self
    have hwidth := width_of_separate hword
    rw [fillLines]
    simp only
    rw [width_of_separate hword.trimEnd]
    split
    next hfits =>
      refine ih (List.forall_mem_append.2 ⟨hline, hword⟩) hrest (by rw [cells_append, hused, hwidth]) ?_
      rw [trimEnd_append]
      split
      · exact h
      · rwa [cells_append, ← hused]
    · split
      next hfits => exact List.forall_mem_cons.2 ⟨h, ih hword hrest hwidth hfits⟩
      · have hne := Grapheme.fold_ne_nil most 0 [] (Grapheme.ofText word)
        have hflatten := Grapheme.flatten_fold most 0 [] (Grapheme.ofText word)
        rw [Grapheme.toText_ofText, List.nil_append] at hflatten
        have hparts : ∀ part ∈ Grapheme.fold most 0 [] (Grapheme.ofText word), Separate part ∧ cells part ≤ most :=
          fun part hpart => ⟨Separate.part (by rwa [hflatten]) hpart, by
            have hgs : ∀ g ∈ Grapheme.ofText word, g.Plain := fun g hg => Grapheme.plain_of_mem_ofText hword hg
            exact Grapheme.cells_of_mem_fold hgs hmost (rfl : 0 = cells []) (Nat.zero_le most) part hpart⟩
        refine List.forall_mem_append.2 ⟨List.forall_mem_append.2 ⟨?_, ?_⟩, ?_⟩
        · split
          · exact List.forall_mem_nil _
          · exact List.forall_mem_singleton.2 h
        · exact fun part hpart =>
            (cells_trimEnd_le part).trans (hparts part (List.mem_of_mem_dropLast hpart)).2
        · rw [List.getLastD_eq_getLast?, List.getLast?_eq_getLast_of_ne_nil hne, Option.getD_some]
          obtain ⟨hlast, hcells⟩ := hparts _ (List.getLast_mem hne)
          exact ih hlast hrest (width_of_separate hlast) ((cells_trimEnd_le _).trans hcells)

/-- Of a line only blanks at its end are taken away. -/
theorem exists_trimBeyond (most : Nat) (line : List Char) :
    ∃ blanks, trimBeyond most line = trimEnd line ++ blanks ∧ ink blanks = [] := by
  obtain ⟨blanks, hline, hblanks⟩ := exists_blanks line
  have hlength := congrArg List.length hline
  rw [List.length_append] at hlength
  refine ⟨blanks.take (line.length - min (line.length - (trimEnd line).length) (line.length - most) -
    (trimEnd line).length), ?_, ?_⟩
  · rw [trimBeyond]
    conv_lhs => rw [hline, List.take_append, ← hline]
    rw [List.take_of_length_le (by omega)]
  · exact ink_eq_nil_iff.2 fun c hc => ink_eq_nil_iff.1 hblanks c (List.mem_of_mem_take hc)

theorem ink_trimBeyond (most : Nat) (line : List Char) : ink (trimBeyond most line) = ink line := by
  obtain ⟨blanks, heq, hblanks⟩ := exists_trimBeyond most line
  rw [heq, ink_append, hblanks, List.append_nil, ink_trimEnd]

theorem trimEnd_trimBeyond (most : Nat) (line : List Char) : trimEnd (trimBeyond most line) = trimEnd line := by
  obtain ⟨blanks, heq, hblanks⟩ := exists_trimBeyond most line
  rw [heq, trimEnd_append, if_pos hblanks]
  exact List.rdropWhile_idempotent isBlank line

theorem ink_truncate (hline : Separate line) (hmost : 0 < most) (h : cells (trimEnd line) ≤ most) :
    ink (truncate most .fold line) = ink line := by
  rw [truncate]
  split
  · rfl
  · exact Grapheme.ink_cut_ofText hline hmost h

theorem wrapLine_of_blank (o : Overflow) (h : ink (expandTabs text) = []) :
    wrapLine most o text = [trimBeyond most (expandTabs text)] := by
  have hwords : wordsWithBlanks false [] (expandTabs text) = [] := wordsWithBlanks_of_blank h
  unfold wrapLine
  dsimp only
  rw [hwords]

theorem wrapLine_of_words (most : Nat) (o : Overflow) (h : ink (expandTabs text) ≠ []) :
    ∃ words, words.flatten = expandTabs text ∧
      wrapLine most o text = (fillLines most o 0 [] words).map (trimBeyond most) := by
  have hflatten : (wordsWithBlanks false [] (expandTabs text)).flatten = expandTabs text := flatten_wordsWithBlanks h
  refine ⟨_, hflatten, ?_⟩
  unfold wrapLine
  dsimp only
  split
  next hnone =>
    rw [hnone] at hflatten
    exact absurd (hflatten ▸ rfl) h
  · rfl

/-- The lines of a text have its characters but blanks, and only blanks stand beyond their width. -/
theorem wrapLine_of_separate (hmost : 2 ≤ most) (h : Separate text) :
    ink (wrapLine most .fold text).flatten = ink text ∧
      ∀ line ∈ wrapLine most .fold text, Separate line ∧ cells (trimEnd line) ≤ most := by
  have hexpanded : Separate (expandTabs text) := h.of_ink_eq (ink_expandTabs text)
  by_cases hblank : ink (expandTabs text) = []
  · rw [wrapLine_of_blank .fold hblank]
    constructor
    · rw [List.flatten_singleton, ink_trimBeyond, ink_expandTabs]
    · refine List.forall_mem_singleton.2 ⟨hexpanded.of_ink_eq (ink_trimBeyond most _), ?_⟩
      rw [trimEnd_trimBeyond, trimEnd_eq_nil_iff.2 hblank]
      exact Nat.zero_le most
  · obtain ⟨words, hwords, hwrap⟩ := wrapLine_of_words most .fold hblank
    have hflatten := flatten_fillLines most 0 [] words
    rw [List.nil_append, hwords] at hflatten
    rw [hwrap]
    constructor
    · rw [ink_flatten_congr fun line _ => ink_trimBeyond most line, hflatten, ink_expandTabs]
    · refine List.forall_mem_map.2 fun line hline => ⟨?_, ?_⟩
      · exact (Separate.part (hflatten ▸ hexpanded) hline).of_ink_eq (ink_trimBeyond most line)
      · rw [trimEnd_trimBeyond]
        exact cells_of_mem_fillLines hmost (List.forall_mem_nil _) (hwords ▸ hexpanded) rfl (Nat.zero_le most) line
          hline

/-- No character but blanks is lost, and none is moved. -/
theorem ink_wrap (hmost : 2 ≤ most) (h : Separate text) : ink (wrap most .fold text).flatten = ink text := by
  have hparts : Separate (Text.splitAt '\n' text).flatten := h.of_ink_eq (ink_splitAt rfl text)
  have hlines : ∀ line ∈ (Text.splitAt '\n' text).flatMap (wrapLine most .fold),
      Separate line ∧ cells (trimEnd line) ≤ most := by
    intro line hline
    obtain ⟨part, hpart, hline⟩ := List.mem_flatMap.1 hline
    exact (wrapLine_of_separate hmost (hparts.part hpart)).2 line hline
  have hwrapped : ink ((Text.splitAt '\n' text).map (List.flatten ∘ wrapLine most .fold)).flatten =
      ink (Text.splitAt '\n' text).flatten :=
    ink_flatten_congr fun part hpart => (wrapLine_of_separate hmost (hparts.part hpart)).1
  rw [wrap, ink_flatten_congr fun line hline =>
      ink_truncate (hlines line hline).1 (by omega) (hlines line hline).2,
    List.flatMap_def, List.flatten_flatten, List.map_map, hwrapped, ink_splitAt rfl]

/-! ### Short lines -/

/-- A text that fits on one line: it has neither line ends nor tabs, and no more characters and cells than the line. -/
structure FitsLine (most : Nat) (text : List Char) : Prop where
  lineEnd : '\n' ∉ text
  tab : '\t' ∉ text
  length_le : text.length ≤ most
  cells_le : cells text ≤ most

instance : Decidable (FitsLine most text) :=
  decidable_of_iff ('\n' ∉ text ∧ '\t' ∉ text ∧ text.length ≤ most ∧ cells text ≤ most)
    ⟨fun ⟨hend, htab, hlength, hcells⟩ => ⟨hend, htab, hlength, hcells⟩,
      fun h => ⟨h.lineEnd, h.tab, h.length_le, h.cells_le⟩⟩

theorem splitAt_of_notMem {mark : Char} (h : mark ∉ cs) : Text.splitAt mark cs = [cs] := by
  induction cs with
  | nil => rfl
  | cons c rest ih =>
    obtain ⟨hc, hrest⟩ := not_or.1 (List.mem_cons.not.1 h)
    rw [Text.splitAt, if_neg (Ne.symm hc), ih hrest]

theorem fillLines_of_fits (o : Overflow) (hline : Separate line) (hwords : Separate words.flatten)
    (hused : used = cells line) (h : used + cells words.flatten ≤ most) :
    fillLines most o used line words = [line ++ words.flatten] := by
  induction words generalizing used line with
  | nil =>
    rw [List.flatten_nil, List.append_nil]
    rfl
  | cons word rest ih =>
    have hword : Separate word := hwords.part List.mem_cons_self
    have hrest : Separate rest.flatten := hwords.subset (List.subset_append_right word rest.flatten)
    have htrim := cells_trimEnd_le word
    rw [List.flatten_cons, cells_append] at h
    unfold fillLines
    dsimp only
    rw [width_of_separate hword.trimEnd, width_of_separate hword, if_pos (by omega),
      ih (List.forall_mem_append.2 ⟨hline, hword⟩) hrest (by rw [cells_append, hused]) (by omega),
      List.append_assoc, List.flatten_cons]

theorem trimBeyond_of_length_le (h : line.length ≤ most) : trimBeyond most line = line := by
  rw [trimBeyond]
  exact List.take_of_length_le (by omega)

/-- A text that fits on one line is that line. -/
theorem wrap_of_fits (o : Overflow) (h : Separate text) (hfits : FitsLine most text) : wrap most o text = [text] := by
  have hexpanded : expandTabs text = text := by rw [expandTabs, splitAt_of_notMem hfits.tab, fillTabs]
  have hline : wrapLine most o text = [text] := by
    by_cases hblank : ink (expandTabs text) = []
    · rw [wrapLine_of_blank o hblank, hexpanded, trimBeyond_of_length_le hfits.length_le]
    · obtain ⟨words, hwords, hwrap⟩ := wrapLine_of_words most o hblank
      rw [hexpanded] at hwords
      have hfill : fillLines most o 0 [] words = [[] ++ words.flatten] := by
        refine fillLines_of_fits o (List.forall_mem_nil _) (hwords ▸ h) rfl ?_
        rw [hwords, Nat.zero_add]
        exact hfits.cells_le
      rw [hwrap, hfill, hwords, List.map_singleton, List.nil_append, trimBeyond_of_length_le hfits.length_le]
  have hwidth : width text ≤ most := width_of_separate h ▸ hfits.cells_le
  rw [wrap, splitAt_of_notMem hfits.lineEnd, List.flatMap_singleton, hline, List.map_singleton]
  unfold truncate
  rw [if_pos hwidth]

end GuardedAutomata.Terminal
