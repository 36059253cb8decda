import GuardedAutomata.Terminal.Markup
import Mathlib

/-!
# Words that name styles

A word of small letters has a plainest name as a style, whether it names an attribute, a color or no style at all:
it is one word, stays as it is in lower case, and has no part that could fail to be read as a number.
-/

set_option autoImplicit false

namespace GuardedAutomata.Terminal.Markup

variable {word : List Char}

def IsWord (word : List Char) : Prop :=
  word ≠ [] ∧ word.all Char.isLower = true

instance : DecidablePred IsWord := fun _ => inferInstanceAs (Decidable (_ ∧ _))

theorem IsWord.isLower (h : IsWord word) : ∀ c ∈ word, c.isLower = true :=
  List.all_eq_true.1 h.2

theorem IsWord.notMem (h : IsWord word) {c : Char} (hc : c.isLower = false) : c ∉ word := fun hmem => by
  rw [h.isLower c hmem] at hc
  cases hc

theorem isLower_range {c : Char} (h : c.isLower = true) : 97 ≤ c.toNat ∧ c.toNat ≤ 122 := by
  rw [Char.isLower, Bool.and_eq_true, decide_eq_true_eq, decide_eq_true_eq] at h
  exact ⟨UInt32.le_iff_toNat_le.1 h.1, UInt32.le_iff_toNat_le.1 h.2⟩

theorem not_isBlank_of_isLower {c : Char} (h : c.isLower = true) : Text.isBlank c = false := by
  obtain ⟨hleast, hmost⟩ := isLower_range h
  rw [Text.isBlank, Text.isSpace]
  simp only [Bool.or_eq_false_iff, Bool.and_eq_false_iff, decide_eq_false_iff_not, beq_eq_false_iff_ne, ne_eq]
  omega

theorem lowerChar_of_isLower {c : Char} (h : c.isLower = true) (before behind : List Char) :
    Text.lowerChar before c behind = [c] := by
  obtain ⟨hleast, hmost⟩ := isLower_range h
  rw [Text.lowerChar, if_pos (by omega), Char.toLower, dif_neg]
  rintro ⟨-, hle⟩
  have : c.toNat ≤ 90 := UInt32.le_iff_toNat_le.1 hle
  omega

theorem lower_of_isWord (h : IsWord word) : Text.lower (String.ofList word) = String.ofList word := by
  have hfrom : ∀ before cs, (∀ c ∈ cs, c.isLower = true) → Text.lowerFrom before cs = cs := by
    intro before cs hcs
    induction cs generalizing before with
    | nil => rfl
    | cons c cs ih =>
      obtain ⟨hc, hrest⟩ := List.forall_mem_cons.1 hcs
      rw [Text.lowerFrom, lowerChar_of_isLower hc, ih _ hrest]
      rfl
  rw [Text.lower, String.toList_ofList, hfrom [] word h.isLower]

theorem words_of_isWord (h : IsWord word) : Text.words word = [word] := by
  have hfrom : ∀ read cs, (∀ c ∈ cs, c.isLower = true) → read ++ cs ≠ [] → Text.wordsFrom read cs = [read ++ cs] := by
    intro read cs hcs hne
    induction cs generalizing read with
    | nil =>
      rw [List.append_nil] at hne ⊢
      rw [Text.wordsFrom, if_neg (by simpa using hne)]
    | cons c cs ih =>
      obtain ⟨hc, hrest⟩ := List.forall_mem_cons.1 hcs
      rw [Text.wordsFrom, not_isBlank_of_isLower hc, if_neg Bool.false_ne_true, ih _ hrest (by simp), List.append_assoc]
      rfl
  exact hfrom [] word h.isLower h.1

theorem trimBlanks_of_isWord (h : IsWord word) : Text.trimBlanks word = word := by
  have hfront : ∀ cs : List Char, (∀ c ∈ cs, c.isLower = true) → cs.dropWhile Text.isBlank = cs := by
    intro cs hcs
    cases cs with
    | nil => rfl
    | cons c cs => rw [List.dropWhile_cons_of_neg (by simp [not_isBlank_of_isLower (hcs c (by simp))])]
  rw [Text.trimBlanks, hfront word h.isLower, hfront word.reverse (by simpa using h.isLower), List.reverse_reverse]

/-- Only a word with a parenthesis can be a color that cannot be read. -/
theorem exists_isColor (h : '(' ∉ word) : ∃ b, Color.isColor word = .ok b := by
  have hform : ∀ form : String, '(' ∈ form.toList → Color.inside? form word = none := by
    intro form hmem
    unfold Color.inside?
    rw [if_neg]
    rintro ⟨hfirst, -⟩
    exact h ((List.isPrefixOf_iff_prefix.1 hfirst).subset hmem)
  unfold Color.isColor
  split
  · exact ⟨_, rfl⟩
  · split
    · exact ⟨_, rfl⟩
    · rw [hform "color(" (by decide), hform "rgb(" (by decide)]
      exact ⟨_, rfl⟩

theorem exists_withColor? (h : IsWord word) (put : String → Style) :
    ∃ s, Style.withColor? (String.ofList word) put = .ok s := by
  obtain ⟨b, hb⟩ := exists_isColor (h.notMem (c := '(') rfl)
  unfold Style.withColor?
  simp only [lower_of_isWord h, String.toList_ofList, hb]
  cases b <;> exact ⟨_, rfl⟩

/-- A word of small letters has a plainest name as a style. -/
theorem exists_styleName (h : IsWord word) : ∃ name, styleName word = .ok name := by
  suffices hread : ∃ s, Style.ofText? word = .ok s by
    obtain ⟨s, hs⟩ := hread
    unfold styleName Style.plainName
    rw [hs]
    cases s <;> exact ⟨_, rfl⟩
  rw [Style.ofText?, words_of_isWord h, List.map_singleton]
  unfold Style.ofWords?
  rw [lower_of_isWord h]
  split
  case h_1 | h_2 | h_3 => exact ⟨_, rfl⟩
  case h_4 hrest | h_5 hrest | h_6 hrest => cases hrest
  case h_7 =>
    split
    · exact ⟨_, rfl⟩
    · obtain ⟨s, hs⟩ := exists_withColor? h fun c => { Style.blank with color := some c }
      rw [hs]
      cases s <;> exact ⟨_, rfl⟩

end GuardedAutomata.Terminal.Markup
