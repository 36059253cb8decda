import GuardedAutomata.Proofs.Terminal.Escape
import GuardedAutomata.Proofs.Terminal.Matching
import GuardedAutomata.Proofs.Text.Delimiter
import Mathlib

/-!
# Labels

Text without brackets, backslashes and controls in which no pictograph is named is shown as it is, and so it is in front
of any markup, as long as no name can go on from it into the markup. A mark between a tag and the one that closes it is
shown in front of the rest without the tags. Escaped text may have brackets besides and is still shown as it was.
-/

set_option autoImplicit false

namespace GuardedAutomata.Terminal

/-! ### Names of pictographs -/

namespace Emoji

theorem replace_append {front : List Char} (h : ':' ∉ front) (back : List Char) :
    replace (front ++ back) = front ++ replace back := by
  unfold replace
  induction front with
  | nil => rfl
  | cons c front ih =>
    obtain ⟨hc, hfront⟩ := not_or.1 (List.mem_cons.not.1 h)
    rw [List.cons_append, replaceFrom, if_neg (Ne.symm hc), ih hfront, List.cons_append]

theorem replace_colon_blank (back : List Char) : replace (':' :: ' ' :: back) = ':' :: ' ' :: replace back := by
  have hread : Code.read? [] (' ' :: back) = none := rfl
  have hblank : replaceFrom 0 (' ' :: back) = ' ' :: replaceFrom 0 back :=
    replace_append (by decide : ':' ∉ [' ']) back
  rw [replace, replaceFrom, if_pos rfl, hread, hblank]
  rfl

end Emoji

namespace Markup

variable {front back cs text mark : List Char} {opened now : List OpenTag}

/-! ### Labels -/

def special : List Char :=
  ['[', '\\', ':', '\x07', '\x08', '\x0B', '\x0C', '\x0D']

def Ordinary (cs : List Char) : Prop :=
  ∀ c ∈ special, c ∉ cs

instance : DecidablePred Ordinary := fun _ => List.decidableBAll _ _

theorem isDigit_of_mem_special {c : Char} (h : c ∈ special) : c.isDigit = false := by
  have hall : special.all (!·.isDigit) = true := by decide
  simpa using List.all_eq_true.1 hall c h

theorem ordinary_toString (n : Nat) : Ordinary (toString n).toList :=
  fun _ hc => Text.notMem_toString (isDigit_of_mem_special hc) n

theorem Ordinary.append {s t : String} (hs : Ordinary s.toList) (ht : Ordinary t.toList) : Ordinary (s ++ t).toList :=
  fun c hc => Text.notMem_append.2 ⟨hs c hc, ht c hc⟩

structure IsLabel (front : List Char) : Prop where
  bracket : '[' ∉ front
  backslash : '\\' ∉ front
  kept : ∀ c ∈ front, isDropped c = false
  replace : ∀ back, Emoji.replace (front ++ back) = front ++ Emoji.replace back

theorem mem_special_of_isDropped {c : Char} (h : isDropped c = true) : c ∈ special := by
  simp only [isDropped, Bool.or_eq_true, beq_iff_eq] at h
  rcases h with (((rfl | rfl) | rfl) | rfl) | rfl <;> decide

theorem Ordinary.isLabel (h : Ordinary front) : IsLabel front where
  bracket := h '[' (by decide)
  backslash := h '\\' (by decide)
  kept := by
    intro c hc
    rw [Bool.eq_false_iff]
    exact fun hdropped => h c (mem_special_of_isDropped hdropped) hc
  replace := Emoji.replace_append (h ':' (by decide))

theorem isLabel_colon_blank : IsLabel [':', ' '] where
  bracket := by decide
  backslash := by decide
  kept := List.forall_mem_cons.2 ⟨rfl, List.forall_mem_singleton.2 rfl⟩
  replace := Emoji.replace_colon_blank

theorem IsLabel.append (h : IsLabel front) (hb : IsLabel back) : IsLabel (front ++ back) where
  bracket := by
    rw [List.mem_append, not_or]
    exact ⟨h.bracket, hb.bracket⟩
  backslash := by
    rw [List.mem_append, not_or]
    exact ⟨h.backslash, hb.backslash⟩
  kept := List.forall_mem_append.2 ⟨h.kept, hb.kept⟩
  replace := fun rest => by rw [List.append_assoc, h.replace, hb.replace, List.append_assoc]

theorem isLabel_colon {front : String} (h : Ordinary front.toList) : IsLabel (front ++ ": ").toList := by
  rw [String.toList_append]
  exact h.isLabel.append isLabel_colon_blank

theorem IsLabel.filter (h : IsLabel front) : front.filter (!isDropped ·) = front :=
  List.filter_eq_self.2 fun c hc => by rw [h.kept c hc]; rfl

theorem bareText_append (h : '\\' ∉ front) (back : List Char) :
    bareText (front ++ back) = front ++ bareText back := by
  induction front with
  | nil => rfl
  | cons c front ih =>
    obtain ⟨hc, hfront⟩ := not_or.1 (List.mem_cons.not.1 h)
    rw [List.cons_append, bareText, ih hfront, List.cons_append]
    rintro _ rfl
    exact absurd rfl hc

/-! ### What pieces show -/

theorem shown_text (ps : List Piece) :
    shown opened (.text cs :: ps) = (shown opened ps).map (Emoji.replace cs ++ ·) := by
  rw [shown]
  cases shown opened ps <;> rfl

theorem shown_text_eq_ok {ps : List Piece} : shown opened (.text cs :: ps) = .ok text ↔
    ∃ more, shown opened ps = .ok more ∧ text = Emoji.replace cs ++ more := by
  rw [shown_text]
  cases shown opened ps <;> simp [Except.map, eq_comm]

theorem shown_tag_eq_ok {ps : List Piece} {position : Nat} {inside : List Char} :
    shown opened (.tag position inside :: ps) = .ok text ↔
      ∃ now, afterTag 0 inside opened = .ok now ∧ shown now ps = .ok text := by
  rw [shown]
  simp only [← afterTag_eq_ok_iff position]
  cases afterTag position inside opened <;> simp

/-- A tag shows nothing of where it stands. -/
theorem shown_guardedPieces {ps qs : List Piece} {count : Nat} {inside : List Char}
    (hnext : ∀ now more, shown now ps = .ok more → shown now qs = .ok more) (position place : Nat)
    (h : shown opened (guardedPieces position count inside ++ ps) = .ok text) :
    shown opened (guardedPieces place count inside ++ qs) = .ok text := by
  unfold guardedPieces at h ⊢
  simp only [List.cons_append] at h ⊢
  rw [shown_text_eq_ok] at h ⊢
  obtain ⟨more, hmore, rfl⟩ := h
  refine ⟨more, ?_, rfl⟩
  split at hmore
  next hodd =>
    rw [if_pos hodd, List.singleton_append, shown_text_eq_ok]
    rw [List.singleton_append, shown_text_eq_ok] at hmore
    obtain ⟨last, hlast, rfl⟩ := hmore
    exact ⟨last, hnext _ _ hlast, rfl⟩
  next hodd =>
    rw [if_neg hodd, List.singleton_append, shown_tag_eq_ok]
    rw [List.singleton_append, shown_tag_eq_ok] at hmore
    obtain ⟨now, hnow, hrest⟩ := hmore
    exact ⟨now, hnow, hnext _ _ hrest⟩

/-- What is shown depends neither on where the reading starts nor on how long it may take, and a label that has been
read before is shown in front. -/
theorem shown_piecesFrom (hslash : '\\' ∉ front)
    (hreplace : ∀ back, Emoji.replace (front ++ back) = front ++ Emoji.replace back) {fuel other : Nat}
    (h : cs.length < fuel) (ho : cs.length < other) (position place : Nat) (acc : List Char)
    (hs : shown opened (piecesFrom fuel position acc cs) = .ok text) :
    shown opened (piecesFrom other place (acc ++ front.reverse) cs) = .ok (front ++ text) := by
  have hbare : ∀ read : List Char, Emoji.replace (bareText (read ++ front.reverse).reverse) =
      front ++ Emoji.replace (bareText read.reverse) := by
    intro read
    rw [List.reverse_append, List.reverse_reverse, bareText_append hslash, hreplace]
  -- Behind a tag nothing has been read yet, so the rest is read again with nothing in front.
  induction fuel generalizing other cs position place acc front opened text with
  | zero => omega
  | succ fuel ih =>
    obtain ⟨other, rfl⟩ : ∃ n, other = n + 1 := ⟨other - 1, by omega⟩
    cases cs with
    | nil =>
      rw [piecesFrom, shown_text_eq_ok] at hs ⊢
      obtain ⟨more, hmore, rfl⟩ := hs
      exact ⟨more, hmore, by rw [hbare, List.append_assoc]⟩
    | cons c rest =>
      rw [List.length_cons] at h ho
      rw [piecesFrom] at hs ⊢
      cases hg : guardedTag? (c :: rest) with
      | none =>
        rw [hg] at hs
        exact ih hslash hreplace (by omega) (by omega) _ _ (c :: acc) hs hbare
      | some guarded =>
        obtain ⟨count, inside⟩ := guarded
        have hlength : ((c :: rest).drop (count + inside.length + 2)).length ≤ rest.length := by
          rw [List.length_drop, List.length_cons]
          omega
        rw [hg] at hs
        simp only [shown_text_eq_ok] at hs ⊢
        obtain ⟨more, hmore, rfl⟩ := hs
        refine ⟨more, ?_, by rw [hbare, List.append_assoc]⟩
        refine shown_guardedPieces (fun now last hlast => ?_) _ _ hmore
        exact ih List.not_mem_nil (fun _ => rfl) (by omega) (by omega) _ _ [] hlast fun read => by simp

theorem piecesFrom_append (hbracket : '[' ∉ front) (hbackslash : '\\' ∉ front) (fuel position : Nat)
    (acc back : List Char) :
    piecesFrom (fuel + front.length) position acc (front ++ back) =
      piecesFrom fuel (position + front.length) (front.reverse ++ acc) back := by
  induction front generalizing position acc with
  | nil => rfl
  | cons c front ih =>
    obtain ⟨hopen, hbracket⟩ := not_or.1 (List.mem_cons.not.1 hbracket)
    obtain ⟨hslash, hbackslash⟩ := not_or.1 (List.mem_cons.not.1 hbackslash)
    rw [List.length_cons, ← Nat.add_assoc, List.cons_append, piecesFrom,
      guardedTag?_of_ne (Ne.symm hopen) (Ne.symm hslash)]
    simp only
    rw [ih hbracket hbackslash, List.reverse_cons, List.append_assoc, List.singleton_append, Nat.add_right_comm,
      Nat.add_assoc]

/-! ### Labels and tags in front of markup -/

def ShownAs (opened : List OpenTag) (cs text : List Char) : Prop :=
  shown opened (pieces cs) = .ok text

theorem ShownAs.label (hf : IsLabel front) (h : ShownAs opened back text) :
    ShownAs opened (front ++ back) (front ++ text) := by
  have hlength : (front ++ back).length + 1 = back.length + 1 + front.length := by
    rw [List.length_append]
    omega
  rw [ShownAs, pieces, hlength, piecesFrom_append hf.bracket hf.backslash, List.append_nil]
  exact shown_piecesFrom hf.backslash hf.replace (Nat.lt_succ_self _) (Nat.lt_succ_self _) 0 _ [] h

theorem ShownAs.tag {inside : List Char} (hi : IsInside inside) (ht : afterTag 0 inside opened = .ok now)
    (h : ShownAs now back text) : ShownAs opened ('[' :: (inside ++ ']' :: back)) text := by
  have hguarded : guardedTag? ('[' :: (inside ++ ']' :: back)) = some (0, inside) :=
    guardedTag?_eq_some_iff.2 ⟨hi, back, rfl⟩
  rw [ShownAs, pieces, piecesFrom, hguarded]
  refine shown_text_eq_ok.2 ⟨text, ?_, rfl⟩
  refine shown_text_eq_ok.2 ⟨text, shown_tag_eq_ok.2 ⟨now, ht, ?_⟩, rfl⟩
  have hdrop := drop_guarded 0 inside back
  rw [List.replicate_zero, List.nil_append] at hdrop
  rw [hdrop]
  refine shown_piecesFrom List.not_mem_nil (fun _ => rfl) (Nat.lt_succ_self _) ?_ 0 _ [] h
  rw [List.length_cons, List.length_append, List.length_cons]
  omega

theorem ShownAs.cons {c : Char} (hg : guardedTag? (c :: back) = none) (hslash : c ≠ '\\') (hcolon : c ≠ ':')
    (h : ShownAs opened back text) : ShownAs opened (c :: back) (c :: text) := by
  rw [ShownAs, pieces, piecesFrom, hg]
  exact shown_piecesFrom (by simpa using Ne.symm hslash : '\\' ∉ [c])
    (Emoji.replace_append (by simpa using Ne.symm hcolon)) (Nat.lt_succ_self _) (Nat.lt_succ_self _) 0 _ [] h

/-- A tag behind one backslash is text. -/
theorem ShownAs.guarded {inside : List Char} (hi : IsInside inside) (hcolon : ':' ∉ inside)
    (h : ShownAs opened back text) :
    ShownAs opened ('\\' :: '[' :: (inside ++ ']' :: back)) ('[' :: (inside ++ ']' :: text)) := by
  have hguarded : guardedTag? ('\\' :: '[' :: (inside ++ ']' :: back)) = some (1, inside) :=
    guardedTag?_eq_some_iff.2 ⟨hi, back, rfl⟩
  have htag : Emoji.replace ('[' :: (inside ++ [']'])) = '[' :: (inside ++ [']']) := by
    have hnone : ':' ∉ '[' :: (inside ++ [']']) := by simp [hcolon]
    have hreplace := Emoji.replace_append hnone []
    rwa [List.append_nil, show Emoji.replace [] = [] from rfl, List.append_nil] at hreplace
  rw [ShownAs, pieces, piecesFrom, hguarded]
  refine shown_text_eq_ok.2 ⟨'[' :: (inside ++ ']' :: text), ?_, rfl⟩
  refine shown_text_eq_ok.2 ⟨'[' :: (inside ++ ']' :: text), ?_, rfl⟩
  refine shown_text_eq_ok.2 ⟨text, ?_, by simp [htag]⟩
  have hdrop := drop_guarded 1 inside back
  rw [List.replicate_one, List.singleton_append] at hdrop
  rw [hdrop]
  refine shown_piecesFrom List.not_mem_nil (fun _ => rfl) (Nat.lt_succ_self _) ?_ 0 _ [] h
  rw [List.length_cons, List.length_cons, List.length_append, List.length_cons]
  omega

theorem plain_eq_ok : plain cs = .ok text ↔
    (∀ inside ∈ tags cs, Styled inside) ∧
      ∃ whole, ShownAs [] cs whole ∧ text = whole.filter (!isDropped ·) := by
  have hstyles : (∃ u, checkStyles (pieces cs) = .ok u) ↔ ∀ inside ∈ tags cs, Styled inside := by
    refine ⟨?_, (shows_checkStyles (pieces cs)).1⟩
    rintro ⟨u, hu⟩
    by_contra hnot
    obtain ⟨f, hf, -⟩ := (shows_checkStyles (pieces cs)).2 hnot
    cases hf.symm.trans hu
  rw [← hstyles, plain]
  unfold ShownAs
  cases shown [] (pieces cs) <;> cases checkStyles (pieces cs) <;> simp [eq_comm]

theorem plain_label (hf : IsLabel front) (h : plain back = .ok text) : plain (front ++ back) = .ok (front ++ text) := by
  obtain ⟨hstyled, whole, hwhole, rfl⟩ := plain_eq_ok.1 h
  refine plain_eq_ok.2 ⟨?_, front ++ whole, hwhole.label hf, ?_⟩
  · rwa [tags_plain_append hf.bracket hf.backslash]
  · rw [List.filter_append, hf.filter]

theorem plain_nil : plain [] = .ok [] :=
  rfl

theorem IsLabel.plain (hf : IsLabel front) : plain front = .ok front := by
  simpa using plain_label hf plain_nil

theorem plain_marked {word : List Char} (hw : IsWord word) (hm : IsLabel mark) (h : plain back = .ok text) :
    plain ('[' :: (word ++ ']' :: (mark ++ '[' :: ('/' :: word ++ ']' :: back)))) = .ok (mark ++ text) := by
  obtain ⟨hstyled, whole, hwhole, rfl⟩ := plain_eq_ok.1 h
  obtain ⟨hword, t, ht⟩ := exists_openTag hw
  refine plain_eq_ok.2 ⟨?_, mark ++ whole, ?_, ?_⟩
  · rw [tags_tag hw.isInside, tags_plain_append hm.bracket hm.backslash, tags_tag hw.isInside_slash]
    exact List.forall_mem_cons.2 ⟨hword, List.forall_mem_cons.2 ⟨styled_slash hw, hstyled⟩⟩
  · exact .tag hw.isInside (ht []).1 (.label hm (.tag hw.isInside_slash (ht []).2 hwhole))
  · rw [List.filter_append, hm.filter]

/-! ### Escaped text -/

def Bracketed (cs : List Char) : Prop :=
  ∀ c ∈ special, c ≠ '[' → c ∉ cs

instance : DecidablePred Bracketed := fun _ => List.decidableBAll _ _

theorem Bracketed.subset (h : Bracketed cs) (hback : back ⊆ cs) : Bracketed back :=
  fun c hc hne hmem => h c hc hne (hback hmem)

theorem shownAs_escapeTags {fuel : Nat} (h : cs.length < fuel) (hcs : Bracketed cs) :
    ShownAs opened (escapeTags fuel cs) cs := by
  induction cs using tag_induction generalizing fuel with
  | nil => cases fuel <;> rfl
  | plain c rest hg ih =>
    obtain ⟨fuel, rfl⟩ := Nat.exists_eq_add_one_of_ne_zero (Nat.ne_zero_of_lt h)
    rw [List.length_cons] at h
    have hslash : c ≠ '\\' := by
      rintro rfl
      exact hcs '\\' (by decide) (by decide) List.mem_cons_self
    have hcolon : c ≠ ':' := by
      rintro rfl
      exact hcs ':' (by decide) (by decide) List.mem_cons_self
    rw [escapeTags_of_none hg]
    exact .cons (guardedTag?_escapeTags hg (by omega)) hslash hcolon
      (ih (by omega) (hcs.subset (List.subset_cons_self c rest)))
  | guarded count inside rest hinside ih =>
    obtain ⟨fuel, rfl⟩ := Nat.exists_eq_add_one_of_ne_zero (Nat.ne_zero_of_lt h)
    have hlength : rest.length < fuel := by
      simp at h
      omega
    obtain rfl : count = 0 := by
      by_contra hcount
      exact hcs '\\' (by decide) (by decide) (List.mem_append_left _ (by simpa using hcount))
    rw [escapeTags_guarded hinside]
    refine .guarded hinside (fun hmem => hcs ':' (by decide) (by decide) (by simp [hmem])) (ih hlength ?_)
    exact hcs.subset fun d hd => by simp [hd]

/-- Escaped text is shown as it was. -/
theorem plain_escape (h : Bracketed cs) : plain (escape cs) = .ok cs := by
  have hkept : cs.filter (!isDropped ·) = cs := by
    refine List.filter_eq_self.2 fun c hc => ?_
    rw [Bool.not_eq_true', Bool.eq_false_iff]
    intro hdropped
    refine h c (mem_special_of_isDropped hdropped) ?_ hc
    rintro rfl
    cases hdropped
  refine plain_eq_ok.2 ⟨?_, cs, ?_, hkept.symm⟩
  · rw [tags_escape]
    exact List.forall_mem_nil _
  · rw [escape_of_notMem (h '\\' (by decide) (by decide))]
    exact shownAs_escapeTags (Nat.lt_succ_self _) h

/-- Of escaped text without brackets and backslashes pictographs are shown where it has their names, and no controls. -/
theorem plain_escape_of_notMem (hopen : '[' ∉ cs) (hslash : '\\' ∉ cs) :
    plain (escape cs) = .ok ((Emoji.replace cs).filter (!isDropped ·)) := by
  have hbare : bareText cs = cs := by simpa [bareText] using bareText_append hslash []
  have hpieces : pieces cs = [.text cs] := by
    have happend := piecesFrom_append hopen hslash 1 0 [] []
    rw [List.append_nil, List.append_nil, Nat.add_comm] at happend
    rw [pieces, happend, piecesFrom, List.reverse_reverse, hbare]
  rw [escape_of_notMem hslash, escapeTags_of_notMem hopen]
  refine plain_eq_ok.2 ⟨?_, Emoji.replace cs, ?_, rfl⟩
  · rw [tags_of_notMem hopen]
    exact List.forall_mem_nil _
  · rw [ShownAs, hpieces, shown, shown]
    exact congrArg _ (List.append_nil _)

end Markup

end GuardedAutomata.Terminal
