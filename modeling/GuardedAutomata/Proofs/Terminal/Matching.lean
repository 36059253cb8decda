import GuardedAutomata.Proofs.Terminal.Naming
import GuardedAutomata.Proofs.Terminal.Tag

/-!
# Matching tags

Markup is sound if its tags, met one after the other, find what they close among those that are open, and if the
styles they name can be read. Sound markup is shown, and other markup fails: it is the markup that fails and none
of the library's own operations.
-/

set_option autoImplicit false

namespace GuardedAutomata.Terminal

/-! ### Attempts to show -/

def Shows {α : Type} (condition : Prop) (attempt : Except Failure α) : Prop :=
  (condition → ∃ x, attempt = .ok x) ∧ (¬ condition → ∃ f, attempt = .error f ∧ f.family? = none)

namespace Shows

variable {α β : Type} {p q : Prop} {attempt : Except Failure α} {whole : Except Failure β}

theorem of_ok {x : α} (h : attempt = .ok x) (hp : p) : Shows p attempt :=
  ⟨fun _ => ⟨x, h⟩, fun hnot => absurd hp hnot⟩

theorem of_error {f : Failure} (h : attempt = .error f) (hf : f.family? = none) (hp : ¬ p) : Shows p attempt :=
  ⟨fun hyes => absurd hyes hp, fun _ => ⟨f, h, hf⟩⟩

theorem congr (h : Shows p attempt) (hpq : p ↔ q) : Shows q attempt :=
  ⟨fun hq => h.1 (hpq.2 hq), fun hq => h.2 fun hp => hq (hpq.1 hp)⟩

theorem followed (h : Shows p attempt) (hfailed : ∀ f, attempt = .error f → whole = .error f)
    (hnext : ∀ x, attempt = .ok x → Shows q whole) : Shows (p ∧ q) whole := by
  by_cases hp : p
  · obtain ⟨x, hx⟩ := h.1 hp
    exact (hnext x hx).congr (and_iff_right hp).symm
  · obtain ⟨f, hf, hfamily⟩ := h.2 hp
    exact of_error (hfailed f hf) hfamily fun hpq => hp hpq.1

theorem mapped (h : Shows p attempt) (hfailed : ∀ f, attempt = .error f → whole = .error f)
    (hnext : ∀ x, attempt = .ok x → ∃ y, whole = .ok y) : Shows p whole :=
  (h.followed hfailed fun x hx => ⟨fun _ => hnext x hx, fun hnot => absurd trivial hnot⟩).congr (and_iff_left trivial)

end Shows

namespace Markup

variable {cs ds inside : List Char} {opened now : List OpenTag} {f : Failure}

/-! ### Sound markup -/

def openAfter : List OpenTag → List (List Char) → Option (List OpenTag)
  | opened, [] => some opened
  | opened, inside :: rest =>
    match afterTag 0 inside opened with
    | .ok now => openAfter now rest
    | .error _ => none

def Styled (inside : List Char) : Prop :=
  closingName? inside = none → ∃ name, styleName (tagName inside) = .ok name ∧
    OpenTag.checkStyle ⟨name, tagSetting? inside⟩ = .ok ()

def Sound (cs : List Char) : Prop :=
  (openAfter [] (tags cs)).isSome ∧ ∀ inside ∈ tags cs, Styled inside

theorem sound_congr (h : tags cs = tags ds) : Sound cs ↔ Sound ds := by
  rw [Sound, Sound, h]

theorem sound_of_notMem (h : '[' ∉ cs) : Sound cs := by
  rw [Sound, tags_of_notMem h]
  simp [openAfter]

theorem openAfter_append (opened : List OpenTag) (xs ys : List (List Char)) :
    openAfter opened (xs ++ ys) = (openAfter opened xs).bind fun now => openAfter now ys := by
  induction xs generalizing opened with
  | nil => rfl
  | cons inside xs ih =>
    rw [List.cons_append, openAfter, openAfter]
    cases afterTag 0 inside opened with
    | ok now => exact ih now
    | error f => rfl

/-! ### Showing markup -/

theorem family?_of_failure? {t : OpenTag} (h : t.failure? = some f) : f.family? = none := by
  unfold OpenTag.failure? at h
  split at h
  · split at h
    · obtain ⟨_, -, rfl⟩ := Option.map_eq_some_iff.1 h
      rfl
    · cases h
  · cases h

theorem family?_of_styleName (h : styleName cs = .error f) : f.family? = none := by
  unfold styleName at h
  split at h <;> cases h
  rfl

theorem family?_of_closed {t : OpenTag} {others : List OpenTag} (h : closed t others = .error f) :
    f.family? = none := by
  unfold closed at h
  split at h
  next hf =>
    cases h
    exact family?_of_failure? hf
  · cases h

theorem family?_of_afterTag {position : Nat} (h : afterTag position inside opened = .error f) :
    f.family? = none := by
  unfold afterTag at h
  split at h
  · split at h
    · cases h
      rfl
    · exact family?_of_closed h
  · split at h
    next hname =>
      cases h
      exact family?_of_styleName hname
    · split at h
      · exact family?_of_closed h
      · cases h
        rfl
  · split at h
    next hname =>
      cases h
      exact family?_of_styleName hname
    · cases h

theorem family?_of_checkStyle {t : OpenTag} (h : t.checkStyle = .error f) : f.family? = none := by
  unfold OpenTag.checkStyle at h
  split at h
  · cases h
  · split at h
    · cases h
    · split at h <;> cases h
      rfl

theorem afterTag_eq_ok_iff (position : Nat) :
    afterTag position inside opened = .ok now ↔ afterTag 0 inside opened = .ok now := by
  unfold afterTag
  split
  · cases opened <;> simp
  · split
    · simp
    · split <;> simp
  · rfl

theorem shows_shown (opened : List OpenTag) (ps : List Piece) :
    Shows ((openAfter opened (insides ps)).isSome = true) (shown opened ps) := by
  induction ps generalizing opened with
  | nil => exact .of_ok rfl rfl
  | cons p ps ih =>
    cases p with
    | text cs =>
      rw [shown]
      exact (ih opened).mapped (fun f hf => by rw [hf]) fun text ht => ⟨_, by rw [ht]⟩
    | tag position inside =>
      rw [shown, insides, openAfter]
      cases ha : afterTag position inside opened with
      | ok now =>
        rw [(afterTag_eq_ok_iff position).1 ha]
        exact ih now
      | error f =>
        refine .of_error rfl (family?_of_afterTag ha) ?_
        cases h0 : afterTag 0 inside opened with
        | ok now => cases ha.symm.trans ((afterTag_eq_ok_iff position).2 h0)
        | error g => simp

theorem shows_checkStyles (ps : List Piece) : Shows (∀ inside ∈ insides ps, Styled inside) (checkStyles ps) := by
  induction ps with
  | nil => exact .of_ok rfl (by simp [insides])
  | cons p ps ih =>
    cases p with
    | text cs => exact ih
    | tag position inside =>
      rw [checkStyles, insides]
      refine Shows.congr ?_ List.forall_mem_cons.symm
      cases hc : closingName? inside with
      | some name => exact ih.congr (and_iff_right fun hopens => by cases hc.symm.trans hopens).symm
      | none =>
        cases hn : styleName (tagName inside) with
        | error f =>
          refine .of_error rfl (family?_of_styleName hn) fun hboth => ?_
          obtain ⟨name, hname, -⟩ := hboth.1 hc
          cases hn.symm.trans hname
        | ok name =>
          cases hk : OpenTag.checkStyle ⟨name, tagSetting? inside⟩ with
          | error f =>
            refine .of_error (by simp only [hk]) (family?_of_checkStyle hk) fun hboth => ?_
            obtain ⟨other, hother, hread⟩ := hboth.1 hc
            cases hn.symm.trans hother
            cases hk.symm.trans hread
          | ok u =>
            simp only [hk]
            exact ih.congr (and_iff_right fun _ => ⟨name, hn, hk⟩).symm

theorem shows_plain (cs : List Char) : Shows (Sound cs) (plain cs) := by
  unfold plain
  refine (shows_shown [] (pieces cs)).followed (fun f hf => by rw [hf]) fun text ht => ?_
  rw [ht]
  exact (shows_checkStyles (pieces cs)).mapped (fun f hf => by simp only [hf]) fun u hu => ⟨_, by simp only [hu]; rfl⟩

/-! ### Tags in pairs -/

theorem IsWord.isInner {word : List Char} (h : IsWord word) : ∀ c ∈ word, isInner c = true := by
  intro c hc
  have hlower := h.isLower c hc
  rw [Markup.isInner, Bool.and_eq_true, bne_iff_ne, bne_iff_ne]
  constructor <;>
    · rintro rfl
      cases hlower

theorem IsWord.isInside {word : List Char} (h : IsWord word) : IsInside word := by
  obtain ⟨c, rest, rfl⟩ := List.exists_cons_of_ne_nil h.1
  refine ⟨c, rest, rfl, ?_, fun d hd => h.isInner d (List.mem_cons_of_mem c hd)⟩
  have hlower := h.isLower c List.mem_cons_self
  rw [Char.isLower, Bool.and_eq_true, decide_eq_true_eq, decide_eq_true_eq] at hlower
  simp only [startsTag, Bool.or_eq_true, Bool.and_eq_true, decide_eq_true_eq]
  exact .inl (.inl (.inl hlower))

theorem IsWord.isInside_slash {word : List Char} (h : IsWord word) : IsInside ('/' :: word) :=
  ⟨'/', word, rfl, rfl, h.isInner⟩

def Balanced (cs : List Char) : Prop :=
  (∀ opened, openAfter opened (tags cs) = some opened) ∧ ∀ inside ∈ tags cs, Styled inside

theorem Balanced.sound (h : Balanced cs) : Sound cs :=
  ⟨by rw [h.1]; rfl, h.2⟩

theorem balanced_of_tags_eq_nil (h : tags cs = []) : Balanced cs := by
  rw [Balanced, h]
  exact ⟨fun _ => rfl, by simp⟩

theorem Balanced.append (hback : Detached ds) (hfirst : Balanced cs) (hsecond : Balanced ds) : Balanced (cs ++ ds) := by
  rw [Balanced, tags_append hback]
  refine ⟨fun opened => ?_, List.forall_mem_append.2 ⟨hfirst.2, hsecond.2⟩⟩
  rw [openAfter_append, hfirst.1, Option.bind_some, hsecond.1]

theorem closingName?_of_isWord {word : List Char} (h : IsWord word) : closingName? word = none := by
  unfold closingName?
  split
  next name hname => exact absurd (List.takeWhile_subset _ (hname ▸ List.mem_cons_self)) (h.notMem rfl)
  next => rfl

theorem tagName_of_isWord {word : List Char} (h : IsWord word) : tagName word = word := by
  rw [tagName, List.takeWhile_eq_self_iff]
  rintro c hc
  rw [bne_iff_ne]
  rintro rfl
  exact h.notMem rfl hc

theorem closingName?_slash {word : List Char} (h : IsWord word) : closingName? ('/' :: word) = some word := by
  have hname : tagName ('/' :: word) = '/' :: word := by
    rw [tagName, List.takeWhile_cons_of_pos (by decide), ← tagName, tagName_of_isWord h]
  rw [closingName?, hname]
  exact congrArg some (trimBlanks_of_isWord h)

/-- A word opens a tag, which the word behind a slash closes. -/
theorem exists_openTag {word : List Char} (h : IsWord word) : Styled word ∧ ∃ t, ∀ opened,
    afterTag 0 word opened = .ok (t :: opened) ∧ afterTag 0 ('/' :: word) (t :: opened) = .ok opened := by
  obtain ⟨name, hname⟩ := exists_styleName h
  have hsetting : tagSetting? word = none := by
    rw [tagSetting?, List.dropWhile_eq_nil_iff.2]
    rintro c hc
    rw [bne_iff_ne]
    rintro rfl
    exact h.notMem rfl hc
  constructor
  · intro _
    refine ⟨name, by rw [tagName_of_isWord h, hname], ?_⟩
    rw [hsetting]
    unfold OpenTag.checkStyle
    split <;> rfl
  · refine ⟨⟨name, none⟩, fun opened => ⟨?_, ?_⟩⟩ <;> unfold afterTag
    · rw [closingName?_of_isWord h, tagName_of_isWord h, hname, hsetting]
    · obtain ⟨c, rest, rfl⟩ := List.exists_cons_of_ne_nil h.1
      simp [closingName?_slash h, hname, closeLast?, closed, OpenTag.failure?]

theorem styled_slash {word : List Char} (h : IsWord word) : Styled ('/' :: word) := by
  intro hnone
  cases (closingName?_slash h).symm.trans hnone

theorem balanced_of_tags_eq_pair {word : List Char} (h : IsWord word) (htags : tags cs = [word, '/' :: word]) :
    Balanced cs := by
  obtain ⟨hstyled, t, ht⟩ := exists_openTag h
  rw [Balanced, htags]
  refine ⟨fun opened => ?_, List.forall_mem_cons.2 ⟨hstyled, List.forall_mem_singleton.2 (styled_slash h)⟩⟩
  simp only [openAfter, ht]

theorem sound_enclosed {word : List Char} (h : IsWord word) (hcs : '[' ∉ cs) :
    Sound ('[' :: (word ++ ']' :: (cs ++ '[' :: ('/' :: word ++ [']'])))) := by
  have hopening := tags_tag h.isInside (cs ++ '[' :: ('/' :: word ++ [']']))
  rcases tags_append_tag hcs h.isInside_slash [] with htags | htags <;> rw [htags] at hopening
  · obtain ⟨hstyled, t, ht⟩ := exists_openTag h
    rw [Sound, hopening, tags_of_notMem (by simp)]
    exact ⟨by simp [openAfter, ht], List.forall_mem_singleton.2 hstyled⟩
  · exact (balanced_of_tags_eq_pair h hopening).sound

theorem not_sound_slash {word : List Char} (h : IsWord word) : ¬ Sound ('[' :: ('/' :: word ++ [']'])) := by
  rintro ⟨hmatch, -⟩
  obtain ⟨name, hname⟩ := exists_styleName h
  have hcloses : ∃ f, afterTag 0 ('/' :: word) [] = .error f := by
    obtain ⟨c, rest, rfl⟩ := List.exists_cons_of_ne_nil h.1
    unfold afterTag
    exact ⟨_, by simp only [closingName?_slash h, hname, closeLast?]; rfl⟩
  obtain ⟨f, hf⟩ := hcloses
  rw [tags_tag h.isInside_slash, openAfter, hf] at hmatch
  cases hmatch

end Markup

end GuardedAutomata.Terminal
