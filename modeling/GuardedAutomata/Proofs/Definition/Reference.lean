import GuardedAutomata.Definition.Environment

/-!
# References in text

What a text refers to is told by its form alone: the grammar of references is written down beside the reader,
and the two agree. Between braces the mark of a fallback is looked for in front of the mark of a demand, wherever
the two stand. So a demand whose message holds the mark of a fallback is no demand: the name runs up to the mark
within the message, and the rest of the message is the fallback.
-/

set_option autoImplicit false

namespace GuardedAutomata

namespace Reference

variable {a b : Char} {cs before after inside name : List Char} {s t : String} {r : Reference}

/-! ### Splitting at a pair -/

theorem splitAtPair_eq_none_iff : splitAtPair a b cs = none ↔ ¬ [a, b] <:+: cs := by
  fun_induction splitAtPair a b cs with
  | case1 => simp
  | case2 c => simp [List.infix_cons_iff, List.cons_prefix_cons]
  | case3 c d rest hcd =>
    obtain ⟨rfl, rfl⟩ := hcd
    have hpair : [c, d] <:+: c :: d :: rest := ⟨[], rest, rfl⟩
    simp [hpair]
  | case4 c d rest hcd ih =>
    have hfront : ¬ [a, b] <+: c :: d :: rest := by
      rw [List.cons_prefix_cons, List.cons_prefix_cons]
      rintro ⟨rfl, rfl, -⟩
      exact hcd ⟨rfl, rfl⟩
    have hrest : [a, b] <:+: c :: d :: rest ↔ [a, b] <:+: d :: rest :=
      List.infix_cons_iff.trans (or_iff_right hfront)
    rw [Option.map_eq_none_iff, ih, hrest]

/-- The two sides of the first place where a pair stands. -/
theorem splitAtPair_append (hab : a ≠ b) (h : ¬ [a, b] <:+: before) :
    splitAtPair a b (before ++ a :: b :: after) = some (before, after) := by
  induction before with
  | nil => simp [splitAtPair]
  | cons c before ih =>
    have hrest : splitAtPair a b (before ++ a :: b :: after) = some (before, after) :=
      ih fun hb => h (hb.trans (List.suffix_cons c _).isInfix)
    cases before with
    | nil =>
      have hca : ¬ (c = a ∧ a = b) := fun hc => hab hc.2
      rw [List.nil_append] at hrest
      simp [splitAtPair, hca]
    | cons d before =>
      have hcd : ¬ (c = a ∧ d = b) := by
        rintro ⟨rfl, rfl⟩
        exact h ⟨[], before, rfl⟩
      rw [List.cons_append] at hrest
      simp [splitAtPair, hcd, hrest]

theorem eq_of_splitAtPair (h : splitAtPair a b cs = some (before, after)) :
    cs = before ++ a :: b :: after ∧ ¬ [a, b] <:+: before := by
  fun_induction splitAtPair a b cs generalizing before with
  | case1 => cases h
  | case2 => cases h
  | case3 c d rest hcd =>
    obtain ⟨rfl, rfl⟩ := hcd
    cases h
    exact ⟨rfl, by simp⟩
  | case4 c d rest hcd ih =>
    obtain ⟨⟨front, back⟩, hfront, heq⟩ := Option.map_eq_some_iff.1 h
    cases heq
    obtain ⟨hrest, hfirst⟩ := ih hfront
    refine ⟨by rw [hrest, List.cons_append], fun hpair => ?_⟩
    rcases List.infix_cons_iff.1 hpair with hprefix | hinfix
    · obtain ⟨rfl, hb⟩ := List.cons_prefix_cons.1 hprefix
      cases front with
      | nil => simp at hb
      | cons x front =>
        obtain ⟨rfl, -⟩ := List.cons_prefix_cons.1 hb
        exact hcd ⟨rfl, (List.cons.inj hrest).1⟩
    · exact hfirst hinfix

theorem infix_of_notMem (ha : a ∉ before) (h : [a, b] <:+: before ++ cs) : [a, b] <:+: cs := by
  induction before with
  | nil => exact h
  | cons c before ih =>
    rw [List.mem_cons, not_or] at ha
    obtain ⟨hc, hrest⟩ := ha
    rcases List.infix_cons_iff.1 h with hprefix | hinfix
    · exact absurd (List.cons_prefix_cons.1 hprefix).1 hc
    · exact ih hrest hinfix

/-! ### The grammar -/

def braced (inside : List Char) : String :=
  String.ofList ('$' :: '{' :: (inside ++ ['}']))

def unbraced (name : List Char) : String :=
  String.ofList ('$' :: name)

inductive Written : String → Reference → Prop where
  | plain {s : String} (h : s.toList.head? ≠ some '$') : Written s plain
  | sign : Written (unbraced []) plain
  | bare {name : List Char} (hne : name ≠ []) (h : ∀ inside, name ≠ '{' :: (inside ++ ['}'])) :
    Written (unbraced name) (bare (String.ofList name))
  | defaulted {name fallback : List Char} (h : ¬ [':', '-'] <:+: name) :
    Written (braced (name ++ ':' :: '-' :: fallback)) (defaulted (String.ofList name) (String.ofList fallback))
  | demanded {name text : List Char} (h : ¬ [':', '?'] <:+: name)
    (hd : ¬ [':', '-'] <:+: name ++ ':' :: '?' :: text) :
    Written (braced (name ++ ':' :: '?' :: text)) (demanded (String.ofList name) (String.ofList text))
  | required {name : List Char} (h : ¬ [':', '?'] <:+: name) (hd : ¬ [':', '-'] <:+: name) :
    Written (braced name) (required (String.ofList name))

theorem ofText_braced (inside : List Char) : ofText (braced inside) = ofBraced inside := by
  simp [ofText, braced, ofChars]

theorem ofText_unbraced (hne : name ≠ []) (h : ∀ inside, name ≠ '{' :: (inside ++ ['}'])) :
    ofText (unbraced name) = bare (String.ofList name) := by
  obtain ⟨c, rest, rfl⟩ := List.exists_cons_of_ne_nil hne
  rw [ofText, unbraced, String.toList_ofList]
  by_cases hc : c = '{'
  · subst hc
    have hlast : rest.getLast? ≠ some '}' := fun hl => by
      obtain ⟨inside, rfl⟩ := List.getLast?_eq_some_iff.1 hl
      exact h inside rfl
    rw [ofChars, if_neg hlast]
  · unfold ofChars
    split <;> simp_all

/-- Every text has one form, and the reader tells it. -/
theorem Written.ofText_eq (h : Written s r) : ofText s = r := by
  cases h with
  | plain h =>
    unfold ofText ofChars
    split <;> simp_all
  | sign => rfl
  | bare hne h => exact ofText_unbraced hne h
  | defaulted h => rw [ofText_braced, ofBraced, splitAtPair_append (by decide) h]
  | demanded h hd =>
    rw [ofText_braced, ofBraced, splitAtPair_eq_none_iff.2 hd, splitAtPair_append (by decide) h]
  | required h hd => rw [ofText_braced, ofBraced, splitAtPair_eq_none_iff.2 hd, splitAtPair_eq_none_iff.2 h]

theorem written_ofBraced (inside : List Char) : Written (braced inside) (ofBraced inside) := by
  unfold ofBraced
  split
  next name fallback h =>
    obtain ⟨rfl, hfirst⟩ := eq_of_splitAtPair h
    exact .defaulted hfirst
  next h =>
    have hd := splitAtPair_eq_none_iff.1 h
    split
    next name text ht =>
      obtain ⟨rfl, hfirst⟩ := eq_of_splitAtPair ht
      exact .demanded hfirst hd
    next ht => exact .required (splitAtPair_eq_none_iff.1 ht) hd

theorem written_ofText (s : String) : Written s (ofText s) := by
  by_cases hs : s.toList.head? = some '$'
  · obtain ⟨name, hname⟩ := List.head?_eq_some_iff.1 hs
    obtain rfl : s = unbraced name := by rw [unbraced, ← hname, String.ofList_toList]
    by_cases hne : name = []
    · subst hne
      exact .sign
    · by_cases hb : ∃ inside, name = '{' :: (inside ++ ['}'])
      · obtain ⟨inside, rfl⟩ := hb
        change Written (braced inside) (ofText (braced inside))
        rw [ofText_braced]
        exact written_ofBraced inside
      · have hb' : ∀ inside, name ≠ '{' :: (inside ++ ['}']) := fun inside h => hb ⟨inside, h⟩
        rw [ofText_unbraced hne hb']
        exact .bare hne hb'
  · have hplain : Written s plain := .plain hs
    rwa [hplain.ofText_eq]

theorem ofText_eq_iff : ofText s = r ↔ Written s r :=
  ⟨fun h => h ▸ written_ofText s, Written.ofText_eq⟩

end Reference

namespace Environment

open Reference

variable {e : Environment} {s t : String} {f : Failure} {name text : List Char}

/-- What a text comes to, by its form. -/
def Means (e : Environment) (s t : String) : Prop :=
  ∃ r, Written s r ∧
    match r with
    | .plain => t = s
    | .required name => e.find? name = some t
    | .defaulted name fallback => t = (e.find? name).getD fallback
    | .demanded name _ => e.find? name = some t
    | .bare name => t = (e.find? name).getD s

def Lacks (e : Environment) (s : String) (f : Failure) : Prop :=
  ∃ r, Written s r ∧
    match r with
    | .required name => e.find? name = none ∧ f = .variableUnset name e.lead
    | .demanded name text => e.find? name = none ∧ f = .variableRequired name text
    | _ => False

theorem find?_eq (e : Environment) (name : String) :
    e.find? name = (e.settings.lookup name).or (e.settings.lookup (e.lead ++ name)) := by
  unfold find?
  cases e.settings.lookup name <;> rfl

theorem resolveText_eq_ok_iff : e.resolveText s = .ok t ↔ e.Means s t := by
  simp only [Means, ← ofText_eq_iff, exists_eq_left']
  unfold resolveText
  cases ofText s with
  | plain => simp [eq_comm]
  | required name => cases h : e.find? name <;> simp [h]
  | defaulted name fallback => simp [eq_comm]
  | demanded name text => cases h : e.find? name <;> simp [h]
  | bare name => simp [eq_comm]

theorem resolveText_eq_error_iff : e.resolveText s = .error f ↔ e.Lacks s f := by
  simp only [Lacks, ← ofText_eq_iff, exists_eq_left']
  unfold resolveText
  cases ofText s with
  | plain => simp
  | required name => cases h : e.find? name <;> simp [h, eq_comm]
  | defaulted name fallback => simp
  | demanded name text => cases h : e.find? name <;> simp [h, eq_comm]
  | bare name => simp

theorem Means.unique {u : String} (ht : e.Means s t) (hu : e.Means s u) : t = u :=
  Except.ok.inj ((resolveText_eq_ok_iff.2 ht).symm.trans (resolveText_eq_ok_iff.2 hu))

theorem means_of_plain (h : s.toList.head? ≠ some '$') : e.Means s s :=
  ⟨.plain, .plain h, rfl⟩

theorem Lacks.family? (h : e.Lacks s f) : f.family? = some .configuration := by
  obtain ⟨r, -, hr⟩ := h
  cases r with
  | required name =>
    obtain ⟨-, rfl⟩ := hr
    rfl
  | demanded name text =>
    obtain ⟨-, rfl⟩ := hr
    rfl
  | _ => cases hr

/-- A demand for a variable stands for what the variable is set to under its own name or else behind the lead, and
without either fails with its message, as long as the message does not hold the mark of a fallback. If it does,
what stands in front of the first such mark is taken for the name, what stands behind it is the fallback, and
nothing fails. -/
theorem resolveText_demand (e : Environment) (hname : ':' ∉ name) :
    (¬ [':', '-'] <:+: text →
      (∀ value, (e.settings.lookup (String.ofList name)).or (e.settings.lookup (e.lead ++ String.ofList name)) =
          some value → e.resolveText (braced (name ++ ':' :: '?' :: text)) = .ok value) ∧
        ((e.settings.lookup (String.ofList name)).or (e.settings.lookup (e.lead ++ String.ofList name)) = none →
          ∃ f, e.resolveText (braced (name ++ ':' :: '?' :: text)) = .error f ∧
            f.family? = some .configuration ∧ f.context = [("variable", .str (String.ofList name))] ∧
            f.message = "Required environment variable: " ++ String.ofList text)) ∧
      ∀ front fallback, text = front ++ ':' :: '-' :: fallback → ¬ [':', '-'] <:+: front →
        e.resolveText (braced (name ++ ':' :: '?' :: text)) =
          .ok ((e.find? (String.ofList (name ++ ':' :: '?' :: front))).getD (String.ofList fallback)) := by
  have hmark : ∀ c, ¬ [':', c] <:+: name := fun c h => hname (h.subset (by simp))
  have hd : ∀ {front : List Char}, ¬ [':', '-'] <:+: front → ¬ [':', '-'] <:+: name ++ ':' :: '?' :: front := by
    intro front hfront h
    rcases List.infix_cons_iff.1 (infix_of_notMem hname h) with hprefix | hinfix
    · simp [List.cons_prefix_cons] at hprefix
    · exact hfront (infix_of_notMem (by decide : ':' ∉ ['?']) hinfix)
  constructor
  · intro htext
    have hw : Written (braced (name ++ ':' :: '?' :: text))
        (.demanded (String.ofList name) (String.ofList text)) := .demanded (hmark '?') (hd htext)
    rw [← find?_eq]
    exact ⟨fun value hv => resolveText_eq_ok_iff.2 ⟨_, hw, hv⟩, fun hnone =>
      ⟨_, resolveText_eq_error_iff.2 ⟨_, hw, hnone, rfl⟩, rfl, rfl, rfl⟩⟩
  · rintro front fallback rfl hfront
    have hw : Written (braced ((name ++ ':' :: '?' :: front) ++ ':' :: '-' :: fallback))
        (.defaulted (String.ofList (name ++ ':' :: '?' :: front)) (String.ofList fallback)) := .defaulted (hd hfront)
    rw [resolveText_eq_ok_iff]
    rw [List.append_assoc] at hw
    exact ⟨_, hw, rfl⟩

/-- A variable that is set behind the lead only, and one that is not set. -/
theorem resolveText_demand_lead : ∃ e : Environment, e.settings = [("NFAKIT_HOST", "here")] ∧
    e.resolveText "$\x7bHOST:?set it\x7d" = .ok "here" ∧
    ∃ f, e.resolveText "$\x7bPORT:?set it\x7d" = .error f ∧ f.message = "Required environment variable: set it" := by
  let e : Environment := ⟨[("NFAKIT_HOST", "here")], "NFAKIT_"⟩
  have htext : ¬ [':', '-'] <:+: "set it".toList := by decide
  have hhost := ((resolveText_demand e (by decide : ':' ∉ "HOST".toList)).1 htext).1 "here" (by decide)
  obtain ⟨f, hf, -, -, hmessage⟩ :=
    ((resolveText_demand e (by decide : ':' ∉ "PORT".toList)).1 htext).2 (by decide)
  exact ⟨e, rfl, hhost, f, hf, hmessage⟩

/-- A demand with the mark of a fallback in its message comes to the rest of the message, whether the variable is set
or not. -/
theorem resolveText_demand_fallback :
    let demand := "$\x7bHOST:?set it, as in host:-port\x7d"
    (⟨[], "NFAKIT_"⟩ : Environment).resolveText demand = .ok "port" ∧
      (⟨[("HOST", "here")], "NFAKIT_"⟩ : Environment).resolveText demand = .ok "port" := by
  exact ⟨rfl, rfl⟩

end Environment

end GuardedAutomata
