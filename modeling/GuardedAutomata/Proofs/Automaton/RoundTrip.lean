import GuardedAutomata.Proofs.Automaton.Reading
import GuardedAutomata.Proofs.Definition.Rebuilt
import Mathlib

/-!
# The dictionary form and back

An automaton that is written to its dictionary form and read back is the same automaton, restarted: it has
the same states, the same edges in the same order and the same marker sets, and so accepts the same words.
What is written can be read in all cases but one: a symbol store records a wrapped nothing as a predicate,
which is written as if there were no guard. Writing fails at a marker that has no text to be sorted by.
-/

set_option autoImplicit false

namespace GuardedAutomata.Automaton

variable {a : Automaton} {k : StoreKind} {name : String}

def reread (a : Automaton) (name : String) : Automaton :=
  ⟨.str name, a.factory, a.stores, (List.range a.count).map a.sortedMarkers, a.reset.active⟩

theorem ofDict_writtenFields (ha : a.WellFormed) (hh : a.HashableMarkers) (hname : Scalar.text a.name = .ok name)
    (hk : a.factory = .ofKind k) (hb : k.BuiltIn) (hw : a.Writable) (hg : a.Guarded) :
    ofDict (.dict (a.writtenFields k)) = .ok (a.reread name) := by
  have hread : Definition.load none (.dict (a.writtenFields k)) = .ok (a.definition k name) :=
    ofValue_written ha hh hname hg
  rw [ofDict, hread]
  exact build_definition name ha hh hk hb hw

structure Rereads (a : Automaton) (k : StoreKind) (name : String) : Prop where
  kind : a.factory = .ofKind k
  builtIn : k.BuiltIn
  name : Scalar.text a.name = .ok name
  writable : a.Writable
  guarded : a.Guarded

theorem rereads_of_ofDict {b : Automaton} (ha : a.WellFormed) (hh : a.HashableMarkers) {v : Value}
    (hv : a.toDict = .ok v) (hb : ofDict v = .ok b) : ∃ k name, a.Rereads k name := by
  cases hk : a.factory with
  | foreign serial =>
    rw [toDict, hk] at hv
    cases hv
  | ofKind k =>
    by_cases hempty : k.name.isEmpty = true
    · rw [toDict, hk, Factory.kindName?, if_pos hempty] at hv
      cases hv
    · obtain ⟨hw, rfl⟩ := (toDict_eq_ok hk (Bool.eq_false_iff.2 hempty)).1 hv
      rw [ofDict] at hb
      split at hb
      · cases hb
      next d hd =>
        have hd : Definition.ofValue (.dict (a.writtenFields k)) = .ok d := hd
        obtain ⟨name, hname⟩ : ∃ name, Scalar.text a.name = .ok name := by
          obtain ⟨name, description, store, states, transitions, fragments⟩ := d
          obtain ⟨hwritten, -⟩ := Definition.ofValue_eq_ok.1 hd
          obtain ⟨_, _, _, _, hentries, hname, -⟩ := hwritten
          cases hentries
          exact ⟨name, hname⟩
        have hg : a.Guarded := by
          intro i e he hnull
          obtain ⟨issues, hissues⟩ := ofValue_refused (k := k) he hnull
          rw [hissues] at hd
          cases hd
        have hread := ofValue_written (k := k) ha hh hname hg
        rw [hread] at hd
        cases hd
        -- Building looks the kind up under its name.
        refine ⟨k, name, hk, ?_, hname, hw, hg⟩
        cases k with
        | symbol => exact .inl rfl
        | range => exact .inr (.inl rfl)
        | callable => exact .inr (.inr rfl)
        | upper => cases hb
        | unnamed => exact absurd rfl hempty

/-- An automaton that is read from the dictionary form of another one is that one, restarted. -/
theorem ofDict_toDict_iff {b : Automaton} (ha : a.WellFormed) (hh : a.HashableMarkers) :
    (∃ v, a.toDict = .ok v ∧ ofDict v = .ok b) ↔ ∃ k name, a.Rereads k name ∧ b = a.reread name := by
  have hreread : ∀ k name, a.Rereads k name → a.toDict = .ok (.dict (a.writtenFields k)) ∧
      ofDict (.dict (a.writtenFields k)) = .ok (a.reread name) := fun k name h =>
    ⟨(toDict_eq_ok h.kind (name_builtIn h.builtIn)).2 ⟨h.writable, rfl⟩,
      ofDict_writtenFields ha hh h.name h.kind h.builtIn h.writable h.guarded⟩
  constructor
  · rintro ⟨v, hv, hb⟩
    obtain ⟨k, name, h⟩ := rereads_of_ofDict ha hh hv hb
    obtain ⟨hwritten, hread⟩ := hreread k name h
    rw [hwritten] at hv
    cases hv
    rw [hread] at hb
    exact ⟨k, name, h, (Except.ok.inj hb).symm⟩
  · rintro ⟨k, name, h, rfl⟩
    exact ⟨_, hreread k name h⟩

/-- A range store records nothing but ranges. -/
theorem WellFormed.exists_range (ha : a.WellFormed) (hk : a.factory.storeKind = .range) {i : Nat} {e : Edge}
    (he : e ∈ a.edgesOf i) {p : Value} (hp : e.guard = .predicate p) : ∃ low high, p = .range low high := by
  unfold edgesOf at he
  cases hs : a.stores[i]? with
  | none => simp [hs] at he
  | some s =>
    have hfits := ha.fits_of_getElem hs
    rw [hs] at he
    have hsettled := hfits.sound.settled e he
    rw [hfits.kind, hk, hp] at hsettled
    obtain ⟨low, high, h, _⟩ := Range.made_of_parse hsettled.coerce
    exact ⟨low, high, h⟩

/-- Every edge of a symbol or range store can be written, and so can every epsilon edge. -/
theorem WellFormed.writable (ha : a.WellFormed) (hk : a.factory = .ofKind k) (hb : k.BuiltIn)
    (hc : k = .callable → ∀ i, ∀ e ∈ a.edgesOf i, e.guard = .epsilon) : a.Writable := by
  have hstore : a.factory.storeKind = k := by simp [hk, Factory.storeKind]
  intro i _ e he p hp
  rw [hstore]
  rcases hb with rfl | rfl | rfl
  · rfl
  · obtain ⟨low, high, rfl⟩ := ha.exists_range hstore he hp
    rfl
  · rw [hc rfl i e he] at hp
    cases hp

theorem WellFormed.markersAt_reread (ha : a.WellFormed) (name : String) (i : Nat) :
    ((a.reread name).markersAt i).Perm (a.markersAt i) := by
  by_cases hi : i < a.count
  · simpa [reread, markersAt, sortedMarkers, hi] using Text.sortByKey_perm Value.text (a.markersAt i)
  · have hnone : a.markersAt i = [] := of_not_not fun hne => hi (ha.lt_count_of_markersAt hne)
    rw [hnone]
    simp [reread, markersAt, hi]

section Acceptance

variable [TestFunctions] {b : Automaton} {w : List Value}

/-- Whether a word is accepted depends on where markers are, not on what they are. -/
theorem feedFrom_congr (hs : b.stores = a.stores) (hactive : b.active = a.active)
    (hm : ∀ i, b.markersAt i = [] ↔ a.markersAt i = []) (consumed : Nat) :
    (feedFrom consumed w b).2.map Feed.accepted = (feedFrom consumed w a).2.map Feed.accepted := by
  induction w generalizing a b consumed with
  | nil =>
    have hnil : b.currentMarkers = [] ↔ a.currentMarkers = [] := by
      simp [currentMarkers, joinMarkers_eq_nil, hactive, hm]
    have hempty : b.currentMarkers.isEmpty = a.currentMarkers.isEmpty := by
      rw [Bool.eq_iff_iff, List.isEmpty_iff, List.isEmpty_iff, hnil]
    simp [feedFrom, Except.map, Feed.accepted, hempty]
  | cons v w ih =>
    by_cases hv : v = .epsilon
    · subst hv
      rfl
    have htargets : b.targetsFrom v b.active.ids = a.targetsFrom v a.active.ids := by
      rw [hactive]
      exact targetsFrom_congr (fun i => by rw [targetsOf, targetsOf, hs]) _
    cases hts : a.targetsFrom v a.active.ids with
    | error cause =>
      rw [feedFrom_error hv hts, feedFrom_error hv (htargets.trans hts)]
    | ok ts =>
      cases ts with
      | nil =>
        rw [feedFrom_rejected hv hts, feedFrom_rejected hv (htargets.trans hts)]
        rfl
      | cons t ts =>
        rw [feedFrom_advanced hv hts, feedFrom_advanced hv (htargets.trans hts)]
        exact ih (a := { a with active := a.closure _ }) (b := { b with active := b.closure _ }) hs
          (closure_congr hs _) hm (consumed + 1)

theorem accepts_congr (hs : b.stores = a.stores) (hm : ∀ i, b.markersAt i = [] ↔ a.markersAt i = [])
    (values : Value) : (b.accepts values).2 = (a.accepts values).2 := by
  cases hvs : values.elements with
  | error cause => simp [accepts, feed, hvs]
  | ok w =>
    rw [snd_accepts hvs, snd_accepts hvs]
    exact feedFrom_congr (a := { a with active := a.reset.active }) (b := { b with active := b.reset.active }) hs
      (active_reset_congr hs) hm 0

end Acceptance

variable [TestFunctions]

omit [TestFunctions] in
/-- States whose edges can be written are written up to a marker without a text. -/
theorem checkStates_of_writable {is : List Nat}
    (hw : ∀ i ∈ is, ∀ e ∈ a.edgesOf i, e.Writable a.factory.storeKind) :
    ((∀ i ∈ is, ∀ m ∈ a.markersAt i, m.hasText = true) → a.checkStates is = .ok ()) ∧
      (∀ i ∈ is, ∀ m ∈ a.markersAt i, m.hasText = false → a.checkStates is = .error (.fault (.longInteger none))) := by
  induction is with
  | nil => exact ⟨fun _ => rfl, nofun⟩
  | cons j is ih =>
    obtain ⟨hj, his⟩ := List.forall_mem_cons.1 hw
    obtain ⟨entries, hentries⟩ : ∃ entries, edgeEntries a.factory.storeKind j (a.edgesOf j) = .ok entries :=
      ⟨_, edgeEntries_eq_ok.2 ⟨hj, rfl⟩⟩
    cases ht : Value.allHaveText (a.markersAt j) with
    | true =>
      have hstep : a.checkStates (j :: is) = a.checkStates is := by
        rw [checkStates, Value.checkTexts, if_pos ht, hentries]
      rw [hstep]
      refine ⟨fun hall => (ih his).1 (List.forall_mem_cons.1 hall).2, List.forall_mem_cons.2 ⟨fun m hm hnone => ?_, ?_⟩⟩
      · rw [Value.allHaveText_iff.1 ht m hm] at hnone
        cases hnone
      · exact (ih his).2
    | false =>
      have hstep : a.checkStates (j :: is) = .error (.fault (.longInteger none)) := by
        rw [checkStates, Value.checkTexts, if_neg (Bool.eq_false_iff.1 ht)]
      refine ⟨fun hall => ?_, fun _ _ _ _ _ => hstep⟩
      rw [Value.allHaveText_iff.2 (List.forall_mem_cons.1 hall).1] at ht
      cases ht

/-- An automaton with a text as its name and stores of a built-in kind, all guards of which are epsilon if
they are of the callable kind, is written and read back as itself, restarted, if all its markers have texts: its states,
edges and marker sets are the same, and so are the words it accepts. Only a wrapped nothing must not guard an edge. A
marker without a text is a fault, and nothing is written. -/
theorem ofDict_writeDict (ha : a.Reachable) (hname : a.name = .str name) (hk : a.factory = .ofKind k)
    (hb : k.BuiltIn) (hc : k = .callable → ∀ i, ∀ e ∈ a.edgesOf i, e.guard = .epsilon) (hg : a.Guarded) :
    ((∀ i, ∀ m ∈ a.markersAt i, m.hasText = true) →
      ∃ v b, a.writeDict = .ok v ∧ ofDict v = .ok b ∧ b.name = a.name ∧ b.factory = a.factory ∧
        b.count = a.count ∧ (∀ i, b.edgesOf i = a.edgesOf i) ∧ (∀ i, (b.markersAt i).Perm (a.markersAt i)) ∧
        b.active = a.reset.active ∧ ∀ values, (b.accepts values).2 = (a.accepts values).2) ∧
    ∀ i, ∀ m ∈ a.markersAt i, m.hasText = false → a.writeDict = .error (.fault (.longInteger none)) := by
  have hw := ha.wellFormed.writable hk hb hc
  have hkind : a.factory.kindName? = some k.name := by simp [hk, Factory.kindName?, name_builtIn hb]
  have hcheck := checkStates_of_writable fun i hi => hw i (List.mem_range.1 hi)
  constructor
  · intro hm
    have hperm := ha.wellFormed.markersAt_reread name
    have hwritten : a.writeDict = .ok (.dict (a.writtenFields k)) := by
      rw [writeDict, hkind, hcheck.1 fun i _ => hm i]
      exact (toDict_eq_ok hk (name_builtIn hb)).2 ⟨hw, rfl⟩
    have hread := ofDict_writtenFields ha.wellFormed ha.hashableMarkers (congrArg Scalar.text hname) hk hb hw hg
    refine ⟨_, _, hwritten, hread, hname.symm, rfl, rfl, fun _ => rfl, hperm, rfl, accepts_congr rfl fun i => ?_⟩
    exact ⟨fun h => List.Perm.nil_eq (h ▸ hperm i) |>.symm, fun h => List.Perm.eq_nil (h ▸ hperm i)⟩
  · intro i m hm hnone
    have hi : i < a.count := ha.wellFormed.lt_count_of_markersAt (List.ne_nil_of_mem hm)
    rw [writeDict, hkind, hcheck.2 i (List.mem_range.2 hi) m hm hnone]

omit [TestFunctions] in
/-- A range of letters and an epsilon edge back, with a marker. -/
theorem ofDict_writeDict_letters : ∃ a : Automaton, @Reachable Matcher.catalogue a ∧
    a.edgesOf 0 = [⟨.predicate (.range (.str "a") (.str "f")), 1⟩] ∧ ∃ v b, a.writeDict = .ok v ∧
      ofDict v = .ok b ∧ b.edgesOf 0 = a.edgesOf 0 ∧ b.edgesOf 1 = a.edgesOf 1 ∧
      (b.markersAt 1).Perm [.str "m"] ∧ b.active = .ofList [0] := by
  let _ := Matcher.catalogue
  let cs : List (String × Command) := [("a", .new (.ofKind .range) (.str "letters")), ("a", .newStates 2),
    ("a", .newTransition (.int 0) (.int 1) (.str "a-f")), ("a", .newTransition (.int 1) (.int 0) .epsilon),
    ("a", .mark (.int 1) (.str "m"))]
  let letters : Value := .range (.str "a") (.str "f")
  let a : Automaton := ⟨.str "letters", .ofKind .range,
    [⟨.range, [⟨.predicate letters, 1⟩], [], .entries [(letters, 1)]⟩, ⟨.range, [⟨.epsilon, 0⟩], [0], .entries []⟩],
    [[], [.str "m"]], .ofList [0]⟩
  have ha : (Session.run cs .empty).automaton? "a" = some a := by cbv
  have hg : a.Guarded := by
    intro i e he
    rcases i with _ | _ | i <;> simp_all [edgesOf, a, letters]
  have hm : ∀ i, ∀ m ∈ a.markersAt i, m.hasText = true := by
    intro i m hm
    rcases i with _ | _ | i <;> simp_all [markersAt, a, Value.hasText]
  obtain ⟨v, b, hwritten, hread, _, _, _, hedges, hmarkers, hactive, _⟩ :=
    (ofDict_writeDict ⟨cs, "a", ha⟩ rfl rfl (.inr (.inl rfl)) (fun h => by cases h) hg).1 hm
  exact ⟨a, ⟨cs, "a", ha⟩, rfl, v, b, hwritten, hread, hedges 0, hedges 1, hmarkers 1, hactive⟩

def numbered (n : Int) : Automaton :=
  ⟨.str "m", .ofKind .symbol, [.empty .symbol], [[.int n]], .ofList [0]⟩

omit [TestFunctions] in
theorem reachable_numbered (n : Int) : @Reachable Matcher.catalogue (numbered n) :=
  ⟨[("a", .new (.ofKind .symbol) (.str "m")), ("a", .newState), ("a", .mark (.int 0) (.int n))], "a", by cbv⟩

omit [TestFunctions] in
theorem writeDict_numbered {n : Int} (h : Integer.hasText n = false) :
    (numbered n).writeDict = .error (.fault (.longInteger none)) := by
  have hkind : (numbered n).factory.kindName? = some "symbol" := rfl
  have hmarkers : Value.allHaveText ((numbered n).markersAt 0) = false := by
    show (Integer.hasText n && true) = false
    rw [h]
    rfl
  have hcheck : (numbered n).checkStates (List.range (numbered n).count) = .error (.fault (.longInteger none)) := by
    show (numbered n).checkStates [0] = _
    rw [checkStates, Value.checkTexts, if_neg (Bool.eq_false_iff.1 hmarkers)]
  rw [writeDict, hkind, hcheck]

omit [TestFunctions] in
/-- A number that is too long to be written keeps the automaton that it marks from being written. -/
theorem writeDict_of_long_marker : ∃ a : Automaton, @Reachable Matcher.catalogue a ∧ a.name = .str "m" ∧
    a.factory = .ofKind .symbol ∧ (∀ i, a.edgesOf i = []) ∧ ∀ v, a.writeDict ≠ .ok v := by
  refine ⟨numbered Integer.leastLong, reachable_numbered _, rfl, rfl, fun i => ?_, fun v hv => ?_⟩
  · cases i <;> rfl
  · rw [writeDict_numbered Integer.hasText_leastLong] at hv
    cases hv

/-- Of a dictionary form that is written, all is read back but a wrapped nothing: then it is refused as an
invalid definition. -/
theorem ofDict_ok_iff (ha : a.Reachable) (hname : a.name = .str name) (hk : a.factory = .ofKind k)
    (hb : k.BuiltIn) {v : Value} (hv : a.toDict = .ok v) :
    ((∃ b, ofDict v = .ok b) ↔ a.Guarded) ∧
      ∀ f, ofDict v = .error f → ∃ issues, f = .invalidDefinition issues := by
  obtain ⟨hw, rfl⟩ := (toDict_eq_ok hk (name_builtIn hb)).1 hv
  by_cases hg : a.Guarded
  · have hread := ofDict_writtenFields ha.wellFormed ha.hashableMarkers (congrArg Scalar.text hname) hk hb hw hg
    rw [hread]
    exact ⟨⟨fun _ => hg, fun _ => ⟨_, rfl⟩⟩, fun f hf => by cases hf⟩
  · obtain ⟨i, e, he, hnull⟩ : ∃ i, ∃ e ∈ a.edgesOf i, e.guard = .predicate .null := by
      simpa [Guarded] using hg
    obtain ⟨issues, hissues⟩ := ofValue_refused (k := k) he hnull
    have hread : ofDict (.dict (a.writtenFields k)) = .error (.invalidDefinition issues) := by
      rw [ofDict, Definition.load, hissues]
    rw [hread]
    refine ⟨⟨?_, fun h => absurd h hg⟩, fun f hf => ⟨issues, (Except.error.inj hf).symm⟩⟩
    rintro ⟨b, hb⟩
    cases hb

omit [TestFunctions] in
/-- A symbol is read back. -/
theorem ofDict_ok_iff_symbol : ∃ a v, @Reachable Matcher.catalogue a ∧
    a.edgesOf 0 = [⟨.predicate (.str "x"), 1⟩] ∧ a.toDict = .ok v ∧ ∃ b, ofDict v = .ok b := by
  let _ := Matcher.catalogue
  let cs : List (String × Command) := [("a", .new (.ofKind .symbol) (.str "one")), ("a", .newStates 2),
    ("a", .newTransition (.int 0) (.int 1) (.str "x"))]
  let a : Automaton := ⟨.str "one", .ofKind .symbol, [⟨.symbol, [⟨.predicate (.str "x"), 1⟩], [],
    .groups [(.str "x", [1])]⟩, ⟨.symbol, [], [], .groups []⟩], [[], []], .ofList [0]⟩
  have ha : (Session.run cs .empty).automaton? "a" = some a := by cbv
  have hg : a.Guarded := by
    intro i e he
    rcases i with _ | _ | i <;> simp_all [edgesOf, a]
  have hwritten : a.toDict = .ok (.dict (a.writtenFields .symbol)) := by cbv
  have hiff := (ofDict_ok_iff ⟨cs, "a", ha⟩ rfl rfl (.inl rfl) hwritten).1
  exact ⟨a, _, ⟨cs, "a", ha⟩, rfl, hwritten, hiff.2 hg⟩

omit [TestFunctions] in
/-- A wrapped nothing on a symbol store is written as no guard, which is refused where it is read. -/
theorem ofDict_nothing : ∃ a v, @Reachable Matcher.catalogue a ∧ a.name = .str "nothing" ∧
    a.factory = .ofKind .symbol ∧ a.edgesOf 0 = [⟨.predicate .null, 1⟩] ∧ a.toDict = .ok v ∧
      ofDict v = .error (.invalidDefinition
        [⟨.breach (.noGuard 0 1), [.key "transitions", .index 0]⟩]) := by
  let _ := Matcher.catalogue
  let cs : List (String × Command) := [("a", .new (.ofKind .symbol) (.str "nothing")), ("a", .newStates 2),
    ("a", .newTransition (.int 0) (.int 1) (.predicate .null))]
  let a : Automaton := ⟨.str "nothing", .ofKind .symbol, [⟨.symbol, [⟨.predicate .null, 1⟩], [],
    .groups [(.null, [1])]⟩, ⟨.symbol, [], [], .groups []⟩], [[], []], .ofList [0]⟩
  have ha : (Session.run cs .empty).automaton? "a" = some a := by cbv
  have hwritten : a.toDict = .ok (.dict (a.writtenFields .symbol)) := by cbv
  have hrefused : ofDict (.dict (a.writtenFields .symbol)) = .error (.invalidDefinition
      [⟨.breach (.noGuard 0 1), [.key "transitions", .index 0]⟩]) := by cbv
  exact ⟨a, _, ⟨cs, "a", ha⟩, rfl, rfl, rfl, hwritten, hrefused⟩

end GuardedAutomata.Automaton
