import GuardedAutomata.Proofs.Definition.Draft

/-!
# Valid definitions

A value is read as a definition exactly if the definition, as a draft, is written in it, valid, and not too deep.
What is looked at in the end is therefore the same for every way in which a definition is written down: the rules
between the fields of each level, and the number of levels.
-/

set_option autoImplicit false

namespace GuardedAutomata

/-! ### Parts that are read -/

namespace Checked

variable {α β : Type}

theorem both_eq_ok {a : Checked α} {b : Checked β} {x : α} {y : β} :
    a.both b = .ok (x, y) ↔ a = .ok x ∧ b = .ok y := by
  cases a <;> cases b <;> simp [both]

theorem map_eq_ok {f : α → β} {a : Checked α} {y : β} : a.map f = .ok y ↔ ∃ x, a = .ok x ∧ f x = y := by
  cases a <;> simp [Checked.map]

theorem obeying_eq_ok {path : List PathStep} {breach? : α → Option RuleBreach} {a : Checked α} {x : α} :
    a.obeying path breach? = .ok x ↔ a = .ok x ∧ breach? x = none := by
  cases a with
  | error es => simp [obeying]
  | ok z =>
    constructor
    · intro h
      rw [obeying] at h
      split at h
      · cases h
      next hz =>
        cases h
        exact ⟨rfl, hz⟩
    · rintro ⟨h, hx⟩
      cases h
      rw [obeying, hx]

end Checked

namespace Definition

open Draft

variable {α : Type} {entries : List (Value × Value)} {room : Nat} {path : List PathStep} {key other : String}
  {v : Value}

theorem natural_eq_ok {n : Nat} : Scalar.natural v = .ok n ↔ Scalar.integer v = .ok (n : Int) := by
  unfold Scalar.natural
  cases Scalar.integer v with
  | error k => simp
  | ok m =>
    by_cases hm : m < 0
    · have hn : m ≠ n := by omega
      simp [hm, hn]
    · have hn : m.toNat = n ↔ m = n := by omega
      simp [hm, hn]

theorem optional_eq_ok {read : Value → Except IssueKind α} {o : Option α} : Scalar.optional read v = .ok o ↔
    v = .null ∧ o = none ∨ v ≠ .null ∧ ∃ x, read v = .ok x ∧ o = some x := by
  by_cases hv : v = .null
  · subst hv
    simp [Scalar.optional, eq_comm]
  · have hread : Scalar.optional read v = (read v).map some := by
      unfold Scalar.optional
      split
      · exact absurd rfl hv
      · cases read v <;> rfl
    rw [hread]
    cases read v <;> simp [Except.map, hv, eq_comm]

theorem optional_natural_eq_ok {o : Option Nat} : Scalar.optional Scalar.natural v = .ok o ↔
    Scalar.optional Scalar.integer v = .ok (o.map Int.ofNat) := by
  rw [optional_eq_ok, optional_eq_ok]
  cases o <;> simp [natural_eq_ok]

theorem scalar_eq_ok {read : Value → Except IssueKind α} {x : α} :
    scalar path read v = .ok x ↔ read v = .ok x := by
  unfold scalar
  cases read v <;> simp

theorem field_eq_ok {read : Value → Except IssueKind α} {absent x : α} :
    field entries path key read absent = .ok x ↔ ScalarField entries read absent key x := by
  unfold field ScalarField
  cases Value.field? entries key with
  | none => simp [eq_comm]
  | some v => exact scalar_eq_ok

theorem requiredField_eq_ok {n : Nat} :
    requiredField entries path key other Scalar.natural = .ok n ↔ IdField entries key other n := by
  unfold requiredField IdField
  cases Value.field? entries key with
  | some v => simp [scalar_eq_ok, natural_eq_ok]
  | none =>
    cases Value.field? entries other with
    | some v => simp [scalar_eq_ok, natural_eq_ok]
    | none => simp

/-- Items are read when each of them is. -/
theorem items_eq_ok {read : List PathStep → Value → Checked α} {R : α → Value → Prop}
    (h : ∀ path v x, read path v = .ok x ↔ R x v) {i : Nat} {vs : List Value} {xs : List α} :
    items path read i vs = .ok xs ↔ List.Forall₂ R xs vs := by
  induction vs generalizing i xs with
  | nil => simp [items, eq_comm]
  | cons v vs ih =>
    rw [items, Checked.map_eq_ok]
    constructor
    · rintro ⟨⟨x, ys⟩, hboth, rfl⟩
      obtain ⟨hx, hys⟩ := Checked.both_eq_ok.1 hboth
      exact .cons ((h _ _ _).1 hx) (ih.1 hys)
    · intro hall
      cases hall with
      | cons hx hys => exact ⟨(_, _), Checked.both_eq_ok.2 ⟨(h _ _ _).2 hx, ih.2 hys⟩, rfl⟩

theorem listField_eq_ok {read : List PathStep → Value → Checked α} {R : α → Value → Prop}
    (h : ∀ path v x, read path v = .ok x ↔ R x v) {xs : List α} :
    listField entries path key read = .ok xs ↔ ∃ vs, Items entries key vs ∧ List.Forall₂ R xs vs := by
  unfold listField Items
  cases Value.field? entries key with
  | none => simp [eq_comm]
  | some v => cases hs : sequence? v <;> simp [hs, items_eq_ok h]

theorem marker_eq_ok (path : List PathStep) (v m : Value) : marker path v = .ok m ↔ m = v ∧ MarkerTyped v := by
  cases v <;> simp [marker, MarkerTyped, eq_comm]

theorem forall_markers {ms vs : List Value} :
    List.Forall₂ (fun m v => m = v ∧ MarkerTyped v) ms vs ↔ ms = vs ∧ ∀ m ∈ vs, MarkerTyped m := by
  induction ms generalizing vs with
  | nil => cases vs <;> simp
  | cons m ms ih =>
    cases vs with
    | nil => simp
    | cons v vs =>
      rw [List.forall₂_cons, ih, List.forall_mem_cons, List.cons.injEq]
      grind

theorem readState_eq_ok (path : List PathStep) (v : Value) (s : StateEntry) :
    readState path v = .ok s ↔ StateWritten s.draft v := by
  obtain ⟨id, markers⟩ := s
  cases v with
  | dict entries =>
    rw [readState, Checked.map_eq_ok]
    simp only [StateWritten, StateEntry.draft, Value.dict.injEq, exists_eq_left']
    constructor
    · rintro ⟨⟨i, ms⟩, hboth, he⟩
      cases he
      obtain ⟨hid, hmarkers⟩ := Checked.both_eq_ok.1 hboth
      obtain ⟨vs, hvs, hall⟩ := (listField_eq_ok marker_eq_ok).1 hmarkers
      obtain ⟨rfl, htyped⟩ := forall_markers.1 hall
      exact ⟨requiredField_eq_ok.1 hid, hvs, htyped⟩
    · rintro ⟨hid, hvs, htyped⟩
      have hmarkers : listField entries path "markers" marker = .ok markers :=
        (listField_eq_ok marker_eq_ok).2 ⟨markers, hvs, forall_markers.2 ⟨rfl, htyped⟩⟩
      exact ⟨(id, markers), Checked.both_eq_ok.2 ⟨requiredField_eq_ok.2 hid, hmarkers⟩, rfl⟩
  | _ => simp [readState, StateWritten]

theorem guardBreach_eq_none {t : TransitionEntry} : guardBreach t = none ↔ t.draft.Exclusive := by
  obtain ⟨source, target, guard, epsilon⟩ := t
  cases epsilon <;> cases guard <;> simp [guardBreach, TransitionEntry.draft, DraftTransition.Exclusive]

theorem readTransition_eq_ok (path : List PathStep) (v : Value) (t : TransitionEntry) :
    readTransition path v = .ok t ↔ TransitionWritten t.draft v ∧ t.draft.Exclusive := by
  cases v with
  | dict entries =>
    rw [readTransition, Checked.obeying_eq_ok, guardBreach_eq_none, Checked.map_eq_ok]
    refine and_congr_left fun _ => ?_
    obtain ⟨source, target, guard, epsilon⟩ := t
    simp only [TransitionWritten, TransitionEntry.draft, Value.dict.injEq, exists_eq_left']
    constructor
    · rintro ⟨⟨s, t, e⟩, hboth, he⟩
      cases he
      obtain ⟨hs, hrest⟩ := Checked.both_eq_ok.1 hboth
      obtain ⟨ht, he⟩ := Checked.both_eq_ok.1 hrest
      exact ⟨requiredField_eq_ok.1 hs, requiredField_eq_ok.1 ht, field_eq_ok.1 he, rfl⟩
    · rintro ⟨hs, ht, he, rfl⟩
      exact ⟨(source, target, epsilon), Checked.both_eq_ok.2 ⟨requiredField_eq_ok.2 hs,
        Checked.both_eq_ok.2 ⟨requiredField_eq_ok.2 ht, field_eq_ok.2 he⟩⟩, rfl⟩
  | _ => simp [readTransition, TransitionWritten]

theorem readTransitions_eq_ok {ts : List TransitionEntry} :
    listField entries path "transitions" readTransition = .ok ts ↔
      (∃ vs, Items entries "transitions" vs ∧ List.Forall₂ TransitionWritten (ts.map TransitionEntry.draft) vs) ∧
        ∀ t ∈ ts, t.draft.Exclusive := by
  rw [listField_eq_ok readTransition_eq_ok]
  constructor
  · rintro ⟨vs, hvs, hall⟩
    have hparts : (∀ t ∈ ts, t.draft.Exclusive) ∧ List.Forall₂ (fun t v => TransitionWritten t.draft v) ts vs :=
      (List.forall₂_and_left ts vs).1 (hall.imp fun _ _ h => h.symm)
    exact ⟨⟨vs, hvs, List.forall₂_map_left_iff.2 hparts.2⟩, hparts.1⟩
  · rintro ⟨⟨vs, hvs, hall⟩, hexclusive⟩
    have hboth := (List.forall₂_and_left ts vs).2 ⟨hexclusive, List.forall₂_map_left_iff.1 hall⟩
    exact ⟨vs, hvs, hboth.imp fun _ _ h => h.symm⟩

theorem readStates_eq_ok {states : List StateEntry} : readStates entries path = .ok states ↔
    (∃ vs, Items entries "states" vs ∧ List.Forall₂ StateWritten (states.map StateEntry.draft) vs) ∧
      sparseBreach 0 states = none := by
  unfold readStates
  rw [Checked.obeying_eq_ok, listField_eq_ok readState_eq_ok]
  simp only [List.forall₂_map_left_iff]

/-! ### Rules between fields -/

theorem sparseBreach_eq_none {states : List StateEntry} (i : Nat) :
    sparseBreach i states = none ↔ states.map StateEntry.id = List.range' i states.length := by
  induction states generalizing i with
  | nil => simp [sparseBreach]
  | cons s states ih =>
    rw [sparseBreach, List.map_cons, List.length_cons, List.range'_succ, List.cons.injEq, ← ih]
    by_cases hs : s.id = i <;> simp [hs]

theorem endpointBreach_eq_none {n : Nat} {ts : List TransitionEntry} :
    endpointBreach n ts = none ↔ ∀ t ∈ ts, t.source < n ∧ t.target < n := by
  induction ts with
  | nil => simp [endpointBreach]
  | cons t ts ih =>
    rw [endpointBreach, List.forall_mem_cons, ← ih]
    by_cases hs : n ≤ t.source
    · simp [hs, Nat.not_lt.2 hs]
    · by_cases ht : n ≤ t.target
      · simp [hs, ht, Nat.not_lt.2 ht]
      · simp [hs, ht, Nat.lt_of_not_le hs, Nat.lt_of_not_le ht]

theorem fragmentBreach_eq_none {n : Nat} {store : Option String} {fs : List (Fragment Definition)} :
    fragmentBreach n store fs = none ↔ ∀ f ∈ fs, (∀ link, f.linkFrom = some link → link < n) ∧
      ∀ s parent, f.automaton.store = some s → store = some parent → s = parent := by
  induction fs with
  | nil => simp [fragmentBreach]
  | cons f fs ih =>
    rw [List.forall_mem_cons]
    unfold fragmentBreach
    rw [← ih]
    cases hl : f.linkFrom.filter (n ≤ ·) with
    | some link =>
      obtain ⟨hlink, hn⟩ := Option.filter_eq_some_iff.1 hl
      have hno : ¬ ∀ link, f.linkFrom = some link → link < n := fun h =>
        absurd (h link hlink) (Nat.not_lt.2 (of_decide_eq_true hn))
      exact iff_of_false nofun fun h => hno h.1.1
    | none =>
      have hlinked : ∀ link, f.linkFrom = some link → link < n := by
        intro link hlink
        rw [hlink, Option.filter_eq_none_iff] at hl
        simpa using hl link rfl
      rw [and_iff_right hlinked]
      cases hs : f.automaton.store with
      | none => exact (and_iff_right nofun).symm
      | some s =>
        cases store with
        | none => exact (and_iff_right nofun).symm
        | some parent => by_cases he : s = parent <;> simp [he]

theorem referenceBreach_eq_none {d : Definition} : referenceBreach d = none ↔
    endpointBreach d.states.length d.transitions = none ∧
      fragmentBreach d.states.length d.store d.fragments = none := by
  unfold referenceBreach
  cases endpointBreach d.states.length d.transitions <;> simp

def fragmentDraft (f : Fragment Definition) : DraftFragment Draft :=
  ⟨f.name, f.linkFrom.map Int.ofNat, f.automaton.draft⟩

theorem drafts_eq_map (fs : List (Fragment Definition)) : drafts fs = fs.map fragmentDraft := by
  induction fs with
  | nil => rfl
  | cons f fs ih =>
    rw [drafts, ih]
    rfl

theorem draft_store (d : Definition) : d.draft.store = d.store := by
  cases d
  rfl

theorem declared_iff {n i : Nat} : Declared n (i : Int) ↔ i < n := by
  unfold Declared
  omega

theorem linked_iff {n : Nat} {f : Fragment Definition} :
    (fragmentDraft f).Linked n ↔ ∀ link, f.linkFrom = some link → link < n := by
  obtain ⟨name, linkFrom, d⟩ := f
  unfold DraftFragment.Linked fragmentDraft
  cases linkFrom with
  | none => simp
  | some link => simpa using declared_iff

theorem matching_iff {store : Option String} {f : Fragment Definition} : (fragmentDraft f).Matching store ↔
    ∀ s parent, f.automaton.store = some s → store = some parent → s = parent := by
  unfold DraftFragment.Matching fragmentDraft
  rw [draft_store]

theorem ids_iff {states : List StateEntry} :
    (states.map StateEntry.draft).map DraftState.id =
        (List.range (states.map StateEntry.draft).length).map Int.ofNat ↔
      states.map StateEntry.id = List.range states.length := by
  have hids : (states.map StateEntry.draft).map DraftState.id = (states.map StateEntry.id).map Int.ofNat := by
    rw [List.map_map, List.map_map]
    rfl
  rw [hids, List.length_map, (List.map_injective_iff.2 fun _ _ => Int.ofNat.inj).eq_iff]

/-- What the rules say of a definition, whose ids cannot be negative. -/
theorem valid_iff (d : Definition) : d.Valid ↔
    d.states.map StateEntry.id = List.range d.states.length ∧
    (∀ t ∈ d.transitions, t.draft.Exclusive ∧ t.source < d.states.length ∧ t.target < d.states.length) ∧
    (∀ f ∈ d.fragments, (∀ link, f.linkFrom = some link → link < d.states.length) ∧
      ∀ s parent, f.automaton.store = some s → d.store = some parent → s = parent) ∧
    AllValid (drafts d.fragments) := by
  obtain ⟨name, description, store, states, transitions, fragments⟩ := d
  unfold Valid
  rw [draft, Draft.Valid, ids_iff]
  simp only [List.forall_mem_map, List.length_map, TransitionEntry.draft, drafts_eq_map, linked_iff, matching_iff,
    declared_iff]

theorem valid_iff_breaches (d : Definition) : d.Valid ↔
    sparseBreach 0 d.states = none ∧ (∀ t ∈ d.transitions, t.draft.Exclusive) ∧ referenceBreach d = none ∧
      AllValid (drafts d.fragments) := by
  rw [valid_iff, sparseBreach_eq_none, List.range_eq_range', referenceBreach_eq_none,
    endpointBreach_eq_none, fragmentBreach_eq_none]
  grind

/-! ### Reading a definition -/

theorem readOwn_eq_ok {d : Definition} :
    readOwn entries path = .ok (d.name, d.description, d.store, d.states, d.transitions) ↔
      ScalarField entries Scalar.text "automaton" "name" d.name ∧
      ScalarField entries (Scalar.optional Scalar.text) none "description" d.description ∧
      ScalarField entries (Scalar.optional Scalar.text) none "store" d.store ∧
      readStates entries path = .ok d.states ∧
      listField entries path "transitions" readTransition = .ok d.transitions := by
  unfold readOwn
  rw [Checked.both_eq_ok, Checked.both_eq_ok, Checked.both_eq_ok, Checked.both_eq_ok, field_eq_ok, field_eq_ok,
    field_eq_ok]

def readParts (room : Nat) (entries : List (Value × Value)) (path : List PathStep) :
    Checked (List (Fragment Definition)) :=
  match Value.field? entries "fragments" with
  | none => .ok []
  | some v =>
    match sequence? v with
    | some vs => readFragments room (path ++ [.key "fragments"]) 0 vs
    | none => .error [⟨.notList, path ++ [.key "fragments"]⟩]

theorem readAt_dict : readAt (room + 1) path (.dict entries) =
    (((readOwn entries path).both (readParts room entries path)).map
      fun ((name, description, store, states, transitions), fragments) =>
        ⟨name, description, store, states, transitions, fragments⟩).obeying path referenceBreach := by
  rw [readAt]
  congr 3
  unfold readParts
  split
  next h => rw [h]
  next h =>
    rw [h]
    rfl
  next h =>
    rw [h]
    rfl
  next h =>
    rw [h]
    rfl
  next v hlist htuple hset h =>
    rw [h]
    cases v <;> simp_all [sequence?]

theorem readParts_eq_ok {fs : List (Fragment Definition)} : readParts room entries path = .ok fs ↔
    ∃ vs, Items entries "fragments" vs ∧ readFragments room (path ++ [.key "fragments"]) 0 vs = .ok fs := by
  unfold readParts Items
  cases Value.field? entries "fragments" with
  | none => simp [readFragments]
  | some v => cases hs : sequence? v <;> simp [hs]

theorem readAt_zero (d : Definition) : readAt 0 path v ≠ .ok d := by
  rw [readAt]
  intro h
  cases h

theorem readAt_eq_ok_iff {d : Definition} : readAt (room + 1) path v = .ok d ↔ ∃ entries, v = .dict entries ∧
    readOwn entries path = .ok (d.name, d.description, d.store, d.states, d.transitions) ∧
    readParts room entries path = .ok d.fragments ∧ referenceBreach d = none := by
  cases v with
  | dict entries =>
    rw [readAt_dict, Checked.obeying_eq_ok, Checked.map_eq_ok]
    simp only [Value.dict.injEq, exists_eq_left']
    constructor
    · rintro ⟨⟨⟨own, parts⟩, hboth, rfl⟩, hbreach⟩
      obtain ⟨hown, hparts⟩ := Checked.both_eq_ok.1 hboth
      exact ⟨hown, hparts, hbreach⟩
    · rintro ⟨hown, hparts, hbreach⟩
      refine ⟨⟨_, Checked.both_eq_ok.2 ⟨hown, hparts⟩, ?_⟩, hbreach⟩
      cases d
      rfl
  | _ => simp [readAt]

def readPart (room : Nat) (entries : List (Value × Value)) (path : List PathStep) : Checked Definition :=
  match Value.field? entries "automaton" with
  | some v => readAt room (path ++ [.key "automaton"]) v
  | none => .error [⟨.missing, path ++ [.key "automaton"]⟩]

theorem readFragment_dict : readFragment room path (.dict entries) =
    ((field entries path "name" (Scalar.optional Scalar.text) none).both
      ((field entries path "link_from" (Scalar.optional Scalar.natural) none).both (readPart room entries path))).map
        fun (name, linkFrom, automaton) => ⟨name, linkFrom, automaton⟩ := by
  rw [readFragment]
  congr 4
  unfold readPart
  split
  next h => rw [h]
  next h => rw [h]

theorem readPart_eq_ok {d : Definition} : readPart room entries path = .ok d ↔
    ∃ w, Value.field? entries "automaton" = some w ∧ readAt room (path ++ [.key "automaton"]) w = .ok d := by
  unfold readPart
  cases Value.field? entries "automaton" <;> simp

theorem link_eq_ok {link : Option Nat} :
    field entries path "link_from" (Scalar.optional Scalar.natural) none = .ok link ↔
      ScalarField entries (Scalar.optional Scalar.integer) none "link_from" (link.map Int.ofNat) := by
  rw [field_eq_ok]
  unfold ScalarField
  cases Value.field? entries "link_from" with
  | none => simp
  | some v => exact optional_natural_eq_ok

theorem readFragment_eq_ok {f : Fragment Definition} : readFragment room path v = .ok f ↔
    ∃ entries w, v = .dict entries ∧ ScalarField entries (Scalar.optional Scalar.text) none "name" f.name ∧
      ScalarField entries (Scalar.optional Scalar.integer) none "link_from" (f.linkFrom.map Int.ofNat) ∧
      Value.field? entries "automaton" = some w ∧ readAt room (path ++ [.key "automaton"]) w = .ok f.automaton := by
  cases v with
  | dict entries =>
    rw [readFragment_dict, Checked.map_eq_ok]
    constructor
    · rintro ⟨⟨name, link, d⟩, hboth, rfl⟩
      obtain ⟨hname, hrest⟩ := Checked.both_eq_ok.1 hboth
      obtain ⟨hlink, hpart⟩ := Checked.both_eq_ok.1 hrest
      obtain ⟨w, hw, hread⟩ := readPart_eq_ok.1 hpart
      exact ⟨entries, w, rfl, field_eq_ok.1 hname, link_eq_ok.1 hlink, hw, hread⟩
    · rintro ⟨_, w, hv, hname, hlink, hw, hread⟩
      cases hv
      have hpart : readPart room entries path = .ok f.automaton := readPart_eq_ok.2 ⟨w, hw, hread⟩
      exact ⟨(f.name, f.linkFrom, f.automaton), Checked.both_eq_ok.2 ⟨field_eq_ok.2 hname,
        Checked.both_eq_ok.2 ⟨link_eq_ok.2 hlink, hpart⟩⟩, rfl⟩
  | _ => simp [readFragment]

mutual

/-- A value is read as a definition exactly if the definition is written in it and valid, and there is room for all its
levels. -/
theorem readAt_eq_ok (d : Definition) (room : Nat) (path : List PathStep) (v : Value) :
    readAt room path v = .ok d ↔ d.draft.Written v ∧ d.draft.Valid ∧ d.draft.height ≤ room :=
  match d, room with
  | ⟨_, _, _, _, _, _⟩, 0 => by
    rw [draft, height]
    exact iff_of_false (readAt_zero _) fun h => Nat.not_succ_le_zero _ h.2.2
  | ⟨name, description, store, states, transitions, fragments⟩, room + 1 => by
    have ih := fun path vs => readFragments_eq_ok fragments room path 0 vs
    rw [← Valid, valid_iff_breaches, readAt_eq_ok_iff, draft, Written, height, Nat.add_le_add_iff_right]
    constructor
    · rintro ⟨entries, rfl, hown, hparts, hbreach⟩
      obtain ⟨hname, hdescription, hstore, hstates, htransitions⟩ := readOwn_eq_ok.1 hown
      obtain ⟨⟨ss, hss⟩, hids⟩ := readStates_eq_ok.1 hstates
      obtain ⟨⟨ts, hts⟩, hexclusive⟩ := readTransitions_eq_ok.1 htransitions
      obtain ⟨fs, hfs, hread⟩ := readParts_eq_ok.1 hparts
      obtain ⟨hwritten, hvalid, hheight⟩ := (ih _ _).1 hread
      exact ⟨⟨entries, ss, ts, fs, rfl, hname, hdescription, hstore, hss, hts, hfs, hwritten⟩,
        ⟨hids, hexclusive, hbreach, hvalid⟩, hheight⟩
    · rintro ⟨⟨entries, ss, ts, fs, rfl, hname, hdescription, hstore, hss, hts, hfs, hwritten⟩,
        ⟨hids, hexclusive, hbreach, hvalid⟩, hheight⟩
      have hparts : readParts room entries path = .ok fragments :=
        readParts_eq_ok.2 ⟨fs, hfs, (ih _ _).2 ⟨hwritten, hvalid, hheight⟩⟩
      exact ⟨entries, rfl, readOwn_eq_ok.2 ⟨hname, hdescription, hstore, readStates_eq_ok.2 ⟨⟨ss, hss⟩, hids⟩,
        readTransitions_eq_ok.2 ⟨⟨ts, hts⟩, hexclusive⟩⟩, hparts, hbreach⟩

theorem readFragments_eq_ok (fs : List (Fragment Definition)) (room : Nat) (path : List PathStep) (i : Nat)
    (vs : List Value) :
    readFragments room path i vs = .ok fs ↔
      AllWritten (drafts fs) vs ∧ AllValid (drafts fs) ∧ heights (drafts fs) ≤ room :=
  match fs, vs with
  | [], [] => by simp [readFragments, drafts, AllWritten, AllValid, heights]
  | [], v :: vs => by simp [readFragments, Checked.map_eq_ok, drafts, AllWritten]
  | _ :: _, [] => by simp [readFragments, drafts, AllWritten]
  | ⟨name, linkFrom, d⟩ :: rest, v :: vs => by
    have ihd := readAt_eq_ok d room
    have ih := readFragments_eq_ok rest room path (i + 1) vs
    rw [readFragments, Checked.map_eq_ok, drafts, AllWritten, AllValid, heights, Nat.max_le]
    constructor
    · rintro ⟨⟨f, fs⟩, hboth, hf⟩
      cases hf
      obtain ⟨hhead, htail⟩ := Checked.both_eq_ok.1 hboth
      obtain ⟨entries, w, rfl, hname, hlink, hw, hread⟩ := readFragment_eq_ok.1 hhead
      obtain ⟨hwritten, hvalid, hheight⟩ := (ihd _ _).1 hread
      obtain ⟨hwrittens, hvalids, hheights⟩ := ih.1 htail
      exact ⟨⟨entries, w, vs, rfl, hname, hlink, hw, hwritten, hwrittens⟩, ⟨hvalid, hvalids⟩, hheight, hheights⟩
    · rintro ⟨⟨entries, w, others, hv, hname, hlink, hw, hwritten, hwrittens⟩, ⟨hvalid, hvalids⟩, hheight, hheights⟩
      cases hv
      have hhead : readFragment room (path ++ [.index i]) (.dict entries) = .ok ⟨name, linkFrom, d⟩ :=
        readFragment_eq_ok.2 ⟨entries, w, rfl, hname, hlink, hw, (ihd _ _).2 ⟨hwritten, hvalid, hheight⟩⟩
      exact ⟨(_, rest), Checked.both_eq_ok.2 ⟨hhead, ih.2 ⟨hwrittens, hvalids, hheights⟩⟩, rfl⟩

end

theorem ofValue_eq_ok {d : Definition} :
    ofValue v = .ok d ↔ d.draft.Written v ∧ d.Valid ∧ d.draft.height ≤ mostNested := by
  rw [Valid, ← readAt_eq_ok d mostNested [] v]
  unfold ofValue
  cases readAt mostNested [] v <;> simp

end Definition

namespace Draft

theorem exists_ofValue_iff {x : Draft} {v : Value} (hx : x.Written v) :
    (∃ d, Definition.ofValue v = .ok d) ↔ x.Valid ∧ x.height ≤ Definition.mostNested := by
  constructor
  · rintro ⟨d, hd⟩
    obtain ⟨hwritten, hd⟩ := Definition.ofValue_eq_ok.1 hd
    exact written_unique _ _ _ hwritten hx ▸ hd
  · rintro ⟨hvalid, hheight⟩
    obtain ⟨d, rfl⟩ := exists_definition x hvalid
    exact ⟨d, Definition.ofValue_eq_ok.2 ⟨hx, hvalid, hheight⟩⟩

end Draft

end GuardedAutomata
