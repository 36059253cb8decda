import GuardedAutomata.Definition.Reader
import Mathlib.Data.List.Forall2
import Mathlib.Data.Set.List

/-!
# Drafts

A draft is a definition whose fields have their types, while its ids may still be any integers and no rule has
been looked at. It is written in a value if the value holds its fields, each in one of the forms it may have, and
no other draft is then written in the value. A draft is valid if at every level the ids of the states count up
from 0, every transition has either a guard or epsilon, the ends of transitions and the links of fragments are
states of that level, and no fragment names another store than its parent. The definitions that keep these
rules are the valid drafts.
-/

set_option autoImplicit false

namespace GuardedAutomata

/-! ### Drafts -/

structure DraftState where
  id : Int
  markers : List Value

structure DraftTransition where
  source : Int
  target : Int
  guard : Value
  epsilon : Bool

structure DraftFragment (δ : Type) where
  name : Option String
  linkFrom : Option Int
  automaton : δ

structure Draft where
  name : String
  description : Option String
  store : Option String
  states : List DraftState
  transitions : List DraftTransition
  fragments : List (DraftFragment Draft)

def Declared (n : Nat) (id : Int) : Prop := 0 ≤ id ∧ id < n

def DraftTransition.Exclusive (t : DraftTransition) : Prop :=
  t.guard ≠ .null ∧ t.epsilon = false ∨ t.guard = .null ∧ t.epsilon = true

namespace DraftFragment

variable {δ : Type}

def Linked (n : Nat) (f : DraftFragment δ) : Prop :=
  ∀ id, f.linkFrom = some id → Declared n id

def Matching (store : Option String) (f : DraftFragment Draft) : Prop :=
  ∀ s parent, f.automaton.store = some s → store = some parent → s = parent

end DraftFragment

namespace Draft

mutual

def Valid : Draft → Prop
  | ⟨_, _, store, states, transitions, fragments⟩ =>
    states.map DraftState.id = (List.range states.length).map Int.ofNat ∧
    (∀ t ∈ transitions, t.Exclusive ∧ Declared states.length t.source ∧ Declared states.length t.target) ∧
    (∀ f ∈ fragments, f.Linked states.length ∧ f.Matching store) ∧
    AllValid fragments

def AllValid : List (DraftFragment Draft) → Prop
  | [] => True
  | ⟨_, _, x⟩ :: rest => x.Valid ∧ AllValid rest

end

mutual

def height : Draft → Nat
  | ⟨_, _, _, _, _, fragments⟩ => heights fragments + 1

def heights : List (DraftFragment Draft) → Nat
  | [] => 0
  | ⟨_, _, x⟩ :: rest => max x.height (heights rest)

end

/-! ### Written drafts -/

variable {α : Type}

def ScalarField (entries : List (Value × Value)) (read : Value → Except IssueKind α) (absent : α)
    (key : String) (x : α) : Prop :=
  match Value.field? entries key with
  | some v => read v = .ok x
  | none => x = absent

def Items (entries : List (Value × Value)) (key : String) (vs : List Value) : Prop :=
  match Value.field? entries key with
  | some v => Definition.sequence? v = some vs
  | none => vs = []

def IdField (entries : List (Value × Value)) (key other : String) (id : Int) : Prop :=
  ∃ v, (Value.field? entries key).or (Value.field? entries other) = some v ∧ Scalar.integer v = .ok id

def MarkerTyped : Value → Prop
  | .list _ => False
  | .set _ => False
  | .dict _ => False
  | .enclosing _ => False
  | _ => True

def StateWritten (s : DraftState) (v : Value) : Prop :=
  ∃ entries, v = .dict entries ∧ IdField entries "id" "id" s.id ∧ Items entries "markers" s.markers ∧
    ∀ m ∈ s.markers, MarkerTyped m

def TransitionWritten (t : DraftTransition) (v : Value) : Prop :=
  ∃ entries, v = .dict entries ∧ IdField entries "from" "source" t.source ∧
    IdField entries "to" "target" t.target ∧ ScalarField entries Scalar.boolean false "epsilon" t.epsilon ∧
    (Value.field? entries "guard").getD .null = t.guard

mutual

def Written : Draft → Value → Prop
  | ⟨name, description, store, states, transitions, fragments⟩, v => ∃ entries ss ts fs, v = .dict entries ∧
    ScalarField entries Scalar.text "automaton" "name" name ∧
    ScalarField entries (Scalar.optional Scalar.text) none "description" description ∧
    ScalarField entries (Scalar.optional Scalar.text) none "store" store ∧
    (Items entries "states" ss ∧ List.Forall₂ StateWritten states ss) ∧
    (Items entries "transitions" ts ∧ List.Forall₂ TransitionWritten transitions ts) ∧
    Items entries "fragments" fs ∧ AllWritten fragments fs

def AllWritten : List (DraftFragment Draft) → List Value → Prop
  | [], vs => vs = []
  | ⟨name, linkFrom, x⟩ :: rest, vs => ∃ entries w others, vs = .dict entries :: others ∧
    ScalarField entries (Scalar.optional Scalar.text) none "name" name ∧
    ScalarField entries (Scalar.optional Scalar.integer) none "link_from" linkFrom ∧
    Value.field? entries "automaton" = some w ∧ x.Written w ∧ AllWritten rest others

end

end Draft

/-! ### Definitions as drafts -/

def StateEntry.draft (s : StateEntry) : DraftState :=
  ⟨s.id, s.markers⟩

def TransitionEntry.draft (t : TransitionEntry) : DraftTransition :=
  ⟨t.source, t.target, t.guard, t.epsilon⟩

namespace Definition

mutual

def draft : Definition → Draft
  | ⟨name, description, store, states, transitions, fragments⟩ =>
    ⟨name, description, store, states.map StateEntry.draft, transitions.map TransitionEntry.draft,
      drafts fragments⟩

def drafts : List (Fragment Definition) → List (DraftFragment Draft)
  | [] => []
  | ⟨name, linkFrom, d⟩ :: rest => ⟨name, linkFrom.map Int.ofNat, d.draft⟩ :: drafts rest

end

def Valid (d : Definition) : Prop := d.draft.Valid

end Definition

/-! ### What is written in a value -/

namespace Draft

variable {α : Type} {entries : List (Value × Value)} {key other : String} {v : Value}

theorem ScalarField.unique {read : Value → Except IssueKind α} {absent x y : α}
    (hx : ScalarField entries read absent key x) (hy : ScalarField entries read absent key y) : x = y := by
  unfold ScalarField at hx hy
  cases hf : Value.field? entries key with
  | none =>
    rw [hf] at hx hy
    exact hx.trans hy.symm
  | some v =>
    rw [hf] at hx hy
    exact Except.ok.inj (hx.symm.trans hy)

theorem Items.unique {vs ws : List Value} (hv : Items entries key vs) (hw : Items entries key ws) : vs = ws := by
  unfold Items at hv hw
  cases hf : Value.field? entries key with
  | none =>
    rw [hf] at hv hw
    exact hv.trans hw.symm
  | some v =>
    rw [hf] at hv hw
    exact Option.some.inj (hv.symm.trans hw)

theorem IdField.unique {m n : Int} (hm : IdField entries key other m) (hn : IdField entries key other n) :
    m = n := by
  obtain ⟨v, hv, hread⟩ := hm
  obtain ⟨w, hw, hread'⟩ := hn
  cases hv.symm.trans hw
  exact Except.ok.inj (hread.symm.trans hread')

theorem stateWritten_unique : Relator.LeftUnique StateWritten := by
  rintro ⟨id, markers⟩ ⟨id', markers'⟩ _ ⟨entries, rfl, hid, hmarkers, -⟩ ⟨_, hv, hid', hmarkers', -⟩
  cases hv
  cases hid.unique hid'
  cases hmarkers.unique hmarkers'
  rfl

theorem transitionWritten_unique : Relator.LeftUnique TransitionWritten := by
  rintro ⟨source, target, guard, epsilon⟩ ⟨source', target', guard', epsilon'⟩ _
    ⟨entries, rfl, hs, ht, he, hg⟩ ⟨_, hv, hs', ht', he', hg'⟩
  cases hv
  cases hs.unique hs'
  cases ht.unique ht'
  cases he.unique he'
  cases hg.symm.trans hg'
  rfl

mutual

/-- At most one draft is written in a value. -/
theorem written_unique (x y : Draft) (v : Value) (hx : x.Written v) (hy : y.Written v) : x = y :=
  match x, y with
  | ⟨name, description, store, states, transitions, fragments⟩,
    ⟨name', description', store', states', transitions', fragments'⟩ => by
    rw [Written] at hx hy
    obtain ⟨entries, ss, ts, fs, rfl, hname, hdescription, hstore, ⟨hss, hstates⟩, ⟨hts, htransitions⟩, hfs,
      hfragments⟩ := hx
    obtain ⟨_, ss', ts', fs', hv, hname', hdescription', hstore', ⟨hss', hstates'⟩, ⟨hts', htransitions'⟩, hfs',
      hfragments'⟩ := hy
    cases hv
    cases hname.unique hname'
    cases hdescription.unique hdescription'
    cases hstore.unique hstore'
    cases hss.unique hss'
    cases hts.unique hts'
    cases hfs.unique hfs'
    cases List.left_unique_forall₂' stateWritten_unique hstates hstates'
    cases List.left_unique_forall₂' transitionWritten_unique htransitions htransitions'
    cases allWritten_unique fragments fragments' fs hfragments hfragments'
    rfl

theorem allWritten_unique (xs ys : List (DraftFragment Draft)) (vs : List Value) (hx : AllWritten xs vs)
    (hy : AllWritten ys vs) : xs = ys :=
  match xs, ys with
  | [], [] => rfl
  | [], ⟨_, _, _⟩ :: _ => by
    rw [AllWritten] at hx
    rw [AllWritten] at hy
    obtain ⟨_, _, _, hvs, -⟩ := hy
    cases hx.symm.trans hvs
  | ⟨_, _, _⟩ :: _, [] => by
    rw [AllWritten] at hx
    rw [AllWritten] at hy
    obtain ⟨_, _, _, hvs, -⟩ := hx
    cases hy.symm.trans hvs
  | ⟨name, link, x⟩ :: xs, ⟨name', link', y⟩ :: ys => by
    rw [AllWritten] at hx hy
    obtain ⟨entries, w, others, rfl, hname, hlink, hw, hwritten, hrest⟩ := hx
    obtain ⟨_, w', _, hvs, hname', hlink', hw', hwritten', hrest'⟩ := hy
    cases hvs
    cases hname.unique hname'
    cases hlink.unique hlink'
    cases hw.symm.trans hw'
    cases written_unique x y w hwritten hwritten'
    cases allWritten_unique xs ys others hrest hrest'
    rfl

end

/-! ### Valid drafts as definitions -/

theorem ofNat_toNat {n : Nat} {id : Int} (h : Declared n id) : Int.ofNat id.toNat = id :=
  Int.toNat_of_nonneg h.1

theorem exists_states {states : List DraftState}
    (h : states.map DraftState.id = (List.range states.length).map Int.ofNat) :
    states ∈ Set.range (List.map StateEntry.draft) := by
  rw [Set.range_list_map]
  intro s hs
  have hid : s.id ∈ (List.range states.length).map Int.ofNat := h ▸ List.mem_map_of_mem hs
  obtain ⟨i, -, hi⟩ := List.mem_map.1 hid
  exact ⟨⟨i, s.markers⟩, congrArg (DraftState.mk · s.markers) hi⟩

theorem exists_transitions {n : Nat} {ts : List DraftTransition}
    (h : ∀ t ∈ ts, t.Exclusive ∧ Declared n t.source ∧ Declared n t.target) :
    ts ∈ Set.range (List.map TransitionEntry.draft) := by
  rw [Set.range_list_map]
  intro t ht
  obtain ⟨-, hs, ht⟩ := h t ht
  exact ⟨⟨t.source.toNat, t.target.toNat, t.guard, t.epsilon⟩,
    congr_arg₂ (DraftTransition.mk · · t.guard t.epsilon) (ofNat_toNat hs) (ofNat_toNat ht)⟩

theorem exists_link {δ : Type} {n : Nat} {f : DraftFragment δ} (h : f.Linked n) :
    ∃ link : Option Nat, link.map Int.ofNat = f.linkFrom := by
  cases hl : f.linkFrom with
  | none => exact ⟨none, rfl⟩
  | some id => exact ⟨some id.toNat, congrArg some (ofNat_toNat (h id hl))⟩

mutual

theorem exists_definition (x : Draft) (h : x.Valid) : ∃ d : Definition, d.draft = x :=
  match x with
  | ⟨name, description, store, states, transitions, fragments⟩ => by
    rw [Valid] at h
    obtain ⟨hids, htransitions, hfragments, hall⟩ := h
    obtain ⟨ss, rfl⟩ := exists_states hids
    obtain ⟨ts, rfl⟩ := exists_transitions htransitions
    obtain ⟨fs, rfl⟩ := exists_fragments fragments _ (fun f hf => (hfragments f hf).1) hall
    exact ⟨⟨name, description, store, ss, ts, fs⟩, rfl⟩

theorem exists_fragments (fs : List (DraftFragment Draft)) (n : Nat) (hlinked : ∀ f ∈ fs, f.Linked n)
    (h : AllValid fs) : ∃ fragments, Definition.drafts fragments = fs :=
  match fs with
  | [] => ⟨[], rfl⟩
  | ⟨name, linkFrom, x⟩ :: rest => by
    rw [AllValid] at h
    obtain ⟨hlink, hlinks⟩ := List.forall_mem_cons.1 hlinked
    obtain ⟨link, rfl⟩ := exists_link hlink
    obtain ⟨d, rfl⟩ := exists_definition x h.1
    obtain ⟨fragments, rfl⟩ := exists_fragments rest n hlinks h.2
    exact ⟨⟨name, link, d⟩ :: fragments, rfl⟩

end

end Draft

end GuardedAutomata
