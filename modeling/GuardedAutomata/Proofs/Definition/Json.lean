import GuardedAutomata.Proofs.Definition.Agreement

/-!
# Definitions made of JSON

A definition that is made of JSON values can be bad in many ways: a reference to a variable that is not set, a
field of a wrong type, a broken rule, a guard that its kind of stores cannot read, a fragment that names another
store. Each of these is reported as a bad configuration. There are two exceptions. Reading a guard of a symbol
store accepts every value, and a range has any bounds that can be compared, so a list or a dictionary can get
into a guard, and only recording the edge shows that it cannot be a key. And what is refused as a range is quoted,
which fails where it holds an integer with too many digits.
-/

set_option autoImplicit false

namespace GuardedAutomata

namespace Value

mutual

def IsJson : Value → Prop
  | null => True
  | bool _ => True
  | int _ => True
  | float _ => True
  | str _ => True
  | list items => AllJson items
  | dict entries => EntriesJson entries
  | _ => False

def AllJson : List Value → Prop
  | [] => True
  | v :: rest => IsJson v ∧ AllJson rest

def EntriesJson : List (Value × Value) → Prop
  | [] => True
  | (k, v) :: rest => (∃ s, k = .str s) ∧ IsJson v ∧ EntriesJson rest

end

variable {v w : Value} {vs : List Value} {entries : List (Value × Value)} {key : String}

theorem allJson_iff : AllJson vs ↔ ∀ v ∈ vs, v.IsJson := by
  induction vs with
  | nil => simp [AllJson]
  | cons v vs ih => rw [AllJson, ih, List.forall_mem_cons]

theorem isJson_of_field? (h : EntriesJson entries) (hf : field? entries key = some v) : v.IsJson := by
  induction entries with
  | nil => cases hf
  | cons e entries ih =>
    obtain ⟨k, w⟩ := e
    obtain ⟨⟨s, rfl⟩, hw, hrest⟩ := h
    unfold field? at hf
    split at hf
    · cases hf
      exact hw
    · exact ih hrest hf

theorem allJson_of_sequence? (h : v.IsJson) (hs : Definition.sequence? v = some vs) : ∀ w ∈ vs, w.IsJson := by
  cases v <;> simp_all [Definition.sequence?, IsJson, allJson_iff]

theorem IsJson.hashable_marker (h : v.IsJson) (ht : Draft.MarkerTyped v) : v.unhashable? = none := by
  cases v <;> simp_all [IsJson, Draft.MarkerTyped, unhashable?]

end Value

/-! ### Resolving references -/

def Configured {α : Type} (made : α → Prop) (attempt : Except Failure α) : Prop :=
  match attempt with
  | .ok x => made x
  | .error f => f.family? = some .configuration

theorem Configured.followed {α β : Type} {made : α → Prop} {other : β → Prop} {attempt : Except Failure α}
    {whole : Except Failure β} (h : Configured made attempt)
    (hfailed : ∀ f, attempt = .error f → whole = .error f)
    (hnext : ∀ x, attempt = .ok x → made x → Configured other whole) : Configured other whole := by
  cases ha : attempt with
  | ok x =>
    rw [ha] at h
    exact hnext x ha h
  | error f =>
    rw [ha] at h
    rw [hfailed f ha]
    exact h

namespace Environment

theorem configured_resolveText (e : Environment) (s : String) : Configured (fun _ => True) (e.resolveText s) := by
  unfold resolveText
  split
  · trivial
  · split
    · trivial
    · rfl
  · trivial
  · split
    · trivial
    · rfl
  · trivial

mutual

theorem configured_resolve (e : Environment) (v : Value) (h : v.IsJson) : Configured Value.IsJson (e.resolve v) :=
  match v with
  | .null => trivial
  | .bool _ => trivial
  | .int _ => trivial
  | .float _ => trivial
  | .str s => by
    rw [resolve]
    refine (configured_resolveText e s).followed (fun f hf => by rw [hf]) fun t ht _ => ?_
    rw [ht]
    trivial
  | .list items => by
    rw [resolve]
    refine (configured_resolveItems e items h).followed (fun f hf => by rw [hf]) fun ws hws hjson => ?_
    rw [hws]
    exact hjson
  | .dict entries => by
    rw [resolve]
    refine (configured_resolveEntries e entries h).followed (fun f hf => by rw [hf]) fun es hes hjson => ?_
    rw [hes]
    exact hjson

theorem configured_resolveItems (e : Environment) (vs : List Value) (h : Value.AllJson vs) :
    Configured Value.AllJson (e.resolveItems vs) :=
  match vs with
  | [] => trivial
  | v :: rest => by
    rw [resolveItems]
    refine (configured_resolve e v h.1).followed (fun f hf => by rw [hf]) fun w hw hjson => ?_
    rw [hw]
    refine (configured_resolveItems e rest h.2).followed (fun f hf => by simp only [hf]) fun ws hws hrest => ?_
    simp only [hws]
    exact ⟨hjson, hrest⟩

theorem configured_resolveEntries (e : Environment) (entries : List (Value × Value))
    (h : Value.EntriesJson entries) : Configured Value.EntriesJson (e.resolveEntries entries) :=
  match entries with
  | [] => trivial
  | (k, v) :: rest => by
    rw [resolveEntries]
    refine (configured_resolve e v h.2.1).followed (fun f hf => by rw [hf]) fun w hw hjson => ?_
    rw [hw]
    refine (configured_resolveEntries e rest h.2.2).followed (fun f hf => by simp only [hf]) fun es hes hrest => ?_
    simp only [hes]
    exact ⟨h.1, hjson, hrest⟩

end

end Environment

/-! ### Markers -/

namespace Definition

open Draft

variable {k : StoreKind} {kind : String} {d : Definition} {v : Value} {f : Failure}

theorem allJson_of_items {entries : List (Value × Value)} {key : String} {vs : List Value}
    (h : Value.EntriesJson entries) (hvs : Items entries key vs) : ∀ w ∈ vs, w.IsJson := by
  unfold Items at hvs
  cases hf : Value.field? entries key with
  | none =>
    rw [hf] at hvs
    simp_all
  | some v =>
    rw [hf] at hvs
    exact Value.allJson_of_sequence? (Value.isJson_of_field? h hf) hvs

def HashableMarkers (d : Definition) : Prop :=
  ∀ s ∈ d.states, ∀ m ∈ s.markers, m.unhashable? = none

theorem hashableMarkers_of_written {states : List StateEntry} {vs : List Value} (hvs : ∀ v ∈ vs, v.IsJson)
    (h : List.Forall₂ StateWritten (states.map StateEntry.draft) vs) :
    ∀ s ∈ states, ∀ m ∈ s.markers, m.unhashable? = none := by
  rw [List.forall₂_map_left_iff] at h
  induction h with
  | nil => simp
  | cons hs _ ih =>
    obtain ⟨hv, hothers⟩ := List.forall_mem_cons.1 hvs
    obtain ⟨entries, rfl, -, hmarkers, htyped⟩ := hs
    refine List.forall_mem_cons.2 ⟨fun m hm => ?_, ih hothers⟩
    exact (allJson_of_items hv hmarkers m hm).hashable_marker (htyped m hm)

mutual

theorem hashable_of_written (d : Definition) (v : Value) (hv : v.IsJson) (h : d.draft.Written v) :
    ∀ x ∈ d.nodes, x.HashableMarkers :=
  match d with
  | ⟨name, description, store, states, transitions, fragments⟩ => by
    rw [draft, Written] at h
    obtain ⟨entries, ss, ts, fs, rfl, -, -, -, ⟨hss, hstates⟩, -, hfs, hfragments⟩ := h
    rw [nodes, List.forall_mem_cons]
    exact ⟨hashableMarkers_of_written (allJson_of_items hv hss) hstates,
      hashable_of_allWritten fragments fs (allJson_of_items hv hfs) hfragments⟩

theorem hashable_of_allWritten (fs : List (Fragment Definition)) (vs : List Value) (hvs : ∀ v ∈ vs, v.IsJson)
    (h : AllWritten (drafts fs) vs) : ∀ x ∈ nodesOfAll fs, x.HashableMarkers :=
  match fs with
  | [] => by simp [nodesOfAll]
  | ⟨name, linkFrom, d⟩ :: rest => by
    rw [drafts, AllWritten] at h
    obtain ⟨entries, w, others, rfl, -, -, hw, hwritten, hrest⟩ := h
    obtain ⟨hv, hothers⟩ := List.forall_mem_cons.1 hvs
    rw [nodesOfAll, List.forall_mem_append]
    exact ⟨hashable_of_written d w (Value.isJson_of_field? hv hw) hwritten,
      hashable_of_allWritten rest others hothers hrest⟩

end

/-! ### Failures -/

/-- A definition is read as one whose markers can be keys, or refused for a bad configuration. -/
theorem configured_load (environment : Option Environment) (hv : v.IsJson) :
    Configured (fun d => d.Valid ∧ ∀ x ∈ d.nodes, x.HashableMarkers) (load environment v) := by
  have hread : ∀ w : Value, w.IsJson →
      Configured (fun d => d.Valid ∧ ∀ x ∈ d.nodes, x.HashableMarkers) (ofValue w) := by
    intro w hw
    cases hd : ofValue w with
    | ok d =>
      obtain ⟨hwritten, hvalid, -⟩ := ofValue_eq_ok.1 hd
      exact ⟨hvalid, hashable_of_written d w hw hwritten⟩
    | error f =>
      unfold ofValue at hd
      split at hd <;> cases hd
      exact rfl
  cases environment with
  | none => exact hread v hv
  | some e =>
    rw [load]
    refine (e.configured_resolve v hv).followed (fun f hf => by rw [hf]) fun w hw hjson => ?_
    rw [hw]
    exact hread w hjson

end Definition

def Automaton.read (environment : Option Environment) (v : Value) : Except Failure Automaton :=
  match Definition.load environment v with
  | .error f => .error f
  | .ok d => d.build .builtIn

theorem Automaton.ofDict_eq_read (v : Value) : ofDict v = read none v := rfl

namespace Definition

variable {k : StoreKind} {kind : String} {d : Definition} {v : Value} {f : Failure}

/-- Without markers that cannot be keys only a guard is to blame for a fault. -/
theorem exists_guard_of_problem? {cause : Fault} (hm : ∀ x ∈ d.nodes, x.HashableMarkers)
    (h : d.problem? k kind = some (.fault cause)) :
    ∃ x ∈ d.nodes, ∃ t ∈ x.transitions, GuardFault k x.name t cause := by
  rcases problem?_eq_some d h with ⟨x, hx, hp⟩ | ⟨name, store, hf⟩
  · rcases ownProblem?_eq_some hp with ⟨s, hs, m, hmem, type, ht, -⟩ | ⟨t, ht, hp⟩
    · cases (hm x hx s hs m hmem).symm.trans ht
    · rcases problem?_transition hp with ⟨cause, hf⟩ | ⟨other, hfault, hf⟩
      · cases hf
      · cases hf
        exact ⟨x, hx, t, ht, hfault⟩
  · cases hf

end Definition

namespace Automaton

open Definition

/-- Reading a definition that is made of JSON values, not too deep, fails for a bad configuration only, unless a
node of it has a transition whose guard is read as something that cannot be a key, or is refused as a range and
cannot be written: then it fails with that fault, which is no bad configuration. It fails so whenever such a guard
is the first problem there is. A dictionary form is read in the same way, without an environment. -/
theorem read_json (environment : Option Environment) {v : Value} (hv : v.IsJson) (_hs : v.Shallow) :
    (∀ f, read environment v = .error f → f.family? = some .configuration ∨
      ∃ d k x t cause, load environment v = .ok d ∧ Registry.builtIn.get d.effectiveKind = .ok k ∧
        x ∈ d.nodes ∧ t ∈ x.transitions ∧ GuardFault k x.name t cause ∧ f = .fault cause) ∧
      (∀ d k f, load environment v = .ok d → Registry.builtIn.get d.effectiveKind = .ok k →
        d.problem? k d.effectiveKind = some f → read environment v = .error f) ∧
      ofDict v = read none v := by
  have hload := configured_load environment hv
  rw [← and_assoc]
  refine ⟨?_, ofDict_eq_read v⟩
  unfold read
  cases hd : load environment v with
  | error f =>
    rw [hd] at hload
    exact ⟨fun g hg => .inl (Except.error.inj hg ▸ hload), nofun⟩
  | ok d =>
    rw [hd] at hload
    obtain ⟨hvalid, hmarkers⟩ := hload
    constructor
    · intro f hf
      rcases family?_of_build_error hvalid hf with hfamily | ⟨cause, rfl⟩
      · exact .inl hfamily
      · rcases (build_eq_error hvalid).1 hf with hk | ⟨k, hk, hp⟩
        · unfold Registry.get at hk
          split at hk <;> cases hk
        · obtain ⟨x, hx, t, ht, hfault⟩ := exists_guard_of_problem? hmarkers hp
          exact .inr ⟨d, k, x, t, cause, rfl, hk, hx, ht, hfault, rfl⟩
    · intro e k f he hk hp
      cases he
      exact (build_eq_error hvalid).2 (.inr ⟨k, hk, hp⟩)

/-- A range whose bounds are lists, on a store that is named by a variable. -/
theorem read_json_range : ∃ (e : Environment) (v : Value), v.IsJson ∧
    read (some e) v = .error (.fault (.unhashable "list")) := by
  let e : Environment := ⟨[("KIND", "range")], "NFAKIT_"⟩
  let bounds : Value := .list [.list [.int 1], .list [.int 2]]
  let form (store : Value) : Value := .dict [(.str "store", store),
    (.str "states", .list [.dict [(.str "id", .int 0)]]),
    (.str "transitions", .list [.dict [(.str "from", .int 0), (.str "to", .int 0), (.str "guard", bounds)]])]
  let d : Definition := ⟨"automaton", none, some "range", [⟨0, []⟩], [⟨0, 0, bounds, false⟩], []⟩
  have hv : (form (.str "${KIND}")).IsJson := by
    simp [form, bounds, Value.IsJson, Value.AllJson, Value.EntriesJson]
  have hresolve : e.resolve (form (.str "${KIND}")) = .ok (form (.str "range")) := by rfl
  have hread : ofValue (form (.str "range")) = .ok d := by cbv
  have hload : load (some e) (form (.str "${KIND}")) = .ok d := by
    rw [load, hresolve]
    exact hread
  have hs : (form (.str "${KIND}")).Shallow := by decide
  exact ⟨e, _, hv, (read_json (some e) hv hs).2.1 d .range _ hload rfl (by cbv)⟩

/-- A list in the place of a symbol gets out of building as a fault, which is no bad configuration. -/
theorem ofDict_list_guard : ∃ v : Value, v.IsJson ∧ ofDict v = .error (.fault (.unhashable "list")) ∧
    (Failure.fault (.unhashable "list")).family? ≠ some .configuration := by
  let edge : Value := .dict [(.str "from", .int 0), (.str "to", .int 1), (.str "guard", .list [.str "a"])]
  let v : Value := .dict [(.str "states", .list [.dict [(.str "id", .int 0)], .dict [(.str "id", .int 1)]]),
    (.str "transitions", .list [edge])]
  have hv : v.IsJson := by simp [v, edge, Value.IsJson, Value.AllJson, Value.EntriesJson]
  have hbuild : ofDict v = .error (.fault (.unhashable "list")) := by cbv
  exact ⟨v, hv, hbuild, by decide⟩

end Automaton

end GuardedAutomata
