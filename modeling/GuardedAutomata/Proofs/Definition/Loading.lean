import GuardedAutomata.Document.Folder
import GuardedAutomata.Proofs.Automaton.Acceptance
import GuardedAutomata.Proofs.Definition.Flattening
import GuardedAutomata.Proofs.Store.Scan
import Mathlib

/-!
# Loaded automata

What is loaded from a file is built from a valid definition with the kinds of stores that are built in. It starts from
its start state, and its edges are guarded by what the definition says. A definition cannot name a test function, so
no text makes a look-up of what is loaded fail.
-/

set_option autoImplicit false

namespace GuardedAutomata

namespace Definition

/-! ### Guards in a tree -/

theorem guard_of_mem_links {i entry : Nat} {fs : List (Fragment Definition)} {e : Edge} (he : e ∈ links i entry fs) :
    e.guard = .epsilon := by
  induction fs generalizing entry with
  | nil => cases he
  | cons f fs ih =>
    rw [links, List.mem_append] at he
    rcases he with he | he
    · unfold linkTo Automaton.linkEdges at he
      split at he
      · cases he
      · split at he
        · cases List.mem_singleton.1 he
          rfl
        · cases he
    · exact ih he

mutual

/-- Epsilon guards an edge of a flattened definition, or what a transition of one of its nodes is guarded by. -/
theorem guard_of_mem_flatten (k : StoreKind) (base : Nat) (d : Definition) :
    ∀ row ∈ d.flatten k base, ∀ e ∈ row.edges,
      e.guard = .epsilon ∨ ∃ x ∈ d.nodes, ∃ t ∈ x.transitions, e.guard = t.guardIn k :=
  match d with
  | ⟨name, description, store, states, transitions, fragments⟩ => by
    intro row hrow e he
    rw [flatten, List.mem_append] at hrow
    rw [nodes]
    rcases hrow with hrow | hrow
    · obtain ⟨i, hi, rfl⟩ := List.mem_mapIdx.1 hrow
      rcases List.mem_append.1 he with he | he
      · obtain ⟨own, hown, rfl⟩ := List.mem_map.1 he
        obtain ⟨t, ht, rfl⟩ := List.mem_map.1 ((eraseDupsBy_sublist Edge.equal _).subset hown)
        exact .inr ⟨_, List.mem_cons_self, t, (List.mem_filter.1 ht).1, rfl⟩
      · exact .inl (guard_of_mem_links he)
    · refine (guard_of_mem_flattenAll k _ fragments row hrow e he).imp_right ?_
      rintro ⟨x, hx, hguard⟩
      exact ⟨x, List.mem_cons_of_mem _ hx, hguard⟩

theorem guard_of_mem_flattenAll (k : StoreKind) (base : Nat) (fs : List (Fragment Definition)) :
    ∀ row ∈ flattenAll k base fs, ∀ e ∈ row.edges,
      e.guard = .epsilon ∨ ∃ x ∈ nodesOfAll fs, ∃ t ∈ x.transitions, e.guard = t.guardIn k :=
  match fs with
  | [] => by simp [flattenAll]
  | ⟨_, _, d⟩ :: rest => by
    intro row hrow e he
    rw [flattenAll, List.mem_append] at hrow
    rw [nodesOfAll]
    rcases hrow with hrow | hrow
    · refine (guard_of_mem_flatten k base d row hrow e he).imp_right ?_
      rintro ⟨x, hx, hguard⟩
      exact ⟨x, List.mem_append_left _ hx, hguard⟩
    · refine (guard_of_mem_flattenAll k _ rest row hrow e he).imp_right ?_
      rintro ⟨x, hx, hguard⟩
      exact ⟨x, List.mem_append_right _ hx, hguard⟩

end

end Definition

/-! ### What is loaded -/

structure Automaton.Loaded (a : Automaton) : Prop where
  wellFormed : a.WellFormed
  builtIn : a.factory.storeKind.BuiltIn
  restarted : a.active = a.reset.active
  noTests : a.factory.storeKind = .callable → ∀ i p t, ⟨.predicate p, t⟩ ∉ a.edgesOf i

theorem Registry.builtIn_of_get {key : String} {k : StoreKind} (h : builtIn.get key = .ok k) : k.BuiltIn := by
  unfold get find? builtIn at h
  simp only [List.lookup] at h
  unfold StoreKind.BuiltIn
  grind

theorem TransitionEntry.guardIn_callable (t : TransitionEntry) : t.guardIn .callable = .epsilon := by
  unfold guardIn
  split <;> rfl

theorem Definition.loaded_of_build {d : Definition} {a : Automaton} (hd : d.Valid) (h : d.build .builtIn = .ok a) :
    a.Loaded := by
  obtain ⟨k, b, hk, -, hflat, rfl⟩ := build_eq_ok hd h
  have hkind : b.reset.factory.storeKind = k := by
    rw [b.reset_eq]
    exact congrArg Factory.storeKind hflat.factory
  have hedges : b.reset.edgesOf = b.edgesOf := by
    rw [b.reset_eq]
    rfl
  refine ⟨hflat.wellFormed.moved b.moved_reset, hkind ▸ Registry.builtIn_of_get hk, ?_,
    fun hcallable i p t he => ?_⟩
  · refine (Automaton.active_reset_congr ?_).symm
    rw [b.reset_eq]
  · rw [hedges] at he
    have hrow : b.row i ∈ d.flatten .callable 0 := by
      rw [← hcallable, hkind, ← hflat.rows]
      exact List.mem_map_of_mem (List.mem_range.2 (Automaton.lt_count_of_mem_edgesOf he))
    rcases guard_of_mem_flatten .callable 0 d _ hrow _ he with hguard | ⟨-, -, s, -, hguard⟩
    · cases hguard
    · cases hguard.trans s.guardIn_callable

theorem Folder.loaded_of_loadAutomaton {folder : Folder} {environment : Option Environment} {name : String}
    {a : Automaton} (h : folder.loadAutomaton environment name = .ok a) : a.Loaded := by
  unfold loadAutomaton at h
  split at h
  · cases h
  next d hd =>
    refine Definition.loaded_of_build ?_ h
    unfold readDefinition at hd
    split at hd
    · cases hd
    next v hv =>
      unfold Definition.load at hd
      split at hd
      · exact (Definition.ofValue_eq_ok.1 hd).2.1
      · split at hd
        · cases hd
        · exact (Definition.ofValue_eq_ok.1 hd).2.1

/-! ### Look-ups of texts -/

namespace Automaton.Loaded

variable [TestFunctions] {a : Automaton}

/-- Texts can be keys, can be compared with all bounds, and meet no test function. -/
theorem answers_str (ha : a.Loaded) (s : String) : a.Answers (.str s) := by
  have hne : Value.str s ≠ .epsilon := nofun
  refine answers_of_stores fun t ht => ?_
  have hfits := ha.wellFormed.stores t ht
  rcases ha.builtIn with hk | hk | hk
  · exact (hfits.sound.query_ok_iff_symbol (hfits.kind.trans hk) hne).2 rfl
  · exact hfits.sound.query_ok_range (hfits.kind.trans hk) hne
  · refine (hfits.sound.query_ok_iff_callable (hfits.kind.trans hk) hne).2 fun f j hentry => ?_
    obtain ⟨i, hi⟩ := List.mem_iff_getElem?.1 ht
    refine absurd (Store.mem_entries.1 hentry) fun he => ha.noTests hk i (.function f) j ?_
    rwa [edgesOf, hi]

end Automaton.Loaded

end GuardedAutomata
