import GuardedAutomata.Proofs.Definition.Flattening
import GuardedAutomata.Proofs.Value.WrittenRange

/-!
# Agreement of reading and building

The rules that a definition is read by look at one level of it at a time, and compare the store of a fragment
with that of its parent only. They are enough for building: no state that is referred to is missing where it
is looked up, and no stores of different kinds are joined, since one kind is used for the whole tree and a
fragment that names another one is refused, however deep it is.
-/

set_option autoImplicit false

namespace GuardedAutomata.Definition

variable {k : StoreKind} {kind : String} {d : Definition} {f : Failure}

/-- What goes wrong with a guard and is not reported with its place: it is read and cannot be a key, or it is refused by
stores of ranges and cannot be written for that. -/
inductive GuardFault (k : StoreKind) (name : String) (t : TransitionEntry) : Fault → Prop
  | unhashable {g : Guard} {type : String} : Automaton.guardOf k name t = .ok g → g.value.unhashable? = some type →
      GuardFault k name t (.unhashable type)
  | unwritten : k = .range → t.guard.hasText = false → ¬ Range.IsPair t.guard → GuardFault k name t (.longInteger none)

theorem guardFault_of_parse {name : String} {t : TransitionEntry} (h : k.parse t.guard = .error f)
    (hf : f.family? = none) : ∃ cause, GuardFault k name t cause ∧ f = .fault cause := by
  cases k with
  | range =>
    cases Range.refused_parse h with
    | bounds _ | form _ => cases hf
    | unwritten ht hp => exact ⟨_, .unwritten rfl ht hp, rfl⟩
  | callable =>
    cases h
    cases hf
  | symbol | upper | unnamed => cases h

/-- A transition is faulted for its guard, with its place or without. -/
theorem problem?_transition {name : String} {t : TransitionEntry} (h : t.problem? k name = some f) :
    (∃ cause, f = .invalidGuard t.source t.target name t.guard cause) ∨
      ∃ cause, GuardFault k name t cause ∧ f = .fault cause := by
  unfold TransitionEntry.problem? at h
  cases hg : Automaton.guardOf k name t with
  | ok g =>
    rw [hg] at h
    obtain ⟨type, ht, rfl⟩ := Value.keyProblem?_eq_some h
    exact .inr ⟨_, .unhashable hg ht, rfl⟩
  | error e =>
    rw [hg] at h
    cases h
    unfold Automaton.guardOf at hg
    split at hg
    · cases hg
    · split at hg <;> cases hg
      next cause hcause =>
        unfold Automaton.guardFailure
        split
        · exact .inl ⟨_, rfl⟩
        next hnone => exact .inr (guardFault_of_parse hcause hnone)

theorem ownProblem?_eq_some (h : d.ownProblem? k = some f) :
    (∃ s ∈ d.states, ∃ m ∈ s.markers, ∃ type, m.unhashable? = some type ∧ f = .fault (.unhashable type)) ∨
      ∃ t ∈ d.transitions, t.problem? k d.name = some f := by
  rcases Option.or_eq_some_iff.1 h with hs | ⟨-, ht⟩
  · obtain ⟨s, hmem, hs⟩ := List.exists_of_findSome?_eq_some hs
    obtain ⟨m, hm, hs⟩ := List.exists_of_findSome?_eq_some hs
    obtain ⟨type, ht, rfl⟩ := Value.keyProblem?_eq_some hs
    exact .inl ⟨s, hmem, m, hm, type, ht, rfl⟩
  · exact .inr (List.exists_of_findSome?_eq_some ht)

/-- What keeps a valid definition from being built is a bad configuration, or something that cannot be a key or be
written. -/
theorem family?_of_build_error {r : Registry} (hd : d.Valid) (h : d.build r = .error f) :
    f.family? = some .configuration ∨ ∃ cause, f = .fault cause := by
  rcases (build_eq_error hd).1 h with hk | ⟨k, -, hp⟩
  · unfold Registry.get at hk
    split at hk <;> cases hk
    exact .inl rfl
  · rcases problem?_eq_some d hp with ⟨x, -, hx⟩ | ⟨name, store, rfl⟩
    · rcases ownProblem?_eq_some hx with ⟨_, _, _, _, type, -, rfl⟩ | ⟨t, -, ht⟩
      · exact .inr ⟨_, rfl⟩
      · rcases problem?_transition ht with ⟨cause, rfl⟩ | ⟨cause, -, rfl⟩
        · exact .inl rfl
        · exact .inr ⟨cause, rfl⟩
    · exact .inl rfl

def nest : Nat → Draft
  | 0 => ⟨"automaton", none, none, [], [], []⟩
  | n + 1 => ⟨"automaton", none, none, [], [], [⟨none, none, nest n⟩]⟩

def nestValue : Nat → Value
  | 0 => .dict []
  | n + 1 => .dict [(.str "fragments", .list [.dict [(.str "automaton", nestValue n)]])]

theorem written_nest (n : Nat) : (nest n).Written (nestValue n) := by
  induction n with
  | zero => exact ⟨[], [], [], [], rfl, rfl, rfl, rfl, ⟨rfl, .nil⟩, ⟨rfl, .nil⟩, rfl, rfl⟩
  | succ n ih =>
    exact ⟨_, [], [], _, rfl, rfl, rfl, rfl, ⟨rfl, .nil⟩, ⟨rfl, .nil⟩, rfl, _, nestValue n, [], rfl, rfl, rfl, rfl, ih,
      rfl⟩

theorem valid_nest (n : Nat) : (nest n).Valid := by
  induction n with
  | zero => simp [nest, Draft.Valid, Draft.AllValid]
  | succ n ih => simp [nest, Draft.Valid, Draft.AllValid, DraftFragment.Linked, DraftFragment.Matching, ih]

theorem height_nest (n : Nat) : (nest n).height = n + 1 := by
  induction n with
  | zero => rfl
  | succ n ih => simp [nest, Draft.height, Draft.heights, ih]

theorem exists_ofValue_nest_iff (n : Nat) : (∃ d, ofValue (nestValue n) = .ok d) ↔ n < mostNested := by
  rw [Draft.exists_ofValue_iff (written_nest n), height_nest, and_iff_right (valid_nest n)]
  rfl

end GuardedAutomata.Definition
