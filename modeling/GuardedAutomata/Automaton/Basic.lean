import GuardedAutomata.Automaton.StateSet
import GuardedAutomata.Store.Factory

/-!
# Automata

An automaton numbers its states from 0, the start state. Each state has a store of outgoing edges and a
set of markers; a state with markers accepts. The frontier is the set of active states.

An operation that may fail gives the automaton as it is afterwards beside its outcome.
-/

set_option autoImplicit false

namespace GuardedAutomata

structure Automaton where
  name : Value
  factory : Factory
  stores : List Store
  markers : List (List Value)
  active : StateSet
  deriving Inhabited

abbrev Attempt (α : Type) := Automaton × Except Failure α

namespace Automaton

def new (factory : Factory) (name : Value) : Automaton :=
  ⟨name, factory, [], [], .empty⟩

def count (a : Automaton) : Nat :=
  a.stores.length

def edgesOf (a : Automaton) (i : Nat) : List Edge :=
  ((a.stores[i]?).map Store.edges).getD []

def markersAt (a : Automaton) (i : Nat) : List Value :=
  (a.markers[i]?).getD []

def epsilonTargets (a : Automaton) (i : Nat) : List Nat :=
  ((a.stores[i]?).map Store.epsilon).getD []

def closeRounds (next : Nat → List Nat) : Nat → StateSet → List Nat → StateSet
  | 0, reached, _ => reached
  | fuel + 1, reached, suspects =>
    let discovered := (suspects.flatMap next).filter (· ∉ reached)
    if discovered.isEmpty then reached
    else closeRounds next fuel (reached.insertAll discovered) (StateSet.ofList discovered).ids

def closure (a : Automaton) (states : StateSet) : StateSet :=
  closeRounds a.epsilonTargets a.count states states.ids

def resolve (a : Automaton) (v : Value) : Except Failure Nat :=
  match v with
  | .state id => if id < a.count then .ok id else .error (.unknownState id a.count)
  | .int n =>
    if n < 0 then .error (.unknownState n a.count)
    else if n.toNat < a.count then .ok n.toNat
    else .error (.unknownState n a.count)
  | v => .error (.fault (.badStateId v))

theorem lt_count_of_resolve {a : Automaton} {v : Value} {i : Nat} (h : a.resolve v = .ok i) :
    i < a.count := by
  unfold resolve at h
  split at h
  · split at h
    · cases h
      assumption
    · cases h
  · split at h
    · cases h
    · split at h
      · cases h
        assumption
      · cases h
  · cases h

def resolveAll (a : Automaton) : List Value → Except Failure (List Nat)
  | [] => .ok []
  | v :: rest =>
    match a.resolve v with
    | .error f => .error f
    | .ok i =>
      match a.resolveAll rest with
      | .error f => .error f
      | .ok is => .ok (i :: is)

def resolveSet (a : Automaton) (states : Value) : Except Failure StateSet :=
  match states.elements with
  | .error cause => .error (.fault cause)
  | .ok items =>
    match a.resolveAll items with
    | .error f => .error f
    | .ok is => .ok (.ofList is)

def newState (a : Automaton) : Automaton × Nat :=
  ({ a with
      stores := a.stores ++ [a.factory.newStore]
      markers := a.markers ++ [[]]
      active := if a.count = 0 then a.active.insert 0 else a.active }, a.count)

theorem count_newState (a : Automaton) : a.newState.1.count = a.count + 1 := by
  simp [newState, count]

theorem edgesOf_newState (a : Automaton) (i : Nat) : a.newState.1.edgesOf i = a.edgesOf i := by
  rcases Nat.lt_trichotomy i a.stores.length with h | h | h
  · simp [newState, edgesOf, List.getElem?_append_left h]
  · subst h
    simp [newState, edgesOf, Factory.newStore]
  · have hi : a.stores.length ≤ i := by omega
    have hs : (a.stores ++ [a.factory.newStore]).length ≤ i := by
      simp only [List.length_append, List.length_singleton]
      omega
    simp [newState, edgesOf, List.getElem?_eq_none hi, List.getElem?_eq_none hs]

theorem markersAt_newState (a : Automaton) (i : Nat) : a.newState.1.markersAt i = a.markersAt i := by
  rcases Nat.lt_or_ge i a.markers.length with hi | hi
  · rw [markersAt, newState, List.getElem?_append_left hi, markersAt]
  · rw [markersAt, newState, List.getElem?_append_right hi, markersAt, List.getElem?_eq_none hi]
    cases i - a.markers.length <;> rfl

def grow : Nat → Automaton → Automaton
  | 0, a => a
  | n + 1, a => grow n a.newState.1

theorem count_grow (n : Nat) (a : Automaton) : (grow n a).count = a.count + n := by
  induction n generalizing a with
  | zero => rfl
  | succ n ih =>
    rw [grow, ih, count_newState]
    omega

theorem edgesOf_grow (n : Nat) (a : Automaton) (i : Nat) : (grow n a).edgesOf i = a.edgesOf i := by
  induction n generalizing a with
  | zero => rfl
  | succ n ih => rw [grow, ih, edgesOf_newState]

theorem markersAt_grow (n : Nat) (a : Automaton) (i : Nat) : (grow n a).markersAt i = a.markersAt i := by
  induction n generalizing a with
  | zero => rfl
  | succ n ih => rw [grow, ih, markersAt_newState]

def close (a : Automaton) : Automaton :=
  { a with active := a.closure a.active }

def putEdge (a : Automaton) (source : Nat) (guard : Guard) (target : Nat) : Except Failure Automaton :=
  match a.stores[source]? with
  | none => .error (.unknownState source a.count)
  | some s =>
    match s.put guard target with
    | .error f => .error f
    | .ok s => .ok { a with stores := a.stores.set source s }

@[simp] theorem count_close (a : Automaton) : a.close.count = a.count := rfl

@[simp] theorem edgesOf_close (a : Automaton) (i : Nat) : a.close.edgesOf i = a.edgesOf i := rfl

@[simp] theorem markersAt_close (a : Automaton) (i : Nat) : a.close.markersAt i = a.markersAt i := rfl

/-- An edge changes nothing but the store of its source. -/
theorem putEdge_eq_ok {a b : Automaton} {source target : Nat} {guard : Guard}
    (h : a.putEdge source guard target = .ok b) :
    ∃ s t, a.stores[source]? = some s ∧ s.put guard target = .ok t ∧
      b = { a with stores := a.stores.set source t } := by
  unfold putEdge at h
  split at h
  · cases h
  next s hs =>
    split at h
    · cases h
    next t ht =>
      cases h
      exact ⟨s, t, hs, ht, rfl⟩

theorem count_putEdge {a b : Automaton} {source target : Nat} {guard : Guard}
    (h : a.putEdge source guard target = .ok b) : b.count = a.count := by
  obtain ⟨s, t, _, _, rfl⟩ := putEdge_eq_ok h
  simp [count]

def newTransition (a : Automaton) (source target guard : Value) : Attempt Unit :=
  match a.resolve source with
  | .error f => (a, .error f)
  | .ok i =>
    match a.resolve target with
    | .error f => (a, .error f)
    | .ok j =>
      match Guard.ofValue guard with
      | .error f => (a, .error f)
      | .ok g =>
        match a.putEdge i g j with
        | .error f => (a, .error f)
        | .ok b => (match g with | .epsilon => b.close | .predicate _ => b, .ok ())

def mark (a : Automaton) (state marker : Value) : Attempt Unit :=
  match a.resolve state with
  | .error f => (a, .error f)
  | .ok i =>
    match marker.checkHashable with
    | .error cause => (a, .error (.fault cause))
    | .ok _ => ({ a with markers := a.markers.set i (Value.insertInto (a.markersAt i) marker) }, .ok ())

def reset (a : Automaton) : Automaton :=
  if a.count = 0 then { a with active := .empty }
  else { a with active := a.closure (.ofList [0]) }

def setActive (a : Automaton) (states : Value) : Attempt Unit :=
  match a.resolveSet states with
  | .error f => (a, .error f)
  | .ok s => ({ a with active := a.closure s }, .ok ())

def epsilonClosure (a : Automaton) (states : Value) : Except Failure StateSet :=
  match a.resolveSet states with
  | .error f => .error f
  | .ok s => .ok (a.closure s)

def dropMarkers (a : Automaton) : Automaton :=
  { a with markers := a.markers.map fun _ => [] }

theorem markersAt_dropMarkers (a : Automaton) (i : Nat) : a.dropMarkers.markersAt i = [] := by
  unfold markersAt dropMarkers
  rw [List.getElem?_map]
  cases a.markers[i]? <;> rfl

def marked (a : Automaton) : StateSet :=
  .ofList ((List.range a.count).filter fun i => !(a.markersAt i).isEmpty)

theorem mem_marked {a : Automaton} {i : Nat} :
    i ∈ a.marked ↔ i < a.count ∧ a.markersAt i ≠ [] := by
  simp [marked, StateSet.mem_ofList]

def markersOf (a : Automaton) (state : Value) : Except Failure (List Value) :=
  match a.resolve state with
  | .error f => .error f
  | .ok i => .ok (a.markersAt i)

def transitionsOf (a : Automaton) (state : Value) : Except Failure (List Edge) :=
  match a.resolve state with
  | .error f => .error f
  | .ok i => .ok (a.edgesOf i)

def rename (a : Automaton) (name : Value) : Automaton :=
  { a with name }

end Automaton

end GuardedAutomata
