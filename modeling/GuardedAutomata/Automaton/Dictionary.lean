import GuardedAutomata.Automaton.Debug

/-!
# Dictionary form

An automaton as a definition that can be read back: its name, the kind of its stores, its states with
their markers, and its transitions in one list. The markers of a state are sorted by their text, so writing the
form fails at a marker that has none.
-/

set_option autoImplicit false

namespace GuardedAutomata.Automaton

def edgeEntry (k : StoreKind) (source : Nat) (e : Edge) : Except Failure Value :=
  let ends := [(.str "from", .int source), (.str "to", .int e.target)]
  match e.guard with
  | .epsilon => .ok (.dict (ends ++ [(.str "epsilon", .bool true)]))
  | .predicate p =>
    match k.dump p with
    | .error f => .error f
    | .ok raw => .ok (.dict (ends ++ [(.str "guard", raw)]))

def edgeEntries (k : StoreKind) (source : Nat) : List Edge → Except Failure (List Value)
  | [] => .ok []
  | e :: rest =>
    match edgeEntry k source e with
    | .error f => .error f
    | .ok entry =>
      match edgeEntries k source rest with
      | .error f => .error f
      | .ok entries => .ok (entry :: entries)

def stateEntry (a : Automaton) (i : Nat) : Value :=
  .dict [(.str "id", .int i), (.str "markers", .list (a.sortedMarkers i))]

def transitionEntries (a : Automaton) : List Nat → Except Failure (List Value)
  | [] => .ok []
  | i :: rest =>
    match edgeEntries a.factory.storeKind i (a.edgesOf i) with
    | .error f => .error f
    | .ok entries =>
      match a.transitionEntries rest with
      | .error f => .error f
      | .ok others => .ok (entries ++ others)

def toDict (a : Automaton) : Except Failure Value :=
  match a.factory.kindName? with
  | none => .error (.noKind a.factory.literal)
  | some kind =>
    match a.transitionEntries (List.range a.count) with
    | .error f => .error f
    | .ok transitions =>
      .ok (.dict [(.str "name", a.name), (.str "store", .str kind),
        (.str "states", .list ((List.range a.count).map a.stateEntry)),
        (.str "transitions", .list transitions)])

def checkStates (a : Automaton) : List Nat → Except Failure Unit
  | [] => .ok ()
  | i :: rest =>
    match Value.checkTexts (a.markersAt i) with
    | .error cause => .error (.fault cause)
    | .ok _ =>
      match edgeEntries a.factory.storeKind i (a.edgesOf i) with
      | .error f => .error f
      | .ok _ => a.checkStates rest

def writeDict (a : Automaton) : Except Failure Value :=
  match a.factory.kindName? with
  | none => .error (.noKind a.factory.literal)
  | some _ =>
    match a.checkStates (List.range a.count) with
    | .error f => .error f
    | .ok _ => a.toDict

end GuardedAutomata.Automaton
