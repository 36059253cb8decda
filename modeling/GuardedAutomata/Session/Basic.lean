import GuardedAutomata.Definition.Builder
import GuardedAutomata.Session.Command
import GuardedAutomata.Value.State

/-!
# Sessions

A session holds automata and stores in variables and performs commands on them, one at a time. A command
that fails leaves the session as it is, apart from what the operation changed before it failed.

A round trip reads back the dictionary form as it is, and does not ask whether its markers can be written.
-/

set_option autoImplicit false

namespace GuardedAutomata

inductive Held where
  | automaton (a : Automaton)
  | store (s : Store)

structure Session where
  held : List (String × Held)
  foreignCount : Nat

namespace Session

variable [TestFunctions]

def empty : Session := ⟨[], 0⟩

def find? (s : Session) (name : String) : Option Held :=
  s.held.lookup name

def automaton? (s : Session) (name : String) : Option Automaton :=
  match s.find? name with
  | some (.automaton a) => some a
  | _ => none

def store? (s : Session) (name : String) : Option Store :=
  match s.find? name with
  | some (.store t) => some t
  | _ => none

def assign (s : Session) (name : String) (h : Held) : Session :=
  { s with held := (name, h) :: s.held.filter (·.1 != name) }

def makeFactory (s : Session) : FactoryChoice → Except Failure (Session × Factory)
  | .ofKind k => .ok (s, .ofKind k)
  | .foreign => .ok ({ s with foreignCount := s.foreignCount + 1 }, .foreign s.foreignCount)
  | .registered key =>
    match Registry.builtIn.factory key with
    | .ok f => .ok (s, f)
    | .error f => .error f

def keep (s : Session) (name : String) (attempt : Attempt Answer) : Session × Except Failure Answer :=
  (s.assign name (.automaton attempt.1), attempt.2)

def answering {α : Type} (f : α → Answer) (attempt : Attempt α) : Attempt Answer :=
  match attempt with
  | (a, .ok x) => (a, .ok (f x))
  | (a, .error e) => (a, .error e)

def answer {α : Type} (f : α → Answer) : Except Failure α → Except Failure Answer
  | .ok x => .ok (f x)
  | .error e => .error e

def answerFault {α : Type} (f : α → Answer) : Except Fault α → Except Failure Answer
  | .ok x => .ok (f x)
  | .error e => .error (.fault e)

def newStates (a : Automaton) (n : Nat) : Attempt Answer :=
  (a.grow n, .ok (.ids ((List.range n).map (a.count + ·))))

def onAutomaton (a : Automaton) : Command → Option (Attempt Answer)
  | .newState => some (a.newState.1, .ok (.count a.newState.2))
  | .newStates n => some (newStates a n)
  | .newTransition source target guard =>
    some (answering (fun _ => .nothing) (a.newTransition source target guard))
  | .mark state marker => some (answering (fun _ => .nothing) (a.mark state marker))
  | .reset => some (a.reset, .ok .nothing)
  | .dropMarkers => some (a.dropMarkers, .ok .nothing)
  | .step v => some (answering .flag (a.step v))
  | .accepts vs => some (answering .flag (a.accepts vs))
  | .feed vs => some (answering .feed (a.feed vs))
  | .currentMarkers => some (a, .ok (.markers a.currentMarkers))
  | .markersOf state => some (a, answer .markers (a.markersOf state))
  | .activeStates => some (a, .ok (.ids a.active.ids))
  | .marked => some (a, .ok (.ids a.marked.ids))
  | .epsilonClosure states => some (a, answer (fun s => .ids s.ids) (a.epsilonClosure states))
  | .setActive states => some (answering (fun _ => .nothing) (a.setActive states))
  | .transitionsOf state => some (a, answer .edges (a.transitionsOf state))
  | .states => some (a, .ok (.ids (List.range a.count)))
  | .size => some (a, .ok (.counts [a.count, a.count]))
  | .rename name => some (a.rename name, .ok .nothing)
  | .debug => some (a, answerFault .text a.writeDebug)
  | .literal => some (a, answerFault (fun _ => .texts [a.literal, a.factory.literal]) a.name.checkText)
  | .dot options => some (a, answerFault .text (a.writeDot options))
  | .toDict => some (a, answer .value a.writeDict)
  | _ => none

def onStore (t : Store) : Command → Option (Store × Except Failure Answer)
  | .put guard target =>
    match Guard.ofValue guard with
    | .error f => some (t, .error f)
    | .ok g =>
      match t.put g target with
      | .error f => some (t, .error f)
      | .ok u => some (u, .ok (.count u.size))
  | .query v => some (t, answerFault .ids (t.query v))
  | .items => some (t, .ok (.edges t.edges))
  | .symbols => some (t, .ok (.values t.symbols))
  | .literal => some (t, answerFault (fun _ => .text t.literal) (Value.checkTexts (t.edges.map (·.guard.value))))
  | .formatGuard g => some (t, answerFault (fun _ => .text (t.kind.formatGuard g)) g.value.checkText)
  | .coerce v => some (t, answer .value (t.kind.coerce v))
  | .format v => some (t, answerFault .text (t.kind.writeFormat v))
  | .parse v => some (t, answer .value (t.kind.parse v))
  | .dump v => some (t, answer .value (t.kind.dump v))
  | _ => none

def add (s : Session) (name other : String) : Option (Session × Except Failure Answer) :=
  match s.automaton? name, s.automaton? other with
  | some a, some b =>
    some (s.keep name (answering .entry (if name = other then a.addSelf else a.add b)))
  | _, _ => none

def merge (s : Session) (name other : String) (shift : Value) : Option (Session × Except Failure Answer) :=
  match s.store? name, s.store? other with
  | some t, some u =>
    let (merged, outcome) := t.merge u fun target => StateId.shift target shift
    some (s.assign name (.store merged), answer (fun _ => .count merged.size) outcome)
  | _, _ => none

def roundTrip (s : Session) (name target : String) : Option (Session × Except Failure Answer) :=
  (s.automaton? name).map fun a =>
    match a.toDict with
    | .error f => (s, .error f)
    | .ok d =>
      match Automaton.ofDict d with
      | .error f => (s, .error f)
      | .ok b => (s.assign target (.automaton b), .ok (.text b.debugText))

def activeTransitions (s : Session) (name : String) (target : Option String) :
    Option (Session × Except Failure Answer) :=
  (s.automaton? name).map fun a =>
    match a.activeTransitions with
    | .error f => (s, .error f)
    | .ok t =>
      (match target with
        | some v => s.assign v (.store t)
        | none => s, .ok (.view t.literal t.edges))

def making (s : Session) (name : String) (choice : FactoryChoice) (make : Factory → Held) :
    Option (Session × Except Failure Answer) :=
  match s.makeFactory choice with
  | .error f => some (s, .error f)
  | .ok (t, f) => some (t.assign name (make f), .ok .nothing)

def own (s : Session) (name : String) (c : Command) : Option (Session × Except Failure Answer) :=
  match s.find? name with
  | some (.automaton a) => (onAutomaton a c).map (s.keep name)
  | some (.store u) => (onStore u c).map fun (u, outcome) => (s.assign name (.store u), outcome)
  | none => none

def perform (s : Session) (name : String) (c : Command) : Option (Session × Except Failure Answer) :=
  match c with
  | .new choice label => s.making name choice fun factory => .automaton (.new factory label)
  | .newStore choice => s.making name choice fun factory => .store factory.newStore
  | .ofDict data =>
    match Automaton.ofDict data with
    | .error f => some (s, .error f)
    | .ok a => some (s.assign name (.automaton a), .ok .nothing)
  | .add other => s.add name other
  | .merge other shift => s.merge name other shift
  | .roundTrip target => s.roundTrip name target
  | .activeTransitions target => s.activeTransitions name target
  | .sameFactory other =>
    match s.automaton? name, s.automaton? other with
    | some a, some b => some (s, .ok (.sameness (a.factory = b.factory)))
    | _, _ => none
  | c => s.own name c

def run : List (String × Command) → Session → Session
  | [], s => s
  | (name, c) :: rest, s =>
    match s.perform name c with
    | some (t, _) => run rest t
    | none => run rest s

end Session

end GuardedAutomata
