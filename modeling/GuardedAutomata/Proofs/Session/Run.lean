import GuardedAutomata.Proofs.Automaton.Composition
import GuardedAutomata.Proofs.Automaton.Step
import GuardedAutomata.Session.Basic

/-!
# Runs

An automaton is reachable when some commands leave it in a variable. What a command leaves in a variable
was there before, is new, was read from a definition, or comes from an automaton by one step or by adding
another one; so what new automata have, and what steps and additions keep, every reachable automaton has.
-/

set_option autoImplicit false

namespace GuardedAutomata

namespace Automaton

structure Kept (P : Automaton → Prop) : Prop where
  wellFormed : ∀ {a : Automaton}, P a → a.WellFormed
  new : ∀ (f : Factory) (name : Value), P (.new f name)
  step : ∀ {a b : Automaton}, P a → Step a b → P b
  add : ∀ {a b : Automaton}, P a → P b → P (a.add b).1

theorem kept_wellFormed : Kept WellFormed where
  wellFormed := id
  new := wellFormed_new
  step := WellFormed.step
  add := WellFormed.add

variable {P : Automaton → Prop} {a b sub : Automaton}

namespace Kept

theorem newTransition (hP : Kept P) (ha : P a) {source target guard : Value} {out : Except Failure Unit}
    (h : a.newTransition source target guard = (b, out)) : P b := by
  have hs := hP.step ha (step_newTransition a source target guard)
  rwa [h] at hs

theorem newState (hP : Kept P) (ha : P a) : P a.newState.1 :=
  hP.step ha (.grown 1)

/-! ### Building -/

theorem addMarkers (hP : Kept P) {state : Nat} {ms : List Value} (ha : P a)
    (h : addMarkers state ms a = .ok b) : P b := by
  induction ms generalizing a with
  | nil =>
    cases h
    exact ha
  | cons m ms ih =>
    unfold Automaton.addMarkers at h
    have hm := hP.step ha (step_mark a (.state state) m)
    split at h
    · cases h
    next c _ hc =>
      rw [hc] at hm
      exact ih hm h

theorem addStates (hP : Kept P) {entries : List StateEntry} (ha : P a)
    (h : addStates entries a = .ok b) : P b := by
  induction entries generalizing a with
  | nil =>
    cases h
    exact ha
  | cons e entries ih =>
    unfold Automaton.addStates at h
    split at h
    · cases h
    next c hc => exact ih (hP.addMarkers (hP.newState ha) hc) h

theorem addTransitions (hP : Kept P) {k : StoreKind} {name : String} {entries : List TransitionEntry}
    (ha : P a) (h : addTransitions k name entries a = .ok b) : P b := by
  induction entries generalizing a with
  | nil =>
    cases h
    exact ha
  | cons e entries ih =>
    unfold Automaton.addTransitions at h
    split at h
    · cases h
    · split at h
      · cases h
      next c _ hc => exact ih (hP.newTransition ha hc) h

theorem addFragment (hP : Kept P) {linkFrom : Option Nat} (hsub : P sub) (ha : P a)
    (h : addFragment linkFrom sub a = .ok b) : P b := by
  have hadd := hP.add ha hsub
  unfold Automaton.addFragment at h
  split at h
  · cases h
  next c hc =>
    rw [hc] at hadd
    cases h
    exact hadd
  next c entry hc =>
    rw [hc] at hadd
    split at h
    · cases h
      exact hadd
    · split at h
      · cases h
      next d _ hd =>
        cases h
        exact hP.newTransition hadd hd

theorem buildOwn (hP : Kept P) {k : StoreKind} {d : Definition} (h : d.buildOwn k = .ok b) : P b := by
  unfold Definition.buildOwn at h
  split at h
  · cases h
  next a ha => exact hP.addTransitions (hP.addStates (hP.new _ _) ha) h

mutual

theorem buildWith (hP : Kept P) {r : Registry} {kind : String} :
    {d : Definition} → {b : Automaton} → d.buildWith r kind = .ok b → P b
  | ⟨name, description, store, states, transitions, fragments⟩, b, h => by
    unfold Definition.buildWith at h
    split at h
    · cases h
    · split at h
      · cases h
      next a ha => exact buildFragments hP (hP.buildOwn ha) h

theorem buildFragments (hP : Kept P) {r : Registry} {kind : String} :
    {fragments : List (Fragment Definition)} → {a b : Automaton} → P a →
      Definition.buildFragments r kind fragments a = .ok b → P b
  | [], a, b, ha, h => by
    cases h
    exact ha
  | ⟨name, linkFrom, d⟩ :: rest, a, b, ha, h => by
    unfold Definition.buildFragments at h
    split at h
    · cases h
    · split at h
      · cases h
      next sub hsub =>
        split at h
        · cases h
        next c hc => exact buildFragments hP (hP.addFragment (buildWith hP hsub) ha hc) h

end

theorem build (hP : Kept P) {r : Registry} {d : Definition} (h : d.build r = .ok b) : P b := by
  unfold Definition.build at h
  split at h
  · cases h
  next a ha =>
    cases h
    exact hP.step (hP.buildWith ha) (.moved (moved_reset a))

theorem ofDict (hP : Kept P) {v : Value} (h : ofDict v = .ok b) : P b := by
  unfold Automaton.ofDict at h
  split at h
  · cases h
  · exact hP.build h

end Kept

end Automaton

namespace Session

open Automaton

/-! ### Variables -/

theorem lookup_filter_ne {name x : String} (hx : x ≠ name) (held : List (String × Held)) :
    (held.filter (·.1 != name)).lookup x = held.lookup x := by
  induction held with
  | nil => rfl
  | cons e held ih =>
    obtain ⟨y, h⟩ := e
    by_cases hy : y = name
    · have hxy : (x == y) = false := by simpa [hy] using hx
      rw [List.lookup_cons, hxy]
      simpa [hy] using ih
    · simp [hy, List.lookup_cons, ih]

theorem find_assign (s : Session) (name x : String) (h : Held) :
    (s.assign name h).find? x = if x = name then some h else s.find? x := by
  unfold find? assign
  by_cases hx : x = name
  · simp [hx]
  · have hxn : (x == name) = false := by simpa using hx
    rw [if_neg hx, List.lookup_cons, hxn]
    exact lookup_filter_ne hx s.held

theorem automaton_assign_self (s : Session) (name : String) (a : Automaton) :
    (s.assign name (.automaton a)).automaton? name = some a := by
  simp [automaton?, find_assign]

theorem automaton_assign_of_ne (s : Session) {name x : String} (hx : x ≠ name) (h : Held) :
    (s.assign name h).automaton? x = s.automaton? x := by
  simp [automaton?, find_assign, hx]

/-! ### Commands -/

theorem fst_answering {α : Type} (f : α → Answer) (attempt : Attempt α) :
    (answering f attempt).1 = attempt.1 := by
  obtain ⟨a, out⟩ := attempt
  cases out <;> rfl

def AllHeld (P : Automaton → Prop) (s : Session) : Prop :=
  ∀ x a, s.automaton? x = some a → P a

theorem allHeld_empty (P : Automaton → Prop) : AllHeld P .empty :=
  fun _ _ h => by cases h

theorem automaton_makeFactory {s t : Session} {choice : FactoryChoice} {f : Factory}
    (h : s.makeFactory choice = .ok (t, f)) (x : String) : t.automaton? x = s.automaton? x := by
  cases choice with
  | ofKind k =>
    cases h
    rfl
  | «foreign» =>
    cases h
    rfl
  | registered key =>
    simp only [makeFactory] at h
    split at h
    · cases h
      rfl
    · cases h

inductive Arises (s : Session) (name : String) : Command → Automaton → Prop
  | held {c : Command} {x : String} {a : Automaton} : s.automaton? x = some a → Arises s name c a
  | new {choice : FactoryChoice} {label : Value} (f : Factory) :
      Arises s name (.new choice label) (.new f label)
  | read {c : Command} {v : Value} {a : Automaton} : ofDict v = .ok a → Arises s name c a
  | step {c : Command} {a b : Automaton} : s.automaton? name = some a → Step a b → Arises s name c b
  | added {other : String} {a b : Automaton} : other ≠ name → s.automaton? name = some a →
      s.automaton? other = some b → Arises s name (.add other) (a.add b).1

variable {s t : Session} {name : String} {c : Command} {out : Except Failure Answer}

theorem arises_assign {h : Held} (hold : AllHeld (Arises s name c) t)
    (hnew : ∀ a, h = .automaton a → Arises s name c a) (y : String) :
    AllHeld (Arises s name c) (t.assign y h) := by
  intro x a hx
  by_cases hxy : x = y
  · rw [automaton?, find_assign, if_pos hxy] at hx
    cases h with
    | automaton b =>
      cases hx
      exact hnew _ rfl
    | store t => cases hx
  · rw [automaton_assign_of_ne t hxy] at hx
    exact hold x a hx

theorem arises_held : AllHeld (Arises s name c) s :=
  fun _ _ hx => .held hx

theorem arises_store (u : Store) (y : String) : AllHeld (Arises s name c) (s.assign y (.store u)) :=
  arises_assign arises_held (fun _ h => by cases h) y

theorem arises_automaton {a : Automaton} (ha : Arises s name c a) (y : String) :
    AllHeld (Arises s name c) (s.assign y (.automaton a)) :=
  arises_assign arises_held (fun _ h => by cases h; exact ha) y

theorem arises_made {choice : FactoryChoice} {f : Factory} (hm : s.makeFactory choice = .ok (t, f)) :
    AllHeld (Arises s name c) t := by
  intro x a hx
  rw [automaton_makeFactory hm] at hx
  exact .held hx

theorem automaton_of_find {a : Automaton} (h : s.find? name = some (.automaton a)) :
    s.automaton? name = some a := by
  simp [automaton?, h]

theorem find_of_automaton {a : Automaton} (h : s.automaton? name = some a) :
    s.find? name = some (.automaton a) := by
  unfold automaton? at h
  split at h
  · cases h
    assumption
  · cases h

theorem find_of_store {u : Store} (h : s.store? name = some u) : s.find? name = some (.store u) := by
  unfold store? at h
  split at h
  · cases h
    assumption
  · cases h

/-- Writing and reading back puts an automaton into a variable, or fails and changes nothing. -/
theorem roundTrip_cases {a : Automaton} (ha : s.automaton? name = some a) (target : String) :
    (∃ v b out, a.toDict = .ok v ∧ ofDict v = .ok b ∧
      s.roundTrip name target = some (s.assign target (.automaton b), out)) ∨
      (∀ v b, a.toDict = .ok v → ofDict v ≠ .ok b) ∧ ∃ out, s.roundTrip name target = some (s, out) := by
  rw [roundTrip, ha, Option.map_some]
  cases hv : a.toDict with
  | error f =>
    refine .inr ⟨fun v b h => ?_, .error f, rfl⟩
    cases h
  | ok v =>
    cases hb : ofDict v with
    | error f =>
      refine .inr ⟨fun w b h => ?_, .error f, by simp only [hb]⟩
      cases h
      rw [hb]
      exact fun h => by cases h
    | ok b => exact .inl ⟨v, b, .ok (.text b.debugText), rfl, hb, by simp only [hb]⟩

/-- Nothing has changed, or a store has been put into a variable. -/
inductive Stored (s : Session) : Session → Prop
  | same : Stored s s
  | put (x : String) (u : Store) : Stored s (s.assign x (.store u))

theorem stored_merge {other : String} {shift : Value} (h : s.merge name other shift = some (t, out)) :
    Stored s t := by
  unfold merge at h
  split at h
  · cases h
    exact .put _ _
  · cases h

theorem stored_activeTransitions {keep : Option String} (h : s.activeTransitions name keep = some (t, out)) :
    Stored s t := by
  obtain ⟨a, _, heq⟩ := Option.map_eq_some_iff.1 h
  split at heq
  · cases heq
    exact .same
  · cases keep with
    | none =>
      cases heq
      exact .same
    | some x =>
      cases heq
      exact .put _ _

theorem arises_stored (h : Stored s t) : AllHeld (Arises s name c) t := by
  cases h with
  | same => exact arises_held
  | put x u => exact arises_store u x

theorem arises_making {choice : FactoryChoice} {make : Factory → Held}
    (hmake : ∀ f a, make f = .automaton a → Arises s name c a) (h : s.making name choice make = some (t, out)) :
    AllHeld (Arises s name c) t := by
  unfold making at h
  split at h
  · cases h
    exact arises_held
  next u f hm =>
    cases h
    exact arises_assign (arises_made hm) (hmake f) name

theorem arises_add {other : String} (h : s.add name other = some (t, out)) :
    AllHeld (Arises s name (.add other)) t := by
  unfold add at h
  split at h
  next a b ha hb =>
    cases h
    refine arises_automaton ?_ name
    rw [fst_answering]
    split
    · exact .held ha
    next hne => exact .added (fun h => hne h.symm) ha hb
  · cases h

theorem arises_roundTrip {target : String} (h : s.roundTrip name target = some (t, out)) :
    AllHeld (Arises s name c) t := by
  obtain ⟨a, _, heq⟩ := Option.map_eq_some_iff.1 h
  split at heq
  · cases heq
    exact arises_held
  · split at heq
    · cases heq
      exact arises_held
    next b hb =>
      cases heq
      exact arises_automaton (.read hb) target

theorem AllHeld.arises {P : Automaton → Prop} (hs : AllHeld P s) (hP : Kept P) {a : Automaton}
    (ha : Arises s name c a) : P a := by
  cases ha with
  | held hx => exact hs _ _ hx
  | new f => exact hP.new f _
  | read hd => exact hP.ofDict hd
  | step hx h => exact hP.step (hs _ _ hx) h
  | added _ hx hy => exact hP.add (hs _ _ hx) (hs _ _ hy)

variable [TestFunctions]

theorem stored_sameFactory {other : String} (h : s.perform name (.sameFactory other) = some (t, out)) :
    Stored s t := by
  simp only [perform] at h
  split at h
  · cases h
    exact .same
  · cases h

theorem own_of_find {a : Automaton} (h : s.find? name = some (.automaton a)) (c : Command) :
    s.own name c = (onAutomaton a c).map (s.keep name) := by
  rw [own, h]

/-- A command on one automaton is one step. -/
theorem step_onAutomaton {a : Automaton} (ha : a.WellFormed) {c : Command} {attempt : Attempt Answer}
    (h : onAutomaton a c = some attempt) : Step a attempt.1 := by
  cases c with
  | newState =>
    cases h
    exact .grown 1
  | newStates n =>
    cases h
    exact .grown n
  | newTransition source target guard =>
    cases h
    rw [fst_answering]
    exact step_newTransition a source target guard
  | mark state marker =>
    cases h
    rw [fst_answering]
    exact step_mark a state marker
  | reset =>
    cases h
    exact .moved (moved_reset a)
  | dropMarkers =>
    cases h
    exact .unmarked
  | step v =>
    cases h
    rw [fst_answering]
    exact .moved (moved_step ha v)
  | accepts vs =>
    cases h
    rw [fst_answering]
    exact .moved (moved_accepts ha vs)
  | feed vs =>
    cases h
    rw [fst_answering]
    exact .moved (moved_feed ha vs)
  | setActive states =>
    cases h
    rw [fst_answering]
    exact .moved (moved_setActive a states)
  | rename name =>
    cases h
    exact .renamed name
  | currentMarkers | markersOf _ | activeStates | marked | epsilonClosure _ | transitionsOf _
  | states | size | debug | literal | dot _ | toDict =>
    cases h
    exact .moved .stay
  | _ => cases h

theorem arises_own (hs : AllHeld WellFormed s) (h : s.own name c = some (t, out)) :
    AllHeld (Arises s name c) t := by
  unfold own at h
  split at h
  next a ha =>
    have ha := automaton_of_find ha
    obtain ⟨attempt, hat, heq⟩ := Option.map_eq_some_iff.1 h
    cases heq
    exact arises_automaton (.step ha (step_onAutomaton (hs _ _ ha) hat)) name
  next u _ =>
    obtain ⟨result, _, heq⟩ := Option.map_eq_some_iff.1 h
    cases heq
    exact arises_store _ name
  · cases h

/-- Whatever a command does, the automata held afterwards arise in one of few ways. -/
theorem arises_of_perform (hs : AllHeld WellFormed s) (h : s.perform name c = some (t, out)) :
    AllHeld (Arises s name c) t := by
  cases c with
  | new choice label => exact arises_making (fun f _ h => by cases h; exact .new f) h
  | newStore choice => exact arises_making (fun _ _ h => by cases h) h
  | ofDict data =>
    simp only [perform] at h
    split at h
    · cases h
      exact arises_held
    next a ha =>
      cases h
      exact arises_automaton (.read ha) name
  | add other => exact arises_add h
  | merge other shift => exact arises_stored (stored_merge h)
  | roundTrip target => exact arises_roundTrip h
  | activeTransitions target => exact arises_stored (stored_activeTransitions h)
  | sameFactory other => exact arises_stored (stored_sameFactory h)
  | _ => exact arises_own hs h

/-! ### Whole runs -/

def Throughout (p : Session → String → Command → Prop) : List (String × Command) → Session → Prop
  | [], _ => True
  | (name, c) :: cs, s => p s name c ∧ Throughout p cs (run [(name, c)] s)

theorem run_cons (s : Session) (name : String) (c : Command) (cs : List (String × Command)) :
    run ((name, c) :: cs) s = run cs (run [(name, c)] s) := by
  simp only [run]
  split <;> rfl

theorem run_append (cs ds : List (String × Command)) (s : Session) : run (cs ++ ds) s = run ds (run cs s) := by
  induction cs generalizing s with
  | nil => rfl
  | cons e cs ih =>
    obtain ⟨x, c⟩ := e
    rw [List.cons_append, run_cons, ih, ← run_cons]

/-- What every command keeps under a condition, a run keeps under the condition throughout. -/
theorem AllHeld.run {P : Automaton → Prop} {p : Session → String → Command → Prop}
    (hP : ∀ {s t : Session} {name : String} {c : Command} {out : Except Failure Answer},
      AllHeld P s → p s name c → s.perform name c = some (t, out) → AllHeld P t)
    {cs : List (String × Command)} {s : Session} (hs : AllHeld P s) (hp : Throughout p cs s) :
    AllHeld P (run cs s) := by
  induction cs generalizing s with
  | nil => exact hs
  | cons e cs ih =>
    obtain ⟨name, c⟩ := e
    obtain ⟨hc, hp⟩ := hp
    rw [run_cons]
    refine ih ?_ hp
    simp only [Session.run]
    split
    next t out ht => exact hP hs hc ht
    · exact hs

theorem throughout_true (cs : List (String × Command)) (s : Session) :
    Throughout (fun _ _ _ => True) cs s := by
  induction cs generalizing s with
  | nil => trivial
  | cons e cs ih => exact ⟨trivial, ih _⟩

theorem AllHeld.perform {P : Automaton → Prop} (hP : Kept P) (hs : AllHeld P s)
    (h : s.perform name c = some (t, out)) : AllHeld P t := by
  have hw : AllHeld WellFormed s := fun x a hx => hP.wellFormed (hs x a hx)
  exact fun x a hx => hs.arises hP (arises_of_perform hw h x a hx)

end Session

namespace Automaton

variable [TestFunctions]

/-- Some commands leave the automaton in a variable. -/
def Reachable (a : Automaton) : Prop :=
  ∃ cs x, (Session.run cs .empty).automaton? x = some a

theorem Kept.reachable {P : Automaton → Prop} (hP : Kept P) {a : Automaton} (ha : a.Reachable) : P a := by
  obtain ⟨cs, x, hx⟩ := ha
  exact Session.AllHeld.run (fun hs _ h => hs.perform hP h) (Session.allHeld_empty P)
    (Session.throughout_true cs _) x a hx

theorem Reachable.wellFormed {a : Automaton} (ha : a.Reachable) : a.WellFormed :=
  kept_wellFormed.reachable ha

end Automaton

end GuardedAutomata
