import GuardedAutomata.Proofs.Automaton.View
import GuardedAutomata.Proofs.Definition.Spelling
import Mathlib

/-!
# Sessions in lockstep

Two sessions that hold, variable by variable, automata in two spellings stay so while the same commands are performed on
both, with guards in two spellings. Commands that only mark may be left out on either side.
-/

set_option autoImplicit false

namespace GuardedAutomata

variable {R : Value → Value → Prop}

inductive Command.Spelled (R : Value → Value → Prop) : Command → Command → Prop
  | same (c : Command) : Spelled R c c
  | newTransition (source target : Value) {v w : Value} :
      R v w → Spelled R (.newTransition source target v) (.newTransition source target w)
  | ofDict {v w : Value} {d e : Definition} : Definition.ofValue v = .ok d → Definition.ofValue w = .ok e →
      d.Spelled R e → Spelled R (.ofDict v) (.ofDict w)

theorem Command.Spelled.symm (hR : Spelling R) {c d : Command} (h : c.Spelled R d) : d.Spelled R c := by
  cases h with
  | same => exact .same _
  | newTransition source target hvw => exact .newTransition source target (hR.symm hvw)
  | ofDict hd he hde => exact .ofDict he hd (hde.symm hR)

def Command.marks : Command → Bool
  | .mark _ _ => true
  | _ => false

namespace Session

open Automaton

inductive HeldSpelled (R : Value → Value → Prop) : Option Held → Option Held → Prop
  | none : HeldSpelled R none none
  | automaton {a b : Automaton} : a.Spelled R b → HeldSpelled R (some (.automaton a)) (some (.automaton b))
  | store (u v : Store) : HeldSpelled R (some (.store u)) (some (.store v))

structure Spelled (R : Value → Value → Prop) (s t : Session) : Prop where
  foreignCount : s.foreignCount = t.foreignCount
  held : ∀ x, HeldSpelled R (s.find? x) (t.find? x)

variable {s t after : Session} {x y : String} {a b : Automaton} {c d : Command} {out : Except Failure Answer}

theorem HeldSpelled.symm (hR : Spelling R) {h k : Option Held} (hhk : HeldSpelled R h k) : HeldSpelled R k h := by
  cases hhk with
  | none => exact .none
  | automaton hab => exact .automaton (hab.symm hR)
  | store u v => exact .store v u

namespace Spelled

theorem empty : Spelled R .empty .empty :=
  ⟨rfl, fun _ => .none⟩

theorem symm (hR : Spelling R) (hst : Spelled R s t) : Spelled R t s :=
  ⟨hst.foreignCount.symm, fun x => (hst.held x).symm hR⟩

/-- A variable holds an automaton in both sessions or in none. -/
theorem automaton_cases (hst : Spelled R s t) (x : String) : (s.automaton? x = none ∧ t.automaton? x = none) ∨
    ∃ a b, s.automaton? x = some a ∧ t.automaton? x = some b ∧ a.Spelled R b := by
  have hheld := hst.held x
  unfold Session.automaton?
  revert hheld
  generalize s.find? x = held
  generalize t.find? x = other
  intro hheld
  cases hheld with
  | none | store => exact .inl ⟨rfl, rfl⟩
  | automaton hab => exact .inr ⟨_, _, rfl, rfl, hab⟩

theorem automaton? (hst : Spelled R s t) (ha : s.automaton? x = some a) :
    ∃ b, t.automaton? x = some b ∧ a.Spelled R b := by
  rcases hst.automaton_cases x with ⟨hnone, -⟩ | ⟨c, b, hc, hb, hab⟩
  · rw [ha] at hnone
    cases hnone
  · rw [ha] at hc
    cases hc
    exact ⟨b, hb, hab⟩

theorem store? (hst : Spelled R s t) {u : Store} (hu : s.store? x = some u) : ∃ v, t.store? x = some v := by
  have hheld := hst.held x
  rw [find_of_store hu] at hheld
  cases hv : t.find? x with
  | none =>
    rw [hv] at hheld
    cases hheld
  | some h =>
    rw [hv] at hheld
    cases hheld with
    | store _ v => exact ⟨v, by rw [Session.store?, hv]⟩

theorem assign (hst : Spelled R s t) {h k : Held} (hhk : HeldSpelled R (some h) (some k)) :
    Spelled R (s.assign x h) (t.assign x k) := by
  refine ⟨hst.foreignCount, fun y => ?_⟩
  rw [find_assign, find_assign]
  split
  · exact hhk
  · exact hst.held y

/-- Both sessions make the same factory, or neither makes one. -/
theorem makeFactory_cases (hst : Spelled R s t) (choice : FactoryChoice) :
    (∃ f g, s.makeFactory choice = .error f ∧ t.makeFactory choice = .error g) ∨
      ∃ u v f, s.makeFactory choice = .ok (u, f) ∧ t.makeFactory choice = .ok (v, f) ∧ Spelled R u v := by
  cases choice with
  | ofKind k => exact .inr ⟨s, t, _, rfl, rfl, hst⟩
  | «foreign» =>
    refine .inr ⟨_, { t with foreignCount := t.foreignCount + 1 }, _, rfl, ?_, congrArg (· + 1) hst.foreignCount,
      hst.held⟩
    rw [Session.makeFactory, hst.foreignCount]
  | registered key =>
    simp only [Session.makeFactory]
    cases Registry.builtIn.factory key with
    | ok f => exact .inr ⟨s, t, f, rfl, rfl, hst⟩
    | error f => exact .inl ⟨f, f, rfl, rfl⟩

/-- Something is made in both sessions, or refused in both. -/
theorem making (hst : Spelled R s t) {choice : FactoryChoice} {make : Factory → Held}
    (hmake : ∀ f, HeldSpelled R (some (make f)) (some (make f))) (h : s.making x choice make = some (after, out)) :
    ∃ u answer, t.making x choice make = some (u, answer) ∧ Spelled R after u := by
  unfold Session.making at h ⊢
  rcases hst.makeFactory_cases choice with ⟨f, g, hf, hg⟩ | ⟨u, v, f, hu, hv, huv⟩
  · rw [hf] at h
    rw [hg]
    cases h
    exact ⟨_, _, rfl, hst⟩
  · rw [hu] at h
    rw [hv]
    cases h
    exact ⟨_, _, rfl, huv.assign (hmake f)⟩

theorem roundTrip (hR : Spelling R) (hst : Spelled R s t) (h : s.roundTrip x y = some (after, out)) :
    ∃ u answer, t.roundTrip x y = some (u, answer) ∧ Spelled R after u := by
  obtain ⟨a, ha, -⟩ := Option.map_eq_some_iff.1 h
  obtain ⟨b, hb, hab⟩ := hst.automaton? ha
  rcases roundTrip_cases ha y with ⟨v, c, answer, hv, hc, hs⟩ | ⟨hno, answer, hs⟩
  · obtain ⟨w, d, hw, hd, hcd⟩ := hab.roundTrip hR hv hc
    rw [hs] at h
    cases h
    rcases roundTrip_cases hb y with ⟨w', d', other, hw', hd', ht⟩ | ⟨hno, -, -⟩
    · rw [hw] at hw'
      cases hw'
      rw [hd] at hd'
      cases hd'
      exact ⟨_, _, ht, hst.assign (.automaton hcd)⟩
    · exact absurd hd (hno w d hw)
  · rw [hs] at h
    cases h
    rcases roundTrip_cases hb y with ⟨w, d, -, hw, hd, -⟩ | ⟨-, other, ht⟩
    · obtain ⟨v, c, hv, hc, -⟩ := (hab.symm hR).roundTrip hR hw hd
      exact absurd hc (hno v c hv)
    · exact ⟨_, _, ht, hst⟩

theorem add (hR : Spelling R) (hst : Spelled R s t) (h : s.add x y = some (after, out)) :
    ∃ u answer, t.add x y = some (u, answer) ∧ Spelled R after u := by
  unfold Session.add at h ⊢
  split at h
  next a c ha hc =>
    obtain ⟨b, hb, hab⟩ := hst.automaton? ha
    obtain ⟨d, hd, hcd⟩ := hst.automaton? hc
    cases h
    rw [hb, hd]
    refine ⟨_, _, rfl, hst.assign (.automaton ?_)⟩
    rw [fst_answering, fst_answering]
    split
    · exact hab
    · exact hab.add hR hcd
  · cases h

theorem merge (hst : Spelled R s t) {shift : Value} (h : s.merge x y shift = some (after, out)) :
    ∃ u answer, t.merge x y shift = some (u, answer) ∧ Spelled R after u := by
  unfold Session.merge at h ⊢
  split at h
  next u v hu hv =>
    cases h
    obtain ⟨u', hu'⟩ := hst.store? hu
    obtain ⟨v', hv'⟩ := hst.store? hv
    rw [hu', hv']
    exact ⟨_, _, rfl, hst.assign (.store _ _)⟩
  · cases h

theorem activeTransitions (hst : Spelled R s t) {keep : Option String}
    (h : s.activeTransitions x keep = some (after, out)) :
    ∃ u answer, t.activeTransitions x keep = some (u, answer) ∧ Spelled R after u := by
  obtain ⟨a, ha, heq⟩ := Option.map_eq_some_iff.1 h
  obtain ⟨b, hb, hab⟩ := hst.automaton? ha
  -- Gathering the transitions of well-formed automata never fails.
  obtain ⟨u, hu, -⟩ := hab.left.1.gathers_activeTransitions
  obtain ⟨v, hv, -⟩ := hab.right.1.gathers_activeTransitions
  rw [hu] at heq
  rw [Session.activeTransitions, hb, Option.map_some, hv]
  cases keep with
  | none =>
    cases heq
    exact ⟨_, _, rfl, hst⟩
  | some y =>
    cases heq
    exact ⟨_, _, rfl, hst.assign (.store u v)⟩

end Spelled

inductive RunSpelled (R : Value → Value → Prop) : List (String × Command) → List (String × Command) → Prop
  | nil : RunSpelled R [] []
  | both {x : String} {c d : Command} {cs ds : List (String × Command)} :
      c.Spelled R d → RunSpelled R cs ds → RunSpelled R ((x, c) :: cs) ((x, d) :: ds)
  | left {x : String} {state marker : Value} {cs ds : List (String × Command)} :
      RunSpelled R cs ds → RunSpelled R ((x, .mark state marker) :: cs) ds
  | right {x : String} {state marker : Value} {cs ds : List (String × Command)} :
      RunSpelled R cs ds → RunSpelled R cs ((x, .mark state marker) :: ds)

theorem RunSpelled.of_forall₂ {cs ds : List (String × Command)}
    (h : List.Forall₂ (fun e f : String × Command => e.1 = f.1 ∧ e.2.Spelled R f.2) cs ds) : RunSpelled R cs ds := by
  induction h with
  | nil => exact .nil
  | @cons e f _ _ hef _ ih =>
    obtain ⟨x, c⟩ := e
    obtain ⟨_, d⟩ := f
    obtain ⟨rfl, hcd⟩ := hef
    exact .both hcd ih

section Marks

variable {cs ds ms : List (String × Command)}

theorem RunSpelled.right_marks (h : RunSpelled R cs ds) (hms : ∀ e ∈ ms, e.2.marks = true) :
    RunSpelled R cs (ms ++ ds) := by
  induction ms with
  | nil => exact h
  | cons e ms ih =>
    obtain ⟨x, c⟩ := e
    obtain ⟨hc, hrest⟩ := List.forall_mem_cons.1 hms
    cases c with
    | mark state marker => exact .right (ih hrest)
    | _ => cases hc

/-- Runs that are the same apart from commands that mark. -/
theorem RunSpelled.of_filter {R : Value → Value → Prop}
    (h : (cs.filter fun e => !e.2.marks) = ds.filter fun e => !e.2.marks) : RunSpelled R cs ds := by
  induction cs generalizing ds with
  | nil =>
    have hds : ∀ e ∈ ds, e.2.marks = true := by simpa using h.symm
    simpa using RunSpelled.nil.right_marks hds
  | cons e cs ih =>
    obtain ⟨x, c⟩ := e
    cases hc : c.marks with
    | true =>
      cases c with
      | mark state marker => exact .left (ih (by simpa [hc] using h))
      | _ => cases hc
    | false =>
      have h : (ds.filter fun e => !e.2.marks) = (x, c) :: cs.filter fun e => !e.2.marks := by
        rw [← h, List.filter_cons_of_pos (by simp [hc])]
      obtain ⟨before, after, rfl, hbefore, -, hafter⟩ := List.filter_eq_cons_iff.1 h
      exact (RunSpelled.both (.same c) (ih hafter.symm)).right_marks fun e he => by simpa using hbefore e he

end Marks

variable [TestFunctions]

/-- What a command does to an automaton it does to the automaton in another spelling. -/
theorem onAutomaton_spelled (hR : Spelling R) (hab : a.Spelled R b) {attempt : Attempt Answer}
    (h : onAutomaton a c = some attempt) : ∃ other, onAutomaton b c = some other ∧ attempt.1.Spelled R other.1 := by
  have hpar := hab.parallel hR
  cases c with
  | newState =>
    cases h
    exact ⟨_, rfl, hab.grow 1⟩
  | newStates n =>
    cases h
    exact ⟨_, rfl, hab.grow n⟩
  | newTransition source target guard =>
    cases h
    refine ⟨_, rfl, ?_⟩
    rw [fst_answering, fst_answering]
    exact hab.newTransition hR (hR.refl guard) source target
  | mark state marker =>
    cases h
    refine ⟨_, rfl, ?_⟩
    rw [fst_answering, fst_answering]
    exact (((hab.mark_left state marker).symm hR).mark_left state marker).symm hR
  | reset =>
    cases h
    exact ⟨_, rfl, hab.reset⟩
  | dropMarkers =>
    cases h
    exact ⟨_, rfl, (((hab.dropMarkers_left).symm hR).dropMarkers_left).symm hR⟩
  | step v =>
    cases h
    refine ⟨_, rfl, ?_⟩
    rw [fst_answering, fst_answering]
    exact hab.moved (moved_step hab.left.1 v) (moved_step hab.right.1 v) (hpar.step v).1.active
  | accepts values =>
    cases h
    refine ⟨_, rfl, ?_⟩
    rw [fst_answering, fst_answering]
    exact hab.moved (moved_accepts hab.left.1 values) (moved_accepts hab.right.1 values) (hpar.accepts values).1.active
  | feed values =>
    cases h
    refine ⟨_, rfl, ?_⟩
    rw [fst_answering, fst_answering]
    exact hab.moved (moved_feed hab.left.1 values) (moved_feed hab.right.1 values) (hpar.feed values).1.active
  | setActive states =>
    cases h
    refine ⟨_, rfl, ?_⟩
    rw [fst_answering, fst_answering]
    exact hab.moved (moved_setActive a states) (moved_setActive b states) (hpar.setActive states).1.active
  | rename name =>
    cases h
    exact ⟨_, rfl, hab.rename name⟩
  | currentMarkers | markersOf _ | activeStates | marked | epsilonClosure _ | transitionsOf _
  | states | size | debug | literal | dot _ | toDict =>
    cases h
    exact ⟨_, rfl, hab⟩
  | _ => cases h

theorem exists_onStore {u : Store} {result : Store × Except Failure Answer} (h : onStore u c = some result)
    (v : Store) : ∃ other, onStore v c = some other := by
  cases c with
  | put guard target =>
    simp only [onStore]
    split
    · exact ⟨_, rfl⟩
    · split <;> exact ⟨_, rfl⟩
  | query _ | items | symbols | literal | formatGuard _ | coerce _ | format _ | parse _ | dump _ => exact ⟨_, rfl⟩
  | _ => cases h

theorem Spelled.own (hst : Spelled R s t)
    (hauto : ∀ {a b attempt}, a.Spelled R b → onAutomaton a c = some attempt →
      ∃ other, onAutomaton b d = some other ∧ attempt.1.Spelled R other.1)
    (hstore : ∀ {u result}, onStore u c = some result → ∀ v, ∃ other, onStore v d = some other)
    (h : Session.own s x c = some (after, out)) :
    ∃ u answer, Session.own t x d = some (u, answer) ∧ Spelled R after u := by
  unfold Session.own at h ⊢
  have hheld := hst.held x
  revert hheld h
  generalize s.find? x = held
  generalize t.find? x = other
  intro h hheld
  cases hheld with
  | none => cases h
  | @automaton a b hab =>
    obtain ⟨attempt, hat, heq⟩ := Option.map_eq_some_iff.1 h
    obtain ⟨result, hresult, hafter⟩ := hauto hab hat
    have hkept : (onAutomaton b d).map (t.keep x) = some (t.keep x result) := by rw [hresult, Option.map_some]
    cases heq
    exact ⟨_, _, hkept, hst.assign (.automaton hafter)⟩
  | store u v =>
    obtain ⟨result, hat, heq⟩ := Option.map_eq_some_iff.1 h
    obtain ⟨other, hother⟩ := hstore hat v
    cases heq
    refine ⟨t.assign x (.store other.1), other.2, ?_, hst.assign (.store _ other.1)⟩
    simp only [hother, Option.map_some]

namespace Spelled

theorem ofDict (hst : Spelled R s t) {v w : Value}
    (hok : ∀ {a}, ofDict v = .ok a → ∃ b, Automaton.ofDict w = .ok b ∧ a.Spelled R b)
    (herror : ∀ {b}, Automaton.ofDict w = .ok b → ∃ a, Automaton.ofDict v = .ok a)
    (h : s.perform x (.ofDict v) = some (after, out)) :
    ∃ u answer, t.perform x (.ofDict w) = some (u, answer) ∧ Spelled R after u := by
  simp only [Session.perform] at h ⊢
  split at h
  next f hf =>
    cases h
    split
    · exact ⟨_, _, rfl, hst⟩
    next b hb =>
      obtain ⟨a, ha⟩ := herror hb
      rw [hf] at ha
      cases ha
  next a ha =>
    cases h
    obtain ⟨b, hb, hab⟩ := hok ha
    rw [hb]
    exact ⟨_, _, rfl, hst.assign (.automaton hab)⟩

theorem sameFactory (hst : Spelled R s t)
    (h : s.perform x (.sameFactory y) = some (after, out)) :
    ∃ u answer, t.perform x (.sameFactory y) = some (u, answer) ∧ Spelled R after u := by
  simp only [Session.perform] at h ⊢
  split at h
  next a c ha hc =>
    obtain ⟨b, hb, -⟩ := hst.automaton? ha
    obtain ⟨d, hd, -⟩ := hst.automaton? hc
    cases h
    rw [hb, hd]
    exact ⟨_, _, rfl, hst⟩
  · cases h

/-- One command in two spellings. -/
theorem perform (hR : Spelling R) (hst : Spelled R s t) (hcd : c.Spelled R d)
    (h : s.perform x c = some (after, out)) :
    ∃ u answer, t.perform x d = some (u, answer) ∧ Spelled R after u := by
  cases hcd with
  | newTransition source target hvw =>
    refine hst.own (fun hab hat => ?_) (fun hu => by cases hu) h
    cases hat
    refine ⟨_, rfl, ?_⟩
    rw [fst_answering, fst_answering]
    exact hab.newTransition hR hvw source target
  | ofDict hd he hde =>
    refine hst.ofDict (fun ha => ?_) (fun hb => ?_) h
    · rw [ofDict_eq_build hd] at ha
      rw [ofDict_eq_build he]
      exact Definition.build_spelled hR hde ha
    · rw [ofDict_eq_build he] at hb
      rw [ofDict_eq_build hd]
      obtain ⟨a, ha, -⟩ := Definition.build_spelled hR (hde.symm hR) hb
      exact ⟨a, ha⟩
  | same =>
    cases c with
    | new choice label =>
      exact hst.making (fun f => .automaton (.refl hR (kept_hashableMarkers.new f label))) h
    | newStore choice => exact hst.making (fun f => .store f.newStore f.newStore) h
    | ofDict data =>
      exact hst.ofDict (fun ha => ⟨_, ha, .refl hR (kept_hashableMarkers.ofDict ha)⟩) (fun hb => ⟨_, hb⟩) h
    | add other => exact hst.add hR h
    | merge other shift => exact hst.merge h
    | roundTrip target => exact hst.roundTrip hR h
    | activeTransitions keep => exact hst.activeTransitions h
    | sameFactory other => exact hst.sameFactory h
    | _ => exact hst.own (fun hab => onAutomaton_spelled hR hab) exists_onStore h

/-- Marking on one side only. -/
theorem mark_left (hst : Spelled R s t) {state marker : Value}
    (h : s.perform x (.mark state marker) = some (after, out)) : Spelled R after t := by
  have h : Session.own s x (.mark state marker) = some (after, out) := h
  unfold Session.own at h
  split at h
  next a ha =>
    obtain ⟨b, hb, hab⟩ := hst.automaton? (automaton_of_find ha)
    cases h
    refine ⟨hst.foreignCount, fun y => ?_⟩
    rw [find_assign, fst_answering]
    split
    next hy =>
      subst hy
      rw [find_of_automaton hb]
      exact .automaton (hab.mark_left state marker)
    · exact hst.held y
  · cases h
  · cases h

end Spelled

/-! ### Whole runs -/

namespace Spelled

variable {cs ds : List (String × Command)}

/-- What a command leaves when the commands that apply to nothing are skipped. -/
theorem run_one (hR : Spelling R) (hst : Spelled R s t) (hcd : c.Spelled R d) :
    Spelled R (Session.run [(x, c)] s) (Session.run [(x, d)] t) := by
  simp only [Session.run]
  split
  next after out h =>
    obtain ⟨u, answer, hu, hafter⟩ := hst.perform hR hcd h
    rw [hu]
    exact hafter
  next hnone =>
    split
    next u answer hu =>
      obtain ⟨after, out, h, -⟩ := (hst.symm hR).perform hR (hcd.symm hR) hu
      rw [hnone] at h
      cases h
    · exact hst

theorem run_mark_left (hst : Spelled R s t) (state marker : Value) :
    Spelled R (Session.run [(x, .mark state marker)] s) t := by
  simp only [Session.run]
  split
  next after out h => exact hst.mark_left h
  · exact hst

/-- Sessions in lockstep stay so: by induction on the commands. -/
theorem run (hR : Spelling R) (hst : Spelled R s t) (hcs : RunSpelled R cs ds) :
    Spelled R (Session.run cs s) (Session.run ds t) := by
  induction hcs generalizing s t with
  | nil => exact hst
  | @both x c d cs ds hcd _ ih =>
    rw [run_cons s, run_cons t]
    exact ih (hst.run_one hR hcd)
  | left _ ih =>
    rw [run_cons]
    exact ih (hst.run_mark_left _ _)
  | right _ ih =>
    rw [run_cons]
    exact ih (((hst.symm hR).run_mark_left _ _).symm hR)

end Spelled

end Session

end GuardedAutomata
