import GuardedAutomata.Proofs.Automaton.Alike
import GuardedAutomata.Proofs.Automaton.Bare
import GuardedAutomata.Proofs.Session.Growth
import Mathlib

/-!
# Markers and the simulation

Commands that mark can be left out of a run, or put anywhere into it: apart from acceptance and the markers themselves
nothing that is seen changes. Once dropped, markers come back only with a marking, with an automaton that is added, or
with another automaton in the same variable.
-/

set_option autoImplicit false

namespace GuardedAutomata

namespace Session

open Automaton

/-! ### Commands that mark and commands that do not -/

def isMarking : Command → Bool
  | .mark _ _ | .dropMarkers => true
  | _ => false

def Simulates : Command → Prop
  | .newState | .newStates _ | .newTransition _ _ _ | .reset | .step _ | .accepts _ | .feed _ | .setActive _
  | .activeStates | .epsilonClosure _ | .transitionsOf _ | .states | .size => True
  | _ => False

def withoutMarkers : Command → Answer → Answer
  | .accepts _, _ => .nothing
  | _, .feed f => .feed ⟨f.consumed, f.completed, []⟩
  | _, x => x

structure Observed where
  outcome : Option (Except Failure Answer)
  edges : List (List Edge)
  active : StateSet

theorem agree_answering {α β : Type} {x y : Attempt α} {see : α → β} {c : Command} {f : α → Answer}
    (h : Agree Alike see x y) (hsee : ∀ r s, see r = see s → withoutMarkers c (f r) = withoutMarkers c (f s)) :
    Agree Alike (withoutMarkers c) (answering f x) (answering f y) := by
  obtain ⟨a, out⟩ := x
  obtain ⟨b, outB⟩ := y
  obtain ⟨hafter, hout⟩ := h
  rcases outcome_cases hout with ⟨f, rfl, rfl⟩ | ⟨r, s, rfl, rfl, hrs⟩
  · exact ⟨hafter, rfl⟩
  · exact ⟨hafter, congrArg Except.ok (hsee r s hrs)⟩

variable [TestFunctions]

def observed (a : Automaton) (c : Command) : Observed :=
  ⟨(onAutomaton a c).map fun attempt => attempt.2.map (withoutMarkers c), (left a c).stores.map Store.edges,
    (left a c).active⟩

def observations : List Command → Automaton → List Observed
  | [], _ => []
  | c :: cs, a => if isMarking c then observations cs (left a c) else observed a c :: observations cs (left a c)

variable {a b : Automaton} {c : Command} {cs ds : List Command}

/-- A command that simulates does the same to automata that are alike. -/
theorem agree_onAutomaton (h : a.Alike b) (hc : Simulates c) :
    ∃ x y, onAutomaton a c = some x ∧ onAutomaton b c = some y ∧ Agree Alike (withoutMarkers c) x y := by
  cases c with
  | newState => exact ⟨_, _, rfl, rfl, h.newState, by simp only [newState, h.count_eq]⟩
  | newStates n => exact ⟨_, _, rfl, rfl, h.grow n, by simp only [newStates, h.count_eq]⟩
  | newTransition source target guard =>
    exact ⟨_, _, rfl, rfl, agree_answering (h.newTransition source target guard) fun _ _ _ => rfl⟩
  | reset => exact ⟨_, _, rfl, rfl, h.reset, rfl⟩
  | step v => exact ⟨_, _, rfl, rfl, agree_answering (h.step v) fun r s (hrs : r = s) => hrs ▸ rfl⟩
  | accepts vs => exact ⟨_, _, rfl, rfl, agree_answering (h.accepts vs) fun _ _ _ => rfl⟩
  | feed vs =>
    refine ⟨_, _, rfl, rfl, agree_answering (h.feed vs) fun r s hrs => ?_⟩
    exact congrArg Answer.feed (congrArg (fun p : Nat × Bool => Feed.mk p.1 p.2 []) hrs)
  | setActive states => exact ⟨_, _, rfl, rfl, agree_answering (h.setActive states) fun _ _ _ => rfl⟩
  | activeStates => exact ⟨_, _, rfl, rfl, h, by rw [h.active]⟩
  | epsilonClosure states =>
    refine ⟨_, _, rfl, rfl, h, ?_⟩
    have hclosure : a.epsilonClosure states = b.epsilonClosure states := by
      simp only [epsilonClosure, resolveSet_congr h.count_eq, h.closure_eq]
    rw [hclosure]
  | transitionsOf state =>
    refine ⟨_, _, rfl, rfl, h, ?_⟩
    have hedges : a.transitionsOf state = b.transitionsOf state := by
      simp only [transitionsOf, resolve_congr h.count_eq, h.edgesOf_eq]
    rw [hedges]
  | states => exact ⟨_, _, rfl, rfl, h, by rw [h.count_eq]⟩
  | size => exact ⟨_, _, rfl, rfl, h, by rw [h.count_eq]⟩
  | _ => cases hc

theorem alike_left (h : a.Alike b) (hc : Simulates c) : (left a c).Alike (left b c) := by
  obtain ⟨x, y, hx, hy, hafter, -⟩ := agree_onAutomaton h hc
  rw [left, left, hx, hy]
  exact hafter

theorem observed_eq (h : a.Alike b) (hc : Simulates c) : observed a c = observed b c := by
  have hleft := alike_left h hc
  obtain ⟨x, y, hx, hy, -, hout⟩ := agree_onAutomaton h hc
  rw [observed, observed, hleft.stores, hleft.active, hx, hy, Option.map_some, Option.map_some, hout]

theorem alike_marking (h : a.Alike b) (hc : isMarking c = true) : (left a c).Alike b := by
  cases c with
  | mark state marker =>
    obtain ⟨ms, hms⟩ := mark_eq a state marker
    rw [left_mark, hms]
    exact h.withMarkers ms
  | dropMarkers => exact h.withMarkers _
  | _ => cases hc

/-- Without its markings, a list of commands shows the same on an automaton that is alike. -/
theorem observations_filter (h : a.Alike b) (hcs : ∀ c ∈ cs, Simulates c ∨ isMarking c = true) :
    observations cs a = observations (cs.filter fun c => !isMarking c) b ∧
      (cs.foldl left a).Alike ((cs.filter fun c => !isMarking c).foldl left b) := by
  induction cs generalizing a b with
  | nil => exact ⟨rfl, h⟩
  | cons c cs ih =>
    obtain ⟨hc, hcs⟩ := List.forall_mem_cons.1 hcs
    by_cases hmark : isMarking c = true
    · rw [List.filter_cons_of_neg (by simp [hmark]), observations, if_pos hmark]
      exact ih (alike_marking h hmark) hcs
    · have hsim := hc.resolve_right hmark
      obtain ⟨hobs, hafter⟩ := ih (alike_left h hsim) hcs
      rw [List.filter_cons_of_pos (by simp [hmark]), observations, observations, if_neg hmark, if_neg hmark, hobs,
        observed_eq h hsim]
      exact ⟨rfl, hafter⟩

theorem observations_eq (h : a.Alike b) (hcs : ∀ c ∈ cs, Simulates c ∨ isMarking c = true)
    (hds : ∀ d ∈ ds, Simulates d ∨ isMarking d = true)
    (hsame : (cs.filter fun c => !isMarking c) = ds.filter fun d => !isMarking d) :
    observations cs a = observations ds b ∧ (cs.foldl left a).Alike (ds.foldl left b) := by
  obtain ⟨hobs, hafter⟩ := observations_filter h hcs
  obtain ⟨hobsB, hafterB⟩ := observations_filter (.refl b) hds
  rw [hobs, hobsB, hsame]
  rw [hsame] at hafter
  exact ⟨rfl, hafter.trans hafterB.symm⟩

/-! ### Dropped markers stay dropped -/

def HoldsBare (name : String) (s : Session) : Prop :=
  ∀ a, s.automaton? name = some a → a.Bare

/-- A command marks nothing in a variable: no state is marked there, no automaton with markers is added, and none is put
in its place. -/
def KeepsBare (name : String) (s : Session) (x : String) : Command → Prop
  | .mark _ _ | .ofDict _ => x ≠ name
  | .add other => x = name → HoldsBare other s
  | .roundTrip target => target ≠ name
  | _ => True

variable {s t : Session} {name x : String} {out : Except Failure Answer}

omit [TestFunctions] in
theorem HoldsBare.assign {h : Held} (hs : HoldsBare name s) (hnew : x = name → ∀ a, h = .automaton a → a.Bare) :
    HoldsBare name (s.assign x h) := by
  intro a ha
  by_cases hx : name = x
  · rw [automaton?, find_assign, if_pos hx] at ha
    cases h with
    | automaton b =>
      cases ha
      exact hnew hx.symm _ rfl
    | store t => cases ha
  · rw [automaton_assign_of_ne s hx] at ha
    exact hs a ha

omit [TestFunctions] in
theorem HoldsBare.store (hs : HoldsBare name s) (u : Store) : HoldsBare name (s.assign x (.store u)) :=
  hs.assign fun _ _ h => by cases h

omit [TestFunctions] in
theorem HoldsBare.stored (hs : HoldsBare name s) (h : Stored s t) : HoldsBare name t := by
  cases h with
  | same => exact hs
  | put y u => exact hs.store u

omit [TestFunctions] in
theorem HoldsBare.made {choice : FactoryChoice} {f : Factory} (hs : HoldsBare name s)
    (hm : s.makeFactory choice = .ok (t, f)) : HoldsBare name t := fun a ha => by
  rw [automaton_makeFactory hm] at ha
  exact hs a ha

/-- A command that is not about markers leaves them as they are. -/
theorem markersAt_onAutomaton {attempt : Attempt Answer} (hc : isMarking c = false)
    (hat : onAutomaton a c = some attempt) (i : Nat) : attempt.1.markersAt i = a.markersAt i := by
  cases c with
  | newState =>
    cases hat
    exact markersAt_newState a i
  | newStates n =>
    cases hat
    exact markersAt_grow n a i
  | newTransition source target guard =>
    cases hat
    rw [fst_answering]
    exact markersAt_newTransition a source target guard i
  | mark _ _ | dropMarkers => cases hc
  | reset =>
    cases hat
    exact (Refronted.reset a).markersAt_eq i
  | step v =>
    cases hat
    rw [fst_answering]
    exact (Refronted.step a v).markersAt_eq i
  | accepts vs =>
    cases hat
    rw [fst_answering]
    exact (Refronted.accepts a vs).markersAt_eq i
  | feed vs =>
    cases hat
    rw [fst_answering]
    exact (Refronted.feed a vs).markersAt_eq i
  | setActive states =>
    cases hat
    rw [fst_answering]
    exact (Refronted.setActive a states).markersAt_eq i
  | currentMarkers | markersOf _ | activeStates | marked | epsilonClosure _ | transitionsOf _
  | states | size | rename _ | debug | literal | dot _ | toDict =>
    cases hat
    rfl
  | _ => cases hat

/-- What a command other than a marking leaves of an automaton without markers has none. -/
theorem bare_onAutomaton {attempt : Attempt Answer} (h : a.Bare) (hc : ∀ state marker, c ≠ .mark state marker)
    (hat : onAutomaton a c = some attempt) : attempt.1.Bare := by
  cases hmarking : isMarking c with
  | false =>
    intro i
    rw [markersAt_onAutomaton hmarking hat]
    exact h i
  | true =>
    cases c with
    | mark state marker => exact absurd rfl (hc state marker)
    | dropMarkers =>
      cases hat
      exact markersAt_dropMarkers a
    | _ => cases hmarking

theorem HoldsBare.own (hs : HoldsBare name s) (hc : x = name → ∀ state marker, c ≠ .mark state marker)
    (h : s.own x c = some (t, out)) : HoldsBare name t := by
  unfold Session.own at h
  split at h
  next a ha =>
    have ha := automaton_of_find ha
    obtain ⟨attempt, hat, heq⟩ := Option.map_eq_some_iff.1 h
    cases heq
    refine hs.assign fun hx b hb => ?_
    cases hb
    exact bare_onAutomaton (hs _ (hx ▸ ha)) (hc hx) hat
  next u _ =>
    obtain ⟨result, _, heq⟩ := Option.map_eq_some_iff.1 h
    cases heq
    exact hs.store _
  · cases h

omit [TestFunctions] in
theorem HoldsBare.making {choice : FactoryChoice} {make : Factory → Held} (hs : HoldsBare name s)
    (hmake : ∀ f b, make f = .automaton b → b.Bare) (h : s.making x choice make = some (t, out)) :
    HoldsBare name t := by
  unfold Session.making at h
  split at h
  · cases h
    exact hs
  next u f hm =>
    cases h
    exact (hs.made hm).assign fun _ => hmake f

omit [TestFunctions] in
theorem HoldsBare.add {other : String} (hw : AllHeld WellFormed s) (hs : HoldsBare name s)
    (hc : x = name → HoldsBare other s) (h : s.add x other = some (t, out)) : HoldsBare name t := by
  unfold Session.add at h
  split at h
  next a b ha hb =>
    cases h
    refine hs.assign fun hx c hc' => ?_
    cases hc'
    have hbare : a.Bare := hs _ (hx ▸ ha)
    rw [fst_answering]
    split
    · exact hbare
    · exact Bare.add (hw _ _ ha) (hw _ _ hb) hbare (hc hx _ hb)
  · cases h

/-- One command that marks nothing in a variable. -/
theorem HoldsBare.perform (hw : AllHeld WellFormed s) (hs : HoldsBare name s) (hc : KeepsBare name s x c)
    (h : s.perform x c = some (t, out)) : HoldsBare name t := by
  cases c with
  | new choice label => exact hs.making (fun f b hb => by cases hb; exact Bare.new f label) h
  | newStore choice => exact hs.making (fun _ _ hb => by cases hb) h
  | ofDict data =>
    simp only [Session.perform] at h
    split at h
    · cases h
      exact hs
    · cases h
      exact hs.assign fun hx => absurd hx hc
  | add other => exact hs.add hw hc h
  | merge other shift => exact hs.stored (stored_merge h)
  | roundTrip target =>
    obtain ⟨a, _, heq⟩ := Option.map_eq_some_iff.1 h
    split at heq
    · cases heq
      exact hs
    · split at heq
      · cases heq
        exact hs
      · cases heq
        exact hs.assign fun hx => absurd hx hc
  | activeTransitions target => exact hs.stored (stored_activeTransitions h)
  | sameFactory other => exact hs.stored (stored_sameFactory h)
  | mark state marker => exact hs.own (fun hx => absurd hx hc) h
  | _ => exact hs.own (fun _ _ _ heq => by cases heq) h

/-- A run that marks nothing in a variable. -/
theorem HoldsBare.run {cs : List (String × Command)} (hw : AllHeld WellFormed s) (hs : HoldsBare name s)
    (hp : Throughout (KeepsBare name) cs s) : HoldsBare name (run cs s) := by
  induction cs generalizing s with
  | nil => exact hs
  | cons e cs ih =>
    obtain ⟨x, c⟩ := e
    obtain ⟨hc, hp⟩ := hp
    rw [run_cons]
    have hstep : AllHeld WellFormed (Session.run [(x, c)] s) ∧ HoldsBare name (Session.run [(x, c)] s) := by
      simp only [Session.run]
      split
      next t out ht => exact ⟨hw.perform kept_wellFormed ht, hs.perform hw hc ht⟩
      · exact ⟨hw, hs⟩
    exact ih hstep.1 hstep.2 hp

theorem holdsBare_dropMarkers (h : s.perform name .dropMarkers = some (t, out)) : HoldsBare name t := by
  have h : s.own name .dropMarkers = some (t, out) := h
  unfold Session.own at h
  split at h
  · cases h
    intro b hb
    cases (automaton_assign_self s name _).symm.trans hb
    exact markersAt_dropMarkers _
  · cases h
  · cases h

/-- Two automata with the same edges and the same frontier show the same, whatever markers they have and whatever
markings stand between the commands. After markers are dropped, and as long as nothing brings any back, there are none,
and no word is accepted. -/
theorem markers_indifferent :
    (∀ a b : Automaton, a.Reachable → b.Reachable → a.factory.storeKind = b.factory.storeKind → a.count = b.count →
      (∀ i, a.edgesOf i = b.edgesOf i) → a.active = b.active → ∀ cs ds : List Command,
      (∀ c ∈ cs, Simulates c ∨ isMarking c = true) → (∀ d ∈ ds, Simulates d ∨ isMarking d = true) →
      (cs.filter fun c => !isMarking c) = ds.filter (fun d => !isMarking d) →
      observations cs a = observations ds b ∧ (∀ i, (cs.foldl left a).edgesOf i = (ds.foldl left b).edgesOf i) ∧
        (cs.foldl left a).active = (ds.foldl left b).active) ∧
    ∀ (before after : List (String × Command)) (name : String) (s : Session) (out : Except Failure Answer)
      (a : Automaton), (run before .empty).perform name .dropMarkers = some (s, out) →
      Throughout (KeepsBare name) after s → (run after s).automaton? name = some a →
      a.currentMarkers = [] ∧ a.marked.ids = [] ∧ (∀ state ms, a.markersOf state = .ok ms → ms = []) ∧
        (∀ values f, (a.feed values).2 = .ok f → f.markers = []) ∧
        (∀ values r, (a.accepts values).2 = .ok r → r = false) ∧
        ∀ values w, values.elements = .ok w → (∀ v ∈ w, v ≠ .epsilon ∧ a.Answers v) →
          (a.accepts values).2 = .ok false := by
  refine ⟨fun a b ha hb hk hcount hedges hactive cs ds hcs hds hsame => ?_,
    fun before after name s out a hdrop hafter ha => ?_⟩
  · have halike := ha.wellFormed.alike hb.wellFormed hk hcount hedges hactive
    obtain ⟨hobs, hend⟩ := observations_eq halike hcs hds hsame
    exact ⟨hobs, hend.edgesOf_eq, hend.active⟩
  · have hbefore : AllHeld WellFormed (run before .empty) := fun x c hc => Reachable.wellFormed ⟨before, x, hc⟩
    have hbare : a.Bare := (holdsBare_dropMarkers hdrop).run (hbefore.perform kept_wellFormed hdrop) hafter a ha
    exact ⟨hbare.currentMarkers, hbare.ids_marked, fun _ _ => hbare.markersOf, fun _ _ => hbare.markers_feed,
      fun _ _ => hbare.accepts, fun _ _ => hbare.accepts_answers⟩

omit [TestFunctions] in
/-- The word is accepted with the markers of one run and not with those of the other; the letter is consumed in both.
Then markers are dropped, an automaton without any is added, and the word is accepted no longer. -/
theorem markers_indifferent_letter : ∃ a b c : Automaton, @Reachable Matcher.catalogue a ∧
    @Reachable Matcher.catalogue b ∧ ∃ cs ds : List Command,
      (@accepts Matcher.catalogue (cs.foldl (@left Matcher.catalogue) a) (.str "l")).2 = .ok true ∧
      (@accepts Matcher.catalogue (ds.foldl (@left Matcher.catalogue) b) (.str "l")).2 = .ok false ∧
      @observations Matcher.catalogue cs a = @observations Matcher.catalogue ds b ∧
      (@accepts Matcher.catalogue c (.str "l")).2 = .ok false := by
  let _ := Matcher.catalogue
  let making : List (String × Command) := [("a", .new (.ofKind .symbol) .null), ("a", .newStates 2),
    ("a", .newTransition (.int 0) (.int 1) (.str "l"))]
  let marked := making ++ [("a", .mark (.int 1) (.str "m")), ("b", .new (.ofKind .symbol) .null), ("b", .newState)]
  let a : Automaton := ((run making .empty).automaton? "a").getD default
  let b : Automaton := ((run marked .empty).automaton? "a").getD default
  let cs : List Command := [.mark (.int 0) (.str "m"), .feed (.str "l"), .mark (.int 1) (.str "n"), .newState]
  let ds : List Command := [.feed (.str "l"), .dropMarkers, .newState]
  have hedges : ∀ i, a.edgesOf i = b.edgesOf i := fun _ => rfl
  have hobs := (markers_indifferent.1 a b ⟨making, "a", rfl⟩ ⟨marked, "a", rfl⟩ rfl rfl hedges rfl cs ds
    (by simp [cs, Simulates, isMarking]) (by simp [ds, Simulates, isMarking]) rfl).1
  let after : List (String × Command) := [("a", .feed (.str "l")), ("a", .add "b"), ("a", .newState)]
  let s : Session := (run marked .empty).assign "a" (.automaton b.dropMarkers)
  let c : Automaton := ((run after s).automaton? "a").getD default
  have hdrop : (run marked .empty).perform "a" .dropMarkers = some (s, .ok .nothing) := rfl
  have hafter : Throughout (KeepsBare "a") after s := by
    refine ⟨trivial, fun _ d hd => ?_, trivial, trivial⟩
    cases hd
    exact fun i => by cases i <;> rfl
  obtain ⟨r, hr⟩ : ∃ r, (accepts c (.str "l")).2 = .ok r := ⟨false, by cbv⟩
  obtain rfl : r = false :=
    (markers_indifferent.2 marked after "a" s _ c hdrop hafter rfl).2.2.2.2.1 (.str "l") r hr
  exact ⟨a, b, c, ⟨making, "a", rfl⟩, ⟨marked, "a", rfl⟩, cs, ds, by cbv, by cbv, hobs, hr⟩

end Session

end GuardedAutomata
