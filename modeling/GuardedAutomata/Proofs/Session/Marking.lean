import GuardedAutomata.Proofs.Session.Ledger
import GuardedAutomata.Proofs.Session.Lockstep
import Mathlib

/-!
# The order of marking

Runs that differ in commands that mark, and give every state the same markers in whatever order and however often, leave
automata that look the same.
-/

set_option autoImplicit false

namespace GuardedAutomata.Session

open Automaton

variable {R : Value → Value → Prop} {s t : Session} {x y : String} {a : Automaton} {l m : Ledger}
  {cs ds ms ns : List (String × Command)} {v : Value} {i : Nat}

/-! ### Ledgers of sessions in lockstep -/

def Ledger.Alike (l m : Ledger) : Prop :=
  ∀ x i v, v ∈ l x i ↔ v ∈ m x i

theorem Ledger.Alike.update (h : l.Alike m) {f g : Nat → List Value} (hfg : ∀ i v, v ∈ f i ↔ v ∈ g i) (x : String) :
    Ledger.Alike (Function.update l x f) (Function.update m x g) := by
  intro y
  by_cases hy : y = x
  · subst hy
    rw [Function.update_self, Function.update_self]
    exact hfg
  · rw [Function.update_of_ne hy, Function.update_of_ne hy]
    exact h y

theorem stateOf_spelled (hst : Spelled R s t) (state : Value) : s.stateOf? x state = t.stateOf? x state := by
  unfold stateOf?
  rcases hst.automaton_cases x with ⟨ha, hb⟩ | ⟨a, b, ha, hb, hab⟩
  · rw [ha, hb]
  · rw [ha, hb, Option.bind_some, Option.bind_some, resolve_congr hab.count]

theorem reread_spelled (hR : Spelling R) (hst : Spelled R s t) (h : s.reread? x = some a) :
    ∃ b, t.reread? x = some b := by
  obtain ⟨c, v, hc, hv, ha⟩ := reread_eq_some.1 h
  obtain ⟨d, hd, hcd⟩ := hst.automaton? hc
  obtain ⟨w, b, hw, hb, -⟩ := hcd.roundTrip hR hv ha
  exact ⟨b, reread_eq_some.2 ⟨d, w, hd, hw, hb⟩⟩

/-- A command enters the same markers into two ledgers. -/
theorem enter_alike (hR : Spelling R) (hst : Spelled R s t) (h : l.Alike m) (c : Command) :
    Ledger.Alike (enter s x c l) (enter t x c m) := by
  cases c with
  | new choice label =>
    simp only [enter]
    rcases hst.makeFactory_cases choice with ⟨f, g, hf, hg⟩ | ⟨u, v, f, hu, hv, -⟩
    · rw [hf, hg]
      exact h
    · rw [hu, hv]
      exact h.update (fun _ _ => Iff.rfl) x
  | ofDict data =>
    simp only [enter]
    cases Automaton.ofDict data with
    | ok a => exact h.update (fun _ _ => Iff.rfl) x
    | error f => exact h
  | mark state marker =>
    simp only [enter, stateOf_spelled hst]
    cases t.stateOf? x state with
    | none => exact h
    | some i =>
      simp only
      split
      · refine h.update (fun j v => ?_) x
        by_cases hj : j = i
        · subst hj
          rw [Function.update_self, Function.update_self, List.mem_append, List.mem_append, h x j v]
        · rw [Function.update_of_ne hj, Function.update_of_ne hj]
          exact h x j v
      · exact h
  | dropMarkers => exact h.update (fun _ _ => Iff.rfl) x
  | add y =>
    simp only [enter]
    rcases hst.automaton_cases x with ⟨ha, hb⟩ | ⟨a, b, ha, hb, hab⟩
    · rw [ha, hb]
      exact h
    rcases hst.automaton_cases y with ⟨hc, hd⟩ | ⟨c, d, hc, hd, hcd⟩
    · rw [ha, hb, hc, hd]
      exact h
    simp only [ha, hb, hc, hd, ← hab.factory, ← hcd.factory, ← hab.count]
    split
    · refine h.update (fun i v => ?_) x
      split
      · exact h x i v
      · exact h y (i - a.count) v
    · exact h
  | roundTrip y =>
    simp only [enter]
    cases hx : s.reread? x with
    | some a =>
      obtain ⟨b, hb⟩ := reread_spelled hR hst hx
      rw [hb]
      exact h.update (h x) y
    | none =>
      cases hy : t.reread? x with
      | some b =>
        obtain ⟨a, ha⟩ := reread_spelled hR (hst.symm hR) hy
        rw [hx] at ha
        cases ha
      | none => exact h
  | _ => exact h

/-! ### Commands that mark -/

def Gives (s : Session) (e : String × Command) (x : String) (i : Nat) (v : Value) : Prop :=
  ∃ state, e = (x, .mark state v) ∧ s.stateOf? x state = some i ∧ v.unhashable? = none

theorem mem_enter_mark (state marker : Value) :
    v ∈ enter s y (.mark state marker) l x i ↔ v ∈ l x i ∨ s.Gives (y, .mark state marker) x i v := by
  have hgives : s.Gives (y, .mark state marker) x i v ↔
      x = y ∧ s.stateOf? y state = some i ∧ marker.unhashable? = none ∧ v = marker := by
    constructor
    · rintro ⟨_, heq, hstate, hm⟩
      cases heq
      exact ⟨rfl, hstate, hm, rfl⟩
    · rintro ⟨rfl, hstate, hm, rfl⟩
      exact ⟨state, rfl, hstate, hm⟩
  rw [hgives]
  simp only [enter]
  cases s.stateOf? y state with
  | none => simp
  | some j =>
    by_cases hm : marker.unhashable? = none
    · by_cases hx : x = y
      · subst hx
        by_cases hi : i = j
        · subst hi
          simp [hm]
        · simp [hm, Function.update_of_ne hi, Ne.symm hi]
      · simp [hm, hx]
    · simp [hm]

/-! ### Runs -/

variable [TestFunctions]

theorem pictured_of_given (hcs : (cs.filter fun e => !e.2.marks) = ds.filter fun e => !e.2.marks)
    (ha : (run cs .empty).automaton? x = some a) (hgiven : ∀ i v, v ∈ given cs x i ↔ v ∈ given ds x i)
    (htext : ∀ i, ∀ v ∈ given cs x i, ∀ w ∈ given cs x i, v.equal w = true → v.text = w.text) :
    ∃ b, (run ds .empty).automaton? x = some b ∧ a.Pictured b := by
  obtain ⟨b, hb, hab⟩ := (Spelled.empty.run spelling_eq (.of_filter hcs)).automaton? ha
  have hrecorded : ∀ cs : List (String × Command), Recorded (run cs .empty) (given cs) := fun cs =>
    recorded_entered (allHeld_empty _) fun _ _ h => by cases h
  refine ⟨b, hb, hab.name, hab.factory, hab.count, fun i => (hab.edges i).eq_of_eq, hab.active, fun i => ?_⟩
  exact (hrecorded cs x a ha i).map_text_perm (hab.left.1.distinct_markersAt i) (hab.right.1.distinct_markersAt i)
    (hrecorded ds x b hb i) (hgiven i) (htext i)

theorem entered_alike (hR : Spelling R) (hst : Spelled R s t) (h : l.Alike m) :
    Ledger.Alike (entered cs s l) (entered cs t m) := by
  induction cs generalizing s t l m with
  | nil => exact h
  | cons e cs ih =>
    obtain ⟨x, c⟩ := e
    exact ih (hst.run_one hR (.same c)) (enter_alike hR hst h c)

theorem entered_append (cs ds : List (String × Command)) (s : Session) (l : Ledger) :
    entered (cs ++ ds) s l = entered ds (run cs s) (entered cs s l) := by
  induction cs generalizing s l with
  | nil => rfl
  | cons e cs ih =>
    obtain ⟨x, c⟩ := e
    rw [List.cons_append, entered, ih, ← run_cons, ← entered]

/-- Commands that mark give what each of them gives. -/
theorem mem_entered_marks (hs : Spelled Eq s s) (hms : ∀ e ∈ ms, e.2.marks = true) :
    v ∈ entered ms s l x i ↔ v ∈ l x i ∨ ∃ e ∈ ms, s.Gives e x i v := by
  have hkept : ∀ {u : Session} (e : String × Command), Spelled Eq u s → (u.Gives e x i v ↔ s.Gives e x i v) :=
    fun e hu => by simp only [Gives, stateOf_spelled hu]
  suffices ∀ {u : Session}, Spelled Eq u s →
      (v ∈ entered ms u l x i ↔ v ∈ l x i ∨ ∃ e ∈ ms, s.Gives e x i v) from this hs
  induction ms generalizing l with
  | nil => simp [entered]
  | cons e ms ih =>
    obtain ⟨y, c⟩ := e
    obtain ⟨hc, hrest⟩ := List.forall_mem_cons.1 hms
    cases c with
    | mark state marker =>
      intro u hu
      rw [entered, ih hrest (hu.run_mark_left state marker), mem_enter_mark, hkept _ hu, List.exists_mem_cons_iff,
        or_assoc]
    | _ => cases hc

/-- A block of commands that mark gives the same markers in every order and with every repetition. -/
theorem given_block {before after : List (String × Command)} (hms : ∀ e ∈ ms, e.2.marks = true)
    (hmn : ∀ e, e ∈ ms ↔ e ∈ ns) : (given (before ++ ms ++ after)).Alike (given (before ++ ns ++ after)) := by
  have hns : ∀ e ∈ ns, e.2.marks = true := fun e he => hms e ((hmn e).2 he)
  have hs : Spelled Eq (run before .empty) (run before .empty) :=
    Spelled.empty.run spelling_eq (.of_forall₂ (List.forall₂_same.2 fun e _ => ⟨rfl, .same e.2⟩))
  have hblock : (entered ms (run before .empty) (given before)).Alike
      (entered ns (run before .empty) (given before)) := by
    intro x i v
    rw [mem_entered_marks hs hms, mem_entered_marks hs hns]
    simp only [hmn]
  have hafter : Spelled Eq (run ms (run before .empty)) (run ns (run before .empty)) := by
    refine hs.run spelling_eq (.of_filter ?_)
    rw [List.filter_eq_nil_iff.2 (by simpa using hms), List.filter_eq_nil_iff.2 (by simpa using hns)]
  rw [given, given, entered_append, entered_append, entered_append, entered_append, run_append, run_append]
  exact entered_alike spelling_eq hafter hblock

/-- What is printed and drawn does not depend on the order of marking. Two runs that differ in commands that mark, and
give each state of an automaton the same markers, in whatever order and however often, leave automata with the same
debug text and the same graph, as long as those markers of a state that are equal have the same text; others may share
theirs. In particular commands that mark and follow one another may be put in any order, and each may be repeated. -/
theorem text_indifferent_to_order :
    (∀ (cs ds : List (String × Command)) (x : String) (a : Automaton),
      ((cs.filter fun e => !e.2.marks) = ds.filter fun e => !e.2.marks) → (run cs .empty).automaton? x = some a →
      (∀ i v, v ∈ given cs x i ↔ v ∈ given ds x i) →
      (∀ i, ∀ v ∈ given cs x i, ∀ w ∈ given cs x i, v.equal w = true → v.text = w.text) →
      ∃ b, (run ds .empty).automaton? x = some b ∧ a.debugText = b.debugText ∧ ∀ o, a.dotText o = b.dotText o) ∧
    ∀ before after ms ns : List (String × Command), (∀ e ∈ ms, e.2.marks = true) → (∀ e, e ∈ ms ↔ e ∈ ns) →
      ∀ x i v, v ∈ given (before ++ ms ++ after) x i ↔ v ∈ given (before ++ ns ++ after) x i := by
  refine ⟨fun cs ds x a hcs ha hgiven htext => ?_, fun before after ms ns hms hmn => given_block hms hmn⟩
  obtain ⟨b, hb, hab⟩ := pictured_of_given hcs ha hgiven htext
  exact ⟨b, hb, hab.debugText_eq, hab.dotText_eq⟩

omit [TestFunctions] in
/-- The number 1 and the text of it mark one state, in one order and then in the other one, the number twice. They share
their text, and the state shows it twice either way. -/
theorem text_indifferent_to_order_tie : ∃ a b : Automaton, @Reachable Matcher.catalogue a ∧
    @Reachable Matcher.catalogue b ∧ a.markersAt 1 = [.int 1, .str "1"] ∧ b.markersAt 1 = [.str "1", .int 1] ∧
    (Value.int 1).text = (Value.str "1").text ∧ a.debugText = b.debugText ∧ ∀ o, a.dotText o = b.dotText o := by
  let _ := Matcher.catalogue
  let making : List (String × Command) := [("a", .new (.ofKind .symbol) .null), ("a", .newStates 2)]
  let ms : List (String × Command) := [("a", .mark (.int 1) (.int 1)), ("a", .mark (.int 1) (.str "1"))]
  let ns : List (String × Command) := [("a", .mark (.int 1) (.str "1")), ("a", .mark (.int 1) (.int 1)),
    ("a", .mark (.int 1) (.int 1))]
  let held (cs : List (String × Command)) : Automaton := ((run cs .empty).automaton? "a").getD default
  obtain ⟨htexts, hblocks⟩ := text_indifferent_to_order
  have hgiven := hblocks making [] ms ns (by simp [ms, Command.marks]) (by simp [ms, ns, or_comm]) "a"
  have hone : ∀ i v, v ∈ given (making ++ ms ++ []) "a" i → v = .int 1 ∨ v = .str "1" := by
    intro i v hv
    match i with
    | 0 => cases hv
    | 1 =>
      have hv : v ∈ [Value.int 1, .str "1"] := hv
      simpa using hv
    | i + 2 => cases hv
  have htie : ∀ i, ∀ v ∈ given (making ++ ms ++ []) "a" i, ∀ w ∈ given (making ++ ms ++ []) "a" i,
      v.equal w = true → v.text = w.text := by
    intro i v hv w hw _
    rcases hone i v hv with rfl | rfl <;> rcases hone i w hw with rfl | rfl <;> rfl
  have ha : (run (making ++ ms ++ []) .empty).automaton? "a" = some (held (making ++ ms ++ [])) := rfl
  have hb : (run (making ++ ns ++ []) .empty).automaton? "a" = some (held (making ++ ns ++ [])) := rfl
  obtain ⟨b, hb', hdebug, hdot⟩ := htexts (making ++ ms ++ []) (making ++ ns ++ []) "a" _ rfl ha hgiven htie
  rw [hb] at hb'
  cases hb'
  exact ⟨_, _, ⟨_, "a", ha⟩, ⟨_, "a", hb⟩, by cbv, by cbv, rfl, hdebug, hdot⟩

end GuardedAutomata.Session
