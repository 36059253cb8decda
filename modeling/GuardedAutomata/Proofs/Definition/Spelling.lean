import GuardedAutomata.Proofs.Automaton.Spelling
import GuardedAutomata.Proofs.Definition.Outcome
import Mathlib

/-!
# Definitions in two spellings

Two definitions that differ only in how the guards of their transitions are spelled, however deep the fragments that
hold them lie, are built together, and into automata that differ in nothing else.
-/

set_option autoImplicit false

namespace GuardedAutomata

structure TransitionEntry.Spelled (R : Value → Value → Prop) (t u : TransitionEntry) : Prop where
  source : t.source = u.source
  target : t.target = u.target
  epsilon : t.epsilon = u.epsilon
  guard : R t.guard u.guard

theorem TransitionEntry.Spelled.symm {R : Value → Value → Prop} (hR : Spelling R) {t u : TransitionEntry}
    (h : t.Spelled R u) : u.Spelled R t :=
  ⟨h.source.symm, h.target.symm, h.epsilon.symm, hR.symm h.guard⟩

namespace Definition

mutual

def Spelled (R : Value → Value → Prop) : Definition → Definition → Prop
  | ⟨name, _, store, states, transitions, fragments⟩, e => name = e.name ∧ store = e.store ∧ states = e.states ∧
    List.Forall₂ (TransitionEntry.Spelled R) transitions e.transitions ∧ AllSpelled R fragments e.fragments

def AllSpelled (R : Value → Value → Prop) : List (Fragment Definition) → List (Fragment Definition) → Prop
  | [], fs => fs = []
  | ⟨_, linkFrom, d⟩ :: rest, fs => ∃ name e others, fs = ⟨name, linkFrom, e⟩ :: others ∧ Spelled R d e ∧
    AllSpelled R rest others

end

end Definition

variable {R : Value → Value → Prop}

namespace Automaton

variable {a b c : Automaton} {k : StoreKind} {name : String}

/-- The guard of a transition that is made is read in each of its spellings. -/
theorem guardOf_spelled (hR : Spelling R) {t u : TransitionEntry} (htu : t.Spelled R u) {g : Guard}
    (hg : guardOf k name t = .ok g) (hh : g.value.unhashable? = none) :
    ∃ h, guardOf k name u = .ok h ∧ g.Spelled R h := by
  unfold guardOf at hg ⊢
  rw [← htu.epsilon]
  split at hg
  next hepsilon =>
    cases hg
    rw [if_pos hepsilon]
    exact ⟨_, rfl, .epsilon⟩
  next hepsilon =>
    rw [if_neg hepsilon]
    split at hg
    next p hp =>
      cases hg
      obtain ⟨q, hq, hpq⟩ := hR.parse k htu.guard hp hh
      rw [hq]
      exact ⟨_, rfl, .predicate hpq⟩
    · cases hg

/-- Only a guard that can be a key makes a transition. -/
theorem hashable_of_newTransition (ha : a.WellFormed) {i j : Nat} {g : Guard}
    (hg : (Store.empty a.factory.storeKind).coerceGuard g = .ok g)
    (hc : a.newTransition (.state i) (.state j) g.value = (c, .ok ())) : g.value.unhashable? = none := by
  rcases newTransition_cases a (.state i) (.state j) g.value with ⟨f, hf⟩ | ⟨_, _, _, _, hi, hj, -⟩
  · rw [hf] at hc
    cases hc
  · cases ht : g.value.unhashable? with
    | none => rfl
    | some type =>
      rw [newTransition_unhashable ha (resolve_state.1 hi).1 (resolve_state.1 hj).1 hg ht] at hc
      cases hc

theorem factory_newTransition {source target guard : Value} {out : Except Failure Unit}
    (hc : a.newTransition source target guard = (c, out)) : c.factory = a.factory := by
  rcases newTransition_cases a source target guard with ⟨f, hf⟩ | ⟨_, _, g, _, -, -, -, hput, heq⟩
  · rw [hf] at hc
    cases hc
    rfl
  · rw [heq] at hc
    obtain ⟨_, _, _, _, rfl⟩ := putEdge_eq_ok hput
    cases g <;> cases hc <;> rfl

theorem addTransitions_spelled (hR : Spelling R) {ts us : List TransitionEntry} (hab : Spelled R a b)
    (hk : a.factory.storeKind = k) (htu : List.Forall₂ (TransitionEntry.Spelled R) ts us)
    (hc : addTransitions k name ts a = .ok c) : ∃ d, addTransitions k name us b = .ok d ∧ Spelled R c d := by
  induction htu generalizing a b with
  | nil =>
    cases hc
    exact ⟨b, rfl, hab⟩
  | cons htu _ ih =>
    unfold addTransitions at hc
    split at hc
    · cases hc
    next g hg =>
      split at hc
      · cases hc
      next e _ he =>
        have hcoerce := (guardOf_eq_ok hg).2
        rw [← hk] at hcoerce
        obtain ⟨h, hh, hgh⟩ := guardOf_spelled hR htu hg (hashable_of_newTransition hab.left.1 hcoerce he)
        obtain ⟨f, hf, hef⟩ := hab.newTransition_granted hR (Guard.ofValue_value g) (Guard.ofValue_value h) hgh he
        rw [htu.source, htu.target] at hf
        obtain ⟨d, hd, hcd⟩ := ih hef ((congrArg Factory.storeKind (factory_newTransition he)).trans hk) hc
        refine ⟨d, ?_, hcd⟩
        simp only [addTransitions, hh, hf, hd]

theorem addFragment_spelled (hR : Spelling R) {linkFrom : Option Nat} {sub other : Automaton} (hab : Spelled R a b)
    (hsub : Spelled R sub other) (hc : addFragment linkFrom sub a = .ok c) :
    ∃ d, addFragment linkFrom other b = .ok d ∧ Spelled R c d := by
  unfold addFragment at hc ⊢
  split at hc
  · cases hc
  next e he =>
    cases hc
    obtain ⟨f, hf, hcf⟩ := hab.add_ok hsub he
    rw [hf]
    exact ⟨f, rfl, hcf⟩
  next e entry he =>
    obtain ⟨f, hf, hef⟩ := hab.add_ok hsub he
    rw [hf]
    cases linkFrom with
    | none =>
      cases hc
      exact ⟨f, rfl, hef⟩
    | some link =>
      simp only at hc ⊢
      split at hc
      · cases hc
      next x _ hx =>
        cases hc
        obtain ⟨d, hd, hcd⟩ := hef.newTransition_ok hR (hR.refl .epsilon) hx
        rw [hd]
        exact ⟨d, rfl, hcd⟩

end Automaton

namespace Definition

mutual

theorem Spelled.symm (hR : Spelling R) : {d e : Definition} → d.Spelled R e → e.Spelled R d
  | ⟨_, _, _, _, _, _⟩, ⟨_, _, _, _, _, _⟩, ⟨hname, hstore, hstates, hts, hfragments⟩ =>
    ⟨hname.symm, hstore.symm, hstates.symm, (hts.imp fun _ _ htu => htu.symm hR).flip, hfragments.symm hR⟩

theorem AllSpelled.symm (hR : Spelling R) : {fs gs : List (Fragment Definition)} → AllSpelled R fs gs →
    AllSpelled R gs fs
  | [], gs, h => by
    obtain rfl : gs = [] := h
    rfl
  | ⟨name, linkFrom, d⟩ :: rest, gs, h => by
    obtain ⟨other, e, others, rfl, hde, hrest⟩ := h
    exact ⟨name, d, rest, rfl, hde.symm hR, hrest.symm hR⟩

end

variable {k : StoreKind} {r : Registry} {kind : String}

theorem buildOwn_spelled (hR : Spelling R) {d e : Definition} {a : Automaton} (hname : d.name = e.name)
    (hstates : d.states = e.states) (hts : List.Forall₂ (TransitionEntry.Spelled R) d.transitions e.transitions)
    (ha : d.buildOwn k = .ok a) : ∃ b, e.buildOwn k = .ok b ∧ Automaton.Spelled R a b := by
  unfold buildOwn at ha ⊢
  rw [← hname, ← hstates]
  split at ha
  · cases ha
  next c hc =>
    have hsound := Automaton.kept_hashableMarkers.addStates (Automaton.kept_hashableMarkers.new _ _) hc
    have hfactory : c.factory.storeKind = k := by
      have hmeets := Automaton.addStates_meets d.states (Automaton.wellFormed_new (.ofKind k) (.str d.name))
      rw [(hmeets.of_ok hc).2.factory]
      rfl
    exact Automaton.addTransitions_spelled hR (.refl hR hsound) hfactory hts ha

mutual

/-- What a definition is built into is built, in another spelling, from the definition in another spelling. -/
theorem buildWith_spelled (hR : Spelling R) : {d e : Definition} → {a : Automaton} → d.Spelled R e →
    d.buildWith r kind = .ok a → ∃ b, e.buildWith r kind = .ok b ∧ Automaton.Spelled R a b
  | ⟨name, description, store, states, transitions, fragments⟩,
    ⟨otherName, otherDescription, otherStore, otherStates, otherTransitions, otherFragments⟩, a, hde, h => by
    obtain ⟨hname, -, hstates, hts, hfragments⟩ := hde
    unfold buildWith at h ⊢
    split at h
    · cases h
    next k hk =>
      split at h
      · cases h
      next c hc =>
        obtain ⟨d, hd, hcd⟩ := buildOwn_spelled hR hname hstates hts hc
        obtain ⟨b, hb, hab⟩ := buildFragments_spelled hR hcd hfragments h
        rw [hd]
        exact ⟨b, hb, hab⟩

theorem buildFragments_spelled (hR : Spelling R) : {fs gs : List (Fragment Definition)} → {a b c : Automaton} →
    Automaton.Spelled R a b → AllSpelled R fs gs → buildFragments r kind fs a = .ok c →
      ∃ d, buildFragments r kind gs b = .ok d ∧ Automaton.Spelled R c d
  | [], gs, a, b, c, hab, hfg, h => by
    obtain rfl : gs = [] := hfg
    cases h
    exact ⟨b, rfl, hab⟩
  | ⟨name, linkFrom, d⟩ :: rest, gs, a, b, c, hab, hfg, h => by
    obtain ⟨other, e, others, rfl, hde, hrest⟩ := hfg
    unfold buildFragments at h ⊢
    have hstore : d.store = e.store := by
      obtain ⟨_, _, _, _, _, _⟩ := d
      exact hde.2.1
    rw [← hstore]
    split at h
    · cases h
    · split at h
      · cases h
      next sub hsub =>
        obtain ⟨otherSub, hotherSub, hsubs⟩ := buildWith_spelled hR hde hsub
        split at h
        · cases h
        next x hx =>
          obtain ⟨y, hy, hxy⟩ := Automaton.addFragment_spelled hR hab hsubs hx
          obtain ⟨z, hz, hcz⟩ := buildFragments_spelled hR hxy hrest h
          simp only [hotherSub, hy]
          exact ⟨z, hz, hcz⟩

end

theorem build_spelled (hR : Spelling R) {d e : Definition} {a : Automaton} (hde : d.Spelled R e)
    (h : d.build r = .ok a) : ∃ b, e.build r = .ok b ∧ Automaton.Spelled R a b := by
  have hkind : d.effectiveKind = e.effectiveKind := by
    obtain ⟨_, _, _, _, _, _⟩ := d
    simp only [effectiveKind, hde.2.1]
  unfold build at h ⊢
  rw [← hkind]
  split at h
  · cases h
  next c hc =>
    cases h
    obtain ⟨d, hd, hcd⟩ := buildWith_spelled hR hde hc
    rw [hd]
    exact ⟨d.reset, rfl, hcd.reset⟩

end Definition

theorem Automaton.ofDict_eq_build {v : Value} {d : Definition} (h : Definition.ofValue v = .ok d) :
    ofDict v = d.build .builtIn := by
  rw [ofDict, Definition.load, h]

end GuardedAutomata
