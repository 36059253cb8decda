import GuardedAutomata.Automaton.Debug
import GuardedAutomata.Proofs.Automaton.Access
import GuardedAutomata.Proofs.Text.Delimiter
import Mathlib

/-!
# Reading the debug text back

Nothing is escaped in the debug text of an automaton. If the symbols are texts without a quote, and the markers hold
none of the marks around them, it can be read in one way only: a line ends where the next state begins, what follows
the number of a state tells whether it has markers, and an edge ends with the number of its target. A symbol may look
like an epsilon guard or like a whole edge, since it stands between quotes.
-/

set_option autoImplicit false

namespace GuardedAutomata

open Text

def Value.isTextWithout (marks : List Char) : Value → Bool
  | .str s => s.toList.all (· ∉ marks)
  | _ => false

theorem Value.isTextWithout_iff {marks : List Char} {v : Value} :
    v.isTextWithout marks = true ↔ ∃ s, v = .str s ∧ ∀ c ∈ marks, c ∉ s.toList := by
  constructor
  · intro h
    cases v with
    | str s => exact ⟨s, rfl, fun c hc hs => of_decide_eq_true (List.all_eq_true.1 h c hs) hc⟩
    | _ => cases h
  · rintro ⟨s, rfl, hs⟩
    exact List.all_eq_true.2 fun c hc => decide_eq_true fun hmarks => hs c hmarks hc

/-! ### Edges -/

namespace Guard

def isLegible : Guard → Bool
  | .epsilon => true
  | .predicate v => v.isTextWithout ['\'', '\n']

variable {g h : Guard} {us vs : List Char}

theorem toList_formatGuard (s : String) :
    (StoreKind.symbol.formatGuard (.predicate (.str s))).toList = '\'' :: (s.toList ++ ['\'']) := by
  simp [StoreKind.formatGuard, StoreKind.format, Value.text]

/-- The text of a guard cannot be the front of another one: epsilon is the only one without a quote in front. -/
theorem formatGuard_unique (hg : g.isLegible = true) (hh : h.isLegible = true)
    (htext : (StoreKind.symbol.formatGuard g).toList ++ us = (StoreKind.symbol.formatGuard h).toList ++ vs) :
    g = h ∧ us = vs := by
  cases g with
  | epsilon =>
    cases h with
    | epsilon => exact ⟨rfl, List.append_cancel_left htext⟩
    | predicate w =>
      obtain ⟨t, rfl, -⟩ := Value.isTextWithout_iff.1 hh
      rw [toList_formatGuard] at htext
      exact absurd (List.cons.inj htext).1 (by decide)
  | predicate v =>
    obtain ⟨s, rfl, hs⟩ := Value.isTextWithout_iff.1 hg
    cases h with
    | epsilon =>
      rw [toList_formatGuard] at htext
      exact absurd (List.cons.inj htext).1 (by decide)
    | predicate w =>
      obtain ⟨t, rfl, ht⟩ := Value.isTextWithout_iff.1 hh
      rw [toList_formatGuard, toList_formatGuard, List.cons_append, List.cons_append, List.append_assoc,
        List.append_assoc] at htext
      obtain ⟨hsymbol, hback⟩ := cut_unique (hs _ (by decide)) (ht _ (by decide)) (List.cons.inj htext).2
      exact ⟨by rw [String.toList_inj.1 hsymbol], hback⟩

theorem notMem_formatGuard (hg : g.isLegible = true) : '\n' ∉ (StoreKind.symbol.formatGuard g).toList := by
  cases g with
  | epsilon => decide
  | predicate v =>
    obtain ⟨s, rfl, hs⟩ := Value.isTextWithout_iff.1 hg
    rw [toList_formatGuard]
    simp [hs '\n' (by decide)]

end Guard

namespace Store

variable {e f : Edge} {us vs : List Char}

/-- A blank behind the text of an edge tells where the number of its target ends. -/
theorem edgeText_unique (he : e.guard.isLegible = true) (hf : f.guard.isLegible = true)
    (h : (edgeText .symbol e).toList ++ ' ' :: us = (edgeText .symbol f).toList ++ ' ' :: vs) : e = f ∧ us = vs := by
  simp only [edgeText, String.toList_append, List.append_assoc] at h
  obtain ⟨hguard, hmark⟩ := Guard.formatGuard_unique he hf h
  obtain ⟨htarget, hback⟩ :=
    cut_unique (notMem_toString rfl _) (notMem_toString rfl _) (List.append_cancel_left hmark)
  have hnumber : e.target = f.target := Nat.repr_injective (String.toList_inj.1 htarget)
  refine ⟨?_, hback⟩
  cases e
  cases f
  exact Edge.mk.injEq .. ▸ ⟨hguard, hnumber⟩

theorem notMem_edgeText (he : e.guard.isLegible = true) : '\n' ∉ (edgeText .symbol e).toList := by
  rw [edgeText, notMem_append, notMem_append]
  exact ⟨⟨Guard.notMem_formatGuard he, by decide⟩, notMem_toString rfl _⟩

def edgeChars (es : List Edge) : List Char :=
  es.flatMap fun e => ' ' :: (edgeText .symbol e).toList

theorem edgeChars_ended (es : List Edge) :
    edgeChars es ++ [' '] = ' ' :: es.flatMap fun e => (edgeText .symbol e).toList ++ [' '] := by
  induction es with
  | nil => rfl
  | cons e es ih =>
    rw [edgeChars, List.flatMap_cons, List.append_assoc, ← edgeChars, ih]
    simp

variable {es fs : List Edge}

theorem edgeChars_unique (hes : ∀ e ∈ es, e.guard.isLegible = true) (hfs : ∀ f ∈ fs, f.guard.isLegible = true)
    (h : edgeChars es = edgeChars fs) : es = fs := by
  have hended := edgeChars_ended es
  rw [h, edgeChars_ended fs] at hended
  refine flatMap_unique (fun e => by simp) (fun e he f hf us vs hboth => ?_) (List.cons.inj hended).2.symm
  exact edgeText_unique (hes e he) (hfs f hf) (by simpa using hboth)

theorem notMem_edgeChars (hes : ∀ e ∈ es, e.guard.isLegible = true) : '\n' ∉ edgeChars es := by
  intro hmem
  obtain ⟨e, he, hline⟩ := List.mem_flatMap.1 hmem
  rcases List.mem_cons.1 hline with hline | hline
  · exact absurd hline (by decide)
  · exact notMem_edgeText (hes e he) hline

end Store

namespace Automaton

/-! ### States -/

def isLegibleMarker (m : Value) : Bool :=
  m.isTextWithout [',', ':', ' ', '\n']

def LegibleAt (a : Automaton) (i : Nat) : Prop :=
  (∀ e ∈ a.edgesOf i, e.guard.isLegible = true) ∧ ∀ m ∈ a.markersAt i, isLegibleMarker m = true

instance (a : Automaton) : DecidablePred a.LegibleAt := fun i =>
  inferInstanceAs (Decidable ((∀ e ∈ a.edgesOf i, _) ∧ ∀ m ∈ a.markersAt i, _))

def Legible (a : Automaton) : Prop :=
  ∀ i < a.count, a.LegibleAt i

instance (a : Automaton) : Decidable a.Legible :=
  inferInstanceAs (Decidable (∀ i < a.count, a.LegibleAt i))

variable {a b : Automaton} {i j : Nat} {ms ns : List Value}

theorem map_text_legible (h : ∀ m ∈ ms, isLegibleMarker m = true) : (ms.map Value.text).map Value.str = ms := by
  rw [List.map_map]
  refine (List.map_congr_left fun m hm => ?_).trans (List.map_id ms)
  obtain ⟨s, rfl, -⟩ := Value.isTextWithout_iff.1 (h m hm)
  rfl

theorem sortByKey_eq (hms : ∀ m ∈ ms, isLegibleMarker m = true) (h : ms.Perm ns) :
    sortByKey Value.text ms = sortByKey Value.text ns := by
  refine List.Perm.eq_of_pairwise (fun m n hm hn hle hge => ?_) (sortByKey_sorted _ ms) (sortByKey_sorted _ ns)
    ((sortByKey_perm _ ms).trans (h.trans (sortByKey_perm _ ns).symm))
  obtain ⟨s, rfl, -⟩ := Value.isTextWithout_iff.1 (hms m ((sortByKey_perm _ ms).mem_iff.1 hm))
  obtain ⟨t, rfl, -⟩ := Value.isTextWithout_iff.1 (hms n (h.mem_iff.2 ((sortByKey_perm _ ns).mem_iff.1 hn)))
  exact congrArg Value.str (String.le_antisymm hle hge)

theorem sortedMarkers_perm (a : Automaton) (i : Nat) : (a.sortedMarkers i).Perm (a.markersAt i) :=
  sortByKey_perm Value.text _

theorem LegibleAt.sortedMarkers (h : a.LegibleAt i) : ∀ m ∈ a.sortedMarkers i, isLegibleMarker m = true :=
  fun m hm => h.2 m ((a.sortedMarkers_perm i).mem_iff.1 hm)

theorem sortedMarkers_eq_nil : a.sortedMarkers i = [] ↔ a.markersAt i = [] :=
  ⟨fun h => (h ▸ a.sortedMarkers_perm i).symm.eq_nil, fun h => (h ▸ a.sortedMarkers_perm i).eq_nil⟩

theorem toList_markerText (a : Automaton) (i : Nat) :
    (a.markerText i).toList = [','].intercalate ((a.sortedMarkers i).map fun m => m.text.toList) := by
  rw [markerText, String.toList_intercalate, List.map_map]
  rfl

theorem LegibleAt.notMem_markerText (h : a.LegibleAt i) {c : Char} (hc : c ∈ [':', ' ', '\n']) :
    c ∉ (a.markerText i).toList := by
  have hcomma : c ∉ ",".toList := by
    rintro hmem
    obtain rfl : c = ',' := by simpa using hmem
    exact absurd hc (by decide)
  refine notMem_intercalate hcomma (List.forall_mem_map.2 fun m hm => ?_)
  obtain ⟨s, rfl, hs⟩ := Value.isTextWithout_iff.1 (h.sortedMarkers m hm)
  exact hs c (List.mem_cons_of_mem _ hc)

theorem LegibleAt.sortedMarkers_unique (ha : a.LegibleAt i) (hb : b.LegibleAt j) (hna : a.markersAt i ≠ [])
    (hnb : b.markersAt j ≠ []) (h : a.markerText i = b.markerText j) : a.sortedMarkers i = b.sortedMarkers j := by
  have hcomma : ∀ {c : Automaton} {k : Nat}, c.LegibleAt k →
      ∀ cs ∈ (c.sortedMarkers k).map fun m => m.text.toList, ',' ∉ cs := fun hc =>
    List.forall_mem_map.2 fun m hm => by
      obtain ⟨s, rfl, hs⟩ := Value.isTextWithout_iff.1 (hc.sortedMarkers m hm)
      exact hs _ List.mem_cons_self
  have hne : ∀ {c : Automaton} {k : Nat}, c.markersAt k ≠ [] →
      ((c.sortedMarkers k).map fun m => m.text.toList) ≠ [] := fun hc => by
    rwa [Ne, List.map_eq_nil_iff, sortedMarkers_eq_nil]
  have htexts := intercalate_unique (hcomma ha) (hcomma hb) (hne hna) (hne hnb)
    (by rw [← toList_markerText, ← toList_markerText, h])
  have htext : (a.sortedMarkers i).map Value.text = (b.sortedMarkers j).map Value.text :=
    List.map_injective_iff.2 (fun s t => String.toList_inj.1) (by rwa [List.map_map, List.map_map])
  rw [← map_text_legible ha.sortedMarkers, htext, map_text_legible hb.sortedMarkers]

def stateChars (a : Automaton) (i : Nat) : List Char :=
  (if a.markersAt i = [] then [] else ':' :: (a.markerText i).toList) ++ ':' :: Store.edgeChars (a.edgesOf i)

theorem stateChars_ne (hb : b.LegibleAt j) (hna : a.markersAt i = []) (hnb : b.markersAt j ≠ []) :
    a.stateChars i ≠ b.stateChars j := by
  intro h
  rw [stateChars, stateChars, if_pos hna, if_neg hnb] at h
  have hrest : Store.edgeChars (a.edgesOf i) = (b.markerText j).toList ++ ':' :: Store.edgeChars (b.edgesOf j) :=
    (List.cons.inj h).2
  cases hedges : a.edgesOf i with
  | nil =>
    rw [hedges] at hrest
    exact absurd hrest (by simp [Store.edgeChars])
  | cons e es =>
    -- a blank comes next in front of an edge, and the first marker begins with none
    rw [hedges] at hrest
    cases hmarkers : (b.markerText j).toList with
    | nil =>
      rw [hmarkers] at hrest
      exact absurd (List.cons.inj hrest).1 (by decide)
    | cons c cs =>
      rw [hmarkers] at hrest
      have hblank := hb.notMem_markerText (c := ' ') (by decide)
      rw [hmarkers, ← (List.cons.inj hrest).1] at hblank
      exact hblank List.mem_cons_self

theorem LegibleAt.stateChars_unique (ha : a.LegibleAt i) (hb : b.LegibleAt j) (h : a.stateChars i = b.stateChars j) :
    a.edgesOf i = b.edgesOf j ∧ a.sortedMarkers i = b.sortedMarkers j := by
  by_cases hna : a.markersAt i = []
  · by_cases hnb : b.markersAt j = []
    · rw [stateChars, stateChars, if_pos hna, if_pos hnb] at h
      exact ⟨Store.edgeChars_unique ha.1 hb.1 (List.cons.inj h).2,
        by rw [sortedMarkers_eq_nil.2 hna, sortedMarkers_eq_nil.2 hnb]⟩
    · exact absurd h (stateChars_ne hb hna hnb)
  · by_cases hnb : b.markersAt j = []
    · exact absurd h.symm (stateChars_ne ha hnb hna)
    · rw [stateChars, stateChars, if_neg hna, if_neg hnb] at h
      obtain ⟨hmarkers, hedges⟩ := cut_unique (ha.notMem_markerText (by decide))
        (hb.notMem_markerText (by decide)) (List.cons.inj h).2
      exact ⟨Store.edgeChars_unique ha.1 hb.1 hedges,
        ha.sortedMarkers_unique hb hna hnb (String.toList_inj.1 hmarkers)⟩

theorem LegibleAt.notMem_stateChars (h : a.LegibleAt i) : '\n' ∉ a.stateChars i := by
  rw [stateChars, List.mem_append, List.mem_cons, not_or, not_or]
  refine ⟨?_, by decide, Store.notMem_edgeChars h.1⟩
  split
  · exact List.not_mem_nil
  · rw [List.mem_cons, not_or]
    exact ⟨by decide, h.notMem_markerText (by decide)⟩

/-! ### Lines -/

def lineChars (a : Automaton) (i : Nat) : List Char :=
  '#' :: ((toString i).toList ++ a.stateChars i)

theorem toList_stateLine (hk : a.factory.storeKind = .symbol) (i : Nat) :
    (a.stateLine i).toList = a.lineChars i ++ ['\n'] := by
  have hedges : (String.join ((a.edgesOf i).map fun e => " " ++ Store.edgeText .symbol e)).toList =
      Store.edgeChars (a.edgesOf i) := by
    simp [String.toList_join, List.flatMap_map, Store.edgeChars]
  rw [stateLine, hk]
  simp only [String.toList_append, hedges, lineChars, stateChars, List.isEmpty_iff]
  split <;> simp

theorem toList_debugText (hk : a.factory.storeKind = .symbol) :
    a.debugText.toList = ((List.range a.count).map a.lineChars).flatMap fun line => line ++ ['\n'] := by
  rw [debugText, String.toList_join, List.flatMap_map, List.flatMap_map]
  exact List.flatMap_congr fun i _ => toList_stateLine hk i

theorem LegibleAt.notMem_lineChars (h : a.LegibleAt i) : '\n' ∉ a.lineChars i := by
  rw [lineChars, List.mem_cons, List.mem_append, not_or, not_or]
  exact ⟨by decide, notMem_toString rfl i, h.notMem_stateChars⟩

/-- The debug texts of two automata are equal exactly if the automata have the same states, with the same edges in the
same order and the same markers. -/
theorem debugText_eq_iff (ha : a.Legible) (hb : b.Legible) (hka : a.factory.storeKind = .symbol)
    (hkb : b.factory.storeKind = .symbol) :
    a.debugText = b.debugText ↔ a.count = b.count ∧
      ∀ i < a.count, a.edgesOf i = b.edgesOf i ∧ (a.markersAt i).Perm (b.markersAt i) := by
  constructor
  · intro h
    have hlines := ended_unique (List.forall_mem_map.2 fun i hi => (ha i (List.mem_range.1 hi)).notMem_lineChars)
      (List.forall_mem_map.2 fun i hi => (hb i (List.mem_range.1 hi)).notMem_lineChars)
      (by rw [← toList_debugText hka, ← toList_debugText hkb, h])
    have hcount : a.count = b.count := by simpa using congrArg List.length hlines
    refine ⟨hcount, fun i hi => ?_⟩
    rw [← hcount] at hlines
    have hline : a.lineChars i = b.lineChars i := List.map_inj_left.1 hlines i (List.mem_range.2 hi)
    obtain ⟨hedges, hmarkers⟩ :=
      (ha i hi).stateChars_unique (hb i (hcount ▸ hi)) (List.append_cancel_left (List.cons.inj hline).2)
    exact ⟨hedges, (a.sortedMarkers_perm i).symm.trans (hmarkers ▸ b.sortedMarkers_perm i)⟩
  · rintro ⟨hcount, hsame⟩
    rw [debugText, debugText, ← hcount]
    refine congrArg String.join (List.map_congr_left fun i hi => ?_)
    obtain ⟨hedges, hmarkers⟩ := hsame i (List.mem_range.1 hi)
    have hempty : (a.markersAt i).isEmpty = (b.markersAt i).isEmpty := hmarkers.isEmpty_eq
    have htext : a.markerText i = b.markerText i := by
      rw [markerText, markerText, Automaton.sortedMarkers, sortByKey_eq (ha i (List.mem_range.1 hi)).2 hmarkers]
      rfl
    rw [stateLine, stateLine, hka, hkb, hedges, hempty, htext]

/-- Markers given in another order leave the text as it is, and a symbol with the text of an edge is no epsilon edge. -/
theorem debugText_eq_iff_markers : ∃ a b c : Automaton, @Reachable Matcher.catalogue a ∧
    @Reachable Matcher.catalogue b ∧ @Reachable Matcher.catalogue c ∧ a.Legible ∧ b.Legible ∧ c.Legible ∧
    a.markersAt 1 ≠ b.markersAt 1 ∧ a.debugText = b.debugText ∧ a.debugText ≠ c.debugText := by
  let _ := Matcher.catalogue
  let marking (guards markers : List Value) : List (String × Command) :=
    [("a", .new (.ofKind .symbol) .null), ("a", .newStates 2)] ++
      guards.map (fun g => ("a", .newTransition (.int 0) (.int 1) g)) ++
      markers.map fun m => ("a", .mark (.int 1) m)
  let built (guards markers : List Value) : Automaton :=
    ((Session.run (marking guards markers) .empty).automaton? "a").getD default
  let a := built [.epsilon, .str "eps>1 :"] [.str "x", .str ""]
  let b := built [.epsilon, .str "eps>1 :"] [.str "", .str "x"]
  let c := built [.str "eps>1 :", .epsilon] [.str "x", .str ""]
  have ha : a.Legible := by decide +kernel
  have hb : b.Legible := by decide +kernel
  have hc : c.Legible := by decide +kernel
  have hma : a.markersAt 1 = [.str "x", .str ""] := by cbv
  have hmb : b.markersAt 1 = [.str "", .str "x"] := by cbv
  refine ⟨a, b, c, ⟨marking [.epsilon, .str "eps>1 :"] [.str "x", .str ""], "a", rfl⟩,
    ⟨marking [.epsilon, .str "eps>1 :"] [.str "", .str "x"], "a", rfl⟩,
    ⟨marking [.str "eps>1 :", .epsilon] [.str "x", .str ""], "a", rfl⟩, ha, hb, hc, ?_, ?_, ?_⟩
  · rw [hma, hmb]
    simp
  · refine (debugText_eq_iff ha hb rfl rfl).2 ⟨rfl, fun i (hi : i < 2) => ?_⟩
    obtain rfl | rfl : i = 0 ∨ i = 1 := by omega
    · exact ⟨rfl, .refl _⟩
    · exact ⟨rfl, hma ▸ hmb ▸ .swap _ _ _⟩
  · intro h
    have hedges : [⟨.epsilon, 1⟩, ⟨.predicate (.str "eps>1 :"), 1⟩] =
        [⟨.predicate (.str "eps>1 :"), 1⟩, (⟨.epsilon, 1⟩ : Edge)] :=
      (((debugText_eq_iff ha hc rfl rfl).1 h).2 0 (by decide)).1
    cases hedges

end Automaton

end GuardedAutomata
