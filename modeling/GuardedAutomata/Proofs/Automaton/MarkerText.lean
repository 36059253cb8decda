import GuardedAutomata.Automaton.Dot
import GuardedAutomata.Proofs.Automaton.Marker
import Mathlib

/-!
# The text of a marker set

A state keeps the first of the markers it is given that are the same. Which of them that is, and in which order they
came, cannot be seen of the sorted texts if markers that are the same have the same text; markers that differ may well
have one text. Two automata whose states have markers with the same texts look the same.
-/

set_option autoImplicit false

namespace GuardedAutomata

theorem Text.map_sortByKey {α : Type} {key : α → String} {xs ys : List α} (h : (xs.map key).Perm (ys.map key)) :
    (sortByKey key xs).map key = (sortByKey key ys).map key := by
  refine List.Perm.eq_of_pairwise (fun s t _ _ => String.le_antisymm) (List.pairwise_map.2 (sortByKey_sorted key xs))
    (List.pairwise_map.2 (sortByKey_sorted key ys)) ?_
  exact ((sortByKey_perm key xs).map key).trans (h.trans ((sortByKey_perm key ys).map key).symm)

namespace Value

variable {m v w : Value} {ms ns vs ws : List Value}

structure Gathered (ms vs : List Value) : Prop where
  given : ms ⊆ vs
  holds : ∀ v ∈ vs, v.unhashable? = none ∧ v.memberOf ms = true

namespace Gathered

theorem nil : Gathered [] [] :=
  ⟨List.Subset.refl [], fun _ hv => by cases hv⟩

theorem refl (h : ∀ m ∈ ms, m.unhashable? = none) : Gathered ms ms :=
  ⟨List.Subset.refl ms, fun m hm => ⟨h m hm, memberOf_of_mem (h m hm) hm⟩⟩

theorem insert (h : Gathered ms vs) (hm : m.unhashable? = none) : Gathered (insertInto ms m) (vs ++ [m]) where
  given := fun v hv => by
    rcases mem_insertInto hv with hv | rfl
    · exact List.mem_append_left _ (h.given hv)
    · exact List.mem_append_right _ (List.mem_singleton_self v)
  holds := fun v hv => by
    rcases List.mem_append.1 hv with hv | hv
    · obtain ⟨hhash, hmem⟩ := h.holds v hv
      have hsub : ms ⊆ [m].foldl insertInto ms := subset_insertAll
      exact ⟨hhash, memberOf_mono hsub hmem⟩
    · cases List.mem_singleton.1 hv
      exact ⟨hm, memberOf_insertInto hm⟩

theorem perm (h : Gathered ms vs) (hp : ns.Perm ms) : Gathered ns vs :=
  ⟨fun _ hn => h.given (hp.mem_iff.1 hn), fun v hv =>
    ⟨(h.holds v hv).1, memberOf_mono (fun _ hm => hp.mem_iff.2 hm) (h.holds v hv).2⟩⟩

theorem exists_same (h : Gathered ms vs) (htext : ∀ v ∈ vs, ∀ w ∈ vs, v.equal w = true → v.text = w.text)
    (hv : v ∈ vs) : ∃ m ∈ ms, m.key = v.key ∧ m.text = v.text := by
  obtain ⟨hhash, hmem⟩ := h.holds v hv
  obtain ⟨m, hm, hsame⟩ := List.any_eq_true.1 hmem
  refine ⟨m, hm, (same_iff_key (h.holds m (h.given hm)).1 hhash).1 hsame, ?_⟩
  rcases Bool.or_eq_true_iff.1 hsame with hequal | hnan
  · exact htext m (h.given hm) v hv hequal
  · obtain ⟨i, rfl, rfl⟩ := sameNan_iff.1 hnan
    rfl

/-- Sets of the same values have the same texts, each as often in one as in the other. -/
theorem map_text_perm (hms : Distinct ms) (hns : Distinct ns) (hv : Gathered ms vs) (hw : Gathered ns ws)
    (hvw : ∀ v, v ∈ vs ↔ v ∈ ws) (htext : ∀ v ∈ vs, ∀ w ∈ vs, v.equal w = true → v.text = w.text) :
    (ms.map Value.text).Perm (ns.map Value.text) := by
  have htext' : ∀ v ∈ ws, ∀ w ∈ ws, v.equal w = true → v.text = w.text := fun v hv w hw =>
    htext v ((hvw v).2 hv) w ((hvw w).2 hw)
  -- Texts may repeat, but not together with the keys that they are the texts of.
  let tagged (v : Value) : Key × String := (v.key, v.text)
  have hnodup : ∀ {ms vs : List Value}, Distinct ms → Gathered ms vs → (ms.map tagged).Nodup := fun hd hg => by
    have hkeys := (distinct_iff_keys fun m hm => (hg.holds m (hg.given hm)).1).1 hd
    exact List.Nodup.of_map Prod.fst (by rwa [List.map_map])
  have hsub : ∀ {ms ns vs ws : List Value}, Gathered ms vs → Gathered ns ws → (∀ v ∈ vs, v ∈ ws) →
      (∀ v ∈ ws, ∀ w ∈ ws, v.equal w = true → v.text = w.text) → ms.map tagged ⊆ ns.map tagged := by
    intro ms ns vs ws hv hw hsub htext x hx
    obtain ⟨m, hm, rfl⟩ := List.mem_map.1 hx
    obtain ⟨n, hn, hkey, htext⟩ := hw.exists_same htext (hsub m (hv.given hm))
    exact List.mem_map.2 ⟨n, hn, Prod.ext hkey htext⟩
  have hperm : (ms.map tagged).Perm (ns.map tagged) :=
    (List.perm_ext_iff_of_nodup (hnodup hms hv) (hnodup hns hw)).2 fun x =>
      ⟨fun hx => hsub hv hw (fun v => (hvw v).1) htext' hx, fun hx => hsub hw hv (fun v => (hvw v).2) htext hx⟩
  have htexts := hperm.map Prod.snd
  rwa [List.map_map, List.map_map] at htexts

end Gathered

end Value

namespace Automaton

variable {a b : Automaton}

structure Pictured (a b : Automaton) : Prop where
  name : a.name = b.name
  factory : a.factory = b.factory
  count : a.count = b.count
  edges : ∀ i, a.edgesOf i = b.edgesOf i
  active : a.active = b.active
  texts : ∀ i, ((a.markersAt i).map Value.text).Perm ((b.markersAt i).map Value.text)

namespace Pictured

theorem markerText_eq (h : a.Pictured b) (i : Nat) : a.markerText i = b.markerText i := by
  rw [markerText, markerText, sortedMarkers, sortedMarkers, Text.map_sortByKey (h.texts i)]

theorem isEmpty_eq (h : a.Pictured b) (i : Nat) : (a.markersAt i).isEmpty = (b.markersAt i).isEmpty := by
  have hlength : (a.markersAt i).length = (b.markersAt i).length := by simpa using (h.texts i).length_eq
  rw [Bool.eq_iff_iff, List.isEmpty_iff_length_eq_zero, List.isEmpty_iff_length_eq_zero, hlength]

theorem debugText_eq (h : a.Pictured b) : a.debugText = b.debugText := by
  have hline : a.stateLine = b.stateLine := funext fun i => by
    rw [stateLine, stateLine, h.isEmpty_eq, h.markerText_eq, h.edges, h.factory]
  rw [debugText, debugText, hline, h.count]

theorem dotLines_eq (h : a.Pictured b) : a.dotLines = b.dotLines := by
  have hnode : a.dotNode = b.dotNode := funext fun i => by
    rw [dotNode, dotNode, dotLabel, dotLabel, h.isEmpty_eq, h.markerText_eq, h.active]
  have hedge : a.dotEdge = b.dotEdge := funext fun i => funext fun e => by
    have hlabel : a.dotEdgeLabel e.guard = b.dotEdgeLabel e.guard := by
      cases e.guard with
      | epsilon => rfl
      | predicate p => rw [dotEdgeLabel, dotEdgeLabel, h.factory]
    rw [dotEdge, dotEdge, hlabel]
  simp only [dotLines, hnode, hedge, h.count, h.edges]

theorem dotText_eq (h : a.Pictured b) (o : Dot.Options) : a.dotText o = b.dotText o := by
  simp only [dotText, h.name, h.dotLines_eq]

end Pictured

end Automaton

end GuardedAutomata
