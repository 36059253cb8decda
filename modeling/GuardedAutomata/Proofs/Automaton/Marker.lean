import GuardedAutomata.Proofs.Session.Run
import GuardedAutomata.Proofs.Value.Key

/-!
# Markers

Only values that can be keys become markers, so a marker is the same as itself, and a set that it was added
to holds it, be it in another form. Joining marker sets therefore loses none of them and makes up none.
-/

set_option autoImplicit false

namespace GuardedAutomata

namespace Value

variable {m : Value} {vs ws : List Value}

theorem memberOf_of_mem (hm : m.unhashable? = none) (h : m ∈ vs) : m.memberOf vs = true :=
  List.any_eq_true.2 ⟨m, h, (same_iff_key hm hm).2 rfl⟩

theorem memberOf_mono (hsub : vs ⊆ ws) (h : m.memberOf vs = true) : m.memberOf ws = true := by
  obtain ⟨v, hv, hsame⟩ := List.any_eq_true.1 h
  exact List.any_eq_true.2 ⟨v, hsub hv, hsame⟩

theorem memberOf_insertInto (hm : m.unhashable? = none) : m.memberOf (insertInto vs m) = true := by
  unfold insertInto
  split
  · assumption
  · exact memberOf_of_mem hm (List.mem_append_right _ (List.mem_singleton.2 rfl))

theorem Distinct.perm (hd : Distinct vs) (hp : ws.Perm vs) (h : ∀ v ∈ vs, v.unhashable? = none) :
    Distinct ws := by
  have hws : ∀ w ∈ ws, w.unhashable? = none := fun w hw => h w (hp.mem_iff.1 hw)
  rw [distinct_iff_keys hws, (hp.map key).nodup_iff, ← distinct_iff_keys h]
  exact hd

theorem subset_insertAll : vs ⊆ ws.foldl insertInto vs :=
  (prefix_foldl_keepNew same vs ws).subset

theorem mem_of_mem_insertAll (h : m ∈ ws.foldl insertInto vs) : m ∈ vs ∨ m ∈ ws :=
  List.mem_append.1 ((foldl_keepNew_sublist same vs ws).subset h)

theorem memberOf_insertAll (hm : m.unhashable? = none) (h : m ∈ ws) :
    m.memberOf (ws.foldl insertInto vs) = true := by
  induction ws generalizing vs with
  | nil => cases h
  | cons w ws ih =>
    rw [List.foldl_cons]
    rcases List.mem_cons.1 h with rfl | h
    · exact memberOf_mono subset_insertAll (memberOf_insertInto hm)
    · exact ih h

theorem allHaveText_iff : allHaveText vs = true ↔ ∀ v ∈ vs, v.hasText = true := by
  induction vs with
  | nil => simp [allHaveText]
  | cons v vs ih => rw [allHaveText, Bool.and_eq_true, ih, List.forall_mem_cons]

end Value

namespace Automaton

variable {m : Value} {ms : List (List Value)}

theorem joinMarkers_eq_flatten : joinMarkers ms = ms.flatten.foldl Value.insertInto [] := by
  rw [joinMarkers, List.foldl_flatten]

theorem mem_of_mem_joinMarkers (h : m ∈ joinMarkers ms) : ∃ vs ∈ ms, m ∈ vs := by
  rw [joinMarkers_eq_flatten] at h
  rcases Value.mem_of_mem_insertAll h with h | h
  · cases h
  · exact List.mem_flatten.1 h

theorem memberOf_joinMarkers (hm : m.unhashable? = none) {vs : List Value} (hvs : vs ∈ ms) (h : m ∈ vs) :
    m.memberOf (joinMarkers ms) = true := by
  rw [joinMarkers_eq_flatten]
  exact Value.memberOf_insertAll hm (List.mem_flatten.2 ⟨vs, hvs, h⟩)

def HashableMarkers (a : Automaton) : Prop :=
  ∀ ms ∈ a.markers, ∀ m ∈ ms, m.unhashable? = none

variable {a b : Automaton} {i : Nat}

theorem HashableMarkers.markersAt (ha : a.HashableMarkers) : ∀ m ∈ a.markersAt i, m.unhashable? = none := by
  unfold Automaton.markersAt
  cases hm : a.markers[i]? with
  | none => simp
  | some ms => exact ha ms (List.mem_of_getElem? hm)

theorem HashableMarkers.step (ha : a.HashableMarkers) (h : Step a b) : b.HashableMarkers := by
  cases h with
  | moved h => cases h <;> exact ha
  | grown n =>
    rw [grow_eq]
    intro ms hms
    rcases List.mem_append.1 hms with hms | hms
    · exact ha ms hms
    · cases List.eq_of_mem_replicate hms
      simp
  | linked _ hp =>
    obtain ⟨s, t, _, _, rfl⟩ := putEdge_eq_ok hp
    exact ha
  | joined _ hp =>
    obtain ⟨s, t, _, _, rfl⟩ := putEdge_eq_ok hp
    exact ha
  | marked hm =>
    intro ms hms
    rcases List.mem_or_eq_of_mem_set hms with hms | rfl
    · exact ha ms hms
    · intro v hv
      rcases Value.mem_insertInto hv with hv | rfl
      · exact ha.markersAt v hv
      · exact Value.checkHashable_iff.1 hm
  | unmarked =>
    intro ms hms
    obtain ⟨_, _, rfl⟩ := List.mem_map.1 hms
    simp
  | renamed name => exact ha

theorem kept_hashableMarkers : Kept fun a => a.WellFormed ∧ a.HashableMarkers where
  wellFormed := And.left
  new := fun f name => ⟨wellFormed_new f name, by simp [HashableMarkers, Automaton.new]⟩
  step := fun ha h => ⟨ha.1.step h, ha.2.step h⟩
  add := by
    intro a b ha hb
    refine ⟨ha.1.add hb.1, ?_⟩
    rcases add_cases ha.1 hb.1 with ⟨h, _⟩ | ⟨_, _, h⟩
    · rw [h]
      exact ha.2
    · rw [h]
      intro ms hms
      rcases List.mem_append.1 hms with hms | hms
      · exact ha.2 ms hms
      · exact hb.2 ms hms

theorem Reachable.hashableMarkers [TestFunctions] (ha : a.Reachable) : a.HashableMarkers :=
  (kept_hashableMarkers.reachable ha).2

end Automaton

end GuardedAutomata
