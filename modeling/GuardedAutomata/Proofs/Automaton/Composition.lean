import GuardedAutomata.Automaton.Composition
import GuardedAutomata.Proofs.Automaton.WellFormed

/-!
# Composition

Adding a well-formed automaton copies its states behind the ones there are: edges keep their order and
their guards, targets are raised by the number of earlier states, and markers are taken over. The copying
never fails, because recorded guards are recorded again as they are.
-/

set_option autoImplicit false

namespace GuardedAutomata

def Store.raise (offset : Nat) (s : Store) : Store :=
  (empty s.kind).recordAll (s.edges.map (Edge.relabel (· + offset)))

theorem Store.edges_raise (offset : Nat) (s : Store) :
    (s.raise offset).edges = s.edges.map (Edge.relabel (· + offset)) := by
  simp [raise]

theorem Store.Fits.raise {k : StoreKind} {n : Nat} {s : Store} (h : s.Fits k n) (offset : Nat) :
    (s.raise offset).Fits k (offset + n) where
  kind := by simpa [Store.raise, empty] using h.kind
  sound := sound_relabel (fun _ _ => Nat.add_right_cancel) h.sound
  target_lt := by
    rw [edges_raise]
    intro e he
    obtain ⟨d, hd, rfl⟩ := List.mem_map.1 he
    have := h.target_lt d hd
    simp only [Edge.target_relabel]
    omega

namespace Automaton

theorem grow_eq (n : Nat) (a : Automaton) :
    grow n a = { a with
      stores := a.stores ++ List.replicate n a.factory.newStore
      markers := a.markers ++ List.replicate n []
      active := if a.count = 0 ∧ n ≠ 0 then a.active.insert 0 else a.active } := by
  induction n generalizing a with
  | zero => simp [grow]
  | succ n ih =>
    have hc : a.newState.1.count ≠ 0 := by
      rw [count_newState]
      omega
    rw [grow, ih, if_neg (fun h => hc h.1)]
    simp [newState, List.replicate_succ]

theorem mergeStores_eq (offset : Nat) (before : List Store) {ss : List Store} {a : Automaton}
    (hs : ∀ s ∈ ss, s.Sound ∧ s.kind = a.factory.storeKind)
    (ha : a.stores = before ++ List.replicate ss.length a.factory.newStore) :
    mergeStores offset ss before.length a =
      ({ a with stores := before ++ ss.map (Store.raise offset) }, .ok ()) := by
  induction ss generalizing before a with
  | nil =>
    have ha : a.stores = before := by simpa using ha
    rw [mergeStores, ← ha]
    simp
  | cons s ss ih =>
    obtain ⟨hsound, hkind⟩ := hs s (by simp)
    have hget : (a.stores[before.length]?).getD a.factory.newStore = Store.empty s.kind := by
      rw [ha, hkind]
      simp [Factory.newStore, List.replicate_succ]
    have hmerge : (Store.empty s.kind).merge s (fun t => .ok (t + offset)) = (s.raise offset, .ok ()) :=
      Store.merge_empty (fun _ _ => Nat.add_right_cancel) hsound
    have hset : a.stores.set before.length (s.raise offset) =
        (before ++ [s.raise offset]) ++ List.replicate ss.length a.factory.newStore := by
      rw [ha]
      simp [List.replicate_succ]
    have hlen : before.length + 1 = (before ++ [s.raise offset]).length := by simp
    simp only [mergeStores, hget, hmerge]
    rw [hlen, ih _ (a := { a with stores := a.stores.set before.length (s.raise offset) })
      (fun t ht => hs t (by simp [ht])) hset]
    simp

theorem mergeMarkers_eq (before : List (List Value)) {mss : List (List Value)} {a : Automaton}
    (hm : ∀ ms ∈ mss, Value.Distinct ms) (ha : a.markers = before ++ List.replicate mss.length []) :
    mergeMarkers mss before.length a = { a with markers := before ++ mss } := by
  induction mss generalizing before a with
  | nil =>
    have ha : a.markers = before := by simpa using ha
    rw [mergeMarkers, ← ha]
    simp
  | cons ms mss ih =>
    have hget : a.markersAt before.length = [] := by
      simp [markersAt, ha, List.replicate_succ]
    have hall : ms.foldl Value.insertInto [] = ms := Value.insertAll_distinct (hm ms (by simp))
    have hset : a.markers.set before.length ms =
        (before ++ [ms]) ++ List.replicate mss.length [] := by
      rw [ha]
      simp [List.replicate_succ]
    have hlen : before.length + 1 = (before ++ [ms]).length := by simp
    rw [mergeMarkers, hget, hall, hlen, ih _ (a := { a with markers := a.markers.set before.length ms })
      (fun us hus => hm us (by simp [hus])) hset]
    simp

def spliced (a b : Automaton) : Automaton :=
  { a with
    stores := a.stores ++ b.stores.map (Store.raise a.count)
    markers := a.markers ++ b.markers
    active := (if a.count = 0 then a.active.insert 0 else a.active).union (b.active.shift a.count) }

variable {a b : Automaton}

/-- Adding an automaton that has states and the same factory never fails. -/
theorem add_eq (ha : a.WellFormed) (hb : b.WellFormed) (hf : a.factory = b.factory) (h0 : 0 < b.count) :
    a.add b = (spliced a b, .ok (some a.count)) := by
  have hs : ∀ s ∈ b.stores, s.Sound ∧ s.kind = a.factory.storeKind := by
    intro s hs
    rw [hf]
    exact ⟨(hb.stores s hs).sound, (hb.stores s hs).kind⟩
  have hn : b.count ≠ 0 := Nat.ne_of_gt h0
  let joined : Automaton := { a with
    stores := a.stores ++ List.replicate b.count a.factory.newStore
    markers := a.markers ++ List.replicate b.count []
    active := (if a.count = 0 then a.active.insert 0 else a.active).union (b.active.shift a.count) }
  have hstores : mergeStores a.count b.stores a.count joined =
      ({ joined with stores := a.stores ++ b.stores.map (Store.raise a.count) }, .ok ()) :=
    mergeStores_eq a.count a.stores hs rfl
  have hmarkers : mergeMarkers b.markers a.count
      { joined with stores := a.stores ++ b.stores.map (Store.raise a.count) } = spliced a b := by
    have hm : joined.markers = a.markers ++ List.replicate b.markers.length [] := by
      rw [hb.markers_length]
    have h := mergeMarkers_eq
      (a := { joined with stores := a.stores ++ b.stores.map (Store.raise a.count) }) a.markers hb.markers hm
    rwa [ha.markers_length] at h
  rw [add, if_neg (fun h => h hf), if_neg hn]
  simp only [grow_eq, hn, ne_eq, not_false_eq_true, and_true]
  rw [hstores]
  simp only [hmarkers]

theorem count_spliced (a b : Automaton) : (spliced a b).count = a.count + b.count := by
  simp [spliced, count]

theorem getElem_spliced_left {i : Nat} (hi : i < a.count) : (spliced a b).stores[i]? = a.stores[i]? := by
  rw [spliced, List.getElem?_append_left hi]

theorem getElem_spliced_right (a b : Automaton) (j : Nat) :
    (spliced a b).stores[a.count + j]? = (b.stores[j]?).map (Store.raise a.count) := by
  show (a.stores ++ b.stores.map (Store.raise a.count))[a.stores.length + j]? = _
  rw [List.getElem?_append_right (Nat.le_add_right _ _), Nat.add_sub_cancel_left, List.getElem?_map]

theorem edgesOf_spliced_left {i : Nat} (hi : i < a.count) : (spliced a b).edgesOf i = a.edgesOf i := by
  rw [edgesOf, getElem_spliced_left hi, edgesOf]

theorem edgesOf_spliced_right (a b : Automaton) (j : Nat) :
    (spliced a b).edgesOf (a.count + j) = (b.edgesOf j).map (Edge.relabel (· + a.count)) := by
  rw [edgesOf, getElem_spliced_right, edgesOf]
  cases b.stores[j]? with
  | none => rfl
  | some s => exact Store.edges_raise _ s

theorem markersAt_spliced_left (ha : a.WellFormed) {i : Nat} (hi : i < a.count) :
    (spliced a b).markersAt i = a.markersAt i := by
  unfold markersAt
  rw [spliced, List.getElem?_append_left (by rwa [ha.markers_length])]

theorem markersAt_spliced_right (ha : a.WellFormed) (b : Automaton) (j : Nat) :
    (spliced a b).markersAt (a.count + j) = b.markersAt j := by
  unfold markersAt
  rw [← ha.markers_length, spliced, List.getElem?_append_right (Nat.le_add_right _ _),
    Nat.add_sub_cancel_left]

theorem mem_active_spliced {i : Nat} : i ∈ (spliced a b).active ↔
    i ∈ a.active ∨ (∃ j ∈ b.active, j + a.count = i) ∨ a.count = 0 ∧ i = 0 := by
  simp only [spliced, StateSet.mem_union, StateSet.mem_shift]
  by_cases h : a.count = 0
  · simp only [h, if_true, StateSet.mem_insert]
    grind
  · simp only [h, if_false]
    grind

theorem WellFormed.spliced (ha : a.WellFormed) (hb : b.WellFormed) (hf : a.factory = b.factory)
    (h0 : 0 < b.count) : (spliced a b).WellFormed where
  markers_length := by
    rw [count_spliced, ← ha.markers_length, ← hb.markers_length]
    exact List.length_append
  stores := by
    intro s hs
    rw [count_spliced]
    rcases List.mem_append.1 hs with hs | hs
    · exact (ha.stores s hs).mono (Nat.le_add_right _ _)
    · obtain ⟨t, ht, rfl⟩ := List.mem_map.1 hs
      have := (hb.stores t ht).raise a.count
      rwa [← hf] at this
  markers := by
    intro ms hms
    rcases List.mem_append.1 hms with hms | hms
    · exact ha.markers ms hms
    · exact hb.markers ms hms
  active_lt := by
    intro i hi
    rw [count_spliced]
    rcases mem_active_spliced.1 hi with hi | ⟨j, hj, rfl⟩ | ⟨h, rfl⟩
    · have := ha.active_lt i hi
      omega
    · have := hb.active_lt j hj
      omega
    · omega

theorem add_empty (hf : a.factory = b.factory) (h0 : b.count = 0) : a.add b = (a, .ok none) := by
  rw [add, if_neg (fun h => h hf), if_pos h0]

theorem add_cases (ha : a.WellFormed) (hb : b.WellFormed) :
    ((a.add b).1 = a ∧ (a.factory = b.factory → b.count = 0)) ∨
      (a.factory = b.factory ∧ 0 < b.count ∧ (a.add b).1 = spliced a b) := by
  by_cases hf : a.factory = b.factory
  · by_cases h0 : b.count = 0
    · exact .inl ⟨by rw [add_empty hf h0], fun _ => h0⟩
    · have h0 := Nat.pos_of_ne_zero h0
      exact .inr ⟨hf, h0, by rw [add_eq ha hb hf h0]⟩
  · refine .inl ⟨?_, fun h => absurd h hf⟩
    rw [add, if_pos hf]

theorem markersAt_add (ha : a.WellFormed) (hb : b.WellFormed) (hf : a.factory = b.factory) (i : Nat) :
    (a.add b).1.markersAt i = if i < a.count then a.markersAt i else b.markersAt (i - a.count) := by
  have hbehind : ∀ {c : Automaton} {j : Nat}, c.WellFormed → c.count ≤ j → c.markersAt j = [] := fun hc hj =>
    Classical.not_not.1 fun hne => Nat.not_lt.2 hj (hc.lt_count_of_markersAt hne)
  rcases add_cases ha hb with ⟨h, hempty⟩ | ⟨_, _, h⟩
  · rw [h]
    split
    · rfl
    next hi => rw [hbehind ha (Nat.not_lt.1 hi), hbehind hb (Nat.le_trans (Nat.le_of_eq (hempty hf)) (Nat.zero_le _))]
  · rw [h]
    split
    next hi => exact markersAt_spliced_left ha hi
    next hi =>
      obtain ⟨j, rfl⟩ := Nat.exists_eq_add_of_le (Nat.not_lt.1 hi)
      rw [markersAt_spliced_right ha, Nat.add_sub_cancel_left]

theorem WellFormed.add (ha : a.WellFormed) (hb : b.WellFormed) : (a.add b).1.WellFormed := by
  rcases add_cases ha hb with ⟨h, _⟩ | ⟨hf, h0, h⟩
  · rw [h]
    exact ha
  · rw [h]
    exact ha.spliced hb hf h0

end Automaton

end GuardedAutomata
