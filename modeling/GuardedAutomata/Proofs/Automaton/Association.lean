import GuardedAutomata.Proofs.Automaton.Union
import GuardedAutomata.Proofs.Session.Run

/-!
# Adding one automaton after another

Up to the frontier, automata with equal factories form a monoid under addition: raising targets twice is
raising them once by the sum, and an automaton without states is neutral. The frontiers of the two ways to
add three automata can differ in the start of the last one only, which becomes active when it is added to an
automaton without states.
-/

set_option autoImplicit false

namespace GuardedAutomata

/-! ### Raising twice -/

theorem Store.raise_raise (m n : Nat) (s : Store) : (s.raise m).raise n = s.raise (m + n) := by
  rw [raise, kind_raise, edges_raise, List.map_map, Edge.relabel_comp, raise]

theorem Store.Sound.raise_zero {s : Store} (hs : s.Sound) : s.raise 0 = s := by
  have hself : s.edges.map (Edge.relabel (· + 0)) = s.edges := List.map_id s.edges
  rw [raise, hself]
  exact hs.recorded.symm

namespace Automaton

structure SameTables (a b : Automaton) : Prop where
  count : a.count = b.count
  edgesOf : ∀ i, a.edgesOf i = b.edgesOf i
  markersAt : ∀ i, a.markersAt i = b.markersAt i

variable {a b c d e l r : Automaton}

theorem sameTables_of_eq (hs : a.stores = b.stores) (hm : a.markers = b.markers) : a.SameTables b where
  count := congrArg List.length hs
  edgesOf := fun i => by rw [Automaton.edgesOf, hs, Automaton.edgesOf]
  markersAt := fun i => by rw [Automaton.markersAt, hm, Automaton.markersAt]

structure Joined (a b c : Automaton) : Prop where
  wellFormed : c.WellFormed
  factory : c.factory = a.factory
  stores : c.stores = a.stores ++ b.stores.map (Store.raise a.count)
  markers : c.markers = a.markers ++ b.markers
  mem_active : ∀ i, i ∈ c.active ↔
    i ∈ a.active ∨ (∃ j ∈ b.active, j + a.count = i) ∨ a.count = 0 ∧ 0 < b.count ∧ i = 0

/-- Adding never fails when the factories are the same. -/
theorem exists_joined (ha : a.WellFormed) (hb : b.WellFormed) (hf : a.factory = b.factory) :
    ∃ c entry, a.add b = (c, .ok entry) ∧ a.Joined b c := by
  rcases Nat.eq_zero_or_pos b.count with h0 | h0
  · have hstores : b.stores = [] := List.eq_nil_of_length_eq_zero h0
    have hmarkers : b.markers = [] := List.eq_nil_of_length_eq_zero (hb.markers_length.trans h0)
    have hactive : ∀ j, j ∉ b.active := fun j hj => by
      have := hb.active_lt j hj
      omega
    refine ⟨a, none, add_empty hf h0, ha, rfl, by simp [hstores], by simp [hmarkers], fun i => ?_⟩
    simp [hactive, h0]
  · refine ⟨spliced a b, some a.count, add_eq ha hb hf h0, ha.spliced hb hf h0, rfl, rfl, rfl, fun i => ?_⟩
    rw [mem_active_spliced, and_iff_right h0]

namespace Joined

theorem count (h : a.Joined b c) : c.count = a.count + b.count := by
  simp [Automaton.count, h.stores]

theorem sameTables (h : a.Joined b c) (ha : a.WellFormed) (hb : b.WellFormed) (h0 : a.count = 0) :
    c.SameTables b := by
  have hstores : a.stores = [] := List.eq_nil_of_length_eq_zero h0
  have hmarkers : a.markers = [] := List.eq_nil_of_length_eq_zero (ha.markers_length.trans h0)
  have hraise : b.stores.map (Store.raise a.count) = b.stores := by
    rw [h0, List.map_congr_left fun s hs => (hb.stores s hs).sound.raise_zero, List.map_id']
  exact sameTables_of_eq (by rw [h.stores, hraise, hstores, List.nil_append])
    (by rw [h.markers, hmarkers, List.nil_append])

section Association

variable (hab : a.Joined b d) (hl : d.Joined c l) (hbc : b.Joined c e) (hr : a.Joined e r)

include hab hl hbc hr

theorem sameTables_assoc : l.SameTables r := by
  have hraise : (c.stores.map (Store.raise b.count)).map (Store.raise a.count) =
      c.stores.map (Store.raise d.count) := by
    rw [List.map_map, hab.count, Nat.add_comm a.count]
    exact List.map_congr_left fun s _ => Store.raise_raise b.count a.count s
  refine sameTables_of_eq ?_ ?_
  · rw [hl.stores, hab.stores, hr.stores, hbc.stores, List.map_append, hraise, List.append_assoc]
  · rw [hl.markers, hab.markers, hr.markers, hbc.markers, List.append_assoc]

/-- What the frontier can hold in addition when the last two are added first is the start of the last one. -/
theorem mem_active_assoc (i : Nat) :
    i ∈ r.active ↔ i ∈ l.active ∨ b.count = 0 ∧ 0 < c.count ∧ i = a.count := by
  have hraised : (∃ j ∈ e.active, j + a.count = i) ↔ (∃ j ∈ b.active, j + a.count = i) ∨
      (∃ j ∈ c.active, j + (a.count + b.count) = i) ∨ b.count = 0 ∧ 0 < c.count ∧ i = a.count := by
    constructor
    · rintro ⟨j, hj, rfl⟩
      rcases (hbc.mem_active j).1 hj with hj | ⟨k, hk, rfl⟩ | ⟨h0, hc, rfl⟩
      · exact .inl ⟨j, hj, rfl⟩
      · exact .inr (.inl ⟨k, hk, by omega⟩)
      · exact .inr (.inr ⟨h0, hc, Nat.zero_add _⟩)
    · rintro (⟨j, hj, rfl⟩ | ⟨k, hk, rfl⟩ | ⟨h0, hc, rfl⟩)
      · exact ⟨j, (hbc.mem_active j).2 (.inl hj), rfl⟩
      · exact ⟨k + b.count, (hbc.mem_active _).2 (.inr (.inl ⟨k, hk, rfl⟩)), by omega⟩
      · exact ⟨0, (hbc.mem_active 0).2 (.inr (.inr ⟨h0, hc, rfl⟩)), Nat.zero_add _⟩
  rw [hr.mem_active, hl.mem_active, hab.mem_active, hab.count, hbc.count, hraised]
  grind

theorem active_assoc_iff_mem : l.active = r.active ↔ (b.count = 0 → 0 < c.count → a.count ∈ l.active) := by
  have hmem := mem_active_assoc hab hl hbc hr
  constructor
  · intro heq h0 hc
    rw [heq]
    exact (hmem _).2 (.inr ⟨h0, hc, rfl⟩)
  · intro hstart
    apply StateSet.ext
    intro i
    rw [hmem]
    constructor
    · exact .inl
    · rintro (hi | ⟨h0, hc, rfl⟩)
      · exact hi
      · exact hstart h0 hc

/-- The frontiers differ only if the middle one has no states and the last one has left its start. -/
theorem active_assoc_iff (ha : a.WellFormed) (hb : b.WellFormed) : l.active = r.active ↔
    a.count = 0 ∨ 0 < b.count ∨ c.count = 0 ∨ 0 ∈ c.active := by
  have hstart : b.count = 0 → (a.count ∈ l.active ↔ 0 ∈ c.active ∨ a.count = 0 ∧ 0 < c.count) := by
    intro h0
    have hnone : ∀ j, j ∉ b.active := fun j hj => by
      have := hb.active_lt j hj
      omega
    have hpast : a.count ∉ a.active := fun h => Nat.lt_irrefl _ (ha.active_lt _ h)
    rw [hl.mem_active, hab.mem_active, hab.count]
    simp [hnone, hpast, h0, and_comm]
  rw [active_assoc_iff_mem hab hl hbc hr]
  rcases Nat.eq_zero_or_pos b.count with h0 | h0
  · rw [hstart h0]
    grind
  · simp [h0, Nat.ne_of_gt h0]

end Association

end Joined

variable [TestFunctions]

/-- Adding three automata with equal factories in either order succeeds and gives the same states, edges in
the same order, and markers. An automaton without states is neutral: adding it changes nothing at all, and
what is added to it keeps its tables. The frontiers are the same unless the middle one has no states and
the start of the last one, which has some, is not active while the first one has states. -/
theorem add_monoid (ha : a.Reachable) (hb : b.Reachable) (hc : c.Reachable) (hab : a.factory = b.factory)
    (hbc : b.factory = c.factory) : ∃ d e l r x y z u, a.add b = (d, .ok x) ∧ d.add c = (l, .ok y) ∧
      b.add c = (e, .ok z) ∧ a.add e = (r, .ok u) ∧ l.SameTables r ∧
      (l.active = r.active ↔ a.count = 0 ∨ 0 < b.count ∨ c.count = 0 ∨ 0 ∈ c.active) ∧
      (b.count = 0 → x = none ∧ d = a) ∧ (a.count = 0 → d.SameTables b) := by
  have ha := ha.wellFormed
  have hb := hb.wellFormed
  have hc := hc.wellFormed
  obtain ⟨d, x, hx, hd⟩ := exists_joined ha hb hab
  obtain ⟨l, y, hy, hl⟩ := exists_joined hd.wellFormed hc (hd.factory.trans (hab.trans hbc))
  obtain ⟨e, z, hz, he⟩ := exists_joined hb hc hbc
  obtain ⟨r, u, hu, hr⟩ := exists_joined ha he.wellFormed (hab.trans he.factory.symm)
  refine ⟨d, e, l, r, x, y, z, u, hx, hy, hz, hu, Joined.sameTables_assoc hd hl he hr,
    Joined.active_assoc_iff hd hl he hr ha hb, fun h0 => ?_, hd.sameTables ha hb⟩
  rw [add_empty hab h0] at hx
  cases hx
  exact ⟨rfl, rfl⟩

omit [TestFunctions] in
/-- Through an automaton without states, one that has left its start is added to one with a state: in one order
the start of the copy is active, in the other it is not. -/
theorem add_monoid_left : ∃ a b c : Automaton, @Reachable Matcher.catalogue a ∧
    @Reachable Matcher.catalogue b ∧ @Reachable Matcher.catalogue c ∧ ∃ d e l r : Automaton, ∃ x y z u,
      a.add b = (d, .ok x) ∧ d.add c = (l, .ok y) ∧ b.add c = (e, .ok z) ∧ a.add e = (r, .ok u) ∧
        l.SameTables r ∧ l.active ≠ r.active := by
  let _ := Matcher.catalogue
  let cs : List (String × Command) := [("a", .new (.ofKind .symbol) .null), ("a", .newState),
    ("b", .new (.ofKind .symbol) .null), ("c", .new (.ofKind .symbol) .null), ("c", .newStates 2),
    ("c", .newTransition (.int 0) (.int 1) (.str "x")), ("c", .setActive (.list [.int 1]))]
  have ha : (Session.run cs .empty).automaton? "a" = some _ := rfl
  have hb : (Session.run cs .empty).automaton? "b" = some _ := rfl
  have hc : (Session.run cs .empty).automaton? "c" = some _ := rfl
  obtain ⟨d, e, l, r, x, y, z, u, hx, hy, hz, hu, htables, hactive, _⟩ :=
    add_monoid ⟨cs, "a", ha⟩ ⟨cs, "b", hb⟩ ⟨cs, "c", hc⟩ rfl rfl
  refine ⟨_, _, _, ⟨cs, "a", ha⟩, ⟨cs, "b", hb⟩, ⟨cs, "c", hc⟩, d, e, l, r, x, y, z, u, hx, hy, hz, hu,
    htables, ?_⟩
  rw [Ne, hactive]
  decide

end Automaton

end GuardedAutomata
