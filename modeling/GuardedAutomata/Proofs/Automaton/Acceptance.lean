import GuardedAutomata.Proofs.Session.Run
import Mathlib

/-!
# Acceptance

A word is accepted when the recorded edges lead from state 0 to a state with a marker: epsilon edges read
nothing, and each other edge reads one value, which its predicate matches. The simulation decides this for
every automaton that can be reached, whatever its frontier, since it restarts. The frontier holds the ends
of all paths that read what has been consumed; it stays closed, so the next value has to be tried from its
members only.
-/

set_option autoImplicit false

namespace GuardedAutomata

theorem Value.insertAll_eq_nil {vs seen : List Value} :
    vs.foldl insertInto seen = [] ↔ seen = [] ∧ vs = [] := by
  induction vs generalizing seen with
  | nil => simp
  | cons v vs ih =>
    have hne : insertInto seen v ≠ [] := by
      cases seen <;> simp [insertInto, memberOf]
      split <;> simp
    rw [List.foldl_cons, ih]
    simp [hne]

namespace Automaton

theorem joinMarkers_eq_nil {ms : List (List Value)} : joinMarkers ms = [] ↔ ∀ vs ∈ ms, vs = [] := by
  have h : ∀ seen, ms.foldl (fun seen vs => vs.foldl Value.insertInto seen) seen = [] ↔
      seen = [] ∧ ∀ vs ∈ ms, vs = [] := by
    induction ms with
    | nil => simp
    | cons vs ms ih =>
      intro seen
      rw [List.foldl_cons, ih, Value.insertAll_eq_nil, List.forall_mem_cons, and_assoc]
  rw [joinMarkers, h []]
  simp

theorem currentMarkers_ne_nil {a : Automaton} :
    a.currentMarkers ≠ [] ↔ ∃ i ∈ a.active, a.markersAt i ≠ [] := by
  rw [Ne, currentMarkers, joinMarkers_eq_nil]
  simp [StateSet.mem_ids]

variable [TestFunctions]

/-- A path of recorded edges that reads a word. -/
inductive Path (edges : Nat → List Edge) (kind : StoreKind) : Nat → List Value → Nat → Prop
  | nil (i : Nat) : Path edges kind i [] i
  | epsilon {i j k : Nat} {w : List Value} :
      ⟨.epsilon, j⟩ ∈ edges i → Path edges kind j w k → Path edges kind i w k
  | read {i j k : Nat} {p v : Value} {w : List Value} : ⟨.predicate p, j⟩ ∈ edges i →
      kind.Matches p v → Path edges kind j w k → Path edges kind i (v :: w) k

def AcceptsFrom (a : Automaton) (s : StateSet) (w : List Value) : Prop :=
  ∃ i ∈ s, ∃ k, Path a.edgesOf a.factory.storeKind i w k ∧ a.markersAt k ≠ []

def Accepts (a : Automaton) (w : List Value) : Prop :=
  ∃ k, Path a.edgesOf a.factory.storeKind 0 w k ∧ a.markersAt k ≠ []

def Answers (a : Automaton) (v : Value) : Prop :=
  ∀ i, ∃ ts, a.targetsOf v i = .ok ts

variable {a : Automaton} {s : StateSet} {v : Value} {w : List Value}

/-! ### Paths -/

namespace WellFormed

theorem path_of_leads (ha : a.WellFormed) {i j k : Nat} (hl : Leads a.epsilonTargets i j)
    (hp : Path a.edgesOf a.factory.storeKind j w k) : Path a.edgesOf a.factory.storeKind i w k := by
  induction hl with
  | refl => exact hp
  | tail _ hj ih => exact ih (.epsilon (ha.mem_epsilonTargets.1 hj) hp)

theorem mem_of_path_nil (ha : a.WellFormed) (hs : ClosedUnder a.epsilonTargets s) {i k : Nat}
    (hi : i ∈ s) (hp : Path a.edgesOf a.factory.storeKind i w k) (hw : w = []) : k ∈ s := by
  induction hp with
  | nil => exact hi
  | epsilon he _ ih => exact ih (hs _ hi _ (ha.mem_epsilonTargets.2 he)) hw
  | read => cases hw

theorem path_nil_iff (ha : a.WellFormed) {i k : Nat} :
    Path a.edgesOf a.factory.storeKind i [] k ↔ Leads a.epsilonTargets i k := by
  constructor
  · intro hp
    have hi : i ∈ a.closure (.ofList [i]) := mem_closure_of_mem (StateSet.mem_ofList.2 (List.mem_singleton_self i))
    have hk := ha.mem_of_path_nil (closedUnder_closure ha.epsilonTargets_lt) hi hp rfl
    simpa [mem_closure ha.epsilonTargets_lt, StateSet.mem_ofList] using hk
  · intro hl
    exact ha.path_of_leads hl (.nil k)

theorem exists_edge_of_path (ha : a.WellFormed) (hs : ClosedUnder a.epsilonTargets s) {i k : Nat}
    {u : List Value} (hi : i ∈ s) (hp : Path a.edgesOf a.factory.storeKind i u k) (hu : u = v :: w) :
    ∃ j ∈ s, ∃ p t, ⟨.predicate p, t⟩ ∈ a.edgesOf j ∧ a.factory.storeKind.Matches p v ∧
      Path a.edgesOf a.factory.storeKind t w k := by
  induction hp with
  | nil => cases hu
  | epsilon he _ ih => exact ih (hs _ hi _ (ha.mem_epsilonTargets.2 he)) hu
  | read he hm hp =>
    cases hu
    exact ⟨_, hi, _, _, he, hm, hp⟩

theorem acceptsFrom_nil (ha : a.WellFormed) (hs : ClosedUnder a.epsilonTargets s) :
    a.AcceptsFrom s [] ↔ ∃ i ∈ s, a.markersAt i ≠ [] := by
  constructor
  · rintro ⟨i, hi, k, hp, hk⟩
    exact ⟨k, ha.mem_of_path_nil hs hi hp rfl, hk⟩
  · rintro ⟨i, hi, hm⟩
    exact ⟨i, hi, i, .nil i, hm⟩

theorem acceptsFrom_closure (ha : a.WellFormed) : a.AcceptsFrom (a.closure s) w ↔ a.AcceptsFrom s w := by
  constructor
  · rintro ⟨j, hj, k, hp, hk⟩
    obtain ⟨i, hi, hl⟩ := (mem_closure ha.epsilonTargets_lt).1 hj
    exact ⟨i, hi, k, ha.path_of_leads hl hp, hk⟩
  · rintro ⟨i, hi, hp⟩
    exact ⟨i, mem_closure_of_mem hi, hp⟩

/-! ### Look-ups -/

theorem mem_targetsOf (ha : a.WellFormed) (hk : a.factory.storeKind.BuiltIn) (hv : v ≠ .epsilon)
    {i : Nat} {ts : List Nat} (h : a.targetsOf v i = .ok ts) {t : Nat} :
    t ∈ ts ↔ ∃ p, ⟨.predicate p, t⟩ ∈ a.edgesOf i ∧ a.factory.storeKind.Matches p v := by
  unfold targetsOf at h
  unfold edgesOf
  split at h
  next s hs =>
    have hfits := ha.fits_of_getElem hs
    rw [← hfits.kind] at hk ⊢
    rw [hs]
    exact hfits.sound.mem_query hk hv h
  next hs =>
    cases h
    simp [hs]

theorem mem_targetsFrom (ha : a.WellFormed) (hk : a.factory.storeKind.BuiltIn) (hv : v ≠ .epsilon)
    {is ts : List Nat} (h : a.targetsFrom v is = .ok ts) {t : Nat} :
    t ∈ ts ↔ ∃ i ∈ is, ∃ p, ⟨.predicate p, t⟩ ∈ a.edgesOf i ∧ a.factory.storeKind.Matches p v := by
  induction is generalizing ts with
  | nil =>
    cases h
    simp
  | cons i is ih =>
    obtain ⟨us, others, hus, hothers, rfl⟩ := targetsFrom_cons.1 h
    rw [List.mem_append, ha.mem_targetsOf hk hv hus, ih hothers]
    simp

/-- What is accepted from a closed set after a value is accepted from the targets of the value. -/
theorem acceptsFrom_cons (ha : a.WellFormed) (hk : a.factory.storeKind.BuiltIn) (hv : v ≠ .epsilon)
    (hs : ClosedUnder a.epsilonTargets s) {ts : List Nat} (h : a.targetsFrom v s.ids = .ok ts) :
    a.AcceptsFrom s (v :: w) ↔ a.AcceptsFrom (.ofList ts) w := by
  constructor
  · rintro ⟨i, hi, k, hp, hm⟩
    obtain ⟨j, hj, p, t, he, hpv, hp⟩ := ha.exists_edge_of_path hs hi hp rfl
    have ht := (ha.mem_targetsFrom hk hv h).2 ⟨j, hj, p, he, hpv⟩
    exact ⟨t, StateSet.mem_ofList.2 ht, k, hp, hm⟩
  · rintro ⟨t, ht, k, hp, hm⟩
    obtain ⟨j, hj, p, he, hpv⟩ := (ha.mem_targetsFrom hk hv h).1 (StateSet.mem_ofList.1 ht)
    exact ⟨j, hj, k, .read he hpv hp, hm⟩

end WellFormed

/-! ### The simulation -/

/-- Feeding from a closed frontier finds out whether the frontier accepts the word. -/
theorem feedFrom_accepted (ha : a.WellFormed) (hk : a.factory.storeKind.BuiltIn)
    (hs : ClosedUnder a.epsilonTargets a.active) (hw : ∀ v ∈ w, v ≠ .epsilon) {consumed : Nat} {r : Feed}
    (h : (feedFrom consumed w a).2 = .ok r) : r.accepted = true ↔ a.AcceptsFrom a.active w := by
  -- Only the frontier changes from value to value, and it is closed again each time.
  induction w generalizing a consumed with
  | nil =>
    cases h
    rw [ha.acceptsFrom_nil hs, ← currentMarkers_ne_nil]
    simp [Feed.accepted]
  | cons v w ih =>
    obtain ⟨hv, hrest⟩ := List.forall_mem_cons.1 hw
    cases hts : a.targetsFrom v a.active.ids with
    | error cause =>
      rw [feedFrom_error hv hts] at h
      cases h
    | ok ts =>
      rw [ha.acceptsFrom_cons hk hv hs hts]
      cases ts with
      | nil =>
        rw [feedFrom_rejected hv hts] at h
        cases h
        simp [Feed.accepted, AcceptsFrom, StateSet.mem_ofList]
      | cons t ts =>
        rw [feedFrom_advanced hv hts] at h
        rw [← ha.acceptsFrom_closure]
        exact ih (ha.moved (moved_targets ha hts)) hk (closedUnder_closure ha.epsilonTargets_lt) hrest h

theorem answers_of_stores (h : ∀ s ∈ a.stores, ∃ ts, s.query v = .ok ts) : a.Answers v := by
  intro i
  unfold targetsOf
  cases hs : a.stores[i]? with
  | none => exact ⟨[], rfl⟩
  | some s => exact h s (List.mem_of_getElem? hs)

theorem targetsFrom_ok_iff {is : List Nat} :
    (∃ ts, a.targetsFrom v is = .ok ts) ↔ ∀ i ∈ is, ∃ ts, a.targetsOf v i = .ok ts := by
  induction is with
  | nil => simp [targetsFrom]
  | cons i is ih =>
    rw [List.forall_mem_cons, ← ih]
    constructor
    · rintro ⟨ts, h⟩
      obtain ⟨us, others, hus, hothers, _⟩ := targetsFrom_cons.1 h
      exact ⟨⟨us, hus⟩, others, hothers⟩
    · rintro ⟨⟨us, hus⟩, others, hothers⟩
      exact ⟨us ++ others, targetsFrom_cons.2 ⟨us, others, hus, hothers, rfl⟩⟩

/-- Feeding fails on no word whose values can be looked up. -/
theorem feedFrom_answers (hw : ∀ v ∈ w, v ≠ .epsilon) (hans : ∀ v ∈ w, a.Answers v) (consumed : Nat) :
    ∃ r, (feedFrom consumed w a).2 = .ok r := by
  induction w generalizing a consumed with
  | nil => exact ⟨_, rfl⟩
  | cons v w ih =>
    obtain ⟨hv, hrest⟩ := List.forall_mem_cons.1 hw
    obtain ⟨hav, hans⟩ := List.forall_mem_cons.1 hans
    obtain ⟨ts, hts⟩ : ∃ ts, a.targetsFrom v a.active.ids = .ok ts := targetsFrom_ok_iff.2 fun i _ => hav i
    cases ts with
    | nil =>
      rw [feedFrom_rejected hv hts]
      exact ⟨_, rfl⟩
    | cons t ts =>
      rw [feedFrom_advanced hv hts]
      exact ih (a := { a with active := a.closure (.ofList (t :: ts)) }) hrest hans _

theorem feed_reset {values : Value} (hvs : values.elements = .ok w) :
    a.reset.feed values = feedFrom 0 w { a with active := a.reset.active } := by
  rw [← reset_eq]
  simp only [feed, hvs]
  rfl

theorem accepts_eq_feed {values : Value} :
    (a.accepts values).2 = (a.reset.feed values).2.map Feed.accepted := by
  unfold accepts
  rcases a.reset.feed values with ⟨b, f | r⟩ <;> rfl

theorem snd_accepts {values : Value} (hvs : values.elements = .ok w) :
    (a.accepts values).2 = (feedFrom 0 w { a with active := a.reset.active }).2.map Feed.accepted := by
  rw [accepts_eq_feed, feed_reset hvs]

theorem WellFormed.not_accepts (ha : a.WellFormed) (h0 : a.count = 0) : ¬ a.Accepts w := by
  rintro ⟨k, _, hk⟩
  apply hk
  simp [markersAt, List.eq_nil_of_length_eq_zero (ha.markers_length.trans h0)]

theorem WellFormed.acceptsFrom_reset (ha : a.WellFormed) :
    a.AcceptsFrom a.reset.active w ↔ a.Accepts w := by
  unfold reset
  by_cases h0 : a.count = 0
  · rw [if_pos h0]
    simp [AcceptsFrom, StateSet.not_mem_empty, ha.not_accepts h0]
  · rw [if_neg h0, ha.acceptsFrom_closure]
    simp [AcceptsFrom, Accepts, StateSet.mem_ofList]

/-- A sequence of input values is accepted exactly if a path of recorded edges from state 0 to a state with
a marker reads it. Nothing fails as long as every value can be looked up. -/
theorem accepts_iff_path (ha : a.Reachable) (hk : a.factory.storeKind.BuiltIn) {values : Value}
    (hvs : values.elements = .ok w) (hw : ∀ v ∈ w, v ≠ .epsilon) :
    ((∀ v ∈ w, a.Answers v) → ∃ r, (a.accepts values).2 = .ok r) ∧
      ∀ r, (a.accepts values).2 = .ok r → (r = true ↔ a.Accepts w) ∧ (a.count = 0 → r = false) := by
  have ha := ha.wellFormed
  let b : Automaton := { a with active := a.reset.active }
  have hb : b.WellFormed := by
    have h := ha.moved (moved_reset a)
    rwa [reset_eq] at h
  rw [snd_accepts hvs]
  constructor
  · intro hans
    obtain ⟨r, hr⟩ := feedFrom_answers (a := b) hw hans 0
    exact ⟨r.accepted, by rw [hr]; rfl⟩
  · intro r hr
    cases hfeed : (feedFrom 0 w b).2 with
    | error f =>
      rw [hfeed] at hr
      cases hr
    | ok out =>
      rw [hfeed] at hr
      cases hr
      have hacc := (feedFrom_accepted hb hk ha.closedUnder_reset hw hfeed).trans ha.acceptsFrom_reset
      refine ⟨hacc, fun h0 => ?_⟩
      rw [← Bool.not_eq_true, hacc]
      exact ha.not_accepts h0

omit [TestFunctions] in
/-- A test for digits leads from state 0 to a state with a marker. -/
theorem accepts_iff_path_digit : ∃ a, @Reachable Matcher.catalogue a ∧
    @Accepts Matcher.catalogue a [.str "7"] ∧ ¬ @Accepts Matcher.catalogue a [.str "x"] := by
  let _ := Matcher.catalogue
  let cs : List (String × Command) := [("a", .new (.ofKind .callable) .null), ("a", .newStates 2),
    ("a", .newTransition (.int 0) (.int 1) (.function Matcher.digit)), ("a", .mark (.int 1) (.str "m"))]
  have ha : (Session.run cs .empty).automaton? "a" = some _ := rfl
  have hr : Reachable _ := ⟨cs, "a", ha⟩
  have hx : (Value.list [.str "7"]).elements = .ok [.str "7"] := rfl
  have hy : (Value.list [.str "x"]).elements = .ok [.str "x"] := rfl
  refine ⟨_, hr, ?_, ?_⟩
  · exact ((accepts_iff_path hr (.inr (.inr rfl)) hx (by simp)).2 true rfl).1.1 rfl
  · have h := ((accepts_iff_path hr (.inr (.inr rfl)) hy (by simp)).2 false rfl).1
    simpa using h

omit [TestFunctions] in
/-- What is not a number is accepted where it guards an edge, though no edge has a guard that it equals and none can be
passed for nothing. -/
theorem accepts_not_a_number : ∃ (a : Automaton) (n : Value), @Reachable Matcher.catalogue a ∧
    a.factory = .ofKind .symbol ∧ n ≠ .epsilon ∧ @Answers Matcher.catalogue a n ∧ a.markersAt 0 = [] ∧
    (∀ i, ∀ e ∈ a.edgesOf i, ∃ p, e.guard = .predicate p ∧ p.equal n = false) ∧
    (@accepts Matcher.catalogue a (.list [n])).2 = .ok true := by
  let _ := Matcher.catalogue
  let n : Value := .float (.nan 0)
  let cs : List (String × Command) := [("a", .new (.ofKind .symbol) .null), ("a", .newStates 2),
    ("a", .newTransition (.int 0) (.int 1) n), ("a", .mark (.int 1) (.str "m"))]
  let a : Automaton := ⟨.null, .ofKind .symbol, [⟨.symbol, [⟨.predicate n, 1⟩], [], .groups [(n, [1])]⟩,
    .empty .symbol], [[], [.str "m"]], .ofList [0]⟩
  have ha : (Session.run cs .empty).automaton? "a" = some a := rfl
  have hequal : n.equal n = false := by cbv
  have haccepts : (accepts a (.list [n])).2 = .ok true := by cbv
  refine ⟨a, n, ⟨cs, "a", ha⟩, rfl, by simp [n], answers_of_stores ?_, rfl, ?_, haccepts⟩
  · exact List.forall_mem_cons.2 ⟨⟨[1], by cbv⟩, List.forall_mem_singleton.2 ⟨[], by cbv⟩⟩
  · intro i e he
    rcases i with _ | _ | i
    · obtain rfl := List.mem_singleton.1 he
      exact ⟨n, rfl, hequal⟩
    · cases he
    · cases he

end Automaton

end GuardedAutomata
