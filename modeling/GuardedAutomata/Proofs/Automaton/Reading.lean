import GuardedAutomata.Proofs.Automaton.Acceptance

/-!
# Reading words

An input value leads from a state to the targets that its store finds for the value, whatever kind the
store is of; a word is read along such steps, with epsilon edges taken in between. Feeding consumes the
longest part of a word that can be read, ends in all states that this part is read to, and fails exactly
where a look-up in such a state fails.
-/

set_option autoImplicit false

namespace GuardedAutomata

/-! ### Ways -/

inductive Way (silent : Nat → List Nat) (takes : Value → Nat → Nat → Prop) : Nat → List Value → Nat → Prop
  | nil (i : Nat) : Way silent takes i [] i
  | epsilon {i j k : Nat} {w : List Value} : j ∈ silent i → Way silent takes j w k → Way silent takes i w k
  | read {i j k : Nat} {v : Value} {w : List Value} :
      takes v i j → Way silent takes j w k → Way silent takes i (v :: w) k

namespace Way

open Automaton

variable {silent : Nat → List Nat} {takes : Value → Nat → Nat → Prop} {s : StateSet} {i j k : Nat}
  {v : Value} {u w : List Value}

theorem append (h : Way silent takes i u j) (g : Way silent takes j w k) : Way silent takes i (u ++ w) k := by
  induction h with
  | nil => exact g
  | epsilon hj _ ih => exact .epsilon hj (ih g)
  | read hj _ ih => exact .read hj (ih g)

theorem of_leads (hl : Leads silent i j) (h : Way silent takes j w k) : Way silent takes i w k := by
  induction hl with
  | refl => exact h
  | tail _ hj ih => exact ih (.epsilon hj h)

theorem mem_of_nil (hs : ClosedUnder silent s) (hi : i ∈ s) (h : Way silent takes i w k) (hw : w = []) :
    k ∈ s := by
  induction h with
  | nil => exact hi
  | epsilon hj _ ih => exact ih (hs _ hi _ hj) hw
  | read => cases hw

theorem exists_takes (hs : ClosedUnder silent s) (hi : i ∈ s) (h : Way silent takes i u k) (hu : u = v :: w) :
    ∃ j ∈ s, ∃ t, takes v j t ∧ Way silent takes t w k := by
  induction h with
  | nil => cases hu
  | epsilon hj _ ih => exact ih (hs _ hi _ hj) hu
  | read hj h =>
    cases hu
    exact ⟨_, hi, _, hj, h⟩

end Way

namespace Automaton

variable [TestFunctions]

def Takes (a : Automaton) (v : Value) (i j : Nat) : Prop :=
  v ≠ .epsilon ∧ ∃ ts, a.targetsOf v i = .ok ts ∧ j ∈ ts

abbrev Reads (a : Automaton) : Nat → List Value → Nat → Prop :=
  Way a.epsilonTargets a.Takes

def ReadsFrom (a : Automaton) (s : StateSet) (w : List Value) (k : Nat) : Prop :=
  ∃ i ∈ s, a.Reads i w k

variable {a b : Automaton} {s t : StateSet} {v : Value} {w : List Value}

theorem mem_targetsFrom_iff (hv : v ≠ .epsilon) {is ts : List Nat} (h : a.targetsFrom v is = .ok ts) {t : Nat} :
    t ∈ ts ↔ ∃ i ∈ is, a.Takes v i t := by
  induction is generalizing ts with
  | nil =>
    cases h
    simp
  | cons i is ih =>
    obtain ⟨us, others, hus, hothers, rfl⟩ := targetsFrom_cons.1 h
    rw [List.mem_append, ih hothers]
    simp [Takes, hv, hus]

theorem readsFrom_nil (hs : ClosedUnder a.epsilonTargets s) {k : Nat} : a.ReadsFrom s [] k ↔ k ∈ s := by
  constructor
  · rintro ⟨i, hi, h⟩
    exact h.mem_of_nil hs hi rfl
  · intro hk
    exact ⟨k, hk, .nil k⟩

theorem WellFormed.readsFrom_closure (ha : a.WellFormed) {k : Nat} :
    a.ReadsFrom (a.closure s) w k ↔ a.ReadsFrom s w k := by
  constructor
  · rintro ⟨j, hj, h⟩
    obtain ⟨i, hi, hl⟩ := (mem_closure ha.epsilonTargets_lt).1 hj
    exact ⟨i, hi, .of_leads hl h⟩
  · rintro ⟨i, hi, h⟩
    exact ⟨i, mem_closure_of_mem hi, h⟩

/-- A word is read from a closed set as its rest is from the closure of the first value's targets. -/
theorem WellFormed.readsFrom_cons (ha : a.WellFormed) (hs : ClosedUnder a.epsilonTargets s)
    (hv : v ≠ .epsilon) {ts : List Nat} (h : a.targetsFrom v s.ids = .ok ts) {k : Nat} :
    a.ReadsFrom s (v :: w) k ↔ a.ReadsFrom (a.closure (.ofList ts)) w k := by
  rw [ha.readsFrom_closure]
  constructor
  · rintro ⟨i, hi, hr⟩
    obtain ⟨j, hj, t, htakes, hr⟩ := hr.exists_takes hs hi rfl
    exact ⟨t, StateSet.mem_ofList.2 ((mem_targetsFrom_iff hv h).2 ⟨j, hj, htakes⟩), hr⟩
  · rintro ⟨t, ht, hr⟩
    obtain ⟨j, hj, htakes⟩ := (mem_targetsFrom_iff hv h).1 (StateSet.mem_ofList.1 ht)
    exact ⟨j, hj, .read htakes hr⟩

/-! ### The longest part of a word -/

structure Longest (a : Automaton) (s : StateSet) (w : List Value) (n : Nat) (t : StateSet) : Prop where
  le_length : n ≤ w.length
  viable : ∀ m ≤ w.length, (∃ k, a.ReadsFrom s (w.take m) k) ↔ m ≤ n
  mem_frontier : ∀ k, k ∈ t ↔ a.ReadsFrom s (w.take n) k

theorem longest_nil (hs : ClosedUnder a.epsilonTargets s) (hne : ∃ i, i ∈ s) : a.Longest s [] 0 s where
  le_length := Nat.le_refl 0
  viable := by simpa [readsFrom_nil hs] using hne
  mem_frontier := by simp [readsFrom_nil hs]

/-- Where the first value leads nowhere, nothing is read. -/
theorem longest_rejected (ha : a.WellFormed) (hs : ClosedUnder a.epsilonTargets s) (hne : ∃ i, i ∈ s)
    (hv : v ≠ .epsilon) (h : a.targetsFrom v s.ids = .ok []) : a.Longest s (v :: w) 0 s where
  le_length := Nat.zero_le _
  viable := by
    intro m _
    cases m with
    | zero => simpa [readsFrom_nil hs] using hne
    | succ m =>
      rw [List.take_succ_cons]
      simp only [ha.readsFrom_cons hs hv h, ha.readsFrom_closure]
      simp [ReadsFrom, StateSet.mem_ofList]
  mem_frontier := by simp [readsFrom_nil hs]

theorem Longest.cons (ha : a.WellFormed) (hs : ClosedUnder a.epsilonTargets s) (hne : ∃ i, i ∈ s)
    (hv : v ≠ .epsilon) {ts : List Nat} (h : a.targetsFrom v s.ids = .ok ts) {n : Nat}
    (hl : a.Longest (a.closure (.ofList ts)) w n t) : a.Longest s (v :: w) (n + 1) t where
  le_length := Nat.succ_le_succ hl.le_length
  viable := by
    intro m hm
    cases m with
    | zero => simpa [readsFrom_nil hs] using hne
    | succ m =>
      simp only [List.take_succ_cons, ha.readsFrom_cons hs hv h, Nat.succ_le_succ_iff]
      exact hl.viable m (Nat.le_of_succ_le_succ hm)
  mem_frontier := by
    intro k
    rw [List.take_succ_cons, ha.readsFrom_cons hs hv h]
    exact hl.mem_frontier k

def AnswersFrom (a : Automaton) (s : StateSet) (w : List Value) : Prop :=
  ∀ m v, w[m]? = some v → ∀ k, a.ReadsFrom s (w.take m) k → v ≠ .epsilon ∧ ∃ ts, a.targetsOf v k = .ok ts

theorem answersFrom_cons (ha : a.WellFormed) (hs : ClosedUnder a.epsilonTargets s) (hv : v ≠ .epsilon)
    {ts : List Nat} (h : a.targetsFrom v s.ids = .ok ts) :
    a.AnswersFrom s (v :: w) ↔ a.AnswersFrom (a.closure (.ofList ts)) w := by
  constructor
  · intro hans m x hx k hk
    exact hans (m + 1) x (by simpa using hx) k (by rwa [List.take_succ_cons, ha.readsFrom_cons hs hv h])
  · intro hans m x hx k hk
    cases m with
    | zero =>
      cases hx
      exact ⟨hv, targetsFrom_ok_iff.1 ⟨ts, h⟩ k ((readsFrom_nil hs).1 hk)⟩
    | succ m =>
      rw [List.take_succ_cons, ha.readsFrom_cons hs hv h] at hk
      exact hans m x (by simpa using hx) k hk

/-! ### Feeding -/

/-- Feeding from a closed frontier that is not empty consumes the longest part that is read. -/
theorem feedFrom_longest (ha : a.WellFormed) (hs : ClosedUnder a.epsilonTargets a.active)
    (hne : ∃ i, i ∈ a.active) {c : Nat} {r : Feed} (h : feedFrom c w a = (b, .ok r)) :
    ∃ n, r.consumed = c + n ∧ (r.completed = true ↔ n = w.length) ∧ a.Longest a.active w n b.active ∧
      r.markers = joinMarkers (b.active.ids.map a.markersAt) := by
  -- Only the frontier changes from value to value, and it stays closed and inhabited.
  induction w generalizing a c with
  | nil =>
    cases h
    exact ⟨0, rfl, by simp, longest_nil hs hne, rfl⟩
  | cons v w ih =>
    by_cases hv : v = .epsilon
    · subst hv
      cases h
    cases hts : a.targetsFrom v a.active.ids with
    | error cause =>
      rw [feedFrom_error hv hts] at h
      cases h
    | ok ts =>
      cases ts with
      | nil =>
        rw [feedFrom_rejected hv hts] at h
        cases h
        exact ⟨0, rfl, by simp, longest_rejected ha hs hne hv hts, rfl⟩
      | cons t ts =>
        rw [feedFrom_advanced hv hts] at h
        have hinhabited : t ∈ a.closure (.ofList (t :: ts)) :=
          mem_closure_of_mem (StateSet.mem_ofList.2 (List.mem_cons_self ..))
        obtain ⟨n, hn, hcompleted, hl, hmarkers⟩ := ih (ha.moved (moved_targets ha hts))
          (closedUnder_closure ha.epsilonTargets_lt) ⟨t, hinhabited⟩ h
        have hl : a.Longest (a.closure (.ofList (t :: ts))) w n b.active :=
          ⟨hl.le_length, hl.viable, hl.mem_frontier⟩
        refine ⟨n + 1, ?_, ?_, hl.cons ha hs hne hv hts, hmarkers⟩
        · omega
        · simpa using hcompleted

/-- Feeding fails exactly where a look-up in a state that has been reached does. -/
theorem feedFrom_ok_iff (ha : a.WellFormed) (hs : ClosedUnder a.epsilonTargets a.active)
    (hne : ∃ i, i ∈ a.active) {c : Nat} : (∃ r, (feedFrom c w a).2 = .ok r) ↔ a.AnswersFrom a.active w := by
  induction w generalizing a c with
  | nil => simp [feedFrom, AnswersFrom]
  | cons v w ih =>
    obtain ⟨i, hi⟩ := hne
    have hfirst : a.AnswersFrom a.active (v :: w) →
        v ≠ .epsilon ∧ ∀ j ∈ a.active.ids, ∃ ts, a.targetsOf v j = .ok ts := by
      intro hans
      exact ⟨(hans 0 v rfl i ⟨i, hi, .nil i⟩).1, fun j hj => (hans 0 v rfl j ⟨j, hj, .nil j⟩).2⟩
    by_cases hv : v = .epsilon
    · subst hv
      constructor
      · rintro ⟨r, hr⟩
        cases hr
      · exact fun hans => absurd rfl (hfirst hans).1
    cases hts : a.targetsFrom v a.active.ids with
    | error cause =>
      rw [feedFrom_error hv hts]
      constructor
      · rintro ⟨r, hr⟩
        cases hr
      · intro hans
        obtain ⟨ts, hok⟩ := targetsFrom_ok_iff.2 (hfirst hans).2
        rw [hts] at hok
        cases hok
    | ok ts =>
      rw [answersFrom_cons ha hs hv hts]
      cases ts with
      | nil =>
        have hall : a.AnswersFrom (a.closure (.ofList [])) w := by
          intro m x _ k hk
          rw [ha.readsFrom_closure] at hk
          obtain ⟨j, hj, _⟩ := hk
          exact absurd (StateSet.mem_ofList.1 hj) List.not_mem_nil
        rw [feedFrom_rejected hv hts]
        exact ⟨fun _ => hall, fun _ => ⟨_, rfl⟩⟩
      | cons t ts =>
        rw [feedFrom_advanced hv hts]
        have hinhabited : t ∈ a.closure (.ofList (t :: ts)) :=
          mem_closure_of_mem (StateSet.mem_ofList.2 (List.mem_cons_self ..))
        exact ih (ha.moved (moved_targets ha hts)) (closedUnder_closure ha.epsilonTargets_lt)
          ⟨t, hinhabited⟩

/-! ### From the start -/

def Answered (a : Automaton) (w : List Value) : Prop :=
  ∀ m v, w[m]? = some v → ∀ k, a.Reads 0 (w.take m) k → v ≠ .epsilon ∧ ∃ ts, a.targetsOf v k = .ok ts

def Recognizes (a : Automaton) (w : List Value) : Prop :=
  ∃ k, a.Reads 0 w k ∧ a.markersAt k ≠ []

structure Consumes (a : Automaton) (w : List Value) (r : Feed) : Prop where
  le_length : r.consumed ≤ w.length
  viable : ∀ m ≤ w.length, (∃ k, a.Reads 0 (w.take m) k) ↔ m ≤ r.consumed
  completed : r.completed = true ↔ r.consumed = w.length
  markers : ∃ s : StateSet, (∀ k, k ∈ s ↔ a.Reads 0 (w.take r.consumed) k) ∧
    r.markers = joinMarkers (s.ids.map a.markersAt)

theorem answered_of_answers (hw : ∀ v ∈ w, v ≠ .epsilon ∧ a.Answers v) : a.Answered w := by
  intro m v hv k _
  obtain ⟨hne, hans⟩ := hw v (List.mem_of_getElem? hv)
  exact ⟨hne, hans k⟩

section Start

variable {values : Value}

omit [TestFunctions] in
theorem zero_mem_reset (h0 : 0 < a.count) : 0 ∈ a.reset.active := by
  rw [reset, if_neg (Nat.ne_of_gt h0)]
  exact mem_closure_of_mem (StateSet.mem_ofList.2 (List.mem_singleton.2 rfl))

theorem WellFormed.readsFrom_reset (ha : a.WellFormed) (h0 : 0 < a.count) {k : Nat} :
    a.ReadsFrom a.reset.active w k ↔ a.Reads 0 w k := by
  rw [reset, if_neg (Nat.ne_of_gt h0), ha.readsFrom_closure]
  simp [ReadsFrom, StateSet.mem_ofList]

omit [TestFunctions] in
theorem WellFormed.restarted (ha : a.WellFormed) : WellFormed { a with active := a.reset.active } := by
  rw [← reset_eq]
  exact ha.moved (moved_reset a)

variable (ha : a.WellFormed) (h0 : 0 < a.count) (hvs : values.elements = .ok w)

include ha h0 hvs

theorem feed_ok_iff : (∃ r, (a.reset.feed values).2 = .ok r) ↔ a.Answered w := by
  rw [feed_reset hvs, feedFrom_ok_iff ha.restarted ha.closedUnder_reset ⟨0, zero_mem_reset h0⟩]
  change a.AnswersFrom a.reset.active w ↔ _
  simp only [AnswersFrom, ha.readsFrom_reset h0, Answered]

theorem consumes_of_feed {r : Feed} (h : (a.reset.feed values).2 = .ok r) : a.Consumes w r := by
  rw [feed_reset hvs] at h
  obtain ⟨n, hn, hcompleted, hl, hmarkers⟩ :=
    feedFrom_longest ha.restarted ha.closedUnder_reset ⟨0, zero_mem_reset h0⟩ (Prod.ext rfl h)
  have hn : n = r.consumed := by omega
  subst hn
  refine ⟨hl.le_length, fun m hm => ?_, hcompleted, _, fun k => ?_, hmarkers⟩
  · simp only [← ha.readsFrom_reset h0]
    exact hl.viable m hm
  · rw [← ha.readsFrom_reset h0]
    exact hl.mem_frontier k

end Start

/-- Feeding ends in acceptance if the whole word is read to a state with a marker. -/
theorem Consumes.accepted_iff {r : Feed} (h : a.Consumes w r) : r.accepted = true ↔ a.Recognizes w := by
  obtain ⟨s, hs, hmarkers⟩ := h.markers
  have hne : r.markers ≠ [] ↔ ∃ k, a.Reads 0 (w.take r.consumed) k ∧ a.markersAt k ≠ [] := by
    rw [hmarkers, Ne, joinMarkers_eq_nil]
    simp [← hs, StateSet.mem_ids]
  rw [Feed.accepted, Bool.and_eq_true, h.completed]
  simp only [Bool.not_eq_true', List.isEmpty_eq_false_iff, hne]
  constructor
  · rintro ⟨hall, k, hk, hm⟩
    rw [hall, List.take_length] at hk
    exact ⟨k, hk, hm⟩
  · rintro ⟨k, hk, hm⟩
    rw [← w.take_length] at hk
    have hall := Nat.le_antisymm h.le_length ((h.viable _ (Nat.le_refl _)).1 ⟨k, hk⟩)
    exact ⟨hall, k, by rwa [hall], hm⟩

variable {values : Value}

theorem accepts_ok_iff (ha : a.WellFormed) (h0 : 0 < a.count) (hvs : values.elements = .ok w) :
    (∃ r, (a.accepts values).2 = .ok r) ↔ a.Answered w := by
  rw [← feed_ok_iff ha h0 hvs, accepts_eq_feed]
  cases (a.reset.feed values).2 <;> simp [Except.map]

theorem accepts_eq_true_iff (ha : a.WellFormed) (h0 : 0 < a.count) (hvs : values.elements = .ok w) :
    (a.accepts values).2 = .ok true ↔ a.Answered w ∧ a.Recognizes w := by
  rw [← feed_ok_iff ha h0 hvs, accepts_eq_feed]
  cases h : (a.reset.feed values).2 with
  | error f => simp [Except.map]
  | ok r => simp [Except.map, (consumes_of_feed ha h0 hvs h).accepted_iff]

theorem recognizes_of_accepts (ha : a.WellFormed) (h0 : 0 < a.count) (hvs : values.elements = .ok w) {r : Bool}
    (h : (a.accepts values).2 = .ok r) : a.Answered w ∧ (r = true ↔ a.Recognizes w) := by
  have hans : a.Answered w := (accepts_ok_iff ha h0 hvs).1 ⟨r, h⟩
  refine ⟨hans, ?_⟩
  rw [← (accepts_eq_true_iff ha h0 hvs).trans (and_iff_right hans), h]
  simp

end Automaton

end GuardedAutomata
