import GuardedAutomata.Proofs.Definition.Outcome
import GuardedAutomata.Proofs.Definition.Validity
import Mathlib

/-!
# Flattening

Building a definition lays its tree of states out in one line: first the states of the definition itself and
behind them those of its fragments, one fragment after the other and each laid out in the same way. A block
of states has the edges and markers it was given, with targets counted from where the block begins, and a
state from which fragments are linked has an epsilon edge to the entry of each.
-/

set_option autoImplicit false

namespace GuardedAutomata

/-! ### Rows -/

structure Row where
  edges : List Edge
  markers : List Value

namespace Row

def raise (offset : Nat) (row : Row) : Row :=
  { row with edges := row.edges.map (Edge.relabel (· + offset)) }

def extend (added : List Edge) (row : Row) : Row :=
  { row with edges := row.edges ++ added }

@[simp] theorem extend_nil (row : Row) : row.extend [] = row := by
  rw [extend, List.append_nil]

end Row

namespace Automaton

def row (a : Automaton) (i : Nat) : Row :=
  ⟨a.edgesOf i, a.markersAt i⟩

def rows (a : Automaton) : List Row :=
  (List.range a.count).map a.row

theorem length_rows (a : Automaton) : a.rows.length = a.count := by
  rw [rows, List.length_map, List.length_range]

end Automaton

/-! ### Layout -/

namespace Definition

mutual

def size : Definition → Nat
  | ⟨_, _, _, states, _, fragments⟩ => states.length + sizeOfAll fragments

def sizeOfAll : List (Fragment Definition) → Nat
  | [] => 0
  | ⟨_, _, d⟩ :: rest => d.size + sizeOfAll rest

end

def linkTo (f : Fragment Definition) (entry i : Nat) : List Edge :=
  if f.automaton.size = 0 then [] else Automaton.linkEdges f.linkFrom entry i

/-- The edges by which a state is linked to fragments, in their order. The first one is entered at `entry`, and
each other one behind the states of those before it. -/
def links (i : Nat) : Nat → List (Fragment Definition) → List Edge
  | _, [] => []
  | entry, f :: rest => linkTo f entry i ++ links i (entry + f.automaton.size) rest

mutual

def flatten (k : StoreKind) (base : Nat) : Definition → List Row
  | ⟨_, _, _, states, transitions, fragments⟩ =>
    states.mapIdx (fun i s =>
      ⟨(Edge.firsts (Automaton.transitionsFor k transitions i)).map (Edge.relabel (· + base)) ++
        links i (base + states.length) fragments, Value.firsts s.markers⟩) ++
      flattenAll k (base + states.length) fragments

def flattenAll (k : StoreKind) (base : Nat) : List (Fragment Definition) → List Row
  | [] => []
  | ⟨_, _, d⟩ :: rest => d.flatten k base ++ flattenAll k (base + d.size) rest

end

/-! ### Lengths and places -/

variable {k : StoreKind} {d : Definition} {fs gs : List (Fragment Definition)}

mutual

theorem length_flatten (k : StoreKind) (base : Nat) (d : Definition) : (d.flatten k base).length = d.size :=
  match d with
  | ⟨_, _, _, _, _, fragments⟩ => by
    rw [flatten, size, List.length_append, List.length_mapIdx, length_flattenAll k _ fragments]

theorem length_flattenAll (k : StoreKind) (base : Nat) (fs : List (Fragment Definition)) :
    (flattenAll k base fs).length = sizeOfAll fs :=
  match fs with
  | [] => rfl
  | ⟨_, _, d⟩ :: rest => by
    rw [flattenAll, sizeOfAll, List.length_append, length_flatten k base d, length_flattenAll k _ rest]

end

theorem linkTo_raise (f : Fragment Definition) (entry offset i : Nat) :
    linkTo f (entry + offset) i = (linkTo f entry i).map (Edge.relabel (· + offset)) := by
  unfold linkTo Automaton.linkEdges
  split
  · rfl
  · split <;> rfl

theorem links_raise (i entry offset : Nat) (fs : List (Fragment Definition)) :
    links i (entry + offset) fs = (links i entry fs).map (Edge.relabel (· + offset)) := by
  induction fs generalizing entry with
  | nil => rfl
  | cons f fs ih =>
    have hnext : entry + offset + f.automaton.size = entry + f.automaton.size + offset := by omega
    rw [links, links, List.map_append, hnext, ih, linkTo_raise]

mutual

theorem flatten_raise (k : StoreKind) (base offset : Nat) (d : Definition) :
    d.flatten k (base + offset) = (d.flatten k base).map (Row.raise offset) :=
  match d with
  | ⟨_, _, _, states, _, fragments⟩ => by
    have hnext : base + offset + states.length = base + states.length + offset := by omega
    rw [flatten, flatten, hnext, List.map_append, flattenAll_raise k _ offset fragments]
    refine congrArg (· ++ _) (List.ext_getElem (by simp) fun i hi _ => ?_)
    simp [Row.raise, links_raise]

theorem flattenAll_raise (k : StoreKind) (base offset : Nat) (fs : List (Fragment Definition)) :
    flattenAll k (base + offset) fs = (flattenAll k base fs).map (Row.raise offset) :=
  match fs with
  | [] => rfl
  | ⟨_, _, d⟩ :: rest => by
    have hnext : base + offset + d.size = base + d.size + offset := by omega
    rw [flattenAll, flattenAll, hnext, List.map_append, flatten_raise k base offset d,
      flattenAll_raise k _ offset rest]

end

theorem links_append (i entry : Nat) (fs gs : List (Fragment Definition)) :
    links i entry (fs ++ gs) = links i entry fs ++ links i (entry + sizeOfAll fs) gs := by
  induction fs generalizing entry with
  | nil => simp [links, sizeOfAll]
  | cons f fs ih => rw [List.cons_append, links, links, ih, sizeOfAll, List.append_assoc, Nat.add_assoc]

theorem flattenAll_append (base : Nat) (fs gs : List (Fragment Definition)) :
    flattenAll k base (fs ++ gs) = flattenAll k base fs ++ flattenAll k (base + sizeOfAll fs) gs := by
  induction fs generalizing base with
  | nil => simp [flattenAll, sizeOfAll]
  | cons f fs ih =>
    rw [List.cons_append, flattenAll, flattenAll, ih, sizeOfAll, List.append_assoc, Nat.add_assoc]

end Definition

/-! ### Rows of automata side by side -/

namespace Automaton

variable {a b sub : Automaton} {linkFrom : Option Nat}

theorem insertAll_links {es : List Edge} {entry i : Nat} (h : ∀ e ∈ es, e.target ≠ entry) :
    (linkEdges linkFrom entry i).foldl Edge.insertInto es = es ++ linkEdges linkFrom entry i := by
  unfold linkEdges
  split
  · have hnew : es.any (·.equal ⟨.epsilon, entry⟩) = false := by
      rw [List.any_eq_false]
      intro e he
      simp [Edge.equal, h e he]
    simp [Edge.insertInto, hnew]
  · simp

/-- A fragment that is spliced in and linked from a state is put behind, and extends the row of that state. -/
theorem rows_linked (ha : a.WellFormed) (hlink : ∀ link, linkFrom = some link → link < a.count)
    (h : (spliced a sub).Extends (linkEdges linkFrom a.count) b) :
    b.rows = a.rows.mapIdx (fun i => Row.extend (linkEdges linkFrom a.count i)) ++
      sub.rows.map (Row.raise a.count) := by
  have hleft : ∀ i < a.count, b.row i = (a.row i).extend (linkEdges linkFrom a.count i) := by
    intro i hi
    have hold : ∀ e ∈ a.edgesOf i, e.target ≠ a.count := fun e he => Nat.ne_of_lt (ha.target_lt he)
    rw [row, h.edgesOf, h.markersAt, edgesOf_spliced_left hi, markersAt_spliced_left ha hi, insertAll_links hold]
    rfl
  have hright : ∀ j, b.row (a.count + j) = (sub.row j).raise a.count := by
    intro j
    have hno : linkFrom ≠ some (a.count + j) := fun hl => by
      have := hlink _ hl
      omega
    rw [row, h.edgesOf, h.markersAt, edgesOf_spliced_right, markersAt_spliced_right ha, linkEdges, if_neg hno]
    rfl
  unfold rows
  rw [h.count, count_spliced, List.range_add, List.map_append, List.map_map, List.map_map]
  refine congr_arg₂ (· ++ ·) (List.ext_getElem (by simp) fun i hi _ => ?_)
    (List.map_congr_left fun j _ => hright j)
  simp only [List.length_map, List.length_range] at hi
  simp [hleft i hi]

end Automaton

/-! ### Building -/

namespace Definition

variable {k : StoreKind} {d : Definition} {a b sub : Automaton}

structure Flattened (k : StoreKind) (d : Definition) (a : Automaton) : Prop where
  wellFormed : a.WellFormed
  name : a.name = .str d.name
  factory : a.factory = .ofKind k
  rows : a.rows = d.flatten k 0

theorem Flattened.count (h : d.Flattened k a) : a.count = d.size := by
  rw [← a.length_rows, h.rows, length_flatten]

theorem BuiltOwn.flattened (h : d.BuiltOwn k a) : Flattened k { d with fragments := [] } a where
  wellFormed := h.wellFormed
  name := h.name
  factory := h.factory
  rows := by
    rw [flatten, flattenAll, List.append_nil]
    refine List.ext_getElem (by simp [a.length_rows, h.count]) fun i hi _ => ?_
    rw [a.length_rows, h.count] at hi
    simp [Automaton.rows, Automaton.row, h.edgesOf, h.markersAt i _ (List.getElem?_eq_getElem hi), links]

theorem mapIdx_self {α : Type} {f : Nat → α → α} (h : ∀ i x, f i x = x) (l : List α) : l.mapIdx f = l :=
  List.ext_getElem List.length_mapIdx fun i hi _ => by rw [List.getElem_mapIdx, h]

/-- One more fragment stands behind the others, and extends the row of the state that it is linked from. -/
theorem flatten_snoc (d : Definition) (done : List (Fragment Definition)) {f : Fragment Definition}
    (hlink : ∀ link, f.linkFrom = some link → link < d.states.length) :
    flatten k 0 { d with fragments := done ++ [f] } =
      (flatten k 0 { d with fragments := done }).mapIdx
        (fun i => Row.extend (linkTo f (d.states.length + sizeOfAll done) i)) ++
      f.automaton.flatten k (d.states.length + sizeOfAll done) := by
  have hparts : ∀ i row,
      Row.extend (linkTo f (d.states.length + sizeOfAll done) (i + d.states.length)) row = row := by
    intro i row
    have hno : f.linkFrom ≠ some (i + d.states.length) := fun hl => by
      have := hlink _ hl
      omega
    rw [linkTo, Automaton.linkEdges, if_neg hno, ite_self, Row.extend_nil]
  rw [flatten, flatten, flattenAll_append, List.mapIdx_append, List.mapIdx_mapIdx, List.length_mapIdx,
    mapIdx_self hparts, flattenAll, flattenAll, List.append_nil, Nat.zero_add, List.append_assoc]
  refine congrArg (· ++ _) (List.ext_getElem (by simp) fun i _ _ => ?_)
  simp [links_append, links, Row.extend]

/-- One more fragment is laid out behind the others. -/
theorem Flattened.addFragment {done : List (Fragment Definition)} {f : Fragment Definition}
    (ha : Flattened k { d with fragments := done } a) (hsub : f.automaton.Flattened k sub)
    (hlink : ∀ link, f.linkFrom = some link → link < d.states.length) :
    ∃ b, Automaton.addFragment f.linkFrom sub a = .ok b ∧
      Flattened k { d with fragments := done ++ [f] } b := by
  have hcount : a.count = d.states.length + sizeOfAll done := ha.count
  have hbefore : ∀ link, f.linkFrom = some link → link < a.count := by
    intro link hl
    have := hlink link hl
    omega
  have hfactory : a.factory = sub.factory := ha.factory.trans hsub.factory.symm
  obtain ⟨b, hb, ⟨hzero, rfl⟩ | ⟨hpos, hext⟩⟩ :=
    Automaton.addFragment_eq_ok ha.wellFormed hsub.wellFormed hfactory hbefore
  · rw [hsub.count] at hzero
    have hself : ∀ i row, Row.extend (linkTo f (d.states.length + sizeOfAll done) i) row = row := by
      intro i row
      rw [linkTo, if_pos hzero, Row.extend_nil]
    have hnil : f.automaton.flatten k (d.states.length + sizeOfAll done) = [] :=
      List.eq_nil_of_length_eq_zero ((length_flatten ..).trans hzero)
    refine ⟨b, hb, ha.wellFormed, ha.name, ha.factory, ?_⟩
    rw [flatten_snoc d done hlink, mapIdx_self hself, hnil, List.append_nil, ha.rows]
  · rw [hsub.count] at hpos
    refine ⟨b, hb, hext.wellFormed, hext.name.trans ha.name, hext.factory.trans ha.factory, ?_⟩
    have hmoved : f.automaton.flatten k (d.states.length + sizeOfAll done) =
        (f.automaton.flatten k 0).map (Row.raise a.count) := by
      rw [hcount, ← flatten_raise, Nat.zero_add]
    have hlinked : linkTo f (d.states.length + sizeOfAll done) = Automaton.linkEdges f.linkFrom a.count := by
      funext i
      rw [linkTo, if_neg (Nat.ne_of_gt hpos), hcount]
    rw [Automaton.rows_linked ha.wellFormed hbefore hext, flatten_snoc d done hlink, hmoved, hlinked, ha.rows,
      hsub.rows]

/-! ### The whole tree -/

mutual

/-- A valid definition is flattened, unless a problem keeps it from being built. -/
theorem buildWith_meets {r : Registry} {kind : String} (hk : r.get kind = .ok k) (d : Definition)
    (hd : d.Valid) :
    Meets (d.problem? k kind) (d.Flattened k) (d.buildWith r kind) :=
  match d with
  | ⟨name, description, store, states, transitions, fragments⟩ => by
    obtain ⟨-, htransitions, hfragments, hall⟩ := (valid_iff _).1 hd
    unfold buildWith
    rw [hk, problem?]
    refine (buildOwn_meets fun t ht => (htransitions t ht).2).followed (fun f hf => by simp only [hf]) ?_
    intro a hown ha
    simp only [hown]
    exact buildFragments_meets hk _ [] fragments a ha.flattened (fun f hf => (hfragments f hf).1) hall

/-- Some fragments are laid out and the others are to come. -/
theorem buildFragments_meets {r : Registry} {kind : String} (hk : r.get kind = .ok k) (d : Definition)
    (done rest : List (Fragment Definition)) (a : Automaton) (ha : Flattened k { d with fragments := done } a)
    (hlinks : ∀ f ∈ rest, ∀ link, f.linkFrom = some link → link < d.states.length)
    (hvalid : Draft.AllValid (drafts rest)) :
    Meets (fragmentProblem? k kind rest) (Flattened k { d with fragments := done ++ rest })
      (buildFragments r kind rest a) :=
  match rest with
  | [] => ⟨a, rfl, by rwa [List.append_nil]⟩
  | ⟨name, linkFrom, x⟩ :: rest => by
    obtain ⟨hlink, hlinks⟩ := List.forall_mem_cons.1 hlinks
    rw [drafts, Draft.AllValid] at hvalid
    unfold buildFragments
    rw [fragmentProblem?]
    cases x.store.filter (· != kind) with
    | some other => exact rfl
    | none =>
      refine (buildWith_meets hk x hvalid.1).followed (fun f hf => by simp only [hf]) ?_
      intro sub hbuilt hsub
      obtain ⟨b, hb, hflat⟩ := ha.addFragment (f := ⟨name, linkFrom, x⟩) hsub hlink
      have hrest := buildFragments_meets hk d (done ++ [⟨name, linkFrom, x⟩]) rest b hflat hlinks hvalid.2
      rw [List.append_assoc] at hrest
      simp only [hbuilt, hb]
      exact hrest

end

theorem build_eq_ok {r : Registry} (hd : d.Valid) (h : d.build r = .ok a) :
    ∃ k b, r.get d.effectiveKind = .ok k ∧ d.problem? k d.effectiveKind = none ∧ d.Flattened k b ∧
      a = b.reset := by
  cases hk : r.get d.effectiveKind with
  | error f =>
    have hwith : d.buildWith r d.effectiveKind = .error f := by
      unfold buildWith
      rw [hk]
    rw [build, hwith] at h
    cases h
  | ok k =>
    have hmeets := buildWith_meets hk d hd
    unfold build at h
    split at h
    · cases h
    next b hb =>
      cases h
      obtain ⟨hnone, hflat⟩ := hmeets.of_ok hb
      exact ⟨k, b, rfl, hnone, hflat, rfl⟩

theorem build_eq_error {r : Registry} {f : Failure} (hd : d.Valid) : d.build r = .error f ↔
    r.get d.effectiveKind = .error f ∨
      ∃ k, r.get d.effectiveKind = .ok k ∧ d.problem? k d.effectiveKind = some f := by
  cases hk : r.get d.effectiveKind with
  | error g =>
    have hbuild : d.build r = .error g := by
      unfold build buildWith
      rw [hk]
    simp [hbuild]
  | ok k =>
    have hmeets := buildWith_meets hk d hd
    have hbuild : d.build r = .error f ↔ d.buildWith r d.effectiveKind = .error f := by
      unfold build
      cases d.buildWith r d.effectiveKind <;> simp
    rw [hbuild]
    constructor
    · intro h
      exact .inr ⟨k, rfl, hmeets.of_error h⟩
    · rintro (h | ⟨_, hj, hp⟩)
      · cases h
      · cases hj
        rw [hp] at hmeets
        exact hmeets

theorem guardOf_of_ownProblem? (h : d.ownProblem? k = none) :
    ∀ t ∈ d.transitions, Automaton.guardOf k d.name t = .ok (t.guardIn k) := by
  intro t ht
  have hproblem := List.findSome?_eq_none_iff.1 (Option.or_eq_none_iff.1 h).2 t ht
  unfold TransitionEntry.problem? at hproblem
  cases hg : Automaton.guardOf k d.name t with
  | error f =>
    rw [hg] at hproblem
    cases hproblem
  | ok g => rw [(Automaton.guardOf_eq_ok hg).1]

end Definition

/-- A restart makes the start state active with all that it leads to in silence. -/
theorem Automaton.WellFormed.mem_active_reset {a : Automaton} (ha : a.WellFormed) (q : Nat) :
    q ∈ a.reset.active ↔ 0 < a.count ∧ Relation.ReflTransGen (fun i j => ⟨.epsilon, j⟩ ∈ a.edgesOf i) 0 q := by
  have hleads : (fun i j => ⟨.epsilon, j⟩ ∈ a.edgesOf i) = fun i j => j ∈ a.epsilonTargets i := by
    funext i j
    rw [ha.mem_epsilonTargets]
  rw [hleads, Automaton.reset]
  by_cases h0 : a.count = 0
  · rw [if_pos h0]
    exact iff_of_false (StateSet.not_mem_empty q) fun h => Nat.ne_of_gt h.1 h0
  · rw [if_neg h0]
    simp [Automaton.mem_closure ha.epsilonTargets_lt, StateSet.mem_ofList, Automaton.Leads, Nat.pos_of_ne_zero h0]

namespace Definition

variable {d : Definition} {a : Automaton}

/-- What is built from a valid definition is its tree, flattened: it has the states of all nodes, each with the
edges and markers it was given there, and starts from its start state. -/
theorem build_flattens {r : Registry} (hd : d.Valid) (h : d.build r = .ok a) :
    ∃ k, r.get d.effectiveKind = .ok k ∧ a.factory = .ofKind k ∧ a.name = .str d.name ∧ a.count = d.size ∧
      (∀ x ∈ d.nodes, ∀ t ∈ x.transitions, Automaton.guardOf k x.name t = .ok (t.guardIn k)) ∧
      a.rows = d.flatten k 0 ∧
      ∀ q, q ∈ a.active ↔ 0 < a.count ∧ Relation.ReflTransGen (fun i j => ⟨.epsilon, j⟩ ∈ a.edgesOf i) 0 q := by
  obtain ⟨k, b, hk, hnone, hflat, rfl⟩ := build_eq_ok hd h
  have hcount : b.reset.count = b.count := by
    rw [b.reset_eq]
    rfl
  have hedges : b.reset.edgesOf = b.edgesOf := by
    rw [b.reset_eq]
    rfl
  have hrows : b.reset.rows = b.rows := by
    rw [b.reset_eq]
    rfl
  have hname : b.reset.name = b.name := by rw [b.reset_eq]
  have hfactory : b.reset.factory = b.factory := by rw [b.reset_eq]
  rw [hcount, hedges, hrows, hname, hfactory]
  exact ⟨k, hk, hflat.factory, hflat.name, hflat.count,
    fun x hx => guardOf_of_ownProblem? (((problem?_eq_none d).1 hnone).1 x hx), hflat.rows,
    hflat.wellFormed.mem_active_reset⟩

/-- Fragments in a fragment, one of them without states and one that is not linked; of equal transitions one
is kept. -/
theorem build_flattens_nested : ∃ (d : Definition) (a : Automaton), d.Valid ∧ d.build .builtIn = .ok a ∧
    a.count = 5 ∧ a.rows = [
      ⟨[⟨.predicate (.str "x"), 1⟩, ⟨.epsilon, 2⟩], []⟩,
      ⟨[⟨.epsilon, 0⟩], [.str "m"]⟩,
      ⟨[⟨.predicate (.str "y"), 2⟩, ⟨.epsilon, 3⟩], []⟩,
      ⟨[], [.str "n"]⟩,
      ⟨[], []⟩] := by
  let leaf : Definition := ⟨"leaf", none, some "symbol", [⟨0, [.str "n", .str "n"]⟩], [], []⟩
  let bare : Definition := ⟨"bare", none, none, [], [], []⟩
  let inner : Definition := ⟨"inner", none, none, [⟨0, []⟩], [⟨0, 0, .str "y", false⟩], [⟨none, some 0, leaf⟩]⟩
  let lone : Definition := ⟨"lone", none, none, [⟨0, []⟩], [], []⟩
  let d : Definition := ⟨"outer", none, some "symbol", [⟨0, []⟩, ⟨1, [.str "m"]⟩],
    [⟨0, 1, .str "x", false⟩, ⟨1, 0, .null, true⟩, ⟨0, 1, .str "x", false⟩],
    [⟨some "empty", some 0, bare⟩, ⟨some "inner", some 0, inner⟩, ⟨some "lone", none, lone⟩]⟩
  have hd : d.Valid := by
    simp [Valid, Draft.Valid, Draft.AllValid, draft, drafts, StateEntry.draft, TransitionEntry.draft, d, leaf, bare,
      inner, lone, DraftTransition.Exclusive, DraftFragment.Linked, DraftFragment.Matching, Declared,
      List.range_succ]
  have hok : (d.build .builtIn).isOk = true := by cbv
  obtain ⟨a, ha⟩ : ∃ a, d.build .builtIn = .ok a := by
    cases h : d.build .builtIn with
    | error f => cases h ▸ hok
    | ok a => exact ⟨a, rfl⟩
  obtain ⟨k, hk, -, -, hcount, -, hrows, -⟩ := build_flattens hd ha
  cases hk
  refine ⟨d, a, hd, ha, hcount.trans ?_, hrows.trans ?_⟩
  · rfl
  · cbv

end Definition

end GuardedAutomata
