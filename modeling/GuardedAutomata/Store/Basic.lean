import GuardedAutomata.Store.Kind

/-!
# Transition stores

The outgoing edges of one state, in the order in which they were recorded, no two of them the same.
Beside the edge list a store keeps what it answers queries from: the targets of the epsilon edges, and
an index of the predicate edges that either groups targets under equal symbols or lists each predicate
with its target.
-/

set_option autoImplicit false

namespace GuardedAutomata

inductive Index where
  | groups (entries : List (Value × List Nat))
  | entries (entries : List (Value × Nat))
  deriving Inhabited, BEq

namespace Index

def empty (k : StoreKind) : Index :=
  if k.isGrouped then .groups [] else .entries []

def addToGroup (p : Value) (target : Nat) : List (Value × List Nat) → List (Value × List Nat)
  | [] => [(p, [target])]
  | (q, targets) :: rest =>
    if q.same p then (q, targets ++ [target]) :: rest else (q, targets) :: addToGroup p target rest

def insert (p : Value) (target : Nat) : Index → Index
  | groups gs => groups (addToGroup p target gs)
  | entries es => entries (es ++ [(p, target)])

def group (v : Value) : List (Value × List Nat) → List Nat
  | [] => []
  | (q, targets) :: rest => if q.same v then targets else group v rest

def scan [TestFunctions] (k : StoreKind) (v : Value) : List (Value × Nat) → Except Fault (List Nat)
  | [] => .ok []
  | (p, target) :: rest =>
    match k.test p v with
    | .error cause => .error cause
    | .ok matched =>
      match scan k v rest with
      | .error cause => .error cause
      | .ok targets => .ok (if matched then target :: targets else targets)

def lookup [TestFunctions] (k : StoreKind) (v : Value) : Index → Except Fault (List Nat)
  | groups gs =>
    match k.lookupKey v with
    | .error cause => .error cause
    | .ok key =>
      match key.checkHashable with
      | .error cause => .error cause
      | .ok _ => .ok (group key gs)
  | entries es => scan k v es

end Index

structure Store where
  kind : StoreKind
  edges : List Edge
  epsilon : List Nat
  index : Index
  deriving Inhabited, BEq

namespace Store

def empty (k : StoreKind) : Store :=
  ⟨k, [], [], Index.empty k⟩

def size (s : Store) : Nat :=
  s.edges.length

def record (s : Store) (e : Edge) : Store :=
  match e.guard with
  | .epsilon => { s with edges := s.edges ++ [e], epsilon := s.epsilon ++ [e.target] }
  | .predicate p => { s with edges := s.edges ++ [e], index := s.index.insert p e.target }

@[simp] theorem edges_empty (k : StoreKind) : (empty k).edges = [] := rfl

@[simp] theorem edges_record (s : Store) (e : Edge) : (s.record e).edges = s.edges ++ [e] := by
  unfold record
  split <;> rfl

@[simp] theorem kind_record (s : Store) (e : Edge) : (s.record e).kind = s.kind := by
  unfold record
  split <;> rfl

def coerceGuard (s : Store) : Guard → Except Failure Guard
  | .epsilon => .ok .epsilon
  | .predicate p =>
    match s.kind.coerce p with
    | .error f => .error f
    | .ok q => .ok (.predicate q)

def put (s : Store) (guard : Guard) (target : Nat) : Except Failure Store :=
  match s.coerceGuard guard with
  | .error f => .error f
  | .ok g =>
    match g.value.checkHashable with
    | .error cause => .error (.fault cause)
    | .ok _ => .ok (if s.edges.any (·.equal ⟨g, target⟩) then s else s.record ⟨g, target⟩)

/-- A store gains at most the edge that is put, in its recorded form. -/
theorem put_eq_ok {s u : Store} {guard : Guard} {target : Nat} (h : s.put guard target = .ok u) :
    ∃ g, s.coerceGuard guard = .ok g ∧ g.value.checkHashable = .ok () ∧
      u = if s.edges.any (·.equal ⟨g, target⟩) then s else s.record ⟨g, target⟩ := by
  unfold put at h
  split at h
  · cases h
  next g hg =>
    split at h
    · cases h
    next hh =>
      cases h
      exact ⟨g, hg, hh, rfl⟩

theorem kind_put {s u : Store} {guard : Guard} {target : Nat} (h : s.put guard target = .ok u) :
    u.kind = s.kind := by
  obtain ⟨g, _, _, rfl⟩ := put_eq_ok h
  split <;> simp

def putAll (s : Store) (relabel : Nat → Except Fault Nat) : List Edge → Store × Except Failure Unit
  | [] => (s, .ok ())
  | e :: rest =>
    match relabel e.target with
    | .error cause => (s, .error (.fault cause))
    | .ok target =>
      match s.put e.guard target with
      | .error f => (s, .error f)
      | .ok s => s.putAll relabel rest

def merge (s other : Store) (relabel : Nat → Except Fault Nat) : Store × Except Failure Unit :=
  s.putAll relabel other.edges

def query [TestFunctions] (s : Store) (v : Value) : Except Fault (List Nat) :=
  match v with
  | .epsilon => .ok s.epsilon
  | v => s.index.lookup s.kind v

def symbols : Store → List Value
  | ⟨_, _, _, .groups gs⟩ => gs.map Prod.fst
  | ⟨_, _, _, .entries _⟩ => []

def edgeText (k : StoreKind) (e : Edge) : String :=
  k.formatGuard e.guard ++ ">" ++ toString e.target

def literal (s : Store) : String :=
  s.kind.className ++ "(" ++ Value.joined (s.edges.map (edgeText s.kind)) ++ ")"

end Store

end GuardedAutomata
