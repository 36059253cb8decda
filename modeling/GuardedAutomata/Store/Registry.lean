import GuardedAutomata.Store.Factory

/-!
# Registry of store kinds

Store kinds under the names by which definitions refer to them, in the order of registration.
-/

set_option autoImplicit false

namespace GuardedAutomata

structure Registry where
  name : String
  items : List (String × StoreKind)
  deriving Inhabited

namespace Registry

def empty (name : String) : Registry :=
  ⟨name, []⟩

def find? (r : Registry) (key : String) : Option StoreKind :=
  r.items.lookup key

def has (r : Registry) (key : String) : Bool :=
  (r.find? key).isSome

def keys (r : Registry) : List String :=
  r.items.map Prod.fst

def assign (key : String) (k : StoreKind) : List (String × StoreKind) → List (String × StoreKind)
  | [] => [(key, k)]
  | (other, j) :: rest =>
    if other = key then (key, k) :: rest else (other, j) :: assign key k rest

def register (r : Registry) (key : String) (k : StoreKind) (overwrite : Bool) :
    Except Failure Registry :=
  if r.has key && !overwrite then .error (.keyTaken key r.name)
  else .ok { r with items := assign key k r.items }

def get (r : Registry) (key : String) : Except Failure StoreKind :=
  match r.find? key with
  | some k => .ok k
  | none => .error (.unknownKind key r.name r.keys)

def factory (r : Registry) (key : String) : Except Failure Factory :=
  match r.get key with
  | .ok k => .ok (.ofKind k)
  | .error f => .error f

def builtIn : Registry :=
  ⟨"stores", [("symbol", .symbol), ("range", .range), ("callable", .callable)]⟩

end Registry

end GuardedAutomata
