import GuardedAutomata.Proofs.Definition.Outcome
import GuardedAutomata.Proofs.Definition.Reference

/-!
# Resolution of references in a value

References are resolved in one pass over the text in a value, in lists and in the values of dictionaries. What
comes out has the shape of what went in: the same lists, the same keys in the same order and the same leaves,
but for text, of which each piece comes to what its form says. The first piece of text that lacks its variable
fails the whole.
-/

set_option autoImplicit false

namespace GuardedAutomata

namespace Value

mutual

def texts : Value → List String
  | .str s => [s]
  | .list items => textsOfItems items
  | .dict entries => textsOfEntries entries
  | _ => []

def textsOfItems : List Value → List String
  | [] => []
  | v :: rest => texts v ++ textsOfItems rest

def textsOfEntries : List (Value × Value) → List String
  | [] => []
  | (_, v) :: rest => texts v ++ textsOfEntries rest

end

mutual

def Alike (r : String → String → Prop) : Value → Value → Prop
  | .str s, w => ∃ t, w = .str t ∧ r s t
  | .list items, w => ∃ others, w = .list others ∧ ItemsAlike r items others
  | .dict entries, w => ∃ others, w = .dict others ∧ EntriesAlike r entries others
  | v, w => w = v

def ItemsAlike (r : String → String → Prop) : List Value → List Value → Prop
  | [], ws => ws = []
  | v :: rest, ws => ∃ w others, ws = w :: others ∧ Alike r v w ∧ ItemsAlike r rest others

def EntriesAlike (r : String → String → Prop) : List (Value × Value) → List (Value × Value) → Prop
  | [], ws => ws = []
  | (k, v) :: rest, ws => ∃ w others, ws = (k, w) :: others ∧ Alike r v w ∧ EntriesAlike r rest others

end

mutual

def Unwound : Value → Prop
  | .list items => ItemsUnwound items
  | .dict entries => EntriesUnwound entries
  | .enclosing _ => False
  | _ => True

def ItemsUnwound : List Value → Prop
  | [] => True
  | v :: rest => Unwound v ∧ ItemsUnwound rest

def EntriesUnwound : List (Value × Value) → Prop
  | [] => True
  | (_, v) :: rest => Unwound v ∧ EntriesUnwound rest

end

variable {r : String → String → Prop}

mutual

/-- Where text relates to itself only, values of one shape are equal. -/
theorem Alike.eq (v : Value) {w : Value} (h : v.Alike r w) (hr : ∀ s ∈ v.texts, ∀ t, r s t → t = s) : w = v :=
  match v with
  | .str s => by
    obtain ⟨t, rfl, ht⟩ := h
    rw [hr s (List.mem_singleton.2 rfl) t ht]
  | .list items => by
    obtain ⟨others, rfl, ho⟩ := h
    rw [ItemsAlike.eq items ho hr]
  | .dict entries => by
    obtain ⟨others, rfl, ho⟩ := h
    rw [EntriesAlike.eq entries ho hr]
  | .null | .bool _ | .int _ | .float _ | .bytes _ | .date _ | .moment _ | .tuple _ | .set _ | .enclosing _
  | .epsilon | .predicate _ | .range _ _ | .state _ | .function _ => h

theorem ItemsAlike.eq (vs : List Value) {ws : List Value} (h : ItemsAlike r vs ws)
    (hr : ∀ s ∈ textsOfItems vs, ∀ t, r s t → t = s) : ws = vs :=
  match vs with
  | [] => h
  | v :: rest => by
    obtain ⟨w, others, rfl, hw, ho⟩ := h
    rw [textsOfItems, List.forall_mem_append] at hr
    rw [Alike.eq v hw hr.1, ItemsAlike.eq rest ho hr.2]

theorem EntriesAlike.eq (entries : List (Value × Value)) {ws : List (Value × Value)}
    (h : EntriesAlike r entries ws) (hr : ∀ s ∈ textsOfEntries entries, ∀ t, r s t → t = s) : ws = entries :=
  match entries with
  | [] => h
  | (k, v) :: rest => by
    obtain ⟨w, others, rfl, hw, ho⟩ := h
    rw [textsOfEntries, List.forall_mem_append] at hr
    rw [Alike.eq v hw hr.1, EntriesAlike.eq rest ho hr.2]

end

end Value

namespace Environment

variable {e : Environment} {s : String} {f : Failure} {v : Value}

def textProblem? (e : Environment) (s : String) : Option Failure :=
  match e.resolveText s with
  | .ok _ => none
  | .error f => some f

theorem textProblem?_eq_some_iff : e.textProblem? s = some f ↔ e.Lacks s f := by
  rw [← resolveText_eq_error_iff]
  unfold textProblem?
  cases e.resolveText s <;> simp

theorem textProblem?_of_means {t : String} (h : e.Means s t) : e.textProblem? s = none := by
  rw [textProblem?, resolveText_eq_ok_iff.2 h]

theorem meets_resolveText (e : Environment) (s : String) :
    Meets (e.textProblem? s) (e.Means s) (e.resolveText s) := by
  unfold textProblem? Meets
  cases h : e.resolveText s with
  | ok t => exact ⟨t, rfl, resolveText_eq_ok_iff.1 h⟩
  | error f => rfl

mutual

/-- Resolving a value fails with the first failure of its text, or gives a value of the same shape in which every text
is what the text comes to. -/
theorem meets_resolve (e : Environment) (v : Value) (h : v.Unwound) :
    Meets (v.texts.findSome? e.textProblem?) (v.Alike e.Means) (e.resolve v) :=
  match v with
  | .str s => by
    rw [Value.texts, findSome?_cons_or, resolve]
    refine (meets_resolveText e s).followed (fun f hf => by rw [hf]) fun t ht hs => ?_
    rw [ht]
    exact ⟨_, rfl, t, rfl, hs⟩
  | .list items => by
    rw [Value.texts, ← Option.or_none (o := List.findSome? _ _), resolve]
    refine (meets_resolveItems e items h).followed (fun f hf => by rw [hf]) fun ws hws halike => ?_
    rw [hws]
    exact ⟨_, rfl, ws, rfl, halike⟩
  | .dict entries => by
    rw [Value.texts, ← Option.or_none (o := List.findSome? _ _), resolve]
    refine (meets_resolveEntries e entries h).followed (fun f hf => by rw [hf]) fun es hes halike => ?_
    rw [hes]
    exact ⟨_, rfl, es, rfl, halike⟩
  | .null | .bool _ | .int _ | .float _ | .bytes _ | .date _ | .moment _ | .tuple _ | .set _
  | .epsilon | .predicate _ | .range _ _ | .state _ | .function _ => ⟨_, rfl, rfl⟩

theorem meets_resolveItems (e : Environment) (vs : List Value) (h : Value.ItemsUnwound vs) :
    Meets ((Value.textsOfItems vs).findSome? e.textProblem?) (Value.ItemsAlike e.Means vs) (e.resolveItems vs) :=
  match vs with
  | [] => ⟨_, rfl, rfl⟩
  | v :: rest => by
    rw [Value.textsOfItems, List.findSome?_append, ← Option.or_none (o := List.findSome? _ (Value.textsOfItems _)),
      resolveItems]
    refine (meets_resolve e v h.1).followed (fun f hf => by rw [hf]) fun w hw halike => ?_
    rw [hw]
    refine (meets_resolveItems e rest h.2).followed (fun f hf => by simp only [hf]) fun ws hws hrest => ?_
    simp only [hws]
    exact ⟨_, rfl, w, ws, rfl, halike, hrest⟩

theorem meets_resolveEntries (e : Environment) (entries : List (Value × Value)) (h : Value.EntriesUnwound entries) :
    Meets ((Value.textsOfEntries entries).findSome? e.textProblem?) (Value.EntriesAlike e.Means entries)
      (e.resolveEntries entries) :=
  match entries with
  | [] => ⟨_, rfl, rfl⟩
  | (k, v) :: rest => by
    rw [Value.textsOfEntries, List.findSome?_append,
      ← Option.or_none (o := List.findSome? _ (Value.textsOfEntries _)), resolveEntries]
    refine (meets_resolve e v h.1).followed (fun f hf => by rw [hf]) fun w hw halike => ?_
    rw [hw]
    refine (meets_resolveEntries e rest h.2).followed (fun f hf => by simp only [hf]) fun es hes hrest => ?_
    simp only [hes]
    exact ⟨_, rfl, w, es, rfl, halike, hrest⟩

end

/-- Resolving a value without a failure keeps its shape and puts for every text what the text comes to by its form, in
one pass: what is put is not looked at again. Resolving fails for a bad configuration, namely with the failure of
the first text that lacks its variable, and for nothing else. Where no text starts with a dollar sign nothing
changes. -/
theorem resolve_in_one_pass (e : Environment) (hv : v.Unwound) :
    (∀ w, e.resolve v = .ok w → v.Alike e.Means w) ∧
      (∀ s t u, e.Means s t → e.Means s u → t = u) ∧
      (∀ f, e.resolve v = .error f ↔
        ∃ front s back, v.texts = front ++ s :: back ∧ e.Lacks s f ∧ ∀ t ∈ front, ∀ g, ¬ e.Lacks t g) ∧
      (∀ f, e.resolve v = .error f → f.family? = some .configuration) ∧
      ((∀ s ∈ v.texts, s.toList.head? ≠ some '$') → e.resolve v = .ok v) := by
  have hmeets := e.meets_resolve v hv
  have hfailed : ∀ f, e.resolve v = .error f ↔ v.texts.findSome? e.textProblem? = some f := by
    intro f
    refine ⟨hmeets.of_error, fun hf => ?_⟩
    rw [hf] at hmeets
    exact hmeets
  have hnone : ∀ t, e.textProblem? t = none ↔ ∀ g, ¬ e.Lacks t g := by
    intro t
    simp [Option.eq_none_iff_forall_ne_some, ← textProblem?_eq_some_iff]
  refine ⟨fun w hw => (hmeets.of_ok hw).2, fun _ _ _ => Means.unique, fun f => ?_, fun f hf => ?_, fun hplain => ?_⟩
  · rw [hfailed, List.findSome?_eq_some_iff]
    simp only [textProblem?_eq_some_iff, hnone]
  · obtain ⟨s, -, hs⟩ := List.exists_of_findSome?_eq_some ((hfailed f).1 hf)
    exact (textProblem?_eq_some_iff.1 hs).family?
  · have hfine : v.texts.findSome? e.textProblem? = none :=
      List.findSome?_eq_none_iff.2 fun s hs => textProblem?_of_means (means_of_plain (hplain s hs))
    rw [hfine] at hmeets
    obtain ⟨w, hw, halike⟩ := hmeets
    rw [hw, halike.eq v fun s hs t ht => ht.unique (means_of_plain (hplain s hs))]

/-- A variable that is set behind the lead, a fallback that looks like a reference, a reference that is left open; and
the first of two demands that are not met. -/
theorem resolve_in_one_pass_nested : ∃ (e : Environment) (v w : Value), v.Unwound ∧
    v = .dict [(.str "name", .str "$\x7bHOST\x7d"),
      (.str "states", .list [.str "$\x7bPORT:-$HOST\x7d", .int 1, .str "$\x7bHOST", .str "$"])] ∧
    e.resolve v = .ok w ∧ v.Alike e.Means w ∧
    ∃ f, e.resolve (.list [v, .str "$\x7bPORT:?no port\x7d", .str "$\x7bNAME\x7d"]) = .error f ∧
      f.message = "Required environment variable: no port" ∧ f.family? = some .configuration := by
  let e : Environment := ⟨[("NFAKIT_HOST", "here")], "NFAKIT_"⟩
  let v : Value := .dict [(.str "name", .str "$\x7bHOST\x7d"),
    (.str "states", .list [.str "$\x7bPORT:-$HOST\x7d", .int 1, .str "$\x7bHOST", .str "$"])]
  let w : Value := .dict [(.str "name", .str "here"),
    (.str "states", .list [.str "$HOST", .int 1, .str "$\x7bHOST", .str "$"])]
  let demands : Value := .list [v, .str "$\x7bPORT:?no port\x7d", .str "$\x7bNAME\x7d"]
  have hv : v.Unwound := by simp [v, Value.Unwound, Value.ItemsUnwound, Value.EntriesUnwound]
  have hd : demands.Unwound := by
    simp [demands, v, Value.Unwound, Value.ItemsUnwound, Value.EntriesUnwound]
  have hw : e.resolve v = .ok w := rfl
  have hf : e.resolve demands = .error (.variableRequired "PORT" "no port") := rfl
  exact ⟨e, v, w, hv, rfl, hw, (resolve_in_one_pass e hv).1 w hw, _, hf, rfl,
    (resolve_in_one_pass e hd).2.2.2.1 _ hf⟩

end Environment

end GuardedAutomata
