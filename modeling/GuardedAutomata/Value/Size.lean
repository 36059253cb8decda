import GuardedAutomata.Value.Basic

/-!
# Size of values

The number of parts of a value. Everything found inside a value is smaller, which is why walking down
into one ends.
-/

set_option autoImplicit false

namespace GuardedAutomata.Value

mutual

def size : Value → Nat
  | list items => itemsSize items + 1
  | tuple items => itemsSize items + 1
  | set items => itemsSize items + 1
  | dict entries => entriesSize entries + 1
  | predicate v => size v + 1
  | range low high => size low + size high + 1
  | _ => 0

def itemsSize : List Value → Nat
  | [] => 0
  | v :: rest => size v + itemsSize rest + 1

def entriesSize : List (Value × Value) → Nat
  | [] => 0
  | (k, v) :: rest => size k + size v + entriesSize rest + 1

end

theorem size_field {v : Value} {entries : List (Value × Value)} {key : String}
    (h : field? entries key = some v) : v.size < entriesSize entries := by
  induction entries with
  | nil => simp [field?] at h
  | cons e rest ih =>
    obtain ⟨k, w⟩ := e
    rw [entriesSize]
    have descend : field? rest key = some v → v.size < k.size + w.size + entriesSize rest + 1 :=
      fun hr => by
        have := ih hr
        omega
    cases k with
    | str s =>
      rw [field?] at h
      split at h
      · cases h
        omega
      · exact descend h
    | _ => exact descend (by simpa [field?] using h)

end GuardedAutomata.Value
