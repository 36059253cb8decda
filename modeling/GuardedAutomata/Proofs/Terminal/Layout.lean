import GuardedAutomata.Proofs.Terminal.Matching
import GuardedAutomata.Terminal.Table
import GuardedAutomata.Terminal.Tree

/-!
# Tables and trees of markup

A table is laid out if its title and all its cells are sound markup, and a tree if its labels are. One text that is
not sound keeps the whole from being shown.
-/

set_option autoImplicit false

namespace GuardedAutomata.Terminal

open Markup (Sound)

namespace Table

theorem shows_plainCells (cells : List (List Char)) : Shows (∀ cell ∈ cells, Sound cell) (plainCells cells) := by
  induction cells with
  | nil => exact .of_ok rfl (by simp)
  | cons cell rest ih =>
    rw [plainCells]
    refine Shows.congr ?_ List.forall_mem_cons.symm
    refine (Markup.shows_plain cell).followed (fun f hf => by rw [hf]) fun text ht => ?_
    rw [ht]
    exact ih.mapped (fun f hf => by simp only [hf]) fun more hm => ⟨_, by simp only [hm]; rfl⟩

theorem shows_plainColumns (columns : List (List (List Char))) :
    Shows (∀ cells ∈ columns, ∀ cell ∈ cells, Sound cell) (plainColumns columns) := by
  induction columns with
  | nil => exact .of_ok rfl (by simp)
  | cons cells rest ih =>
    rw [plainColumns]
    refine Shows.congr ?_ List.forall_mem_cons.symm
    refine (shows_plainCells cells).followed (fun f hf => by rw [hf]) fun shown hs => ?_
    rw [hs]
    exact ih.mapped (fun f hf => by simp only [hf]) fun more hm => ⟨_, by simp only [hm]; rfl⟩

theorem forall_columns {p : List Char → Prop} (t : Table) :
    (∀ cells ∈ (List.range t.head.length).map fun i => t.rows.map fun row => row.getD i [], ∀ cell ∈ cells, p cell) ↔
      ∀ row ∈ t.rows, ∀ i < t.head.length, p (row.getD i []) := by
  simp only [List.forall_mem_map, List.mem_range]
  exact ⟨fun h row hrow i hi => h i hi row hrow, fun h i hi row hrow => h row hrow i hi⟩

theorem shows_render (most : Nat) (t : Table) :
    Shows ((∀ row ∈ t.rows, ∀ i < t.head.length, Sound (row.getD i [])) ∧ Sound t.title) (render most t) := by
  refine Shows.congr ?_ (and_congr_left' (forall_columns t))
  rw [render]
  refine (shows_plainColumns _).followed (fun f hf => by simp only [hf]) fun shown hs => ?_
  simp only [hs]
  exact (Markup.shows_plain t.title).mapped (fun f hf => by simp only [hf]) fun title ht => ⟨_, by simp only [ht]; rfl⟩

end Table

namespace Tree

mutual

def labels : Tree → List (List Char)
  | node label branches => label :: branchLabels branches

def branchLabels : List Tree → List (List Char)
  | [] => []
  | branch :: rest => labels branch ++ branchLabels rest

end

theorem shows_labelLines (most : Nat) (label : List Char) : Shows (Sound label) (labelLines most label) := by
  rw [labelLines]
  exact (Markup.shows_plain label).mapped (fun f hf => by rw [hf]) fun text ht => ⟨_, by rw [ht]⟩

mutual

theorem shows_render (most : Nat) : (t : Tree) → Shows (∀ label ∈ labels t, Sound label) (render most t)
  | node label branches => by
    rw [render, labels]
    refine Shows.congr ?_ List.forall_mem_cons.symm
    refine (shows_labelLines most label).followed (fun f hf => by rw [hf]) fun own ho => ?_
    rw [ho]
    exact (shows_renderBranches most branches).mapped (fun f hf => by simp only [hf])
      fun below hb => ⟨_, by simp only [hb]; rfl⟩

theorem shows_renderBranches (most : Nat) :
    (ts : List Tree) → Shows (∀ label ∈ branchLabels ts, Sound label) (renderBranches most ts)
  | [] => .of_ok rfl (by simp [branchLabels])
  | branch :: rest => by
    rw [renderBranches, branchLabels]
    refine Shows.congr ?_ List.forall_mem_append.symm
    refine (shows_render (most - 4) branch).followed (fun f hf => by rw [hf]) fun lines hl => ?_
    rw [hl]
    exact (shows_renderBranches most rest).mapped (fun f hf => by simp only [hf])
      fun more hm => ⟨_, by simp only [hm]; rfl⟩

end

theorem branchLabels_map {ι : Type} (f : ι → Tree) (is : List ι) :
    branchLabels (is.map f) = is.flatMap fun i => labels (f i) := by
  induction is with
  | nil => rfl
  | cons i is ih => rw [List.map_cons, branchLabels, ih, List.flatMap_cons]

end Tree

end GuardedAutomata.Terminal
