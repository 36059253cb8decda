import GuardedAutomata.Automaton.Debug
import GuardedAutomata.Automaton.Simulation
import GuardedAutomata.Terminal.Table
import GuardedAutomata.Terminal.Tree

/-!
# Views of automata

What the commands show, as markup: the details of an automaton, its states as a table or as a tree, and
the report of a run.
-/

set_option autoImplicit false

namespace GuardedAutomata.CommandLine

open Terminal (Markup.escape)

def statesText (s : StateSet) : String :=
  "\x7b" ++ ", ".intercalate (s.ids.map toString) ++ "\x7d"

def markerList (ms : List Value) : String :=
  ", ".intercalate ((Text.sortByKey Value.text ms).map Value.text)

def transitionCount (a : Automaton) : Nat :=
  ((List.range a.count).map fun i => (a.edgesOf i).length).foldr (· + ·) 0

def validLines (a : Automaton) (details : Bool) : List String :=
  "[green]✓[/green] Configuration is valid!" ::
    if details then
      ["\n[bold]Automaton Details:[/bold]",
        "  Name: " ++ a.name.text,
        "  Store: " ++ a.factory.storeKind.name,
        "  States: " ++ toString a.count,
        "  Transitions: " ++ toString (transitionCount a),
        "  Accept states: " ++ statesText a.marked]
    else []

def guardLabel (e : Edge) : List Char :=
  match e.guard with
  | .epsilon => ['ε']
  | .predicate v => Markup.escape v.literal.toList

def edgeCell (e : Edge) : List Char :=
  guardLabel e ++ (" → " ++ toString e.target).toList

def stateTable (a : Automaton) : Terminal.Table where
  title := (a.name.text ++ " - States").toList
  head := ["State".toList, "Markers".toList, "Transitions".toList]
  rows := (List.range a.count).map fun i =>
    [(toString i).toList, (markerList (a.markersAt i)).toList,
      Text.join '\n' ((a.edgesOf i).map edgeCell)]

def stateLabel (a : Automaton) (i : Nat) : List Char :=
  let markers := a.markersAt i
  ("#" ++ toString i).toList ++
    (if i = 0 then " [green](start)[/green]".toList else []) ++
    (if i ∈ a.active then " [yellow](active)[/yellow]".toList else []) ++
    (if markers.isEmpty then []
      else " [red](".toList ++ Markup.escape (markerList markers).toList ++ ")[/red]".toList)

def edgeBranch (e : Edge) : Terminal.Tree :=
  .node (guardLabel e ++ (" → #" ++ toString e.target).toList) []

def stateTree (a : Automaton) : Terminal.Tree :=
  .node ("[bold]" ++ a.name.text ++ "[/bold]").toList
    ((List.range a.count).map fun i => .node (stateLabel a i) ((a.edgesOf i).map edgeBranch))

def verdictLine (values : List Value) (f : Feed) : List Char :=
  if f.accepted then "[green]✓[/green] Accepted".toList
  else if f.completed then "[red]✗[/red] Input consumed but no accept state reached".toList
  else
    ("[red]✗[/red] Rejected at position " ++ toString f.consumed ++ ": ").toList ++
      Markup.escape ((values[f.consumed]?.map Value.literal).getD "").toList

def progressLines (values : List Value) (a : Automaton) (f : Feed) : List (List Char) :=
  [("Consumed: " ++ toString f.consumed ++ "/" ++ toString values.length).toList,
    ("Active states: " ++ statesText a.active).toList]

def verdictLines (values : List Value) (f : Feed) : List (List Char) :=
  (if f.markers.isEmpty then []
    else ["Markers: ".toList ++ Markup.escape (markerList f.markers).toList]) ++
    [verdictLine values f]

end GuardedAutomata.CommandLine
