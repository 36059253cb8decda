import GuardedAutomata.Terminal.Markup
import GuardedAutomata.Terminal.Wrap

/-!
# Tables

A table has a title, a head and rows of cells, which are markup and may take several lines. A column is
as wide as its widest line with a blank on either side. If all columns together are too wide, the widest
ones are made narrower and what does not fit in them is cut off.
-/

set_option autoImplicit false

namespace GuardedAutomata.Terminal

structure Table where
  title : List Char
  head : List (List Char)
  rows : List (List (List Char))

namespace Table

/-! ### Widths -/

def endsLine (c : Char) : Bool :=
  c == '\n' || ('\x1C' ≤ c && c ≤ '\x1E') || c == '\x85' || c == '\u2028' || c == '\u2029'

def widestLine (line : List Char) : List Char → Nat
  | [] => width line.reverse
  | c :: rest =>
    if endsLine c then max (width line.reverse) (widestLine [] rest) else widestLine (c :: line) rest

def cellWidth (cell : List Char) : Nat :=
  widestLine [] cell + 2

def share (num den : Nat) : Nat :=
  let q := num / den
  let r := num % den
  if 2 * r < den then q else if den < 2 * r then q + 1 else q + q % 2

def reduce (most : Nat) : Nat → List (Nat × Bool) → List Nat
  | _, [] => []
  | excess, (w, false) :: rest => w :: reduce most excess rest
  | excess, (w, true) :: rest =>
    let part := min most (share excess ((rest.filter (·.2)).length + 1))
    (w - part) :: reduce most (excess - part) rest

def totalWidth (ws : List Nat) : Nat :=
  ws.foldr (· + ·) 0

def collapse : Nat → Nat → List Nat → List Nat
  | 0, _, ws => ws
  | fuel + 1, most, ws =>
    let excess := totalWidth ws - most
    let widest := ws.foldl max 0
    let second := (ws.filter (· != widest)).foldl max 0
    if excess = 0 || widest = second then ws
    else
      collapse fuel most
        (reduce (min excess (widest - second)) excess (ws.map fun w => (w, w == widest)))

def columnWidths (most : Nat) (columns : List (List (List Char))) : List Nat :=
  let natural := columns.map fun cells => (cells.map cellWidth).foldl max 0
  let room := most - (columns.length + 1)
  collapse (totalWidth natural + 1) room (natural.map (min room))

/-! ### Lines -/

def rule (left line cross right : Char) (widths : List Nat) : List Char :=
  left :: (Text.join cross (widths.map fun w => List.replicate w line) ++ [right])

def cellLines (w : Nat) (cell : List Char) : List (List Char) :=
  (wrap (w - 2) .ellipsis cell).map fun line => ' ' :: (padRight (w - 2) line ++ [' '])

def lineAt (i w : Nat) (lines : List (List Char)) : List Char :=
  lines.getD i (List.replicate w ' ')

def rowLines (edge : Char) (widths : List Nat) (cells : List (List Char)) : List (List Char) :=
  let columns := widths.zip (List.zipWith cellLines widths cells)
  let height := (columns.map fun c => c.2.length).foldl max 1
  (List.range height).map fun i =>
    edge :: (Text.join edge (columns.map fun c => lineAt i c.1 c.2) ++ [edge])

def lines (most : Nat) (t : Table) : List (List Char) :=
  let columns := (List.range t.head.length).map fun i => (t.head :: t.rows).map fun row => row.getD i []
  let widths := columnWidths most columns
  let total := totalWidth widths + widths.length + 1
  (wrap total .fold t.title).map (center total) ++
    rule '┏' '━' '┳' '┓' widths :: rowLines '┃' widths t.head ++
    rule '┡' '━' '╇' '┩' widths :: t.rows.flatMap (rowLines '│' widths) ++
    [rule '└' '─' '┴' '┘' widths]

/-! ### Markup -/

def plainCells : List (List Char) → Except Failure (List (List Char))
  | [] => .ok []
  | cell :: rest =>
    match Markup.plain cell with
    | .error f => .error f
    | .ok shown =>
      match plainCells rest with
      | .error f => .error f
      | .ok more => .ok (shown :: more)

def plainColumns : List (List (List Char)) → Except Failure (List (List (List Char)))
  | [] => .ok []
  | cells :: rest =>
    match plainCells cells with
    | .error f => .error f
    | .ok shown =>
      match plainColumns rest with
      | .error f => .error f
      | .ok more => .ok (shown :: more)

def render (most : Nat) (t : Table) : Except Failure (List (List Char)) :=
  let columns := (List.range t.head.length).map fun i => t.rows.map fun row => row.getD i []
  match plainColumns columns with
  | .error f => .error f
  | .ok shown =>
    match Markup.plain t.title with
    | .error f => .error f
    | .ok title =>
      let rows := (List.range t.rows.length).map fun i => shown.map fun cells => cells.getD i []
      .ok (lines most ⟨title, t.head, rows⟩)

end Table

end GuardedAutomata.Terminal
