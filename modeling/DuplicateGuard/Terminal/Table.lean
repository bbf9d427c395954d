import DuplicateGuard.Number.Double
import DuplicateGuard.Terminal.Lines

/-!
Panels and tables. A column is as wide as its widest cell, as long as the table fits on the terminal;
otherwise the widest columns give way first.
-/

set_option autoImplicit false

namespace DuplicateGuard.Terminal

def bar (count : Nat) : List Char :=
  List.replicate count '─'

def titleBar (size : Nat) (title : List Char) : List Char :=
  let shown := truncate .fold size (' ' :: title ++ [' '])
  let free := size - width shown
  bar (free / 2) ++ shown ++ bar (free - free / 2)

def panel (size : Nat) (title text : List Char) : List (List Char) :=
  let inside := ({} : Layout).filled (size - 4) text
  ('╭' :: '─' :: titleBar (size - 4) title ++ ['─', '╮']) ::
    inside.map (fun line => '│' :: ' ' :: line ++ [' ', '│']) ++
    ['╰' :: bar (size - 2) ++ ['╯']]

structure Rule where
  left : Char
  fill : Char
  crossing : Char
  right : Char

structure Frame where
  top : Rule
  underHeader : Rule
  bottom : Rule
  left : Char
  between : Char
  right : Char

def Frame.rounded : Frame :=
  { top := ⟨'╭', '─', '┬', '╮'⟩
    underHeader := ⟨'├', '─', '┼', '┤'⟩
    bottom := ⟨'╰', '─', '┴', '╯'⟩
    left := '│', between := '│', right := '│' }

def Frame.open : Frame :=
  { top := ⟨' ', ' ', ' ', ' '⟩
    underHeader := ⟨' ', '─', '─', ' '⟩
    bottom := ⟨' ', ' ', ' ', ' '⟩
    left := ' ', between := ' ', right := ' ' }

structure Column where
  header : List Char
  alignment : Alignment := .left
  unbroken : Bool := false
  cells : List (List Char)

def Column.layout (column : Column) : Layout :=
  { overflow := .ellipsis, unbroken := column.unbroken, alignment := column.alignment }

structure Table where
  frame : Frame
  columns : List Column

def breaksLine (c : Char) : Bool :=
  [0x0A, 0x1C, 0x1D, 0x1E, 0x85, 0x2028, 0x2029].contains c.toNat

def textWidth (cs : List Char) : Nat :=
  ((Text.splitWhere breaksLine (withoutControls cs)).map width).foldl max 0

def Column.wanted (limit : Nat) (column : Column) : Nat :=
  if limit ≤ 2 then limit
  else
    let texts := column.header :: column.cells
    min limit ((texts.map fun text => textWidth text + 2).foldl max 0)

namespace Table

def rows (table : Table) : List (List (List Char)) :=
  let height := (table.columns.map fun column => column.cells.length).foldl max 0
  (List.range height).map fun index => table.columns.map fun column => column.cells.getD index []

def frameWidth (table : Table) : Nat :=
  table.columns.length + 1

/-- Takes `total` away from some sizes, in equal shares of at most `most` from those that are marked. -/
def share (total marked most : Nat) : List (Nat × Bool) → List Nat
  | [] => []
  | (size, true) :: rest =>
    let part := min most (roundQuotient total marked)
    (size - part) :: share (total - part) (marked - 1) most rest
  | (size, false) :: rest => size :: share total marked most rest

def sideBySide (sizes : List Nat) : Nat :=
  sizes.foldr (· + ·) 0

/-- Makes the widest of the columns that may give way narrower until the excess is gone or all these
columns are equally wide. -/
def narrow (limit : Nat) (yielding : List Bool) : Nat → List Nat → List Nat
  | 0, sizes => sizes
  | rounds + 1, sizes =>
    let excess := sideBySide sizes - limit
    let soft := ((sizes.zip yielding).filter Prod.snd).map Prod.fst
    let widest := soft.foldl max 0
    let second := (soft.filter (· ≠ widest)).foldl max 0
    if excess = 0 ∨ soft.isEmpty ∨ widest = second then sizes
    else
      let marks := (sizes.zip yielding).map fun (size, gives) => (size, gives && size == widest)
      let count := marks.countP Prod.snd
      narrow limit yielding rounds (share excess count (min excess (widest - second)) marks)

def cutEvenly (excess count : Nat) : List Nat → List Nat
  | [] => []
  | size :: rest =>
    if size = 0 then 0 :: cutEvenly excess count rest
    else
      let part := min size (roundQuotient excess count)
      (size - part) :: cutEvenly (excess - part) (count - 1) rest

def widths (table : Table) (size : Nat) : List Nat :=
  let limit := size - table.frameWidth
  let natural := table.columns.map (Column.wanted limit)
  if sideBySide natural ≤ limit then natural
  else
    let narrowed := narrow limit (table.columns.map (!·.unbroken)) (sideBySide natural) natural
    let cut := if sideBySide narrowed ≤ limit then narrowed
      else cutEvenly (sideBySide narrowed - limit) (narrowed.countP (0 < ·)) narrowed
    (table.columns.zip cut).map fun (column, room) => column.wanted room

def ruleLine (rule : Rule) (sizes : List Nat) : List Char :=
  let parts := sizes.map fun size => List.replicate size rule.fill
  rule.left :: (parts.intersperse [rule.crossing]).flatten ++ [rule.right]

def cellLines (column : Column) (size : Nat) (text : List Char) : List (List Char) :=
  if size ≤ 2 then []
  else
    (column.layout.filled (size - 2) text).map fun line => ' ' :: fit (size - 2) line ++ [' ']

def rowLines (frame : Frame) (columns : List (Column × Nat)) (row : List (List Char)) :
    List (List Char) :=
  let cells := (columns.zip row).map fun ((column, size), text) =>
    (size, cellLines column size text)
  let height := (cells.map fun entry => entry.2.length).foldl max 1
  (List.range height).map fun index =>
    let parts := cells.map fun (size, lines) => lines.getD index (blanks size)
    frame.left :: (parts.intersperse [frame.between]).flatten ++ [frame.right]

def lines (table : Table) (size : Nat) : List (List Char) :=
  let sizes := table.widths size
  let columns := table.columns.zip sizes
  [ruleLine table.frame.top sizes] ++
    rowLines table.frame columns (table.columns.map Column.header) ++
    [ruleLine table.frame.underHeader sizes] ++
    table.rows.flatMap (rowLines table.frame columns) ++
    [ruleLine table.frame.bottom sizes]

def titledLines (title : List Char) (table : Table) (size : Nat) : List (List Char) :=
  let whole := sideBySide (table.widths size) + table.frameWidth
  ({ alignment := .center } : Layout).filled whole title ++ table.lines size

end Table

end DuplicateGuard.Terminal
