/-!
# Text tables and wrapped text

Terminal output is laid out at a fixed width.  Text is broken into lines between words: a word
that does not fit on the current line starts the next one; a word longer than a whole line is
either cut into pieces of the line width (plain text) or put on a line of its own and shortened
with an ellipsis (table cells).

A table is drawn with box characters: a heavy frame around the header, light lines around the
body, one space of padding on each side of every cell.  Each column is as wide as its widest
entry.  When the table would be wider than the terminal, the widest columns are narrowed first,
down to the width of the next widest, until it fits; if that is not enough, every column gives up
an equal share.  A title is centred over the table.
-/

namespace Tactician
namespace Command

/-- How a column's text is aligned. -/
inductive Align where
  /-- Against the left edge. -/
  | left
  /-- Against the right edge. -/
  | right
  /-- In the middle, an odd space going to the right. -/
  | center
  deriving DecidableEq, Repr

/-- A column of a table. -/
structure Column where
  /-- The header. -/
  header : String
  /-- The alignment of its entries. -/
  align : Align := .left
  deriving Repr

/-- A table: an optional title, columns and rows of entries. -/
structure Table where
  /-- The title, centred above. -/
  title : Option String := none
  /-- The columns. -/
  columns : List Column
  /-- The rows, one entry per column. -/
  rows : List (List String)
  deriving Repr

/-- The words of a line, each with the blanks that follow it (the first also with the blanks
before it), and where each starts. -/
def wordSpans (cs : List Char) : List (Nat × List Char) :=
  let lead := cs.takeWhile Char.isWhitespace
  go 0 lead (cs.drop lead.length) false
where
  /-- `cur` is the word being read, starting at `start`; `trailing` says whether its blanks have
  begun. -/
  go (start : Nat) (cur : List Char) : List Char → Bool → List (Nat × List Char)
    | [], _ => if cur.all Char.isWhitespace then [] else [(start, cur)]
    | c :: rest, trailing =>
      if c.isWhitespace then go start (cur ++ [c]) rest true
      else if trailing then (start, cur) :: go (start + cur.length) [c] rest false
      else go start (cur ++ [c]) rest false

/-- The sum of a list of widths. -/
def total (ws : List Nat) : Nat := ws.foldr (· + ·) 0

/-- Pieces of `width` characters of a word, the last one possibly shorter. -/
def chop (cs : List Char) (width : Nat) : List (List Char) :=
  if width = 0 then [cs]
  else if cs.length ≤ width then [cs]
  else cs.take width :: chop (cs.drop width) width
termination_by cs.length
decreasing_by simp only [List.length_drop]; omega

/-- Where to break a line of text to fit `width`: before each word that does not fit on the
current line.  A word longer than `width` is cut into pieces when `fold`, else it gets a line of
its own. -/
def breakPositions (cs : List Char) (width : Nat) (fold : Bool) : List Nat :=
  let step (acc : List Nat × Nat) (span : Nat × List Char) : List Nat × Nat :=
    let (breaks, used) := acc
    let (start, word) := span
    let wordLength := (word.reverse.dropWhile Char.isWhitespace).length
    if width ≥ used + wordLength then (breaks, used + word.length)
    else if wordLength > width then
      if fold then
        let pieces := chop word width
        let (breaks', _) := pieces.dropLast.foldl (fun (acc : List Nat × Nat) piece =>
          ((if acc.2 > 0 then acc.1 ++ [acc.2] else acc.1), acc.2 + piece.length))
          (breaks, start)
        let lastStart := start + total (pieces.dropLast.map List.length)
        ((if lastStart > 0 then breaks' ++ [lastStart] else breaks'),
          (pieces.getLast?.map List.length).getD 0)
      else ((if start > 0 then breaks ++ [start] else breaks), word.length)
    else (breaks ++ [start], word.length)
  ((wordSpans cs).foldl step ([], 0)).1

/-- Cut a list at the given ascending positions. -/
def cutAt (cs : List Char) (positions : List Nat) : List (List Char) :=
  let bounds := 0 :: positions
  let ends := positions ++ [cs.length]
  (bounds.zip ends).map fun (a, b) => (cs.drop a).take (b - a)

/-- Drop trailing blanks that reach past `width`. -/
def cropTrailing (cs : List Char) (width : Nat) : List Char :=
  if cs.length ≤ width then cs
  else
    let trailing := (cs.reverse.takeWhile Char.isWhitespace).length
    cs.take (cs.length - min trailing (cs.length - width))

/-- Shorten a line to `width`, ending it with an ellipsis when something was cut. -/
def ellipsize (cs : List Char) (width : Nat) : List Char :=
  if cs.length ≤ width then cs
  else if width = 0 then []
  else cs.take (width - 1) ++ ['…']

/-- Spaces. -/
def spaces (n : Nat) : String := String.ofList (List.replicate n ' ')

/-- Align a line within `width`. -/
def alignLine (align : Align) (width : Nat) (cs : List Char) : String :=
  match align with
  | .left =>
    let t := ellipsize cs width
    String.ofList t ++ spaces (width - t.length)
  | .right =>
    let t := ellipsize (cs.reverse.dropWhile Char.isWhitespace).reverse width
    spaces (width - t.length) ++ String.ofList t
  | .center =>
    let t := ellipsize (cs.reverse.dropWhile Char.isWhitespace).reverse width
    let left := (width - t.length) / 2
    spaces left ++ String.ofList t ++ spaces (width - t.length - left)

/-- The lines of a text broken to `width` and aligned, each exactly `width` wide; words too long
for a line are shortened with an ellipsis. -/
def cellLines (text : String) (width : Nat) (align : Align) : List String :=
  (text.splitOn "\n").flatMap fun line =>
    let cs := line.toList
    (cutAt cs (breakPositions cs width false)).map fun piece =>
      alignLine align width (cropTrailing piece width)

/-- The lines of plain text broken to `width`: long words are cut into pieces, and nothing is
padded. -/
def plainLines (text : String) (width : Nat) : List String :=
  (text.splitOn "\n").flatMap fun line =>
    let cs := line.toList
    (cutAt cs (breakPositions cs width true)).map fun piece =>
      String.ofList (cropTrailing piece width)

/-- Share out a reduction of `reduction` over values by ratios, no value losing more than its
maximum; shares are rounded to the nearest integer, ties to even. -/
def ratioReduce (reduction : Nat) (ratios maximums values : List Nat) : List Nat :=
  let ratios := (ratios.zip maximums).map fun (r, m) => if m == 0 then 0 else r
  let step (acc : List Nat × Nat × Nat) (x : Nat × Nat × Nat) : List Nat × Nat × Nat :=
    let (out, remaining, totalRatio) := acc
    let (ratio, maximum, value) := x
    if ratio > 0 && totalRatio > 0 then
      -- round(ratio * remaining / totalRatio), halves to even
      let num := ratio * remaining
      let q := num / totalRatio
      let r := num % totalRatio
      let share := if 2 * r > totalRatio || (2 * r == totalRatio && q % 2 == 1) then q + 1 else q
      let distributed := min maximum share
      (out ++ [value - distributed], remaining - distributed, totalRatio - ratio)
    else (out ++ [value], remaining, totalRatio)
  if total ratios == 0 then values
  else ((ratios.zip (maximums.zip values)).foldl step ([], reduction, total ratios)).1

/-- Narrow the widest columns, down to the next widest, until the widths fit `limit`. -/
def collapseWidths (widths : List Nat) (limit : Nat) : List Nat :=
  go widths (total widths + 1)
where
  /-- At most `fuel` rounds; each round narrows at least one column by at least one. -/
  go (ws : List Nat) : Nat → List Nat
    | 0 => ws
    | fuel + 1 =>
      let sum := total ws
      if sum ≤ limit then ws
      else
        let excess := sum - limit
        let widest := ws.foldl max 0
        let second := ws.foldl (fun m w => if w != widest then max m w else m) 0
        let difference := widest - second
        let ratios := ws.map fun w => if w == widest then 1 else 0
        if difference == 0 then ws
        else go (ratioReduce excess ratios (ws.map fun _ => min excess difference) ws) fuel

/-- The widths of the columns, padding included, for a terminal `width` wide. -/
def Table.widths (t : Table) (width : Nat) : List Nat :=
  let natural := t.columns.zipIdx.map fun (c, i) =>
    let entries := c.header :: t.rows.map fun r => r.getD i ""
    (entries.flatMap fun e => (e.splitOn "\n").map String.length).foldl max 0 + 2
  let limit := width - (t.columns.length + 1)
  if total natural ≤ limit then natural
  else
    let collapsed := collapseWidths natural limit
    if total collapsed ≤ limit then collapsed
    else ratioReduce (total collapsed - limit) (collapsed.map fun _ => 1) collapsed collapsed

/-- One row of a table: every entry broken into lines, short entries padded with blank lines. -/
def rowLines (columns : List Column) (widths : List Nat) (entries : List String)
    (edge : String) : List String :=
  let cells := (columns.zip widths).zipIdx.map fun ((c, w), i) =>
    (cellLines (entries.getD i "") (w - 2) c.align).map fun l => " " ++ l ++ " "
  let height := cells.foldl (fun m ls => max m ls.length) 0
  (List.range height).map fun k =>
    edge ++ String.intercalate edge ((cells.zip widths).map fun (ls, w) => ls.getD k (spaces w)) ++
      edge

/-- The lines of a table drawn for a terminal `width` wide. -/
def Table.render (t : Table) (width : Nat) : List String :=
  let ws := t.widths width
  let rule (l m r : String) (fill : Char) : String :=
    l ++ String.intercalate m (ws.map fun w => String.ofList (List.replicate w fill)) ++ r
  let full := total ws + t.columns.length + 1
  let title := match t.title with
    | some s =>
      (s.splitOn "\n").flatMap fun line =>
        let cs := line.toList
        (cutAt cs (breakPositions cs full true)).map fun piece =>
          alignLine .center full (cropTrailing piece full)
    | none => []
  let header := rowLines (t.columns.map fun c => { c with }) ws (t.columns.map (·.header)) "┃"
  title ++ [rule "┏" "┳" "┓" '━'] ++ header ++ [rule "┡" "╇" "┩" '━'] ++
    t.rows.flatMap (rowLines t.columns ws · "│") ++ [rule "└" "┴" "┘" '─']

end Command
end Tactician
