import Stepwise.Console.Print
import Stepwise.Console.Wrap

namespace Stepwise.Console

/-- A table with a title and a row of headings. The cells of a row stand under the headings. -/
structure Grid where
  title : String
  /-- The headings, and whether their columns are aligned to the right. -/
  headings : List (String × Bool)
  rows : List (List String)

namespace Grid

private def partsAt (isEnd : Char → Bool) : List Char → List (List Char)
  | [] => [[]]
  | c :: rest =>
    if isEnd c then [] :: partsAt isEnd rest
    else match partsAt isEnd rest with
      | part :: more => (c :: part) :: more
      | [] => [[c]]

/-- Lines are measured between any two characters that may end one. -/
private def endsLine (c : Char) : Bool :=
  c == '\n' || ('\x1c' ≤ c && c ≤ '\x1e') || c == '\u0085' || c == '\u2028' || c == '\u2029'

/-- How wide a column has to be for a cell. Tabs do not count. -/
private def room (cell : List Char) : Nat :=
  ((partsAt endsLine cell).map width).foldl max 0

/-- The lines of a cell in a column of a width. -/
private def linesOf (w : Nat) (cell : List Char) : List (List Char) :=
  (partsAt (· == '\n') cell).flatMap fun line => wrap w (untabbed 0 line)

private def blanks (n : Nat) : List Char := List.replicate n ' '

/-- Fills a line up to a width. -/
def fill (toRight : Bool) (w : Nat) (line : List Char) : List Char :=
  if toRight then blanks (w - width line) ++ line else line ++ blanks (w - width line)

theorem width_blanks (n : Nat) : width (blanks n) = n := by
  have hspace : cellsOf ' ' = 1 := by decide +kernel
  induction n with
  | zero => rfl
  | succ n ih =>
    simp only [blanks] at ih
    simp [blanks, List.replicate_succ, width, hspace, ih, Nat.add_comm]

theorem width_fill {w : Nat} {line : List Char} (toRight : Bool) (hline : width line ≤ w) :
    width (fill toRight w line) = w := by
  cases toRight <;> simp [fill, width_blanks] <;> omega

/-- A row of the table, as high as its highest cell. -/
private def row (edge : Char) (divider : List Char) (columns : List (Bool × Nat))
    (cells : List (List Char)) : List (List Char) :=
  let cells := (columns.zip cells).map fun ((_, w), cell) => linesOf w cell
  let height := (cells.map List.length).foldl max 1
  (List.range height).map fun n =>
    let filled := (columns.zip cells).map fun ((toRight, w), cell) =>
      ' ' :: fill toRight w (cell.getD n []) ++ [' ']
    edge :: divider.intercalate filled ++ [edge]

private def rule (left line cross right : Char) (columns : List (Bool × Nat)) : List Char :=
  left :: [cross].intercalate (columns.map fun (_, w) => List.replicate (w + 2) line) ++ [right]

private def centered (w : Nat) (line : List Char) : List Char :=
  let line := blanks ((w - width line) / 2) ++ line
  fill false w line

/-- The lines of a table. Each column is as wide as its widest cell. -/
def write (g : Grid) : Except MarkupFault String := do
  let cells ← g.rows.mapM fun cells => cells.mapM fun cell => (Markup.shown cell).map kept
  let headings := g.headings.map fun (heading, _) => heading.toList
  let columns := g.headings.zipIdx.map fun ((_, toRight), n) =>
    (toRight, ((headings :: cells).map fun row => room (row.getD n [])).foldl max 0)
  let head := rule '┏' '━' '┳' '┓' columns
  let all := [centered (width head) g.title.toList, head] ++ row '┃' ['┃'] columns headings ++
    [rule '┡' '━' '╇' '┩' columns] ++ cells.flatMap (row '│' ['│'] columns) ++
    [rule '└' '─' '┴' '┘' columns]
  return String.join (all.map fun line => String.ofList line ++ "\n")

end Grid

end Stepwise.Console
