import Stepwise.Console.Width
import Stepwise.Text.Blank

/-! Breaking a line into shorter ones between its words. -/

namespace Stepwise.Console

private def wordsFrom : (word : List Char) → (isOver : Bool) → List Char → List (List Char)
  | word, _, [] => if word.all Text.isBlank then [] else [word.reverse]
  | word, isOver, c :: rest =>
    if Text.isBlank c then wordsFrom (c :: word) (!word.all Text.isBlank) rest
    else if isOver then word.reverse :: wordsFrom [c] false rest
    else wordsFrom (c :: word) false rest

/-- The words of a line, each with the blanks after it, and the first with those before it. -/
def words (line : List Char) : List (List Char) := wordsFrom [] false line

private def withoutEnd (line : List Char) : List Char :=
  (line.reverse.dropWhile Text.isBlank).reverse

/-- Puts words on lines. A word that does not fit begins a new line, even if it fits on none. -/
private def broken (w : Nat) : (line : List Char) → List (List Char) → List (List Char)
  | line, [] => [line]
  | line, word :: rest =>
    if line.isEmpty || width line + width (withoutEnd word) ≤ w then broken w (line ++ word) rest
    else line :: broken w word rest

/-- Drops blanks at the end of a line as far as it has more than `n` characters. -/
private def trimmedTo (n : Nat) (line : List Char) : List Char :=
  let blanks := line.length - (withoutEnd line).length
  line.take (line.length - min blanks (line.length - n))

/-- The longest part of a line that takes no more than `w` cells; half a character is a blank. -/
def crop : (w : Nat) → List Char → List Char
  | _, [] => []
  | w, c :: rest =>
    if cellsOf c ≤ w then c :: crop (w - cellsOf c) rest else List.replicate w ' '

/-- Cuts a line that takes more than `w` cells, and puts three dots into its last cell. -/
def cut (w : Nat) (line : List Char) : List Char :=
  if width line ≤ w then line else crop (w - 1) line ++ ['…']

/-- A line as lines that take no more than `w` cells. -/
def wrap (w : Nat) (line : List Char) : List (List Char) :=
  match words line with
  | [] => [cut w (trimmedTo w line)]
  | ws => (broken w [] ws).map fun line => cut w (trimmedTo w line)

end Stepwise.Console
