import Stepwise.Console.Markup
import Stepwise.Console.Width

namespace Stepwise.Console

/-- Controls that ring, go back or break the page are not shown. -/
private def isSilent (c : Char) : Bool :=
  c == '\x07' || c == '\x08' || c == '\x0b' || c == '\x0c' || c == '\r'

/-- How far apart the tab stops are. -/
def tabSize : Nat := 8

/-- Replaces tabs by the spaces up to the next stop. -/
def untabbed : (column : Nat) → List Char → List Char
  | _, [] => []
  | _, '\n' :: rest => '\n' :: untabbed 0 rest
  | column, '\t' :: rest =>
    let next := (column / tabSize + 1) * tabSize
    List.replicate (next - column) ' ' ++ untabbed next rest
  | column, c :: rest => c :: untabbed (column + cellsOf c) rest

/-- The characters of a text that are not dropped. -/
def kept (s : String) : List Char :=
  s.toList.filter (!isSilent ·)

/-- A text as the console shows it. -/
def plain (s : String) : String :=
  String.ofList (untabbed 0 (kept s))

/-- A text with markup as the console shows it. -/
def styled (s : String) : Except MarkupFault String :=
  (Markup.shown s).map plain

end Stepwise.Console
