import Stepwise.Decimal.Shortest
import Stepwise.Value.Basic

namespace Stepwise.Json

private def hex4 (n : Nat) : List Char :=
  let digits := Nat.toDigits 16 n
  List.replicate (4 - digits.length) '0' ++ digits

private def escaped (c : Char) : List Char :=
  match c with
  | '"' => ['\\', '"']
  | '\\' => ['\\', '\\']
  | '\n' => ['\\', 'n']
  | '\r' => ['\\', 'r']
  | '\t' => ['\\', 't']
  | '\x08' => ['\\', 'b']
  | '\x0c' => ['\\', 'f']
  | c => if c.toNat < 0x20 then '\\' :: 'u' :: hex4 c.toNat else [c]

/-- A text between quotation marks; every character from the space on but two stands for itself. -/
def writeText (s : String) : String :=
  String.ofList ('"' :: s.toList.flatMap escaped ++ ['"'])

private def writeFloat (x : Float) : String :=
  if x.isNaN then "NaN"
  else if x.isInf then (if x < 0.0 then "-Infinity" else "Infinity")
  else Decimal.ofFloat x

/-- The name of an entry: keys that are no texts are written as values. -/
private def keyText : Value → String
  | .text s => s
  | .null => "null"
  | .bool b => if b then "true" else "false"
  | .int n => toString n
  | .float x => writeFloat x
  | _ => ""

mutual

/-- The text of a value, with one space after each comma and each colon. -/
def write : Value → String
  | .null => "null"
  | .bool b => if b then "true" else "false"
  | .int n => toString n
  | .float x => writeFloat x
  | .text s => writeText s
  | .bytes _ => "null"
  | .moment _ => "null"
  | .list items => "[" ++ ", ".intercalate (writeItems items) ++ "]"
  | .set members => "[" ++ ", ".intercalate (writeItems members) ++ "]"
  | .map entries => "\x7b" ++ ", ".intercalate (writeEntries entries) ++ "\x7d"

def writeItems : List Value → List String
  | [] => []
  | item :: rest => write item :: writeItems rest

def writeEntries : List (Value × Value) → List String
  | [] => []
  | (key, value) :: rest => (writeText (keyText key) ++ ": " ++ write value) :: writeEntries rest

end

end Stepwise.Json
