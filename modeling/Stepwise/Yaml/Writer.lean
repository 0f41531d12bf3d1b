import Stepwise.Decimal.Shortest
import Stepwise.Text.Base64
import Stepwise.Value.Display
import Stepwise.Yaml.Cursor

namespace Stepwise.Yaml

private def hexDigits (width n : Nat) : String :=
  let digits := Nat.toDigits 16 n
  String.ofList (List.replicate (width - digits.length) '0' ++ digits)

private def escapedChar (c : Char) : String :=
  if c == '"' then "\\\""
  else if c == '\\' then "\\\\"
  else if c == '\n' then "\\n"
  else if c == '\t' then "\\t"
  else if printableRanges.contains c && !isBreak c && c != '\ufeff' then String.singleton c
  else if c.toNat < 0x100 then "\\x" ++ hexDigits 2 c.toNat
  else if c.toNat < 0x10000 then "\\u" ++ hexDigits 4 c.toNat
  else "\\U" ++ hexDigits 8 c.toNat

/-- A text in double quotes, on one line. -/
def writeText (s : String) : String :=
  "\"" ++ String.join (s.toList.map escapedChar) ++ "\""

/-- A number with a point, or the name of one. -/
def writeFloat (x : Float) : String :=
  if x.isNaN then ".nan"
  else if x.isInf then if x < 0.0 then "-.inf" else ".inf"
  else
    let s := Decimal.ofFloat x
    if s.contains '.' then s
    else String.ofList (s.toList.takeWhile (· != 'e')) ++ ".0" ++
      String.ofList (s.toList.dropWhile (· != 'e'))

mutual

/-- A value on one line; collections are in brackets. -/
def writeFlow : Value → String
  | .null => "null"
  | .bool b => if b then "true" else "false"
  | .int n => toString n
  | .float x => writeFloat x
  | .text s => writeText s
  | .bytes bs => "!!binary \"" ++ String.ofList (Text.writeBase64 bs) ++ "\""
  | .moment m => m.display " "
  | .list items => "[" ++ ", ".intercalate (writeItems items) ++ "]"
  | .map entries => "\x7b" ++ ", ".intercalate (writeEntries entries) ++ "\x7d"
  | .set members => "!!set \x7b" ++ ", ".intercalate (writeMembers members) ++ "\x7d"

def writeItems : List Value → List String
  | [] => []
  | item :: rest => writeFlow item :: writeItems rest

def writeEntries : List (Value × Value) → List String
  | [] => []
  | (key, value) :: rest => ("? " ++ writeFlow key ++ " : " ++ writeFlow value) :: writeEntries rest

def writeMembers : List Value → List String
  | [] => []
  | member :: rest => ("? " ++ writeFlow member ++ " ") :: writeMembers rest

end

/-! ### Order of keys -/

private inductive KeyRank where
  | number (numerator : Int) (denominator : Nat)
  | text (s : String)
  | day (number : Nat)

private def rank? : Value → Option KeyRank
  | .bool b => some (.number (if b then 1 else 0) 1)
  | .int n => some (.number n 1)
  | .float x => (Decimal.ratio? x).map fun (n, d) => .number n d
  | .text s => some (.text s)
  | .moment ⟨year, month, day, none⟩ => some (.day ((year * 16 + month) * 32 + day))
  | _ => none

private def KeyRank.le? : KeyRank → KeyRank → Option Bool
  | number n d, number m e => some (n * e ≤ m * d)
  | text s, text t => some (s ≤ t)
  | day a, day b => some (a ≤ b)
  | _, _ => none

/-- The entries in the order of their keys, or as they are if the keys have no common order. -/
def sortEntries (entries : List (Value × Value)) : List (Value × Value) :=
  match entries.mapM fun entry => (rank? entry.1).map (·, entry) with
  | none => entries
  | some ranked =>
    if ranked.all fun (a, _) => ranked.all fun (b, _) => (a.le? b).isSome then
      (ranked.mergeSort fun (a, _) (b, _) => (a.le? b).getD true).map Prod.snd
    else entries

/-- A document that is a mapping and not empty: one line for each key, and one for its value. -/
def writeMapping (entries : List (Value × Value)) : String :=
  String.join ((sortEntries entries).map fun (key, value) =>
    "? " ++ writeFlow key ++ "\n: " ++ writeFlow value ++ "\n")

end Stepwise.Yaml
