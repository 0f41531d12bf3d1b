import Stepwise.Text.Case.Table

namespace Stepwise.Text

private def partnerIn (runs : List CaseRun) (c : Char) : Char :=
  ((runs.findSome? (·.partner? c.toNat)).map Char.ofNat).getD c

/-- The capital form of a letter, which may take several letters. -/
def upperChar (c : Char) : List Char :=
  if c.toNat < 0x80 then [c.toUpper]
  else match upperExpansions.find? (·.1 == c.toNat) with
    | some (_, codes) => codes.map Char.ofNat
    | none => [partnerIn upperRuns c]

/-- The nearest character that is not looked through has a case. -/
private def casedBeyondMarks (cs : List Char) : Bool :=
  match cs.dropWhile caseIgnorableRanges.contains with
  | [] => false
  | c :: _ => casedRanges.contains c

/-- The small form of a letter between `before`, nearest first, and `after`: a capital sigma that
    ends a word becomes the final small sigma. -/
def lowerChar (before : List Char) (c : Char) (after : List Char) : List Char :=
  if c.toNat < 0x80 then [c.toLower]
  else if c == 'Σ' then
    if casedBeyondMarks before && !casedBeyondMarks after then ['ς'] else ['σ']
  else if c == '\u0130' then ['i', '\u0307']
  else [partnerIn lowerRuns c]

private def lowerFrom (before : List Char) : List Char → List Char
  | [] => []
  | c :: after => lowerChar before c after ++ lowerFrom (c :: before) after

/-- The text in small letters. -/
def lower (s : String) : String :=
  String.ofList (lowerFrom [] s.toList)

/-- The text in capital letters. -/
def upper (s : String) : String :=
  String.ofList (s.toList.flatMap upperChar)

end Stepwise.Text
