import Stepwise.Text.CharName.Table

namespace Stepwise.Text

/-- The character with a standard name, in any case of letters. -/
def charNamed? (name : String) : Option Char :=
  let wanted := String.ofList (name.toList.map Char.toUpper)
  charNameRuns.findSome? fun (first, names) =>
    (names.findIdx? (· == wanted)).map fun n => Char.ofNat (first + n)

end Stepwise.Text
