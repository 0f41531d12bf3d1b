import Stepwise.Text.Ranges

namespace Stepwise.Text

/-- The zeros of the decimal digit rows: each row holds ten digits in ascending order. -/
def decimalZeros : List Nat := [
  48, 1632, 1776, 1984, 2406, 2534, 2662, 2790, 2918, 3046, 3174, 3302, 3430, 3558, 3664, 3792,
  3872, 4160, 4240, 6112, 6160, 6470, 6608, 6784, 6800, 6992, 7088, 7232, 7248, 42528, 43216,
  43264, 43472, 43504, 43600, 44016, 65296, 66720, 68912, 69734, 69872, 69942, 70096, 70384,
  70736, 70864, 71248, 71360, 71472, 71904, 72016, 72784, 73040, 73120, 92768, 92864, 93008,
  120782, 120792, 120802, 120812, 120822, 123200, 123632, 125264, 130032]

/-- The value of a decimal digit of any script. -/
def decimalValue? (c : Char) : Option Nat :=
  (decimalZeros.find? fun row => row ≤ c.toNat && c.toNat < row + 10).map (c.toNat - ·)

/-- Digits that stand for a number and are not part of a decimal row: superscripts, circled
    digits and the like. -/
def loneDigitRanges : Ranges := ⟨[(0xb2, 0xb3), (0xb9, 0xb9), (0x1369, 0x1371), (0x19da, 0x19da),
  (0x2070, 0x2070), (0x2074, 0x2079), (0x2080, 0x2089), (0x2460, 0x2468), (0x2474, 0x247c),
  (0x2488, 0x2490), (0x24ea, 0x24ea), (0x24f5, 0x24fd), (0x24ff, 0x24ff), (0x2776, 0x277e),
  (0x2780, 0x2788), (0x278a, 0x2792), (0x10a40, 0x10a43), (0x10e60, 0x10e68), (0x11052, 0x1105a),
  (0x1f100, 0x1f10a)]⟩

def isDigit (c : Char) : Bool :=
  (decimalValue? c).isSome || loneDigitRanges.contains c

theorem exists_row_of_decimalValue? {c : Char} {value : Nat}
    (hvalue : decimalValue? c = some value) :
    ∃ row ∈ decimalZeros, row ≤ c.toNat ∧ c.toNat < row + 10 ∧ value = c.toNat - row := by
  obtain ⟨row, hfind, rfl⟩ := Option.map_eq_some_iff.1 hvalue
  have hrow := List.find?_some hfind
  simp only [Bool.and_eq_true, decide_eq_true_eq] at hrow
  exact ⟨row, List.mem_of_find?_eq_some hfind, hrow.1, hrow.2, rfl⟩

theorem decimalValue?_lt {c : Char} {value : Nat} (hvalue : decimalValue? c = some value) :
    value < 10 := by
  obtain ⟨row, _, _, hhigh, rfl⟩ := exists_row_of_decimalValue? hvalue
  omega

end Stepwise.Text
