import Stepwise.Text.Ranges

namespace Stepwise.Text

/-- The blank code points: spaces, line and paragraph ends, and the four separators below the
    space. -/
def blankRanges : Ranges := ⟨[(0x9, 0xd), (0x1c, 0x20), (0x85, 0x85), (0xa0, 0xa0),
  (0x1680, 0x1680), (0x2000, 0x200a), (0x2028, 0x2029), (0x202f, 0x202f), (0x205f, 0x205f),
  (0x3000, 0x3000)]⟩

def isBlank (c : Char) : Bool :=
  blankRanges.contains c

/-- The blanks of the ASCII range that numerals may be surrounded by. -/
def isAsciiBlank (c : Char) : Bool :=
  c == ' ' || ('\t' ≤ c && c ≤ '\r')

/-- Drops what satisfies `p` from both ends. -/
def trimChars (p : Char → Bool) (cs : List Char) : List Char :=
  ((cs.dropWhile p).reverse.dropWhile p).reverse

/-- The text without the blanks at its two ends. -/
def trim (s : String) : String :=
  String.ofList (trimChars isBlank s.toList)

theorem isBlank_of_isAsciiBlank {c : Char} (hblank : isAsciiBlank c = true) : isBlank c = true := by
  simp only [isAsciiBlank, Bool.or_eq_true, beq_iff_eq, Bool.and_eq_true, decide_eq_true_eq] at hblank
  rcases hblank with rfl | ⟨hlow, hhigh⟩
  · decide
  · have hlow' : 9 ≤ c.toNat := hlow
    have hhigh' : c.toNat ≤ 13 := hhigh
    simp [isBlank, Ranges.contains, blankRanges, hlow', hhigh']

end Stepwise.Text
