import Stepwise.Text.Compatibility.Table

namespace Stepwise.Text

/-- Characters of names that stand for one plain character. -/
def plainRuns : List (Nat × Nat × Nat) :=
  plainLetterRuns ++ plainIdeographRuns ++ furtherIdeographRuns

/-- The class of a mark, zero for any other character. -/
def markClass (c : Char) : Nat :=
  if c.toNat < 0x300 then 0
  else ((markClasses.find? fun (first, last, _) => first ≤ c.toNat && c.toNat ≤ last).map
    fun (_, _, k) => k).getD 0

/-- Takes a marked character apart, at most `depth` times. -/
private def unmarked : (depth : Nat) → Nat → List Nat
  | 0, n => [n]
  | depth + 1, n => match markedPairs.lookup n with
    | some (base, mark) => unmarked depth base ++ [mark]
    | none => [n]

/-- The plain characters that a character stands for. No mark is put on more than three times. -/
def plainForm (c : Char) : List Char :=
  if c.toNat < 0x80 then [c]
  else
    let n := c.toNat
    let inRuns := plainRuns.find? fun (first, last, _) => first ≤ n && n ≤ last
    let codes := match inRuns, plainExpansions.lookup n with
      | some (first, _, target), _ => [target + (n - first)]
      | none, some codes => codes
      | none, none => unmarked 3 n
    codes.map Char.ofNat

/-- Puts a mark before the marks of higher classes that end the text, which is read backwards. -/
private def settle (c : Char) : List Char → List Char
  | [] => [c]
  | d :: before =>
    if markClass c != 0 && markClass c < markClass d then d :: settle c before else c :: d :: before

/-- Two letters of a syllable, or the syllable and its last letter, as one syllable. -/
private def syllable? (a b : Nat) : Option Nat :=
  if 0x1100 ≤ a && a < 0x1113 && 0x1161 ≤ b && b < 0x1176 then
    some (0xac00 + ((a - 0x1100) * 21 + (b - 0x1161)) * 28)
  else if 0xac00 ≤ a && a < 0xd7a4 && (a - 0xac00) % 28 == 0 && 0x11a8 ≤ b && b < 0x11c3 then
    some (a + (b - 0x11a7))
  else none

/-- The one character that two are together. -/
def marked? (a b : Char) : Option Char :=
  let pair := markedPairs.find? fun (_, base, mark) => base == a.toNat && mark == b.toNat
  ((syllable? a.toNat b.toNat).or (pair.map Prod.fst)).map Char.ofNat

/-- Puts marks on the character `base` before them. A mark that stays by itself is kept among those
    `between`, last first; one of its class or a higher one keeps others from getting past. -/
private def compose : (base : Option Char) → (between : List Char) → List Char → List Char
  | base, between, [] => base.toList ++ between.reverse
  | base, between, c :: rest =>
    let isFree := match between with
      | [] => true
      | d :: _ => markClass d < markClass c
    match if isFree then base.bind (marked? · c) else none with
    | some whole => compose (some whole) between rest
    | none =>
      if markClass c == 0 then base.toList ++ between.reverse ++ compose (some c) [] rest
      else compose base (c :: between) rest

/-- The text with each character replaced by the plain ones it stands for, and with marks put on the
    characters before them where there is one character for both. -/
def compatible (s : String) : String :=
  if s.toList.all (·.toNat < 0x80) then s
  else
    let plain := s.toList.flatMap plainForm
    String.ofList (compose none [] (plain.foldl (fun before c => settle c before) []).reverse)

end Stepwise.Text
