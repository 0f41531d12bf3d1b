import Stepwise.Decimal.Binary

namespace Stepwise.Decimal

/-- The decimal magnitude `digits · 10 ^ exponent`. -/
structure Scaled where
  digits : Nat
  exponent : Int
deriving DecidableEq

/-- Quarters of the last place: below the magnitude, down to the border of the numbers that round
    to it. The gap to the next smaller number halves where the mantissa is a power of two. -/
def Binary.below (b : Binary) : Nat :=
  if b.mantissa == leastFull && -1074 < b.exponent then 1 else 2

/-- The multiple of `10 ^ exponent` nearest to the magnitude, an exact tie going to the even one,
    provided that it rounds back to the magnitude. -/
def Binary.onGrid? (b : Binary) (exponent : Int) : Option Scaled :=
  let scale := Nat.pow 2 (b.exponent - 2).toNat * Nat.pow 10 (-exponent).toNat
  let unit := Nat.pow 2 (2 - b.exponent).toNat * Nat.pow 10 exponent.toNat
  let exact := 4 * b.mantissa * scale
  let low := (4 * b.mantissa - b.below) * scale
  let high := (4 * b.mantissa + 2) * scale
  let inside (n : Nat) : Bool :=
    if b.mantissa % 2 == 0 then low ≤ n * unit && n * unit ≤ high
    else low < n * unit && n * unit < high
  let floor := exact / unit
  let twice := 2 * (exact - floor * unit)
  let first := if twice < unit || (twice == unit && floor % 2 == 0) then floor else floor + 1
  let second := if first == floor then floor + 1 else floor
  if 0 < first && inside first then some ⟨first, exponent⟩
  else if 0 < second && inside second then some ⟨second, exponent⟩
  else none

/-- The first hit on the grids `exponent`, `exponent - 1`, …, of which `tries` are searched. -/
def Binary.firstOnGrid (b : Binary) : (tries : Nat) → (exponent : Int) → Scaled
  | 0, exponent => ⟨0, exponent⟩
  | tries + 1, exponent =>
    match b.onGrid? exponent with
    | some hit => hit
    | none => b.firstOnGrid tries (exponent - 1)

/-- The coarsest decimal grid is searched first, so no decimal with fewer digits rounds to the
    magnitude; of that grid the nearest point is taken. -/
def Binary.shortest (b : Binary) : Scaled :=
  let top := ((b.exponent + Nat.log2 b.mantissa + 1) * 30103).fdiv 100000 + 1
  b.firstOnGrid 24 top

/-- How a number is laid out. -/
structure Layout where
  /-- Least and greatest position of the point, counted from the first digit, at which no exponent
      is written. -/
  leastPoint : Int
  greatestPoint : Int
  /-- Least number of digits of a written exponent. -/
  exponentDigits : Nat

/-- Numbers from `0.0001` up to `10 ^ 16` are written without an exponent, whole ones with `.0`;
    an exponent has a sign and at least two digits. -/
def plainLayout : Layout := ⟨-3, 16, 2⟩

private def padLeft (width : Nat) (cs : List Char) : List Char :=
  List.replicate (width - cs.length) '0' ++ cs

/-- The digits of a magnitude with its point or its exponent. -/
def Layout.write (layout : Layout) (s : Scaled) : List Char :=
  let digits := Nat.toDigits 10 s.digits
  let point : Int := digits.length + s.exponent
  if layout.leastPoint ≤ point && point ≤ layout.greatestPoint then
    if point ≤ 0 then '0' :: '.' :: List.replicate (-point).toNat '0' ++ digits
    else if digits.length ≤ point.toNat then
      digits ++ List.replicate (point.toNat - digits.length) '0' ++ ['.', '0']
    else digits.take point.toNat ++ '.' :: digits.drop point.toNat
  else
    let lead := match digits with
      | [d] => [d]
      | d :: rest => d :: '.' :: rest
      | [] => []
    let shift := point - 1
    lead ++ 'e' :: (if shift < 0 then '-' else '+') ::
      padLeft layout.exponentDigits (Nat.toDigits 10 shift.natAbs)

/-- The fewest digits that read back as the number. -/
def ofFloat (x : Float) : String :=
  let magnitude :=
    if x.isNaN then "nan".toList
    else if x.isInf then "inf".toList
    else
      let b := Binary.ofBits x.toBits.toNat
      if b.mantissa == 0 then "0.0".toList else plainLayout.write b.shortest
  String.ofList (if isNegative x && !x.isNaN then '-' :: magnitude else magnitude)

end Stepwise.Decimal
