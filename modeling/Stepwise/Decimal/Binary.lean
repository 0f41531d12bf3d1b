namespace Stepwise.Decimal

/-- A finite magnitude `mantissa · 2 ^ exponent`, with the mantissa below `2 ^ 53`. -/
structure Binary where
  mantissa : Nat
  exponent : Int

/-- The least mantissa that has all its digits, `2 ^ 52`. -/
def Binary.leastFull : Nat := 0x10000000000000

/-- The magnitude of a finite number, from its 64 bits. -/
def Binary.ofBits (bits : Nat) : Binary :=
  let fraction : Nat := bits % leastFull
  let biased : Nat := bits / leastFull % 0x800
  if biased == 0 then ⟨fraction, -1074⟩ else ⟨fraction + leastFull, (biased : Int) - 1075⟩

/-- The sign bit of a number is set. -/
def isNegative (x : Float) : Bool :=
  x.toBits.toNat / 0x8000000000000000 == 1

/-- A finite number as an exact fraction. -/
def ratio? (x : Float) : Option (Int × Nat) :=
  if x.isNaN || x.isInf then none
  else
    let b := Binary.ofBits x.toBits.toNat
    let size : Int := b.mantissa * Nat.pow 2 b.exponent.toNat
    some (if isNegative x then -size else size, Nat.pow 2 (-b.exponent).toNat)

/-- The whole part of a finite number. -/
def truncate? (x : Float) : Option Int :=
  (ratio? x).map fun (numerator, denominator) => numerator.tdiv denominator

end Stepwise.Decimal
