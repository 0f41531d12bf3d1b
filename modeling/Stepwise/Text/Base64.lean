namespace Stepwise.Text

private def sextet? (c : Char) : Option Nat :=
  if 'A' ≤ c && c ≤ 'Z' then some (c.toNat - 65)
  else if 'a' ≤ c && c ≤ 'z' then some (c.toNat - 71)
  else if '0' ≤ c && c ≤ '9' then some (c.toNat + 4)
  else if c == '+' then some 62
  else if c == '/' then some 63
  else none

/-- Reads bytes written six bits to a character. Characters outside of the alphabet are skipped;
    the padding has to complete a group of four. -/
def readBase64? (cs : List Char) : Option (List UInt8) :=
  go 0 0 0 [] cs
where
  /-- `count` characters of a group have been read, with the value `bits`, and then `padding`. -/
  go (count bits padding : Nat) (acc : List UInt8) : List Char → Option (List UInt8)
    | [] => if count == 0 then some acc.reverse else none
    | c :: rest =>
      if c == '=' then
        if count < 2 then go count bits padding acc rest
        else if count + padding + 1 < 4 then go count bits (padding + 1) acc rest
        else some acc.reverse
      else match sextet? c with
        | none => go count bits padding acc rest
        | some value =>
          let bits := bits * 64 + value
          match count with
          | 0 => go 1 value 0 acc rest
          | 1 => go 2 (bits % 16) 0 ((bits / 16).toUInt8 :: acc) rest
          | 2 => go 3 (bits % 4) 0 ((bits / 4).toUInt8 :: acc) rest
          | _ => go 0 0 0 (bits.toUInt8 :: acc) rest

private def alphabet : Array Char :=
  "ABCDEFGHIJKLMNOPQRSTUVWXYZabcdefghijklmnopqrstuvwxyz0123456789+/".toList.toArray

private def letter (value : Nat) : Char := alphabet.getD (value % 64) '='

/-- Writes bytes six bits to a character, padded to a multiple of four. -/
def writeBase64 : List UInt8 → List Char
  | a :: b :: c :: rest =>
    let bits := (a.toNat * 256 + b.toNat) * 256 + c.toNat
    letter (bits / 262144) :: letter (bits / 4096) :: letter (bits / 64) :: letter bits ::
      writeBase64 rest
  | [a, b] =>
    let bits := (a.toNat * 256 + b.toNat) * 4
    [letter (bits / 4096), letter (bits / 64), letter bits, '=']
  | [a] => [letter (a.toNat / 4), letter (a.toNat * 16), '=', '=']
  | [] => []

end Stepwise.Text
