import Stepwise.Text.Utf8

namespace Stepwise.Process

/-- How a value is written into a field of a format. -/
structure Field where
  toLeft : Bool
  zeros : Bool
  plus : Bool
  width : Nat
  precision : Option Nat
  conversion : Char

/-- A part of a format. -/
inductive FormatPart where
  | bytes (bs : List UInt8)
  | field (f : Field)
  /-- Nothing is written from here on. -/
  | stop

private def octal (c : Char) : Bool := '0' ≤ c && c ≤ '7'

private def hexValue? (c : Char) : Option Nat :=
  if c.isDigit then some (c.toNat - 48)
  else if 'a' ≤ c && c ≤ 'f' then some (c.toNat - 87)
  else if 'A' ≤ c && c ≤ 'F' then some (c.toNat - 55)
  else none

private def numberOf (base : Nat) (digits : List Char) : Nat :=
  digits.foldl (fun n c => n * base + (hexValue? c).getD 0) 0

/-- What an escape after a backslash stands for, and the rest; none ends the output. -/
def unescape (cs : List Char) : Option (List UInt8) × List Char :=
  match cs with
  | 'a' :: rest => (some [7], rest)
  | 'b' :: rest => (some [8], rest)
  | 'e' :: rest => (some [27], rest)
  | 'f' :: rest => (some [12], rest)
  | 'n' :: rest => (some [10], rest)
  | 'r' :: rest => (some [13], rest)
  | 't' :: rest => (some [9], rest)
  | 'v' :: rest => (some [11], rest)
  | '\\' :: rest => (some [92], rest)
  | '"' :: rest => (some [34], rest)
  | 'c' :: rest => (none, rest)
  | 'x' :: rest =>
    let digits := (rest.take 2).takeWhile fun c => (hexValue? c).isSome
    if digits.isEmpty then (some [92, 120], rest)
    else (some [(numberOf 16 digits).toUInt8], rest.drop digits.length)
  | c :: rest =>
    let digits := ((c :: rest).take 3).takeWhile octal
    if digits.isEmpty then (some (92 :: Text.toBytes (String.singleton c)), rest)
    else (some [(numberOf 8 digits).toUInt8], (c :: rest).drop digits.length)
  | [] => (some [92], [])

private def readField (cs : List Char) : Option (Field × List Char) :=
  let flags := cs.takeWhile fun c => c == '-' || c == '0' || c == '+' || c == ' ' || c == '#'
  let cs := cs.drop flags.length
  let width := cs.takeWhile Char.isDigit
  let cs := cs.drop width.length
  let (precision, cs) := match cs with
    | '.' :: rest =>
      let digits := rest.takeWhile Char.isDigit
      (some (numberOf 10 digits), rest.drop digits.length)
    | _ => (none, cs)
  match cs with
  | c :: rest => some (⟨flags.contains '-', flags.contains '0', flags.contains '+',
      numberOf 10 width, precision, c⟩, rest)
  | [] => none

/-- Reads a format. -/
def readFormat : Nat → List Char → List FormatPart
  | 0, _ | _ + 1, [] => []
  | fuel + 1, '%' :: '%' :: rest => .bytes [37] :: readFormat fuel rest
  | fuel + 1, '%' :: rest => match readField rest with
    | some (field, rest) => .field field :: readFormat fuel rest
    | none => [.bytes [37]]
  | fuel + 1, '\\' :: rest => match unescape rest with
    | (some bs, rest) => .bytes bs :: readFormat fuel rest
    | (none, _) => [.stop]
  | fuel + 1, c :: rest => .bytes (Text.toBytes (String.singleton c)) :: readFormat fuel rest

/-- A text with its escapes carried out. -/
def unescaped : Nat → List Char → List UInt8
  | 0, _ | _ + 1, [] => []
  | fuel + 1, '\\' :: rest => match unescape rest with
    | (some bs, rest) => bs ++ unescaped fuel rest
    | (none, _) => []
  | fuel + 1, c :: rest => Text.toBytes (String.singleton c) ++ unescaped fuel rest

private def padded (f : Field) (bs : List UInt8) : List UInt8 :=
  let gap := f.width - bs.length
  if f.toLeft then bs ++ List.replicate gap 32 else List.replicate gap 32 ++ bs

private def digitsOf (conversion : Char) (n : Nat) : List Char :=
  match conversion with
  | 'o' => Nat.toDigits 8 n
  | 'x' => Nat.toDigits 16 n
  | 'X' => (Nat.toDigits 16 n).map Char.toUpper
  | _ => Nat.toDigits 10 n

private def writeNumber (f : Field) (n : Int) : List UInt8 :=
  let sign := if n < 0 then "-" else if f.plus then "+" else ""
  let digits := digitsOf f.conversion n.natAbs
  let least := match f.precision with
    | some least => least
    | none => if f.zeros && !f.toLeft then f.width - sign.length else 0
  let digits := List.replicate (least - digits.length) '0' ++ digits
  padded f (Text.toBytes (sign ++ String.ofList digits))

private def readNumber (s : String) : Int × Bool :=
  match s.toList with
  | [] => (0, true)
  | '"' :: c :: _ | '\x27' :: c :: _ => (c.toNat, true)
  | cs =>
    let isNegative := cs.head? == some '-'
    let cs := if isNegative || cs.head? == some '+' then cs.drop 1 else cs
    let (base, cs) : Nat × List Char := match cs with
      | '0' :: 'x' :: rest => (16, rest)
      | '0' :: d :: rest => (8, d :: rest)
      | cs => (10, cs)
    let digits := cs.takeWhile fun c => match hexValue? c with
      | some v => v < base
      | none => false
    let n : Int := numberOf base digits
    (if isNegative then -n else n, digits.length == cs.length && !digits.isEmpty)

/-- Writes one value into a field; false if it is not what the field is for. -/
def writeField (f : Field) (s : String) : List UInt8 × Bool :=
  match f.conversion with
  | 's' => (padded f ((Text.toBytes s).take (f.precision.getD (Text.toBytes s).length)), true)
  | 'b' => (padded f (unescaped (s.length + 1) s.toList), true)
  | 'c' => (padded f ((Text.toBytes s).take 1), true)
  | 'd' | 'i' | 'u' | 'o' | 'x' | 'X' =>
    let (n, isGood) := readNumber s
    (writeNumber f n, isGood)
  | _ => ([], false)

private def pass : List FormatPart → List String → List UInt8 × List String × List String × Bool
  | [], args => ([], args, [], false)
  | .stop :: _, args => ([], args, [], true)
  | .bytes bs :: rest, args =>
    let (out, args, bad, isOver) := pass rest args
    (bs ++ out, args, bad, isOver)
  | .field f :: rest, args =>
    let (here, isGood) := writeField f (args.headD "")
    let (out, left, bad, isOver) := pass rest args.tail
    (here ++ out, left, if isGood then bad else args.headD "" :: bad, isOver)

/-- Writes values by a format, which is used again as long as values are left. The values that do
    not fit are listed. -/
def format (text : String) (args : List String) : List UInt8 × List String :=
  go (args.length + 1) args
where
  parts : List FormatPart := readFormat (text.length + 1) text.toList
  go : Nat → List String → List UInt8 × List String
    | 0, _ => ([], [])
    | fuel + 1, args =>
      let (out, left, bad, isOver) := pass parts args
      if isOver || left.isEmpty || left.length == args.length then (out, bad)
      else
        let (more, others) := go fuel left
        (out ++ more, bad ++ others)

end Stepwise.Process
