import Stepwise.Text.Numeral

namespace Stepwise.Json

inductive Token where
  | openBracket
  | closeBracket
  | openBrace
  | closeBrace
  | colon
  | comma
  | null
  | bool (b : Bool)
  /-- An integer, and how many digits it is written with. -/
  | integer (n : Int) (digits : Nat)
  | float (x : Float)
  | text (s : String)

private def isSpace (c : Char) : Bool :=
  c == ' ' || c == '\t' || c == '\n' || c == '\r'

private def hexValue? (c : Char) : Option Nat :=
  (Text.digitValue? c).filter (· < 16)

private def readHex4? : List Char → Option (Nat × List Char)
  | a :: b :: c :: d :: rest => do
    let a ← hexValue? a
    let b ← hexValue? b
    let c ← hexValue? c
    let d ← hexValue? d
    return (((a * 16 + b) * 16 + c) * 16 + d, rest)
  | _ => none

private def simpleEscape? : Char → Option Char
  | '"' => some '"'
  | '\\' => some '\\'
  | '/' => some '/'
  | 'b' => some '\x08'
  | 'f' => some '\x0c'
  | 'n' => some '\n'
  | 'r' => some '\r'
  | 't' => some '\t'
  | _ => none

/-- A character written by number, as one or as a pair of four-digit codes. Half of a pair on its
    own is refused. -/
private def readCode? (cs : List Char) : Option (Char × List Char) := do
  let (high, rest) ← readHex4? cs
  if 0xd800 ≤ high && high < 0xdc00 then
    match rest with
    | '\\' :: 'u' :: more =>
      let (low, rest) ← readHex4? more
      if 0xdc00 ≤ low && low < 0xe000 then
        return (Char.ofNat (0x10000 + (high - 0xd800) * 0x400 + (low - 0xdc00)), rest)
      else none
    | _ => none
  else if 0xdc00 ≤ high && high < 0xe000 then none
  else return (Char.ofNat high, rest)

/-- The rest of a text after its opening quotation mark, and what follows the closing one. Of the
    characters below the space none may stand for itself. -/
private def readText? : (fuel : Nat) → List Char → List Char → Option (String × List Char)
  | 0, _, _ => none
  | fuel + 1, done, cs => match cs with
    | '"' :: rest => some (String.ofList done.reverse, rest)
    | '\\' :: 'u' :: rest => do
      let (c, rest) ← readCode? rest
      readText? fuel (c :: done) rest
    | '\\' :: escape :: rest => do
      let c ← simpleEscape? escape
      readText? fuel (c :: done) rest
    | c :: rest => if c.toNat < 0x20 then none else readText? fuel (c :: done) rest
    | [] => none

private def isAsciiDigit (c : Char) : Bool := '0' ≤ c && c ≤ '9'

/-- A number: no leading zero, and digits on both sides of a point. -/
private def readNumber? (negative : Bool) (cs : List Char) : Option (Token × List Char) :=
  let whole := cs.takeWhile isAsciiDigit
  let afterWhole := cs.dropWhile isAsciiDigit
  let afterPoint := match afterWhole with
    | '.' :: c :: _ => isAsciiDigit c
    | '.' :: [] => false
    | _ => true
  let (parts, rest) := Text.readDecimalParts cs
  let badExponent := match rest with
    | 'e' :: _ | 'E' :: _ => true
    | _ => false
  if whole.isEmpty || (whole.head? == some '0' && whole.length > 1) || !afterPoint || badExponent then
    none
  else if parts.isFloat then
    let x := parts.toFloat
    some (.float (if negative then -x else x), rest)
  else
    let n : Int := Text.valueOfDigits 10 (whole.map (·.toNat - 48))
    some (.integer (if negative then -n else n) whole.length, rest)

private def dropWord? (word : String) (cs : List Char) : Option (List Char) :=
  let w := word.toList
  if w.isPrefixOf cs then some (cs.drop w.length) else none

private def readWord? (cs : List Char) : Option (Token × List Char) :=
  let named (word : String) (token : Token) := (dropWord? word cs).map (token, ·)
  named "null" .null <|> named "true" (.bool true) <|> named "false" (.bool false) <|>
    named "NaN" (.float (0.0 / 0.0)) <|> named "Infinity" (.float (1.0 / 0.0)) <|>
    named "-Infinity" (.float (-1.0 / 0.0))

/-- The first token of a text that does not begin with a space and is no longer than `fuel`. -/
private def readToken? (fuel : Nat) (cs : List Char) : Option (Token × List Char) :=
  match cs with
  | [] => none
  | c :: rest => match c with
    | '[' => some (.openBracket, rest)
    | ']' => some (.closeBracket, rest)
    | '\x7b' => some (.openBrace, rest)
    | '\x7d' => some (.closeBrace, rest)
    | ':' => some (.colon, rest)
    | ',' => some (.comma, rest)
    | '"' => (readText? fuel [] rest).map fun (s, rest) => (.text s, rest)
    | _ => readWord? cs <|> (if c == '-' then readNumber? true rest else readNumber? false cs)

private def scan : (fuel : Nat) → List Token → List Char → List Token × Bool
  | 0, done, cs => (done.reverse, (cs.dropWhile isSpace).isEmpty)
  | fuel + 1, done, cs =>
    match cs.dropWhile isSpace with
    | [] => (done.reverse, true)
    | cs => match readToken? (fuel + 1) cs with
      | some (token, rest) => scan fuel (token :: done) rest
      | none => (done.reverse, false)

/-- The tokens of a text as far as it consists of them, and whether it does to its end. Each takes
    at least one character, so there are no more of them than characters. -/
def tokens (s : String) : List Token × Bool :=
  let cs := s.toList
  scan cs.length [] cs

end Stepwise.Json
