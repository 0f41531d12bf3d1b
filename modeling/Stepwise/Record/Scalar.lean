import Stepwise.Text.Numeral
import Stepwise.Value.Basic
import Stepwise.Record.Decoded

namespace Stepwise.Record

/-- A text, or bytes that are one. -/
def text : Value → Decoded String
  | .text s => .ok s
  | .bytes bs => match String.fromUTF8? (ByteArray.mk bs.toArray) with
    | some s => .ok s
    | none => .mismatch .textNotUnicode
  | _ => .mismatch .notText

/-- A text of at least `least` characters, and at most `most` if a bound is given. -/
def boundedText (least : Nat) (most : Option Nat) (v : Value) : Decoded String :=
  (text v).andThen fun s =>
    if s.length < least then .mismatch (.textTooShort least)
    else match most with
      | some bound => if bound < s.length then .mismatch (.textTooLong bound) else .ok s
      | none => .ok s

/-- Null, or what `read` takes. -/
def nullable {α : Type} (read : Value → Decoded α) : Value → Decoded (Option α)
  | .null => .ok none
  | v => (read v).map some

/-- One of a few words. -/
def oneOf {α : Type} (words : List (String × α)) (v : Value) : Decoded α :=
  match v with
  | .text s => match words.lookup s with
    | some a => .ok a
    | none => .mismatch (.notOneOf (words.map (·.1)))
  | _ => .mismatch (.notOneOf (words.map (·.1)))

/-- The blanks that a numeral in a text may have around it. -/
def isMargin (c : Char) : Bool :=
  Text.isBlank c && !(0x1c ≤ c.toNat && c.toNat ≤ 0x1f)

/-- Underscores are dropped, unless one is first or last or two stand together. -/
def withoutUnderscores? (cs : List Char) : Option (List Char) :=
  if cs.head? == some '_' || cs.getLast? == some '_' || hasPair cs then none
  else some (cs.filter (· != '_'))
where
  hasPair : List Char → Bool
    | '_' :: '_' :: _ => true
    | _ :: rest => hasPair rest
    | [] => false

def isAsciiDigit (c : Char) : Bool := '0' ≤ c && c ≤ '9'

/-- Digits with an optional sign, single underscores and a fraction of zeros alone. -/
def integerOfText? (cs : List Char) : Option Int :=
  let (negative, cs) := match cs with
    | '+' :: rest => (false, rest)
    | '-' :: rest => (true, rest)
    | _ => (false, cs)
  let whole := cs.takeWhile (· != '.')
  let fraction := (cs.drop whole.length).drop 1
  match withoutUnderscores? whole with
  | some digits =>
    if digits.isEmpty || !digits.all isAsciiDigit || !fraction.all (· == '0') then none
    else
      let n : Int := Text.valueOfDigits 10 (digits.map (·.toNat - 48))
      some (if negative then -n else n)
  | none => none

/-- Numbers with a fraction of zero count as integers within this distance from zero. -/
def wholeBound : Float := 9223372036854775808.0

/-- An integer, in any of its forms. -/
def integer : Value → Decoded Int
  | .int n => .ok n
  | .bool b => .ok (if b then 1 else 0)
  | .float x =>
    if x.isNaN || x.isInf then .mismatch .notFinite
    else if x.floor != x then .mismatch .integerFraction
    else if -wholeBound < x && x < wholeBound then .ok ((Decimal.truncate? x).getD 0)
    else .mismatch .integerSize
  | .text s =>
    if Text.maxIntegerDigits < s.length then .mismatch .integerSize
    else match integerOfText? (Text.trimChars isMargin s.toList) with
      | some n => .ok n
      | none => .mismatch .integerText
  | .bytes _ => .mismatch .integerText
  | _ => .mismatch .notInteger

/-- A number, in any of its forms. -/
def number : Value → Decoded Float
  | .float x => .ok x
  | .int n =>
    let x := Float.ofInt n
    if x.isInf then .mismatch .notNumber else .ok x
  | .bool b => .ok (if b then 1.0 else 0.0)
  | .text s =>
    let cs := Text.trimChars isMargin s.toList
    match Text.readFloatExact? cs <|> (withoutUnderscores? cs).bind Text.readFloatExact? with
    | some x => .ok x
    | none => .mismatch .numberText
  | .bytes _ => .mismatch .numberText
  | _ => .mismatch .notNumber

def trueWords : List String := ["1", "on", "t", "true", "y", "yes"]

def falseWords : List String := ["0", "off", "f", "false", "n", "no"]

def truthOfInteger (n : Int) : Decoded Bool :=
  if n == 0 then .ok false else if n == 1 then .ok true else .mismatch .truthText

/-- A truth value, in any of its forms. -/
def truth : Value → Decoded Bool
  | .bool b => .ok b
  | .text s =>
    let word := String.ofList (s.toList.map Char.toLower)
    if trueWords.contains word then .ok true
    else if falseWords.contains word then .ok false
    else .mismatch .truthText
  | .int n => truthOfInteger n
  | .float x => match integer (.float x) with
    | .ok n => truthOfInteger n
    | .bad _ => .mismatch .notTruth
  | _ => .mismatch .notTruth

end Stepwise.Record
