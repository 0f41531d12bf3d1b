import Stepwise.Text.Blank
import Stepwise.Text.Digit

namespace Stepwise.Text

/-- Blanks become spaces and the decimal digits of every script become ASCII digits; any other
    character outside ASCII becomes a question mark. A text within ASCII stays as it is. -/
def asciiNumeral (cs : List Char) : List Char :=
  if cs.all (·.toNat < 0x80) then cs
  else cs.map fun c =>
    if isBlank c then ' '
    else match decimalValue? c with
      | some value => Char.ofNat (48 + value)
      | none => if c.toNat < 0x80 then c else '?'

/-- The value of a letter or digit as a digit of a base up to 36. -/
def digitValue? (c : Char) : Option Nat :=
  if '0' ≤ c && c ≤ '9' then some (c.toNat - 48)
  else if 'a' ≤ c && c ≤ 'z' then some (c.toNat - 87)
  else if 'A' ≤ c && c ≤ 'Z' then some (c.toNat - 55)
  else none

/-- The value of digits read left to right. -/
def valueOfDigits (base : Nat) (digits : List Nat) : Nat :=
  digits.foldl (fun acc digit => acc * base + digit) 0

/-- Digits of a base with single underscores between them, read as far as they go: their values
    and what follows. A leading, a doubled or a trailing underscore is refused. -/
def readDigits? (base : Nat) (cs : List Char) : Option (List Nat × List Char) :=
  go false [] cs
where
  go (afterDigit : Bool) (digits : List Nat) : List Char → Option (List Nat × List Char)
    | '_' :: rest =>
      if afterDigit then
        match rest with
        | next :: _ => match digitValue? next with
          | some value => if value < base then go false digits rest else none
          | none => none
        | [] => none
      else none
    | c :: rest => match digitValue? c with
      | some value =>
        if value < base then go true (value :: digits) rest else some (digits.reverse, c :: rest)
      | none => some (digits.reverse, c :: rest)
    | [] => some (digits.reverse, [])

/-- A numeral may not have more decimal digits than this. -/
def maxIntegerDigits : Nat := 4300

/-- Why a text is not read as an integer. -/
inductive IntegerFault where
  /-- The text is not a numeral of the base. -/
  | malformed
  /-- The numeral is longer than `maxIntegerDigits`. -/
  | tooLong (digits : Nat)

/-- At most so many characters of a malformed numeral are shown. -/
def shownNumeralLength : Nat := 200

/-- What is wrong with a numeral of a base; `shown` is its text in quotes. -/
def IntegerFault.message (base : Nat) (shown : String) : IntegerFault → String
  | malformed =>
    "invalid literal for int() with base " ++ toString base ++ ": " ++
      String.ofList (shown.toList.take shownNumeralLength)
  | tooLong digits =>
    "Exceeds the limit (" ++ toString maxIntegerDigits ++
      " digits) for integer string conversion: value has " ++ toString digits ++
      " digits; use sys.set_int_max_str_digits() to increase the limit"

/-- The base named by a numeral's first two characters. -/
private def markedBase? (c : Char) : Option Nat :=
  match c.toLower with
  | 'x' => some 16
  | 'o' => some 8
  | 'b' => some 2
  | _ => none

/-- The digits of a numeral without its sign, and whether only zeros are allowed: `base` zero asks
    for the base to be read off the first two characters. -/
private def splitBase (base : Nat) (cs : List Char) : Nat × Bool × List Char :=
  let skipUnderscore : List Char → List Char
    | '_' :: rest => rest
    | rest => rest
  match cs with
  | '0' :: mark :: rest =>
    match markedBase? mark with
    | some marked =>
      if base == 0 || base == marked then (marked, false, skipUnderscore rest)
      else (base, false, cs)
    | none => if base == 0 then (10, true, cs) else (base, false, cs)
  | ['0'] => if base == 0 then (10, true, cs) else (base, false, cs)
  | _ => if base == 0 then (10, false, cs) else (base, false, cs)

private def isPowerOfTwo (base : Nat) : Bool :=
  base == 2 || base == 4 || base == 8 || base == 16 || base == 32

/-- Whether a numeral has a minus before it, and what follows its sign. -/
private def splitSign : List Char → Bool × List Char
  | '+' :: rest => (false, rest)
  | '-' :: rest => (true, rest)
  | cs => (false, cs)

/-- Reads an integer in a base from 2 to 36, or in the base its first two characters name if
    `base` is zero. Blanks may surround it, a sign may precede it, and single underscores may stand
    between digits. -/
def readInteger (base : Nat) (cs : List Char) : Except IntegerFault Int := do
  let (negative, cs) := splitSign (cs.dropWhile isAsciiBlank)
  let (base, onlyZero, cs) := splitBase base cs
  let some (digits, rest) := readDigits? base cs | throw .malformed
  if !isPowerOfTwo base && digits.length > maxIntegerDigits then
    throw (.tooLong digits.length)
  if digits.isEmpty then throw .malformed
  let value := valueOfDigits base digits
  if onlyZero && value != 0 then throw .malformed
  unless (rest.dropWhile isAsciiBlank).isEmpty do throw .malformed
  return if negative then -(value : Int) else value

private theorem splitBase_ten (cs : List Char) : splitBase 10 cs = (10, false, cs) := by
  unfold splitBase
  split
  next mark rest =>
    -- The bases that have a mark are sixteen, eight and two.
    have hmarked : ∀ marked, markedBase? mark = some marked → marked ≠ 10 := by
      intro marked hmarked
      unfold markedBase? at hmarked
      split at hmarked <;> cases hmarked <;> decide
    cases hmark : markedBase? mark with
    | none => rfl
    | some marked => simp [Ne.symm (hmarked marked hmark)]
  · rfl
  · rfl

private theorem digitValue?_ofNat {digit : Nat} (hdigit : digit < 10) :
    digitValue? (Char.ofNat (48 + digit)) = some digit := by
  have hall : ∀ n < 10, digitValue? (Char.ofNat (48 + n)) = some n := by decide
  exact hall digit hdigit

/-- A question mark, or the end, is where the digits end. -/
private theorem readDigits?_go_append {rest : List Char} (hrest : rest.head?.all (· == '?'))
    {digits : List Nat} (hdigits : ∀ digit ∈ digits, digit < 10) (afterDigit : Bool)
    (done : List Nat) :
    readDigits?.go 10 afterDigit done (digits.map (fun digit => Char.ofNat (48 + digit)) ++ rest) =
      some (done.reverse ++ digits, rest) := by
  induction digits generalizing afterDigit done with
  | nil =>
    cases rest with
    | nil => simp [readDigits?.go]
    | cons c more =>
      obtain rfl : c = '?' := by simpa using hrest
      simp [readDigits?.go, digitValue?]
  | cons digit digits ih =>
    obtain ⟨hdigit, hlater⟩ := List.forall_mem_cons.1 hdigits
    have hvalue := digitValue?_ofNat hdigit
    have hne : Char.ofNat (48 + digit) ≠ '_' := by
      intro heq
      rw [heq] at hvalue
      cases hvalue
    rw [List.map_cons, List.cons_append, readDigits?.go]
    · simp [hvalue, hdigit, ih hlater]
    · exact hne

/-- Decimal digits are read as the number that they are, unless there are too many of them or a
    question mark follows. -/
theorem readInteger_digits {digits : List Nat} (hdigits : ∀ digit ∈ digits, digit < 10)
    {rest : List Char} (hrest : rest.head?.all (· == '?')) :
    readInteger 10 (digits.map (fun digit => Char.ofNat (48 + digit)) ++ rest) =
      if maxIntegerDigits < digits.length then .error (.tooLong digits.length)
      else if digits.isEmpty || !rest.isEmpty then .error .malformed
      else .ok (valueOfDigits 10 digits) := by
  have hplain : splitSign ((digits.map (fun digit => Char.ofNat (48 + digit)) ++ rest).dropWhile
      isAsciiBlank) = (false, digits.map (fun digit => Char.ofNat (48 + digit)) ++ rest) := by
    cases digits with
    | nil =>
      cases rest with
      | nil => rfl
      | cons c more =>
        obtain rfl : c = '?' := by simpa using hrest
        rfl
    | cons digit digits =>
      have hall : ∀ n < 10, isAsciiBlank (Char.ofNat (48 + n)) = false ∧
          Char.ofNat (48 + n) ≠ '+' ∧ Char.ofNat (48 + n) ≠ '-' := by decide
      obtain ⟨hblank, hplus, hminus⟩ := hall digit (hdigits digit List.mem_cons_self)
      rw [List.map_cons, List.cons_append, List.dropWhile_cons_of_neg (by simp [hblank]), splitSign]
      · rintro _ heq
        exact hplus (List.cons.inj heq).1
      · rintro _ heq
        exact hminus (List.cons.inj heq).1
  have hrest' : (rest.dropWhile isAsciiBlank).isEmpty = rest.isEmpty := by
    cases rest with
    | nil => rfl
    | cons c more =>
      obtain rfl : c = '?' := by simpa using hrest
      rfl
  have hread := readDigits?_go_append hrest hdigits false []
  rw [List.reverse_nil, List.nil_append] at hread
  unfold readInteger readDigits?
  simp only [hplain, splitBase_ten, hread, hrest']
  cases digits <;> cases rest <;> simp [isPowerOfTwo] <;> rfl

/-- The number `mantissa · 10 ^ exponent`, rounded to the nearest representable one. -/
def floatOfDecimal (mantissa : Nat) (exponent : Int) : Float :=
  if mantissa == 0 then 0.0
  else
    let size : Int := (Nat.toDigits 10 mantissa).length
    if size + exponent > 400 then 1.0 / 0.0
    else if size + exponent < -400 then 0.0
    else match exponent with
      | .ofNat e => Float.ofScientific mantissa false e
      | .negSucc e => Float.ofScientific mantissa true (e + 1)

/-- The characters of a decimal number: whole digits, digits after the point and the exponent. -/
structure DecimalParts where
  whole : List Char
  fraction : List Char
  exponent : Int
  /-- A point or an exponent was written. -/
  isFloat : Bool

private def isAsciiDigit (c : Char) : Bool := '0' ≤ c && c ≤ '9'

private def decimalNat (cs : List Char) : Nat :=
  valueOfDigits 10 (cs.map (·.toNat - 48))

/-- Splits digits, an optional point with digits and an optional exponent off the front. An
    exponent letter without digits is left in the rest. -/
def readDecimalParts (cs : List Char) : DecimalParts × List Char :=
  let whole := cs.takeWhile isAsciiDigit
  let rest := cs.dropWhile isAsciiDigit
  let (fraction, hasPoint, rest) := match rest with
    | '.' :: after => (after.takeWhile isAsciiDigit, true, after.dropWhile isAsciiDigit)
    | _ => ([], false, rest)
  let plain := (⟨whole, fraction, 0, hasPoint⟩, rest)
  match rest with
  | mark :: after =>
    if mark == 'e' || mark == 'E' then
      let (negative, digits) := match after with
        | '-' :: more => (true, more)
        | '+' :: more => (false, more)
        | _ => (false, after)
      let shown := digits.takeWhile isAsciiDigit
      if shown.isEmpty then plain
      else
        let value : Int := decimalNat shown
        (⟨whole, fraction, if negative then -value else value, true⟩, digits.dropWhile isAsciiDigit)
    else plain
  | [] => plain

/-- The number with these parts. -/
def DecimalParts.toFloat (parts : DecimalParts) : Float :=
  floatOfDecimal (decimalNat (parts.whole ++ parts.fraction))
    (parts.exponent - parts.fraction.length)

/-- Removes underscores that stand between two digits; refuses any other. -/
def dropInnerUnderscores? (cs : List Char) : Option (List Char) :=
  go false cs
where
  go (afterDigit : Bool) : List Char → Option (List Char)
    | [] => some []
    | '_' :: rest => match rest with
      | next :: _ => if afterDigit && isAsciiDigit next then go false rest else none
      | [] => none
    | c :: rest => (go (isAsciiDigit c) rest).map (c :: ·)

/-- Reads a decimal number or a name of an infinity or of the undefined number, in any case and
    with an optional sign. -/
def readFloatExact? (cs : List Char) : Option Float :=
  let (negative, cs) := match cs with
    | '+' :: rest => (false, rest)
    | '-' :: rest => (true, rest)
    | _ => (false, cs)
  let signed (x : Float) : Float := if negative then -x else x
  match String.ofList (cs.map Char.toLower) with
  | "inf" | "infinity" => some (signed (1.0 / 0.0))
  | "nan" => some (0.0 / 0.0)
  | _ =>
    let (parts, rest) := readDecimalParts cs
    if rest.isEmpty && !(parts.whole.isEmpty && parts.fraction.isEmpty) then
      some (signed parts.toFloat)
    else none

/-- Reads a number with blanks around it and single underscores between its digits. -/
def readFloat? (cs : List Char) : Option Float :=
  (dropInnerUnderscores? (trimChars isAsciiBlank cs)).bind readFloatExact?

end Stepwise.Text
