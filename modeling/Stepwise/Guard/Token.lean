import Stepwise.Text.CharName
import Stepwise.Text.Compatibility
import Stepwise.Text.Identifier
import Stepwise.Text.Numeral
import Stepwise.Guard.Tree

namespace Stepwise.Guard

inductive Token where
  | name (id : String)
  | keyword (word : String)
  | constant (c : Constant)
  /-- The inside of a text literal with embedded expressions; `isRaw` turns escapes off. -/
  | formatted (isRaw : Bool) (body : List Char)
  | symbol (s : String)
  /-- The end of the expression's line. -/
  | newline

def keywords : List String := [
  "False", "None", "True", "and", "as", "assert", "async", "await", "break", "class", "continue",
  "def", "del", "elif", "else", "except", "finally", "for", "from", "global", "if", "import", "in",
  "is", "lambda", "nonlocal", "not", "or", "pass", "raise", "return", "try", "while", "with",
  "yield"]

/-- Symbols, longer ones before their beginnings. -/
def symbols : List String := [
  "**=", "//=", ">>=", "<<=", "...", "==", "!=", "<=", ">=", "->", "+=", "-=", "*=", "/=", "%=",
  "@=", "&=", "|=", "^=", ":=", "**", "//", "<<", ">>", "<>", "(", ")", "[", "]", "\x7b", "\x7d",
  ",", ":", ".", ";", "+", "-", "*", "/", "|", "&", "<", ">", "=", "%", "~", "^", "@"]

/-- Brackets may be nested this deep. -/
def maxNesting : Nat := 200

namespace Token

private def isAsciiDigit (c : Char) : Bool := '0' ≤ c && c ≤ '9'

private def isWordChar (c : Char) : Bool :=
  c.isAlphanum || c == '_' || 0x80 ≤ c.toNat

private def isWordStart (c : Char) : Bool :=
  c.isAlpha || c == '_' || 0x80 ≤ c.toNat

private def startsWith (word : String) (cs : List Char) : Bool :=
  word.toList.isPrefixOf cs

/-- The text goes on with the whole word `word`. -/
private def startsWithWord (word : String) (cs : List Char) : Bool :=
  startsWith word cs && !((cs.drop word.length).head?.any isWordChar)

/-- A number may be followed directly by a keyword that can stand after it, but not by any other
    word. -/
private def mayFollowNumber (cs : List Char) : Bool :=
  startsWithWord "and" cs || startsWithWord "else" cs || startsWithWord "for" cs ||
    startsWith "if" cs || startsWith "in" cs || startsWith "is" cs || startsWithWord "or" cs ||
    startsWithWord "not" cs || !(cs.head?.any isWordChar)

/-- Digits of a base with single underscores between them, and what follows. -/
private def readDigitRun? (base : Nat) (cs : List Char) : Option (List Nat × List Char) :=
  (Text.readDigits? base cs).filter fun (digits, _) => !digits.isEmpty

private def readBased? (base : Nat) (cs : List Char) : Option (Constant × List Char) := do
  let cs := match cs with
    | '_' :: rest => rest
    | _ => cs
  let (digits, rest) ← readDigitRun? base cs
  if rest.head?.any isAsciiDigit || !mayFollowNumber rest then none
  else return (.int (Text.valueOfDigits base digits), rest)

/-- The digits after a point or an exponent mark, none if no digit follows. -/
private def readTail? (cs : List Char) : Option (List Nat × List Char) :=
  if cs.head?.any isAsciiDigit then readDigitRun? 10 cs else some ([], cs)

private def readExponent? (cs : List Char) : Option (Option Int × List Char) :=
  let read (negative : Bool) (digits : List Char) : Option (Option Int × List Char) :=
    if digits.head?.any isAsciiDigit then
      (readDigitRun? 10 digits).map fun (digits, rest) =>
        let value : Int := Text.valueOfDigits 10 digits
        (some (if negative then -value else value), rest)
    else some (none, cs)
  match cs with
  | mark :: after =>
    if mark == 'e' || mark == 'E' then
      match after with
      | '-' :: digits => read true digits
      | '+' :: digits => read false digits
      | digits => read false digits
    else some (none, cs)
  | [] => some (none, cs)

private def readDecimal? (cs : List Char) : Option (Constant × List Char) := do
  let (whole, rest) ← readTail? cs
  let (fraction, hasPoint, rest) ← match rest with
    | '.' :: after => (readTail? after).map fun (digits, rest) => (digits, true, rest)
    | _ => some ([], false, rest)
  let (exponent, rest) ← readExponent? rest
  let mantissa := Text.valueOfDigits 10 (whole ++ fraction)
  let x := Text.floatOfDecimal mantissa (exponent.getD 0 - fraction.length)
  match rest with
  | 'j' :: rest | 'J' :: rest =>
    if mayFollowNumber rest then return (.imaginary x, rest) else none
  | _ =>
    if !mayFollowNumber rest then none
    else if hasPoint || exponent.isSome then return (.float x, rest)
    else if whole.head? == some 0 && whole.any (· != 0) then none
    else if Text.maxIntegerDigits < whole.length then none
    else return (.int mantissa, rest)

/-- A number literal at the front. -/
def readNumber? (cs : List Char) : Option (Constant × List Char) :=
  match cs with
  | '0' :: mark :: rest =>
    match mark.toLower with
    | 'x' => readBased? 16 rest
    | 'o' => readBased? 8 rest
    | 'b' => readBased? 2 rest
    | _ => readDecimal? cs
  | _ => readDecimal? cs

/-- The letters before a text literal. -/
structure Marks where
  isBytes : Bool := false
  isRaw : Bool := false
  isFormatted : Bool := false

private def marks? (letters : List Char) : Option Marks :=
  match String.ofList (letters.map Char.toLower) with
  | "" | "u" => some {}
  | "r" => some { isRaw := true }
  | "b" => some { isBytes := true }
  | "br" | "rb" => some { isBytes := true, isRaw := true }
  | "f" => some { isFormatted := true }
  | "fr" | "rf" => some { isFormatted := true, isRaw := true }
  | _ => none

/-- The inside of a literal after its opening quotes, up to `quote` written `count` times, and
    what follows. A backslash keeps the next character from closing; only a literal between
    three quotes may hold a line end. -/
private def readBody? (quote : Char) (count : Nat) :
    List Char → List Char → Option (List Char × List Char)
  | done, '\\' :: c :: rest => readBody? quote count (c :: '\\' :: done) rest
  | done, c :: rest =>
    if c == quote && (count == 1 || (quote :: List.replicate (count - 1) quote).isPrefixOf (c :: rest))
    then some (done.reverse, rest.drop (count - 1))
    else if c == '\n' && count == 1 then none
    else readBody? quote count (c :: done) rest
  | _, [] => none

private def hexValue? (digits : List Char) : Option Nat :=
  digits.foldlM (fun acc c => ((Text.digitValue? c).filter (· < 16)).map (acc * 16 + ·)) 0

/-- A character by number; numbers that belong to no character on their own become the
    replacement character. -/
private def charOfCode? (n : Nat) : Option Char :=
  if n ≤ 0x10ffff then some (if 0xd800 ≤ n && n < 0xe000 then '\ufffd' else Char.ofNat n) else none

private def isOctal (c : Char) : Bool := '0' ≤ c && c ≤ '7'

/-- Octal digits after a backslash, at most three of them. -/
private def octalRun (cs : List Char) : List Char × List Char :=
  let digits := (cs.take 3).takeWhile isOctal
  (digits, cs.drop digits.length)

private def simpleEscape? : Char → Option (List Char)
  | '\n' => some []
  | '\\' => some ['\\']
  | '\'' => some ['\'']
  | '"' => some ['"']
  | 'a' => some ['\x07']
  | 'b' => some ['\x08']
  | 'f' => some ['\x0c']
  | 'n' => some ['\n']
  | 'r' => some ['\r']
  | 't' => some ['\t']
  | 'v' => some ['\x0b']
  | _ => none

private def readNamed? (cs : List Char) : Option (Char × List Char) :=
  match cs with
  | '\x7b' :: rest =>
    let name := rest.takeWhile (· != '\x7d')
    match rest.drop name.length with
    | _ :: rest => (Text.charNamed? (String.ofList name)).map (·, rest)
    | [] => none
  | _ => none

/-- Replaces the escapes of a text literal. An escape that has no meaning stands for itself. -/
private def unescape? : (fuel : Nat) → List Char → List Char → Option (List Char)
  | 0, done, _ => some done.reverse
  | fuel + 1, done, cs =>
    let code (width : Nat) (rest : List Char) : Option (List Char) := do
      let digits := rest.take width
      if digits.length != width then none
      else
        let c ← (← hexValue? digits) |> charOfCode?
        unescape? fuel (c :: done) (rest.drop width)
    match cs with
    | [] => some done.reverse
    | '\\' :: c :: rest =>
      match simpleEscape? c with
      | some out => unescape? fuel (out ++ done) rest
      | none => match c with
        | 'x' => code 2 rest
        | 'u' => code 4 rest
        | 'U' => code 8 rest
        | 'N' => do
          let (c, rest) ← readNamed? rest
          unescape? fuel (c :: done) rest
        | _ =>
          if isOctal c then
            let (digits, rest) := octalRun (c :: rest)
            unescape? fuel (Char.ofNat (Text.valueOfDigits 8 (digits.map (·.toNat - 48))) :: done)
              rest
          else unescape? fuel (c :: '\\' :: done) rest
    | c :: rest => unescape? fuel (c :: done) rest

/-- Replaces the escapes of a bytes literal, which may hold ASCII alone. -/
private def unescapeBytes? (isRaw : Bool) : (fuel : Nat) → List UInt8 → List Char →
    Option (List UInt8)
  | 0, done, _ => some done.reverse
  | fuel + 1, done, cs =>
    match cs with
    | [] => some done.reverse
    | '\\' :: c :: rest =>
      if isRaw then unescapeBytes? isRaw fuel (92 :: done) (c :: rest)
      else match simpleEscape? c with
        | some out => unescapeBytes? isRaw fuel (out.map (·.toNat.toUInt8) ++ done) rest
        | none =>
          if c == 'x' then do
            let digits := rest.take 2
            if digits.length != 2 then none
            else unescapeBytes? isRaw fuel ((← hexValue? digits).toUInt8 :: done) (rest.drop 2)
          else if isOctal c then
            let (digits, rest) := octalRun (c :: rest)
            unescapeBytes? isRaw fuel
              ((Text.valueOfDigits 8 (digits.map (·.toNat - 48)) % 256).toUInt8 :: done) rest
          else unescapeBytes? isRaw fuel (92 :: done) (c :: rest)
    | c :: rest =>
      if c.toNat < 0x80 then unescapeBytes? isRaw fuel (c.toNat.toUInt8 :: done) rest else none

/-- The text that the inside of a literal stands for. -/
def literalText? (isRaw : Bool) (body : List Char) : Option (List Char) :=
  if isRaw then some body else unescape? body.length [] body

/-- A text or bytes literal at the front, after its letters. -/
private def readLiteral? (letters cs : List Char) : Option (Token × List Char) := do
  let marks ← marks? letters
  match cs with
  | quote :: rest =>
    let (body, rest) ←
      if [quote, quote].isPrefixOf rest then readBody? quote 3 [] (rest.drop 2)
      else readBody? quote 1 [] rest
    if marks.isFormatted then return (.formatted marks.isRaw body, rest)
    else if marks.isBytes then
      let bytes ← unescapeBytes? marks.isRaw body.length [] body
      return (.constant (.bytes bytes), rest)
    else
      let text ← literalText? marks.isRaw body
      return (.constant (.text (String.ofList text)), rest)
  | [] => none

private def isQuote (c : Char) : Bool := c == '\'' || c == '"'

private def readWord? (cs : List Char) : Option (Token × List Char) := do
  let word := cs.takeWhile isWordChar
  let rest := cs.dropWhile isWordChar
  if rest.head?.any isQuote && (marks? word).isSome then readLiteral? word rest
  else
    let shown := String.ofList word
    if keywords.contains shown then return (.keyword shown, rest)
    else match word with
      | first :: others =>
        if Text.isIdentifierStart first && others.all Text.isIdentifierRest then
          return (.name (Text.compatible shown), rest)
        else none
      | [] => none

private def readSymbol? (cs : List Char) : Option (Token × List Char) :=
  (symbols.find? (startsWith · cs)).map fun s => (.symbol s, cs.drop s.length)

/-- The token at the front of a text that begins with no blank. -/
private def readToken? (cs : List Char) : Option (Token × List Char) :=
  match cs with
  | [] => none
  | c :: rest =>
    if isWordStart c then readWord? cs
    else if isAsciiDigit c || (c == '.' && rest.head?.any isAsciiDigit) then
      (readNumber? cs).map fun (n, rest) => (.constant n, rest)
    else if isQuote c then readLiteral? [] cs
    else readSymbol? cs

private def isSpace (c : Char) : Bool := c == ' ' || c == '\t' || c == '\x0c'

/-- Blanks at the start of a line indent it, counted anew after a form feed. -/
private def isIndented (blanks : List Char) : Bool :=
  !(blanks.reverse.takeWhile (· != '\x0c')).isEmpty

private def bracketChange : Token → Int
  | .symbol s =>
    if s == "(" || s == "[" || s == "\x7b" then 1
    else if s == ")" || s == "]" || s == "\x7d" then -1
    else 0
  | _ => 0

/-- Where the lexer stands: the number of open brackets, whether a line begins, and the tokens
    read, last first. -/
private structure Progress where
  depth : Int
  atLineStart : Bool
  done : List Token

private def scan : (fuel : Nat) → Progress → List Char → Option (List Token)
  | 0, p, cs => if cs.isEmpty then some p.done.reverse else none
  | fuel + 1, p, cs =>
    let afterBlanks := cs.dropWhile isSpace
    match afterBlanks with
    | [] => some p.done.reverse
    | '#' :: rest => scan fuel p (rest.dropWhile (· != '\n'))
    | '\n' :: rest =>
      if p.atLineStart || 0 < p.depth then scan fuel p rest
      else scan fuel { p with atLineStart := true, done := .newline :: p.done } rest
    | '\\' :: rest =>
      match rest with
      | '\n' :: c :: rest => scan fuel { p with atLineStart := false } (c :: rest)
      | _ => none
    | _ =>
      if p.atLineStart && isIndented (cs.takeWhile isSpace) then none
      else match readToken? afterBlanks with
        | some (token, rest) =>
          let depth := p.depth + bracketChange token
          if (maxNesting : Int) < depth then none
          else scan fuel ⟨depth, false, token :: p.done⟩ rest
        | none => none

/-- Every way of ending a line becomes one line feed. -/
private def unifyLines : List Char → List Char
  | '\r' :: '\n' :: rest => '\n' :: unifyLines rest
  | '\r' :: rest => '\n' :: unifyLines rest
  | c :: rest => c :: unifyLines rest
  | [] => []

/-- The tokens of an expression. Between brackets line ends do not count; elsewhere an indented
    line is refused. -/
def ofChars? (cs : List Char) : Option (List Token) :=
  let cs := unifyLines cs
  scan (cs.length + 1) ⟨0, true, []⟩ cs

end Token

end Stepwise.Guard
