import Stepwise.Text.Numeral
import Stepwise.Yaml.Cursor
import Stepwise.Yaml.Token

/-! The three ways to write a scalar: quoted, plain, and as an indented block. -/

namespace Stepwise.Yaml

def isHexDigit (c : Char) : Bool :=
  match Text.digitValue? c with
  | some value => value < 16
  | none => false

private def hexValue (cs : List Char) : Nat :=
  Text.valueOfDigits 16 (cs.filterMap Text.digitValue?)

/-! ### Quoted -/

/-- The empty lines ahead. A line that starts or ends a document may not stand inside quotes. -/
def quotedBreaks : Nat → List Char → Cursor → Except Fault (List Char × Cursor)
  | 0, _, _ => .error .malformed
  | fuel + 1, acc, c =>
    if c.isDocumentMarker then .error .malformed
    else
      let c := c.skipWhile fun ch => ch == ' ' || ch == '\t'
      if isBreak c.head then
        let (newline, c) := c.lineBreak
        quotedBreaks fuel (acc ++ newline) c
      else .ok (acc, c)

/-- The line breaks of a folded text: one of them alone is a space. -/
def folded (newline breaks : List Char) : List Char :=
  if newline != ['\n'] then newline ++ breaks
  else if breaks.isEmpty then [' '] else breaks

/-- Spaces and line breaks between the words of a quoted text. -/
def quotedSpaces (c : Cursor) : Except Fault (List Char × Cursor) := do
  let (spaces, c) := c.takeWhile fun ch => ch == ' ' || ch == '\t'
  if c.head == finish then throw .malformed
  else if isBreak c.head then
    let (newline, c) := c.lineBreak
    let (breaks, c) ← quotedBreaks (c.rest.length + 1) [] c
    return (folded newline breaks, c)
  else return (spaces, c)

/-- What stands for a character after a backslash. -/
def escaped? (c : Char) : Option Char :=
  match c with
  | '0' => some '\x00'
  | 'a' => some '\x07'
  | 'b' => some '\x08'
  | 't' | '\t' => some '\t'
  | 'n' => some '\n'
  | 'v' => some '\x0b'
  | 'f' => some '\x0c'
  | 'r' => some '\r'
  | 'e' => some '\x1b'
  | ' ' => some ' '
  | '"' => some '"'
  | '\\' => some '\\'
  | '/' => some '/'
  | 'N' => some '\x85'
  | '_' => some '\xa0'
  | 'L' => some '\u2028'
  | 'P' => some '\u2029'
  | _ => none

/-- How many digits give a character by its code. -/
def codeWidth? (c : Char) : Option Nat :=
  match c with
  | 'x' => some 2
  | 'u' => some 4
  | 'U' => some 8
  | _ => none

/-- What a backslash stands for; the cursor is after it. -/
def escape (c : Cursor) : Except Fault (List Char × Cursor) :=
  match escaped? c.head with
  | some ch => .ok ([ch], c.next)
  | none => match codeWidth? c.head with
    | some width =>
      let digits := c.next.rest.take width
      if digits.length == width && digits.all isHexDigit then
        let code := hexValue digits
        if 0x80000000 ≤ code then .error .hugeCode
        else if 0x110000 ≤ code then .error (.badValue "chr() arg not in range(0x110000)")
        else .ok ([Char.ofNat code], c.next.forward width)
      else .error .malformed
    | none =>
      if isBreak c.head then
        let c := c.lineBreak.2
        quotedBreaks (c.rest.length + 1) [] c
      else .error .malformed

/-- One piece of a quoted text that is no space, or none where a space or the end comes. -/
def quotedPiece (isDouble : Bool) (c : Cursor) : Except Fault (Option (List Char × Cursor)) := do
  let (plain, after) := c.takeWhile fun ch =>
    !(isGap ch || ch == '\'' || ch == '"' || ch == '\\')
  if !plain.isEmpty then return some (plain, after)
  else if !isDouble && c.head == '\'' && c.peek 1 == '\'' then return some (['\''], c.forward 2)
  else if (isDouble && c.head == '\'') || (!isDouble && (c.head == '"' || c.head == '\\')) then
    return some ([c.head], c.next)
  else if isDouble && c.head == '\\' then return some (← escape c.next)
  else return none

/-- The text up to the closing quote. -/
def quotedText (isDouble : Bool) : Nat → List Char → Cursor → Except Fault (List Char × Cursor)
  | 0, _, _ => .error .malformed
  | fuel + 1, acc, c => do
    match ← quotedPiece isDouble c with
    | some (piece, c) => quotedText isDouble fuel (acc ++ piece) c
    | none =>
      if c.head == (if isDouble then '"' else '\'') then return (acc, c.next)
      else
        let (spaces, c) ← quotedSpaces c
        quotedText isDouble fuel (acc ++ spaces) c

/-- A quoted scalar; the cursor is at the opening quote. -/
def quotedScalar (isDouble : Bool) (c : Cursor) : Except Fault (Token × Cursor) := do
  let (text, after) ← quotedText isDouble (2 * c.rest.length + 2) [] c.next
  return (.scalar (String.ofList text) false, after)

/-! ### Plain -/

/-- The empty lines and indentation ahead; none if a document ends there. -/
def plainBreaks : Nat → List Char → Cursor → Option (List Char) × Cursor
  | 0, acc, c => (some acc, c)
  | fuel + 1, acc, c =>
    if c.head == ' ' then plainBreaks fuel acc c.next
    else if isBreak c.head then
      let (newline, c) := c.lineBreak
      if c.isDocumentMarker then (none, c) else plainBreaks fuel (acc ++ newline) c
    else (some acc, c)

/-- What lies between two words of a plain scalar: what it reads as, which is empty where the
    scalar ends, and whether a line ended. -/
def plainSpaces (c : Cursor) : List Char × Bool × Cursor :=
  let (spaces, c) := c.takeWhile (· == ' ')
  if isBreak c.head then
    let (newline, c) := c.lineBreak
    if c.isDocumentMarker then ([], true, c)
    else match plainBreaks (c.rest.length + 1) [] c with
      | (some breaks, c) => (folded newline breaks, true, c)
      | (none, c) => ([], true, c)
  else (spaces, false, c)

/-- The length of the word ahead. -/
def plainLength (inFlow : Bool) : List Char → Nat
  | [] => 0
  | ch :: rest =>
    let after := rest.headD finish
    if isGap ch || (inFlow && ",?[]\x7b\x7d".toList.contains ch) then 0
    else if ch == ':' && (isGap after || (inFlow && ",[]\x7b\x7d".toList.contains after)) then 0
    else plainLength inFlow rest + 1

/-- The words of a plain scalar, which stay at or right of a column outside of brackets, and
    whether it ended at the start of a line. -/
def plainText (inFlow : Bool) (column : Int) :
    Nat → List Char → List Char → Bool → Cursor → List Char × Bool × Cursor
  | 0, acc, _, atLine, c => (acc, atLine, c)
  | fuel + 1, acc, spaces, atLine, c =>
    let length := if c.head == '#' then 0 else plainLength inFlow c.rest
    if length == 0 then (acc, atLine, c)
    else
      let acc := acc ++ spaces ++ c.rest.take length
      let (spaces, atLine, c) := plainSpaces (c.forward length)
      if spaces.isEmpty || c.head == '#' || (!inFlow && c.column < column) then (acc, atLine, c)
      else plainText inFlow column fuel acc spaces atLine c

/-! ### Blocks -/

/-- What happens to the line breaks at the end of a block. -/
inductive Chomp where
  | clip
  | strip
  | keep
deriving DecidableEq

private def chompOf? (c : Char) : Option Chomp :=
  if c == '+' then some .keep else if c == '-' then some .strip else none

private def isDigit (c : Char) : Bool := '0' ≤ c && c ≤ '9'

/-- The marks after the block's own: what to do at its end, and how far it is indented. -/
def blockMarks (c : Cursor) : Except Fault (Chomp × Option Nat × Cursor) := do
  let (chomp, increment, c) := match chompOf? c.head with
    | some chomp =>
      if isDigit c.next.head then (chomp, some (c.next.head.toNat - 48), c.forward 2)
      else (chomp, none, c.next)
    | none =>
      if isDigit c.head then
        match chompOf? c.next.head with
        | some chomp => (chomp, some (c.head.toNat - 48), c.forward 2)
        | none => (.clip, some (c.head.toNat - 48), c.next)
      else (.clip, none, c)
  if increment == some 0 || !isSpaceOrEnd c.head then throw .malformed
  let c := c.skipSpaces.skipComment
  if isBreakOrEnd c.head then return (chomp, increment, c.lineBreak.2)
  else throw .malformed

/-- The empty lines at the start of a block, and the deepest indentation among them. -/
def blockIndentation : Nat → List Char → Nat → Cursor → List Char × Nat × Cursor
  | 0, acc, deepest, c => (acc, deepest, c)
  | fuel + 1, acc, deepest, c =>
    if c.head == ' ' then blockIndentation fuel acc (max deepest c.next.column) c.next
    else if isBreak c.head then
      let (newline, c) := c.lineBreak
      blockIndentation fuel (acc ++ newline) deepest c
    else (acc, deepest, c)

/-- The indentation ahead, up to a column. -/
def skipIndentation (column : Nat) (c : Cursor) : Cursor :=
  c.forward ((c.rest.takeWhile (· == ' ')).length.min (column - c.column))

/-- The empty lines ahead in a block that is indented to a column. -/
def blockBreaks (column : Nat) : Nat → List Char → Cursor → List Char × Cursor
  | 0, acc, c => (acc, c)
  | fuel + 1, acc, c =>
    let c := skipIndentation column c
    if isBreak c.head then
      let (newline, c) := c.lineBreak
      blockBreaks column fuel (acc ++ newline) c
    else (acc, c)

private def isSpaceOrTab (c : Char) : Bool := c == ' ' || c == '\t'

/-- The lines of a block, the last line break, and the empty lines after it. -/
def blockLines (isFolded : Bool) (column : Nat) :
    Nat → List Char → List Char → Cursor → List Char × List Char × List Char × Cursor
  | 0, acc, breaks, c => (acc, [], breaks, c)
  | fuel + 1, acc, breaks, c =>
    if c.column == column && c.head != finish then
      let acc := acc ++ breaks
      let wasIndented := isSpaceOrTab c.head
      let (line, c) := c.takeWhile (!isBreakOrEnd ·)
      let acc := acc ++ line
      let (newline, c) := c.lineBreak
      let (breaks, c) := blockBreaks column (c.rest.length + 1) [] c
      if c.column == column && c.head != finish then
        let joint :=
          if isFolded && newline == ['\n'] && !wasIndented && !isSpaceOrTab c.head then
            if breaks.isEmpty then [' '] else []
          else newline
        blockLines isFolded column fuel (acc ++ joint) breaks c
      else (acc, newline, breaks, c)
    else (acc, [], breaks, c)

/-- A block scalar in a block indented to `indent`; the cursor is at its mark. -/
def blockScalar (isFolded : Bool) (indent : Int) (c : Cursor) : Except Fault (Token × Cursor) := do
  let (chomp, increment, c) ← blockMarks c.next
  let least := (max (indent + 1) 1).toNat
  let (breaks, column, c) := match increment with
    | none =>
      let (breaks, deepest, c) := blockIndentation (c.rest.length + 1) [] 0 c
      (breaks, max least deepest, c)
    | some increment =>
      let column := least + increment - 1
      let (breaks, c) := blockBreaks column (c.rest.length + 1) [] c
      (breaks, column, c)
  let (text, newline, breaks, c) := blockLines isFolded column (c.rest.length + 1) [] breaks c
  let text := text ++ (match chomp with
    | .strip => []
    | .clip => newline
    | .keep => newline ++ breaks)
  return (.scalar (String.ofList text) false, c)

end Stepwise.Yaml
