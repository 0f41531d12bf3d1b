import Stepwise.Yaml.Scalar

namespace Stepwise.Yaml

/-! ### Names, tags and directives -/

/-- A name of one character or more, with what has to follow it. -/
def name (follows : Char → Bool) (c : Cursor) : Except Fault (String × Cursor) :=
  let (name, after) := c.takeWhile isNameChar
  if name.isEmpty || !follows after.head then .error .malformed
  else .ok (String.ofList name, after)

private def followsAnchor (c : Char) : Bool := isGap c || "?:,]\x7d%@`".toList.contains c

/-- A handle: an exclamation mark, or a name between two. -/
def tagHandle (c : Cursor) : Except Fault (String × Cursor) :=
  if c.head != '!' then .error .malformed
  else if c.peek 1 == ' ' then .ok ("!", c.next)
  else
    let (name, after) := c.next.takeWhile isNameChar
    if after.head == '!' then .ok (String.ofList ('!' :: name ++ ['!']), after.next)
    else .error .malformed

private def isAddressChar (c : Char) : Bool :=
  isNameChar c || "-;/?:@&=+$,_.!~*'()[]%".toList.contains c

/-- Bytes that are written as pairs of digits after percent signs. -/
def percentBytes : List Char → Except Fault (List UInt8 × List Char)
  | '%' :: a :: b :: rest =>
    match Text.digitValue? a, Text.digitValue? b with
    | some high, some low =>
      if high < 16 && low < 16 then do
        let (bytes, rest) ← percentBytes rest
        return ((16 * high + low).toUInt8 :: bytes, rest)
      else .error .malformed
    | _, _ => .error .malformed
  | '%' :: _ => .error .malformed
  | rest => .ok ([], rest)

/-- The address that a tag ends with. -/
def tagAddress (c : Cursor) : Except Fault (String × Cursor) := do
  let (raw, after) := c.takeWhile isAddressChar
  if raw.isEmpty then throw .malformed
  return (String.ofList (← decoded (raw.length + 1) raw), after)
where
  decoded : Nat → List Char → Except Fault (List Char)
    | 0, _ => .ok []
    | _ + 1, [] => .ok []
    | fuel + 1, '%' :: rest => do
      let (bytes, rest) ← percentBytes ('%' :: rest)
      match String.fromUTF8? (ByteArray.mk bytes.toArray) with
      | some s => return s.toList ++ (← decoded fuel rest)
      | none => .error .malformed
    | fuel + 1, c :: rest => return c :: (← decoded fuel rest)

/-- A tag; the cursor is at its exclamation mark. -/
def tagToken (c : Cursor) : Except Fault (Token × Cursor) := do
  let (raw, c) ←
    if c.peek 1 == '<' then do
      let (address, c) ← tagAddress (c.forward 2)
      if c.head != '>' then throw .malformed
      pure ((⟨none, address⟩ : RawTag), c.next)
    else if isGap (c.peek 1) then pure (⟨none, "!"⟩, c.next)
    else do
      let word := c.next.rest.takeWhile (!isSpaceOrEnd ·)
      let (handle, c) ← if word.contains '!' then tagHandle c else pure ("!", c.next)
      let (address, c) ← tagAddress c
      pure (⟨some handle, address⟩, c)
  if !isSpaceOrEnd c.head then throw .malformed
  return (.tag raw, c)

private def number (c : Cursor) : Except Fault (Nat × Cursor) :=
  let (digits, after) := c.takeWhile fun ch => '0' ≤ ch && ch ≤ '9'
  if digits.isEmpty then .error .malformed
  else .ok (Text.valueOfDigits 10 (digits.filterMap Text.digitValue?), after)

/-- A line that begins with a percent sign. -/
def directive (c : Cursor) : Except Fault (Token × Cursor) := do
  let (word, c) ← name isSpaceOrEnd c.next
  let (token, c) ← match word with
    | "YAML" => do
      let (major, c) ← number c.skipSpaces
      if c.head != '.' then throw .malformed
      let (_, c) ← number c.next
      if !isSpaceOrEnd c.head then throw .malformed
      pure (Token.version major, c)
    | "TAG" => do
      let (handle, c) ← tagHandle c.skipSpaces
      if c.head != ' ' then throw .malformed
      let (text, c) ← tagAddress c.skipSpaces
      if !isSpaceOrEnd c.head then throw .malformed
      pure (Token.tagPrefix handle text, c)
    | _ => pure (Token.directive, c.skipWhile (!isBreakOrEnd ·))
  let c := c.skipSpaces.skipComment
  if isBreakOrEnd c.head then return (token, c.lineBreak.2) else throw .malformed

/-! ### Structure -/

/-- A token that turns out to begin a mapping's key if a colon follows in its line. -/
structure PendingKey where
  /-- The number of tokens before it. -/
  position : Nat
  /-- Nothing but a key may stand here. -/
  required : Bool
  index : Nat
  line : Nat
  column : Nat

/-- A reader of tokens. -/
structure Lexer where
  cursor : Cursor
  tokens : Array Token
  /-- The depth of brackets. -/
  flow : Nat
  /-- The column of the innermost block, less than zero outside of all. -/
  indent : Int
  outer : List Int
  keyAllowed : Bool
  /-- The pending key of each depth of brackets. -/
  keys : List (Nat × PendingKey)

namespace Lexer

def ofCursor (c : Cursor) : Lexer := ⟨c, #[], 0, -1, [], true, []⟩

def inFlow (l : Lexer) : Bool := l.flow != 0

/-- Adds a token and moves to a place. -/
def push (l : Lexer) (token : Token) (c : Cursor) : Lexer :=
  { l with tokens := l.tokens.push token, cursor := c }

/-- A key stays in its line, and is not longer than this. -/
def maxKeyLength : Nat := 1024

/-- Gives up the pending keys that can no longer be keys. -/
def dropStaleKeys (l : Lexer) : Except Fault Lexer :=
  let isStale (k : PendingKey) : Bool :=
    k.line != l.cursor.line || maxKeyLength < l.cursor.index - k.index
  if l.keys.any fun (_, k) => isStale k && k.required then .error .malformed
  else .ok { l with keys := l.keys.filter fun (_, k) => !isStale k }

/-- Gives up the pending key of this depth. -/
def dropKey (l : Lexer) : Except Fault Lexer :=
  match l.keys.lookup l.flow with
  | some k =>
    if k.required then .error .malformed
    else .ok { l with keys := l.keys.filter (·.1 != l.flow) }
  | none => .ok l

/-- The next token may begin a key. -/
def saveKey (l : Lexer) : Except Fault Lexer :=
  if l.keyAllowed then do
    let required := !l.inFlow && l.indent == l.cursor.column
    let l ← l.dropKey
    let key : PendingKey :=
      ⟨l.tokens.size, required, l.cursor.index, l.cursor.line, l.cursor.column⟩
    return { l with keys := (l.flow, key) :: l.keys }
  else return l

/-- Ends the blocks that are indented further than a column. -/
def unwind (column : Int) (l : Lexer) : Lexer :=
  if l.inFlow then l else go l.outer l
where
  go : List Int → Lexer → Lexer
    | [], l => l
    | outer :: rest, l =>
      if column < l.indent then
        go rest { l with indent := outer, outer := rest, tokens := l.tokens.push .blockEnd }
      else l

/-- Begins a block at a column, if it is indented further than the last. -/
def indentTo (column : Nat) (l : Lexer) : Option Lexer :=
  if l.indent < column then some { l with indent := column, outer := l.indent :: l.outer }
  else none

/-- Spaces, comments and line breaks before the next token. -/
def skipBlank : Nat → Lexer → Lexer
  | 0, l => l
  | fuel + 1, l =>
    let c := l.cursor.skipSpaces.skipComment
    if isBreak c.head then
      skipBlank fuel { l with
        cursor := c.lineBreak.2
        keyAllowed := l.keyAllowed || !l.inFlow }
    else { l with cursor := c }

private def documentMarker (l : Lexer) (token : Token) : Except Fault Lexer := do
  let l ← (l.unwind (-1)).dropKey
  return { l with keyAllowed := false }.push token (l.cursor.forward 3)

private def flowStart (l : Lexer) (token : Token) : Except Fault Lexer := do
  let l ← l.saveKey
  return { l with flow := l.flow + 1, keyAllowed := true }.push token l.cursor.next

private def flowEnd (l : Lexer) (token : Token) : Except Fault Lexer := do
  if l.flow == 0 then throw .malformed
  let l ← l.dropKey
  return { l with flow := l.flow - 1, keyAllowed := false }.push token l.cursor.next

private def flowEntry (l : Lexer) : Except Fault Lexer := do
  let l ← l.dropKey
  return { l with keyAllowed := true }.push .flowEntry l.cursor.next

/-- Begins a block here for an entry or a key that is written out. -/
private def openBlock (l : Lexer) (opening : Token) : Except Fault Lexer :=
  if l.inFlow then .ok l
  else if !l.keyAllowed then .error .malformed
  else match l.indentTo l.cursor.column with
    | some l => .ok (l.push opening l.cursor)
    | none => .ok l

private def blockEntry (l : Lexer) : Except Fault Lexer := do
  let l ← l.openBlock .blockSequenceStart
  let l ← l.dropKey
  return { l with keyAllowed := true }.push .blockEntry l.cursor.next

private def explicitKey (l : Lexer) : Except Fault Lexer := do
  let l ← l.openBlock .blockMappingStart
  let l ← l.dropKey
  return { l with keyAllowed := !l.inFlow }.push .key l.cursor.next

/-- A colon. It makes a key of the pending key, which may begin a mapping. -/
private def valueMark (l : Lexer) : Except Fault Lexer := do
  match l.keys.lookup l.flow with
  | some k =>
    let l := { l with
      keys := l.keys.filter (·.1 != l.flow)
      tokens := l.tokens.insertIdxIfInBounds k.position .key
      keyAllowed := false }
    let l := if l.inFlow then l else match l.indentTo k.column with
      | some l => { l with tokens := l.tokens.insertIdxIfInBounds k.position .blockMappingStart }
      | none => l
    return l.push .value l.cursor.next
  | none =>
    let l ← l.openBlock .blockMappingStart
    let l ← { l with keyAllowed := !l.inFlow }.dropKey
    return l.push .value l.cursor.next

/-- A token that may begin a key, but after which no key may begin. -/
private def word (l : Lexer) (scan : Cursor → Except Fault (Token × Cursor)) :
    Except Fault Lexer := do
  let l ← l.saveKey
  let (token, c) ← scan l.cursor
  return { l with keyAllowed := false }.push token c

private def block (l : Lexer) (isFolded : Bool) : Except Fault Lexer := do
  let l ← { l with keyAllowed := true }.dropKey
  let (token, c) ← blockScalar isFolded l.indent l.cursor
  return l.push token c

private def plain (l : Lexer) : Except Fault Lexer := do
  let l ← l.saveKey
  let (text, atLine, c) :=
    plainText l.inFlow (l.indent + 1) (l.cursor.rest.length + 1) [] [] false l.cursor
  return { l with keyAllowed := atLine }.push (.scalar (String.ofList text) true) c

/-- A plain scalar may begin here. -/
private def startsPlain (l : Lexer) : Bool :=
  let c := l.cursor.head
  !(isGap c || "-?:,[]\x7b\x7d#&*!|>'\"%@`".toList.contains c) ||
    (!isGap (l.cursor.peek 1) && (c == '-' || (!l.inFlow && (c == '?' || c == ':'))))

/-- The next token, which comes after what is blank. Says whether the text has ended. -/
def step (l : Lexer) : Except Fault (Lexer × Bool) := do
  let l := l.skipBlank (l.cursor.rest.length + 1)
  let l := (← l.dropStaleKeys).unwind l.cursor.column
  let c := l.cursor
  let wordEnds := isGap (c.peek 1)
  if c.head == finish then
    let l ← (l.unwind (-1)).dropKey
    return (l, true)
  let l ←
    if c.head == '%' && c.column == 0 then do
      let l ← (l.unwind (-1)).dropKey
      let (token, c) ← directive l.cursor
      pure ({ l with keyAllowed := false }.push token c)
    else if c.column == 0 && c.isMarker '-' then l.documentMarker .documentStart
    else if c.column == 0 && c.isMarker '.' then l.documentMarker .documentEnd
    else if c.head == '[' then l.flowStart .flowSequenceStart
    else if c.head == '\x7b' then l.flowStart .flowMappingStart
    else if c.head == ']' then l.flowEnd .flowSequenceEnd
    else if c.head == '\x7d' then l.flowEnd .flowMappingEnd
    else if c.head == ',' then l.flowEntry
    else if c.head == '-' && wordEnds then l.blockEntry
    else if c.head == '?' && (l.inFlow || wordEnds) then l.explicitKey
    else if c.head == ':' && (l.inFlow || wordEnds) then l.valueMark
    else if c.head == '*' then l.word fun c => do
      let (name, c) ← name followsAnchor c.next
      return (.alias name, c)
    else if c.head == '&' then l.word fun c => do
      let (name, c) ← name followsAnchor c.next
      return (.anchor name, c)
    else if c.head == '!' then l.word tagToken
    else if c.head == '|' && !l.inFlow then l.block false
    else if c.head == '>' && !l.inFlow then l.block true
    else if c.head == '\'' then l.word (quotedScalar false)
    else if c.head == '"' then l.word (quotedScalar true)
    else if l.startsPlain then l.plain
    else .error .malformed
  return (l, false)

/-- The tokens of the rest of the text. -/
def run : Nat → Lexer → Except Fault (Array Token)
  | 0, _ => .error .malformed
  | fuel + 1, l => do
    let (l, isDone) ← l.step
    if isDone then return l.tokens else run fuel l

end Lexer

/-- The tokens of a text. A byte order mark may stand at its start. -/
def tokens (s : String) : Except Fault (List Token) := do
  let c := Cursor.ofString s
  if !c.rest.all printableRanges.contains then throw .malformed
  let c := if c.head == '\ufeff' then c.next else c
  return (← (Lexer.ofCursor c).run (c.rest.length + 2)).toList

end Stepwise.Yaml
