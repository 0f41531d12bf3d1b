import Stepwise.Text.Ranges

namespace Stepwise.Yaml

/-- Stands for the end of the text, which holds no such character itself. -/
def finish : Char := '\x00'

def isBreak (c : Char) : Bool :=
  c == '\n' || c == '\r' || c == '\x85' || c == '\u2028' || c == '\u2029'

def isBreakOrEnd (c : Char) : Bool := c == finish || isBreak c

def isSpaceOrEnd (c : Char) : Bool := c == ' ' || isBreakOrEnd c

/-- Ends a word: a space, a tab, a line break or the end. -/
def isGap (c : Char) : Bool := c == '\t' || isSpaceOrEnd c

/-- May stand in the name of an anchor or of a tag's handle. -/
def isNameChar (c : Char) : Bool :=
  ('0' ≤ c && c ≤ '9') || ('A' ≤ c && c ≤ 'Z') || ('a' ≤ c && c ≤ 'z') || c == '-' || c == '_'

/-- The characters that may stand in a document at all. -/
def printableRanges : Text.Ranges := ⟨[(0x9, 0xa), (0xd, 0xd), (0x20, 0x7e), (0x85, 0x85),
  (0xa0, 0xd7ff), (0xe000, 0xfffd), (0x10000, 0x10ffff)]⟩

/-- A place in a text: what is left of it, and how far it is from the start. -/
structure Cursor where
  rest : List Char
  index : Nat
  line : Nat
  column : Nat

namespace Cursor

def ofString (s : String) : Cursor := ⟨s.toList, 0, 0, 0⟩

/-- The character `k` places ahead. -/
def peek (c : Cursor) (k : Nat) : Char := (c.rest[k]?).getD finish

def head (c : Cursor) : Char := c.rest.headD finish

/-- One character further. A byte order mark takes no column. -/
def next (c : Cursor) : Cursor :=
  match c.rest with
  | [] => c
  | ch :: rest =>
    if ch == '\n' || ch == '\x85' || ch == '\u2028' || ch == '\u2029' ||
        (ch == '\r' && rest.head? != some '\n') then
      ⟨rest, c.index + 1, c.line + 1, 0⟩
    else ⟨rest, c.index + 1, c.line, if ch == '\ufeff' then c.column else c.column + 1⟩

def forward (n : Nat) (c : Cursor) : Cursor :=
  match n with
  | 0 => c
  | n + 1 => c.next.forward n

/-- The characters ahead that satisfy `p`, and the place after them. -/
def takeWhile (p : Char → Bool) (c : Cursor) : List Char × Cursor :=
  let taken := c.rest.takeWhile p
  (taken, c.forward taken.length)

def skipWhile (p : Char → Bool) (c : Cursor) : Cursor := (c.takeWhile p).2

def skipSpaces (c : Cursor) : Cursor := c.skipWhile (· == ' ')

/-- Skips a line break; most of them read as a line feed. -/
def lineBreak (c : Cursor) : List Char × Cursor :=
  match c.rest with
  | '\r' :: '\n' :: _ => (['\n'], c.forward 2)
  | ch :: _ =>
    if ch == '\n' || ch == '\r' || ch == '\x85' then (['\n'], c.next)
    else if ch == '\u2028' || ch == '\u2029' then ([ch], c.next)
    else ([], c)
  | [] => ([], c)

/-- Three of the same mark stand ahead, and the word ends after them. -/
def isMarker (mark : Char) (c : Cursor) : Bool :=
  c.rest.take 3 == [mark, mark, mark] && isGap (c.peek 3)

/-- A line that starts or ends a document. -/
def isDocumentMarker (c : Cursor) : Bool := c.isMarker '-' || c.isMarker '.'

/-- Skips the rest of a line that may only hold a comment. -/
def skipComment (c : Cursor) : Cursor :=
  if c.head == '#' then c.skipWhile (!isBreakOrEnd ·) else c

end Cursor

end Stepwise.Yaml
