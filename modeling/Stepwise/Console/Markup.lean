import Stepwise.Console.Emoji
import Stepwise.Console.Style

namespace Stepwise.Console

/-- A tag between square brackets: a style, and what follows an equals sign. -/
structure Tag where
  name : String
  argument : Option String

/-- A part of a text with markup. -/
inductive Piece where
  | plain (s : String)
  | tag (t : Tag)

/-- Why a text with markup is not shown. -/
inductive MarkupFault where
  /-- A closing tag of this style closes nothing. -/
  | unmatched (style : String)
  | nothingOpen
deriving DecidableEq

namespace Piece

def beginsTag (c : Char) : Bool :=
  ('a' ≤ c && c ≤ 'z') || c == '#' || c == '/' || c == '@'

/-- What stands between the bracket that was read and the one that closes it, and the rest. -/
def enclosed? (cs : List Char) : Option (List Char × List Char) :=
  match cs with
  | [] => none
  | c :: _ =>
    if beginsTag c then
      match cs.span fun c => c != ']' && c != '[' with
      | (inner, ']' :: rest) => some (inner, rest)
      | _ => none
    else none

def tagOf (inner : List Char) : Tag :=
  let name := inner.takeWhile (· != '=')
  ⟨String.ofList name, match inner.drop name.length with
    | [] => none
    | _ :: argument => some (String.ofList argument)⟩

def flush (pending : List Char) (pieces : List Piece) : List Piece :=
  if pending.isEmpty then pieces else .plain (String.ofList pending.reverse) :: pieces

/-- Splits a text into plain parts and tags. A backslash before a tag makes it plain, and two of
    them are one. -/
def split : Nat → (pending : List Char) → List Char → List Piece
  | 0, pending, rest => flush (rest.reverse ++ pending) []
  | _ + 1, pending, [] => flush pending []
  | fuel + 1, pending, c :: rest =>
    let slashes := (c :: rest).takeWhile (· == '\\')
    match (c :: rest).drop slashes.length with
    | '[' :: after => match enclosed? after with
      | some (inner, rest) =>
        let literal := List.replicate (slashes.length / 2) '\\'
        let here := if slashes.length % 2 == 1 then
            Piece.plain (String.ofList ('[' :: inner ++ [']'])) else .tag (tagOf inner)
        flush pending (flush literal (here :: split fuel [] rest))
      | none => split fuel ('[' :: slashes ++ pending) after
    | after =>
      if slashes.isEmpty then split fuel (c :: pending) rest
      else split fuel (slashes ++ pending) after

def ofText (s : String) : List Piece :=
  split (s.length + 1) [] s.toList

end Piece

namespace Markup

/-- A bracket after a backslash stands for itself. -/
def unescaped : List Char → List Char
  | '\\' :: '[' :: rest => '[' :: unescaped rest
  | c :: rest => c :: unescaped rest
  | [] => []

/-- Removes the style that was opened last of those with this name. -/
def close (style : String) : List String → Option (List String)
  | [] => none
  | top :: rest => if top == style then some rest else (close style rest).map (top :: ·)

def walk : (opened : List String) → List Piece → Except MarkupFault (List Char)
  | _, [] => .ok []
  | opened, .plain s :: rest => do
    return (withPictures (String.ofList (unescaped s.toList))).toList ++ (← walk opened rest)
  | opened, .tag t :: rest =>
    match t.name.toList with
    | '/' :: name =>
      let name := Text.trim (String.ofList name)
      if name.isEmpty then match opened with
        | [] => .error .nothingOpen
        | _ :: opened => walk opened rest
      else match close (Style.normal name) opened with
        | some opened => walk opened rest
        | none => .error (.unmatched (Style.normal name))
    | _ => walk (Style.normal t.name :: opened) rest

/-- The text that is left when the tags of a text are carried out, with pictures for their names. -/
def shown (s : String) : Except MarkupFault String :=
  if s.toList.contains '[' then (walk [] (Piece.ofText s)).map String.ofList
  else .ok (withPictures s)

end Markup

end Stepwise.Console
