namespace Stepwise.Shell

/-- A part of a word. What is not quoted is split at blanks once its value is known. -/
inductive Part where
  | literal (s : String)
  | value (name : String) (isQuoted : Bool)
  /-- The output of a script. -/
  | output (script : String) (isQuoted : Bool)

/-- A word; one without parts is not there. -/
abbrev Word := List Part

inductive Token where
  | word (w : Word)
  /-- A separator, or a parenthesis. -/
  | mark (s : String)
  | readFrom
  | writeTo (descriptor : Nat) (appends : Bool)
  | copyTo (descriptor source : Nat)

namespace Token

private def isNameStart (c : Char) : Bool := c.isAlpha || c == '_'

private def isNamePart (c : Char) : Bool := c.isAlphanum || c == '_'

private def isSpecial (c : Char) : Bool :=
  c.isDigit || c == '?' || c == '#' || c == '@' || c == '*' || c == '$' || c == '!'

/-- What stands up to the parenthesis that closes, and what follows it. -/
private def enclosed : (depth : Nat) → List Char → List Char × List Char
  | _, [] => ([], [])
  | depth, ')' :: rest =>
    match depth with
    | 0 => ([], rest)
    | depth + 1 =>
      let (inner, after) := enclosed depth rest
      (')' :: inner, after)
  | depth, c :: rest =>
    let (inner, after) := enclosed (if c == '(' then depth + 1 else depth) rest
    (c :: inner, after)

/-- What a dollar sign begins, and the rest. -/
private def dollar (isQuoted : Bool) (cs : List Char) : Part × List Char :=
  match cs with
  | '(' :: rest =>
    let (inner, after) := enclosed 0 rest
    (.output (String.ofList inner) isQuoted, after)
  | '\x7b' :: rest =>
    (.value (String.ofList (rest.takeWhile (· != '\x7d'))) isQuoted,
      (rest.dropWhile (· != '\x7d')).drop 1)
  | c :: rest =>
    if isSpecial c then (.value (String.singleton c) isQuoted, rest)
    else if isNameStart c then
      (.value (String.ofList ((c :: rest).takeWhile isNamePart)) isQuoted, (c :: rest).dropWhile isNamePart)
    else (.literal "$", c :: rest)
  | [] => (.literal "$", [])

/-- What stands between double quotes, and the rest. -/
private def quoted : Nat → List Char → Word × List Char
  | 0, rest => ([], rest)
  | _ + 1, [] => ([], [])
  | _ + 1, '"' :: rest => ([], rest)
  | fuel + 1, '\\' :: c :: rest =>
    let (parts, after) := quoted fuel rest
    let s := if c == '"' || c == '\\' || c == '$' then String.singleton c
      else if c == '\n' then "" else String.ofList ['\\', c]
    (.literal s :: parts, after)
  | fuel + 1, '$' :: rest =>
    let (part, rest) := dollar true rest
    let (parts, after) := quoted fuel rest
    (part :: parts, after)
  | fuel + 1, c :: rest =>
    let (parts, after) := quoted fuel rest
    (.literal (String.singleton c) :: parts, after)

private def endsWord (c : Char) : Bool :=
  c == ' ' || c == '\t' || c == '\n' || c == ';' || c == '&' || c == '|' || c == '<' || c == '>' ||
    c == '(' || c == ')'

/-- The parts of the word that begins here, and the rest. -/
private def wordAt : Nat → List Char → Word × List Char
  | 0, rest => ([], rest)
  | _ + 1, [] => ([], [])
  | fuel + 1, '\x27' :: rest =>
    let (parts, after) := wordAt fuel ((rest.dropWhile (· != '\x27')).drop 1)
    (.literal (String.ofList (rest.takeWhile (· != '\x27'))) :: parts, after)
  | fuel + 1, '"' :: rest =>
    let (inner, rest) := quoted fuel rest
    let (parts, after) := wordAt fuel rest
    (.literal "" :: inner ++ parts, after)
  | fuel + 1, '\\' :: c :: rest =>
    let (parts, after) := wordAt fuel rest
    (if c == '\n' then parts else .literal (String.singleton c) :: parts, after)
  | fuel + 1, '$' :: rest =>
    let (part, rest) := dollar false rest
    let (parts, after) := wordAt fuel rest
    (part :: parts, after)
  | fuel + 1, c :: rest =>
    if endsWord c then ([], c :: rest)
    else
      let (parts, after) := wordAt fuel rest
      (.literal (String.singleton c) :: parts, after)

private def digit (c : Char) : Nat := c.toNat - 48

/-- The tokens of a script. -/
def scan : Nat → List Char → List Token
  | 0, _ | _ + 1, [] => []
  | fuel + 1, '#' :: rest => scan fuel (rest.dropWhile (· != '\n'))
  | fuel + 1, '&' :: '&' :: rest => .mark "&&" :: scan fuel rest
  | fuel + 1, '|' :: '|' :: rest => .mark "||" :: scan fuel rest
  | fuel + 1, '>' :: '>' :: rest => .writeTo 1 true :: scan fuel rest
  | fuel + 1, '>' :: '&' :: d :: rest => .copyTo 1 (digit d) :: scan fuel rest
  | fuel + 1, '>' :: rest => .writeTo 1 false :: scan fuel rest
  | fuel + 1, '<' :: rest => .readFrom :: scan fuel rest
  | fuel + 1, '2' :: '>' :: '>' :: rest => .writeTo 2 true :: scan fuel rest
  | fuel + 1, '2' :: '>' :: '&' :: d :: rest => .copyTo 2 (digit d) :: scan fuel rest
  | fuel + 1, '2' :: '>' :: rest => .writeTo 2 false :: scan fuel rest
  | fuel + 1, '1' :: '>' :: '&' :: d :: rest => .copyTo 1 (digit d) :: scan fuel rest
  | fuel + 1, '1' :: '>' :: rest => .writeTo 1 false :: scan fuel rest
  | fuel + 1, c :: rest =>
    if c == ' ' || c == '\t' then scan fuel rest
    else if c == '\n' then .mark ";" :: scan fuel rest
    else if endsWord c then .mark (String.singleton c) :: scan fuel rest
    else
      let (parts, after) := wordAt (rest.length + 2) (c :: rest)
      .word parts :: scan fuel after

def ofScript (script : String) : List Token :=
  scan (script.length + 1) script.toList

end Token

end Stepwise.Shell
