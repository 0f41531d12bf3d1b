namespace Stepwise

/-- The path of a file or a directory: the slashes it starts with, and the names after them. A
    name is not empty and not a single dot. -/
structure Path where
  root : String
  names : List String
deriving DecidableEq, Inhabited

namespace Path

private def splitSlashes (cs : List Char) : List (List Char) :=
  match cs with
  | [] => [[]]
  | '/' :: rest => [] :: splitSlashes rest
  | c :: rest => match splitSlashes rest with
    | [] => [[c]]
    | name :: names => (c :: name) :: names

/-- Reads a path; repeated slashes and single dots are dropped. Exactly two slashes at the start
    are kept. -/
def ofString (s : String) : Path :=
  let cs := s.toList
  let slashes := (cs.takeWhile (· == '/')).length
  let root := if slashes == 0 then "" else if slashes == 2 then "//" else "/"
  ⟨root, ((splitSlashes cs).map String.ofList).filter fun name => name != "" && name != "."⟩

def isAbsolute (p : Path) : Bool := p.root != ""

def toString (p : Path) : String :=
  if p.root == "" && p.names.isEmpty then "." else p.root ++ "/".intercalate p.names

instance : ToString Path := ⟨toString⟩

/-- The path `q` as seen from `p`. -/
def join (p q : Path) : Path :=
  if q.isAbsolute then q else ⟨p.root, p.names ++ q.names⟩

def name (p : Path) : String := p.names.getLastD ""

def parent (p : Path) : Path := { p with names := p.names.dropLast }

/-- The last dot of a name and what follows, unless the dot is first or last. -/
def suffix (p : Path) : String :=
  let cs := p.name.toList
  let tail := (cs.reverse.takeWhile (· != '.')).reverse
  if tail.isEmpty || cs.length ≤ tail.length + 1 then "" else String.ofList ('.' :: tail)

/-- The name without its suffix. -/
def stem (p : Path) : String :=
  String.ofList (p.name.toList.take (p.name.length - p.suffix.length))

end Path

end Stepwise
