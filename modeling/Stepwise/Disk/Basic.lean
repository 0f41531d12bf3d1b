import Stepwise.Disk.Path
import Stepwise.Text.Quoted
import Stepwise.Text.Utf8

namespace Stepwise

/-- Why a file is not read or written. -/
inductive DiskFault where
  | notFound (path : String)
  | isDirectory (path : String)
  | notDirectory (path : String)
  | fileExists (path : String)
  | undecodable (bad : Text.BadByte)
deriving DecidableEq

namespace DiskFault

def kind : DiskFault → String
  | notFound _ => "FileNotFoundError"
  | isDirectory _ => "IsADirectoryError"
  | notDirectory _ => "NotADirectoryError"
  | fileExists _ => "FileExistsError"
  | undecodable _ => "UnicodeDecodeError"

def message : DiskFault → String
  | notFound path => "[Errno 2] No such file or directory: " ++ Text.quoted path
  | isDirectory path => "[Errno 21] Is a directory: " ++ Text.quoted path
  | notDirectory path => "[Errno 20] Not a directory: " ++ Text.quoted path
  | fileExists path => "[Errno 17] File exists: " ++ Text.quoted path
  | undecodable bad => bad.message

end DiskFault

inductive DiskEntry where
  | file (bytes : List UInt8)
  | directory

/-- Files and directories by the names that lead to them from the root, and the directory that
    relative paths start from. -/
structure Disk where
  cwd : Path
  entries : List (List String × DiskEntry)

namespace Disk

/-- Follows names; two dots lead back. What is not there leads nowhere. -/
def follow (d : Disk) : List String → List String → Except Bool (List String)
  | at_, [] => .ok at_
  | at_, name :: rest =>
    if name == ".." then follow d at_.dropLast rest
    else
      let here := at_ ++ [name]
      if rest.isEmpty then .ok here
      else match d.entries.lookup here with
        | some .directory => follow d here rest
        | some (.file _) => .error true
        | none => .error false

/-- The names that lead to a path; an error tells whether a file is in the way. -/
def locate (d : Disk) (p : Path) : Except Bool (List String) :=
  follow d [] (d.cwd.join p).names

/-- The absolute path that a path leads to. -/
def resolve (d : Disk) (p : Path) : Path :=
  match d.locate p with
  | .ok names => ⟨"/", names⟩
  | .error _ => d.cwd.join p

def entry? (d : Disk) (p : Path) : Option DiskEntry :=
  match d.locate p with
  | .ok [] => some .directory
  | .ok names => d.entries.lookup names
  | .error _ => none

def contains (d : Disk) (p : Path) : Bool := (d.entry? p).isSome

def isDirectory (d : Disk) (p : Path) : Bool :=
  match d.entry? p with
  | some .directory => true
  | _ => false

/-- The names in a directory, in order. -/
def namesIn (d : Disk) (p : Path) : List String :=
  match d.locate p with
  | .error _ => []
  | .ok names => (d.entries.filterMap fun (path, _) =>
      if path.dropLast = names then path.getLast? else none).mergeSort (· ≤ ·)

/-- The content of a file. -/
def readBytes (d : Disk) (p : Path) : Except DiskFault (List UInt8) :=
  match d.locate p with
  | .error true => .error (.notDirectory p.toString)
  | _ => match d.entry? p with
    | some (.file bytes) => .ok bytes
    | some .directory => .error (.isDirectory p.toString)
    | none => .error (.notFound p.toString)

/-- The text of a file. -/
def readText (d : Disk) (p : Path) : Except DiskFault String := do
  let s ← (Text.ofBytes (← d.readBytes p)).mapError .undecodable
  return Text.plainLines s

def put (d : Disk) (names : List String) (entry : DiskEntry) : Disk :=
  { d with entries := (names, entry) :: d.entries.filter (·.1 != names) }

/-- Replaces the content of a file; its directory has to be there. -/
def writeBytes (d : Disk) (p : Path) (bytes : List UInt8) : Except DiskFault Disk :=
  match d.locate p with
  | .error true => .error (.notDirectory p.toString)
  | .error false => .error (.notFound p.toString)
  | .ok names =>
    let absolute : Path := ⟨"/", names⟩
    if d.isDirectory absolute then .error (.isDirectory p.toString)
    else if d.isDirectory absolute.parent then .ok (d.put names (.file bytes))
    else if d.contains absolute.parent then .error (.notDirectory p.toString)
    else .error (.notFound p.toString)

/-- Replaces a file by a text. -/
def writeText (d : Disk) (p : Path) (s : String) : Except DiskFault Disk :=
  d.writeBytes p (Text.toBytes s)

def remove (d : Disk) (p : Path) : Disk :=
  match d.locate p with
  | .ok names => { d with entries := d.entries.filter (·.1 != names) }
  | .error _ => d

/-- Makes a directory and those above it; a file may not be in the way. -/
def makeDirectory (d : Disk) (p : Path) : Except DiskFault Disk :=
  go d [] (d.cwd.join p).names
where
  go (d : Disk) (at_ : List String) : List String → Except DiskFault Disk
    | [] => .ok d
    | name :: rest =>
      if name == ".." then go d at_.dropLast rest
      else
        let here := at_ ++ [name]
        match d.entries.lookup here with
        | some .directory => go d here rest
        | some (.file _) =>
          .error (if rest.isEmpty then .fileExists p.toString else .notDirectory p.toString)
        | none => go (d.put here .directory) here rest

end Disk

end Stepwise
