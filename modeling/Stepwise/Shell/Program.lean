import Stepwise.Process.Format
import Stepwise.Shell.State
import Stepwise.Text.Blank
import Stepwise.Text.Numeral

namespace Stepwise.Shell

/-- A program that is told its words and changes the state. -/
abbrev Program := List String → State → State

namespace Program

private def faultText : DiskFault → String
  | .notFound _ => "No such file or directory"
  | .isDirectory _ => "Is a directory"
  | .notDirectory _ => "Not a directory"
  | .fileExists _ => "File exists"
  | .undecodable bad => bad.message

/-- Writes its words; the first may say to leave the line open, or to carry out escapes. -/
def echo (escapes : Bool) : Program
  | "-n" :: words, s => (s.write (content escapes words)).succeed
  | "-e" :: words, s => ((s.write (content true words)).say "\n").succeed
  | words, s => ((s.write (content escapes words)).say "\n").succeed
where
  content (escapes : Bool) (words : List String) : List UInt8 :=
    let text := " ".intercalate words
    if escapes then Process.unescaped (text.length + 1) text.toList else Text.toBytes text

/-- Writes its words by a format. -/
def printf : Program
  | [], s => s.complain 2 "printf: missing operand"
  | text :: words, s =>
    let (bytes, bad) := Process.format text words
    bad.foldl (fun s word => s.complain 1 ("printf: '" ++ word ++ "': expected a numeric value"))
      (s.write bytes).succeed

def printDirectory : Program := fun _ s => (s.say (s.disk.cwd.toString ++ "\n")).succeed

/-- Writes files one after the other. -/
def cat : Program := fun files s =>
  if files.isEmpty then (s.write s.input).succeed
  else files.foldl (fun s file =>
    if file == "-" then s.write s.input
    else match s.disk.readBytes (.ofString file) with
      | .ok bytes => s.write bytes
      | .error fault => s.complain 1 ("cat: " ++ file ++ ": " ++ faultText fault)) s.succeed

/-- Lets time pass. -/
def sleep : Program
  | [], s => s.complain 1 "sleep: missing operand"
  | words, s => words.foldl (fun s word => match Text.readFloat? word.toList with
    | some seconds => s.wait seconds
    | none => s.complain 1 ("sleep: invalid time interval '" ++ word ++ "'")) s.succeed

/-- The names in a directory that are shown: all, or all but those that begin with a dot. -/
private def shownNames (s : State) (options : List Char) (directory : Path) : List String :=
  let names := s.disk.namesIn directory
  let own := if options.contains 'a' then [".", ".."] else []
  if options.contains 'a' || options.contains 'A' then own ++ names
  else names.filter fun name => name.toList.head? != some '.'

/-- Lists files, and the names in directories. Several directories are listed under their names. -/
def list : Program := fun words s =>
  let options := (words.filter (·.startsWith "-")).flatMap String.toList
  let operands := (words.filter (!·.startsWith "-")).mergeSort (· ≤ ·)
  let operands := if operands.isEmpty then ["."] else operands
  let found := operands.filter fun word => s.disk.contains (.ofString word)
  let (directories, files) := found.partition fun word =>
    s.disk.isDirectory (.ofString word) && !options.contains 'd'
  let blocks := (if files.isEmpty then [] else [files]) ++ directories.map fun word =>
    let names := shownNames s options (.ofString word)
    if operands.length == 1 then names else (word ++ ":") :: names
  let lines := (blocks.intersperse [""]).flatten
  (operands.filter (!found.contains ·)).foldl (fun s word =>
      s.complain 2 ("ls: cannot access '" ++ word ++ "': No such file or directory"))
    (s.say (String.join (lines.map (· ++ "\n")))).succeed

def makeDirectories : Program := fun words s =>
  (words.filter (· != "-p")).foldl (fun s word => match s.disk.makeDirectory (.ofString word) with
    | .ok disk => { s with disk }
    | .error fault => s.complain 1
        ("mkdir: cannot create directory '" ++ word ++ "': " ++ faultText fault)) s.succeed

def touch : Program := fun words s =>
  words.foldl (fun s word =>
    if s.disk.contains (.ofString word) then s
    else match s.disk.writeBytes (.ofString word) [] with
      | .ok disk => { s with disk }
      | .error fault => s.complain 1 ("touch: cannot touch '" ++ word ++ "': " ++ faultText fault))
    s.succeed

def remove : Program := fun words s =>
  let isForced := words.contains "-f"
  (words.filter (· != "-f")).foldl (fun s word =>
    if s.disk.isDirectory (.ofString word) then
      s.complain 1 ("rm: cannot remove '" ++ word ++ "': Is a directory")
    else if s.disk.contains (.ofString word) then
      { s with disk := s.disk.remove (.ofString word) }
    else if isForced then s
    else s.complain 1 ("rm: cannot remove '" ++ word ++ "': No such file or directory")) s.succeed

private def number (s : String) : Int :=
  match Text.readInteger 10 s.toList with
  | .ok n => n
  | .error _ => 0

private def holds (s : State) : List String → Bool
  | [] => false
  | ["!", word] => word.isEmpty
  | ["-n", word] => !word.isEmpty
  | ["-z", word] => word.isEmpty
  | ["-e", word] => s.disk.contains (.ofString word)
  | ["-d", word] => s.disk.isDirectory (.ofString word)
  | ["-f", word] => (s.disk.readBytes (.ofString word)).toOption.isSome
  | [word] => !word.isEmpty
  | [a, "=", b] => a == b
  | [a, "!=", b] => a != b
  | [a, "-eq", b] => number a == number b
  | [a, "-ne", b] => number a != number b
  | [a, "-lt", b] => number a < number b
  | [a, "-le", b] => number a ≤ number b
  | [a, "-gt", b] => number a > number b
  | [a, "-ge", b] => number a ≥ number b
  | _ => false

/-- Succeeds if a condition holds. -/
def test : Program := fun words s => { s with status := if holds s words then 0 else 1 }

/-- The numbers of the signals that have names. -/
def signals : List (String × Nat) :=
  [("HUP", 1), ("INT", 2), ("QUIT", 3), ("ABRT", 6), ("KILL", 9), ("USR1", 10), ("SEGV", 11),
    ("USR2", 12), ("PIPE", 13), ("ALRM", 14), ("TERM", 15)]

/-- Ends the script that sends the signal. -/
def kill : Program := fun words s =>
  let signal := match words with
    | [] | [_] => 15
    | "-s" :: name :: _ => (signals.lookup name).getD 15
    | word :: _ =>
      let name := String.ofList (word.toList.drop 1)
      ((signals.lookup name).map Int.ofNat).getD (number name)
  { s with status := -signal, isOver := true }

/-- The programs that the system has, and whether one is a script's own. -/
def find? (isScript : Bool) (name : String) : Option Program :=
  match name with
  | "true" | ":" => some fun _ s => s.succeed
  | "false" => some fun _ s => { s with status := 1 }
  | "echo" => some (echo isScript)
  | "printf" => some printf
  | "pwd" => some printDirectory
  | "cat" => some cat
  | "sleep" => some sleep
  | "ls" => some list
  | "mkdir" => some makeDirectories
  | "touch" => some touch
  | "rm" => some remove
  | "test" => some test
  | "[" => some fun words => test words.dropLast
  | "kill" => some kill
  | _ => none

/-- The programs that run scripts. -/
def isInterpreter (name : String) : Bool := name == "sh" || name == "dash" || name == "bash"

end Program

end Stepwise.Shell
