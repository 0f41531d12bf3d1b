import Stepwise.Disk.Path
import Stepwise.Table
import Stepwise.Text.Numeral

namespace Stepwise.Cli

/-- How a run is asked for. -/
structure RunOptions where
  script : Option String
  scripts : Option Path
  resumes : Bool
  restarts : Bool
  /-- Settings of variables, each still one text. -/
  vars : List String
  stateFile : Option Path
  maxSteps : Option Int
  isVerbose : Bool
  diagnosticsDirectory : Option Path

/-- What the program is asked to do. -/
inductive Job where
  | list (scripts : Option Path)
  | validate (path : Path)
  | run (options : RunOptions)
  | help

/-- An option: its names, and whether a value belongs to it. -/
structure OptionKind where
  names : List String
  takesValue : Bool

/-- Options with their values, in order, and the words that are none. -/
structure Arguments where
  options : List (String × String)
  words : List String

namespace Arguments

private def kind? (kinds : List OptionKind) (name : String) : Option OptionKind :=
  kinds.find? (·.names.contains name)

/-- Takes an option up under the first of its names. -/
private def add (a : Arguments) (kind : OptionKind) (value : String) : Arguments :=
  { a with options := (kind.names.headD "", value) :: a.options }

/-- Reads letters after one dash. A letter whose option takes a value takes what is left. -/
private def letters (kinds : List OptionKind) (a : Arguments) :
    List Char → List String → Option (Arguments × List String)
  | [], rest => some (a, rest)
  | c :: cs, rest => match kind? kinds (String.ofList ['-', c]) with
    | none => none
    | some kind =>
      if !kind.takesValue then letters kinds (a.add kind "") cs rest
      else if !cs.isEmpty then some (a.add kind (String.ofList cs), rest)
      else match rest with
        | value :: rest => some (a.add kind value, rest)
        | [] => none

/-- Reads words; two dashes end the options. Nothing is read if an option is unknown, lacks its
    value or has one too many. -/
private def go (kinds : List OptionKind) : Nat → Arguments → List String → Option Arguments
  | 0, _, _ => none
  | _ + 1, a, [] => some { a with options := a.options.reverse, words := a.words.reverse }
  | fuel + 1, a, word :: rest =>
    if word == "--" then
      some { a with options := a.options.reverse, words := a.words.reverse ++ rest }
    else if word.toList.head? != some '-' || word == "-" then
      go kinds fuel { a with words := word :: a.words } rest
    else
      let name := String.ofList (word.toList.takeWhile (· != '='))
      let value? := match word.toList.drop name.length with
        | _ :: value => some (String.ofList value)
        | [] => none
      match kind? kinds name, value? with
      | some kind, some value => if kind.takesValue then go kinds fuel (a.add kind value) rest else none
      | some kind, none =>
        if !kind.takesValue then go kinds fuel (a.add kind "") rest
        else match rest with
          | value :: rest => go kinds fuel (a.add kind value) rest
          | [] => none
      | none, _ =>
        if word.startsWith "--" then none
        else match letters kinds a (word.toList.drop 1) rest with
          | some (a, rest) => go kinds fuel a rest
          | none => none

/-- Reads words as options of the given kinds, and other words. -/
def read? (kinds : List OptionKind) (words : List String) : Option Arguments :=
  go kinds (words.length + 1) ⟨[], []⟩ words

/-- The value that was given last. -/
def last? (a : Arguments) (name : String) : Option String :=
  a.options.reverse.lookup name

def has (a : Arguments) (name : String) : Bool := (a.last? name).isSome

def path? (a : Arguments) (name : String) : Option Path := (a.last? name).map Path.ofString

end Arguments

namespace Job

private def helpKind : OptionKind := ⟨["--help"], false⟩

private def scriptsKind : OptionKind := ⟨["--scripts"], true⟩

private def runKinds : List OptionKind :=
  [helpKind, scriptsKind, ⟨["--resume"], false⟩, ⟨["--restart"], false⟩, ⟨["--var"], true⟩,
    ⟨["--state-file"], true⟩, ⟨["--max-steps"], true⟩, ⟨["--verbose", "-v"], false⟩,
    ⟨["--diagnostics-dir"], true⟩]

/-- A number of steps, which is at least one. -/
private def stepCount? (s : String) : Option Int :=
  match Text.readInteger 10 (Text.asciiNumeral s.toList) with
  | .ok n => if 1 ≤ n then some n else none
  | .error _ => none

private def runOf? (a : Arguments) : Option Job := do
  if a.has "--help" then return help
  if 1 < a.words.length then none
  let counts ← (a.options.filter (·.1 == "--max-steps")).mapM fun (_, s) => stepCount? s
  if a.has "--resume" && a.has "--restart" then none
  return run {
    script := a.words.head?
    scripts := a.path? "--scripts"
    resumes := a.has "--resume"
    restarts := a.has "--restart"
    vars := (a.options.filter (·.1 == "--var")).map Prod.snd
    stateFile := a.path? "--state-file"
    maxSteps := counts.getLast?
    isVerbose := a.has "--verbose"
    diagnosticsDirectory := a.path? "--diagnostics-dir" }

/-- Reads a command line. -/
def read? : List String → Option Job
  | "list" :: words => do
    let a ← Arguments.read? [helpKind, scriptsKind] words
    if a.has "--help" then return help
    if a.words.isEmpty then return list (a.path? "--scripts") else none
  | "validate" :: words => do
    let a ← Arguments.read? [helpKind] words
    if a.has "--help" then return help
    match a.words with
    | [path] => return validate (.ofString path)
    | _ => none
  | "run" :: words => do runOf? (← Arguments.read? runKinds words)
  | ["--help"] => some help
  | _ => none

end Job

/-- The variables that settings of the form `name=value` give; the last one of a name counts. None
    if a setting has no name or no equals sign. -/
def readVars? (settings : List String) : Option (Table String) :=
  (settings.mapM fun (setting : String) =>
    let name := setting.toList.takeWhile (· != '=')
    match name, setting.toList.drop name.length with
    | [], _ | _, [] => none
    | name, _ :: value => some (String.ofList name, String.ofList value)).map Table.ofList

end Stepwise.Cli
