import Stepwise.Process.Basic
import Stepwise.Shell.Command
import Stepwise.Shell.Program

namespace Stepwise.Shell

namespace State

/-- What a name stands for in a script. -/
private def valueOf (s : State) (name : String) : String :=
  let cs := name.toList
  if cs.all Char.isDigit then s.args.getD (Text.valueOfDigits 10 (cs.map (·.toNat - 48))) ""
  else match name with
    | "?" => toString s.status
    | "#" => toString (s.args.length - 1)
    | "@" | "*" => " ".intercalate (s.args.drop 1)
    | "$" => "1"
    | _ =>
      let plain := cs.takeWhile fun c => c.isAlphanum || c == '_'
      match s.env.lookup (String.ofList plain), cs.drop plain.length with
      | some v, [] => v
      | none, [] => ""
      | some v, ':' :: '-' :: other => if v.isEmpty then String.ofList other else v
      | none, ':' :: '-' :: other => String.ofList other
      | some v, _ => v
      | none, '-' :: other => String.ofList other
      | none, _ => ""

def set (s : State) (name v : String) : State :=
  { s with env := (name, v) :: s.env.filter (·.1 != name) }

/-- Complains in the name of the script. -/
private def object (s : State) (status : Int) (text : String) : State :=
  s.complain status (s.args.headD "sh" ++ ": 1: " ++ text)

/-- A name and a value, if a word sets one. -/
private def assignment? (word : String) : Option (String × String) :=
  let name := word.toList.takeWhile (· != '=')
  match name, word.toList.drop name.length with
  | c :: _, '=' :: v =>
    if (c.isAlpha || c == '_') && name.all fun c => c.isAlphanum || c == '_' then
      some (String.ofList name, String.ofList v)
    else none
  | _, _ => none

/-- The file of a program that is named by a path, if the system lets it run. -/
def startFault? (d : Disk) (name : String) : Option StartFault :=
  match d.readBytes (.ofString name) with
  | .ok _ | .error (.isDirectory _) => some (.denied name)
  | .error (.notDirectory _) => some (.notDirectory name)
  | .error _ => some (.notFound name)

/-- The name of a program without the directory of the system that it is in. -/
def programName (name : String) : String :=
  let p := Path.ofString name
  if p.parent == .ofString "/bin" || p.parent == .ofString "/usr/bin" then p.name else name

end State

/-- The fields of a word so far, the last one open if there is one. -/
private structure Fields where
  closed : List String
  open_ : Option String

namespace Fields

private def add (f : Fields) (text : String) : Fields :=
  { f with open_ := some (f.open_.getD "" ++ text) }

/-- Adds a value that is not quoted: blanks close fields. -/
private def addSplit (f : Fields) (text : String) : Fields :=
  text.toList.foldl (fun f c =>
    if Text.isAsciiBlank c then ⟨f.closed ++ f.open_.toList, none⟩
    else f.add (String.singleton c)) f

private def addAll (f : Fields) : List String → Fields
  | [] => f
  | [word] => f.add word
  | word :: rest => addAll ⟨f.closed ++ (f.add word).open_.toList, none⟩ rest

private def all (f : Fields) : List String := f.closed ++ f.open_.toList

end Fields

mutual

/-- The fields that a word stands for. -/
private def expand : Nat → Fields → Word → State → List String × State
  | 0, f, _, s => (f.all, s)
  | _ + 1, f, [], s => (f.all, s)
  | fuel + 1, f, part :: rest, s => match part with
    | .literal text => expand fuel (f.add text) rest s
    | .value name isQuoted =>
      if isQuoted && name == "@" then expand fuel (f.addAll (s.args.drop 1)) rest s
      else if isQuoted then expand fuel (f.add (s.valueOf name)) rest s
      else expand fuel (f.addSplit (s.valueOf name)) rest s
    | .output text isQuoted =>
      let inner := script fuel text { s with out := [], first := .out }
      let read := (Text.ofBytes inner.out).toOption.getD ""
      let read := String.ofList (read.toList.reverse.dropWhile (· == '\n')).reverse
      let s := { s with disk := { inner.disk with cwd := s.disk.cwd }, err := inner.err
                        elapsed := inner.elapsed, status := inner.status }
      expand fuel (if isQuoted then f.add read else f.addSplit read) rest s

private def expandAll : Nat → List Word → State → List String × State
  | 0, _, s => ([], s)
  | _ + 1, [], s => ([], s)
  | fuel + 1, word :: rest, s =>
    let (fields, s) := expand fuel ⟨[], none⟩ word s
    let (more, s) := expandAll fuel rest s
    (fields ++ more, s)

/-- Sets up where output goes; none if a file cannot be opened. -/
private def redirect : Nat → List Redirect → State → Option State
  | 0, _, s => some s
  | _ + 1, [], s => some s
  | fuel + 1, r :: rest, s => match r with
    | .copy descriptor source =>
      let sink := if source == 1 then s.first else s.second
      redirect fuel rest (if descriptor == 1 then { s with first := sink } else { s with second := sink })
    | .input word =>
      let (fields, s) := expand fuel ⟨[], none⟩ word s
      let file := fields.headD ""
      if file == "/dev/null" then redirect fuel rest { s with input := [] }
      else match s.disk.readBytes (.ofString file) with
        | .ok input => redirect fuel rest { s with input }
        | .error _ => none
    | .output descriptor word appends =>
      let (fields, s) := expand fuel ⟨[], none⟩ word s
      let file := fields.headD ""
      let lead (s : State) (sink : Sink) : State :=
        if descriptor == 1 then { s with first := sink } else { s with second := sink }
      if file == "/dev/null" then redirect fuel rest (lead s .nowhere)
      else
        let p := s.disk.cwd.join (.ofString file)
        if appends && s.disk.contains p then redirect fuel rest (lead s (.file p))
        else match s.disk.writeBytes p [] with
          | .ok disk => redirect fuel rest (lead { s with disk } (.file p))
          | .error _ => none

/-- Runs a program by its words. -/
private def perform : Nat → List String → State → State
  | 0, _, s => { s with isOver := true, status := 2 }
  | _ + 1, [], s => s
  | fuel + 1, name :: words, s =>
    match name, words with
    | "exit", words => { s with
        status := (words.head?.map fun w => (Text.readInteger 10 w.toList).toOption.getD 2 % 256).getD s.status
        isOver := true }
    | "exec", words => { perform fuel words s with isOver := !words.isEmpty }
    | "cd", words =>
      let p := Path.ofString (words.headD "/")
      if s.disk.isDirectory p then
        { s with disk := { s.disk with cwd := s.disk.resolve p }, status := 0 }
      else s.object 2 ("cd: can't cd to " ++ words.headD "/")
    | "export", words => (words.foldl (fun s w => match State.assignment? w with
        | some (name, v) => s.set name v
        | none => s) s).succeed
    | "set", _ | "unset", _ => s.succeed
    | "shift", _ => { s with args := s.args.take 1 ++ s.args.drop 2, status := 0 }
    | name, words =>
      let known := State.programName name
      if Program.isInterpreter known then
        let inner := interpret fuel known words { s with isOver := false }
        { s with
          disk := { inner.disk with cwd := s.disk.cwd }
          out := inner.out
          err := inner.err
          elapsed := inner.elapsed
          status := if inner.status < 0 then 128 - inner.status else inner.status }
      else match Program.find? (known == name) known with
        | some program => program words s
        | none =>
          if name.toList.contains '/' then match State.startFault? s.disk name with
            | some (.denied _) => s.object 126 (name ++ ": Permission denied")
            | _ => s.object 127 (name ++ ": not found")
          else s.object 127 (name ++ ": not found")

/-- Runs the interpreter of scripts by its words. -/
private def interpret : Nat → String → List String → State → State
  | 0, _, _, s => s
  | fuel + 1, name, words, s => match words with
    | "-c" :: text :: args => script fuel text { s with args := if args.isEmpty then [name] else args }
    | "-c" :: [] => s.complain 2 (name ++ ": 0: -c requires an argument")
    | file :: args => match s.disk.readBytes (.ofString file) with
      | .ok bytes => script fuel ((Text.ofBytes bytes).toOption.getD "") { s with args := file :: args }
      | .error _ => s.complain 2 (name ++ ": 0: cannot open " ++ file ++ ": No such file")
    | [] => s.succeed

/-- Runs a script. -/
private def script : Nat → String → State → State
  | 0, _, s => s
  | fuel + 1, text, s => match Command.ofScript? text with
    | some c => eval fuel c s
    | none => s.object 2 "Syntax error"

/-- Runs a command, unless the script is over. -/
private def eval : Nat → Command → State → State
  | 0, _, s => s
  | fuel + 1, c, s =>
    if s.isOver || s.isLate then s
    else match c with
      | .nothing => s
      | .next a b => eval fuel b (eval fuel a s)
      | .both a b =>
        let s := eval fuel a s
        if s.status == 0 then eval fuel b s else s
      | .either a b =>
        let s := eval fuel a s
        if s.status == 0 then s else eval fuel b s
      | .negate a =>
        let s := eval fuel a s
        { s with status := if s.status == 0 then 1 else 0 }
      | .inside a =>
        let inner := eval fuel a s
        { s with
          disk := { inner.disk with cwd := s.disk.cwd }
          out := inner.out
          err := inner.err
          elapsed := inner.elapsed
          status := inner.status }
      | .pipe a b =>
        let left := eval fuel a { s with out := [], first := .out }
        let right := eval fuel b { s with
          disk := { left.disk with cwd := s.disk.cwd }
          err := left.err
          elapsed := left.elapsed
          input := left.out }
        { right with env := s.env, isOver := s.isOver, input := s.input }
      | .simple words redirects =>
        let (fields, s) := expandAll (fuel + 1) words s
        let sets := fields.takeWhile fun w => (State.assignment? w).isSome
        let inside := (sets.filterMap State.assignment?).foldl (fun s (name, v) => s.set name v) s
        match redirect (fuel + 1) redirects inside with
        | none => s.object 2 "cannot open a file"
        | some ready =>
          let rest := fields.drop sets.length
          if rest.isEmpty then
            { ready with first := s.first, second := s.second, input := s.input, status := 0 }
          else
            let after := perform fuel rest ready
            { after with
              first := s.first
              second := s.second
              input := s.input
              env := if sets.isEmpty then after.env else s.env }

end

end Shell

/-- A system that can run commands. -/
structure Machine where
  disk : Disk
  env : List (String × String)

namespace Machine

/-- How many steps a command may take inside of another. -/
def depth : Nat := 1000

/-- Runs a command in a directory. A command that takes longer than the limit is stopped. -/
def run (m : Machine) (argv : List String) (cwd : Option String) (limit : Option Float) :
    Completion × Machine :=
  match argv with
  | [] => (.noProgram, m)
  | name :: words =>
    if (argv ++ cwd.toList).any fun word => word.toList.contains '\x00' then (.badWord, m)
    else match enter cwd with
      | .error fault => (.notStarted fault, m)
      | .ok directory =>
        let disk := { m.disk with cwd := directory }
        let known := Shell.State.programName name
        let s := Shell.State.start disk m.env limit
        let ended (s : Shell.State) : Completion × Machine :=
          (if s.isLate then .timedOut else .exited s.status s.out s.err,
            { m with disk := { s.disk with cwd := m.disk.cwd } })
        if Shell.Program.isInterpreter known then ended (Shell.interpret depth known words s)
        else match Shell.Program.find? false known with
          | some program => ended (program words s)
          | none =>
            if name.isEmpty then (.notStarted (.denied name), m)
            else if name.toList.contains '/' then
              (.notStarted ((Shell.State.startFault? disk name).getD (.notFound name)), m)
            else (.notStarted (.notFound name), m)
where
  /-- The directory to run in. -/
  enter (cwd : Option String) : Except StartFault Path :=
    match cwd with
    | none => .ok m.disk.cwd
    | some name =>
      let p := Path.ofString name
      if name.isEmpty then .error (.notFound name)
      else if m.disk.isDirectory p then .ok (m.disk.resolve p)
      else match m.disk.readBytes p with
        | .ok _ | .error (.notDirectory _) => .error (.notDirectory name)
        | .error _ => .error (.notFound name)

end Machine

end Stepwise
