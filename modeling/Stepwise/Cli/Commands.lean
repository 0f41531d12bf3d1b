import Stepwise.Bundle.Load
import Stepwise.Cli.Arguments
import Stepwise.Cli.Clock
import Stepwise.Console.Grid
import Stepwise.Logging
import Stepwise.Runner.Terminal
import Stepwise.Script.Graph
import Stepwise.Settings

namespace Stepwise.Cli

/-- How the program ends. -/
inductive Exit where
  | code (n : Nat)
  /-- It breaks off with a fault of this kind. -/
  | crash (kind : String)
  /-- It waits for an answer that nobody will give. -/
  | stuck
deriving DecidableEq

/-- The exit code of a program that ended; breaking off counts as failing. -/
def Exit.status : Exit → Nat
  | code n => n
  | crash _ => 1
  | stuck => 2

/-- The exit code for a command line that makes no sense. -/
def misuse : Exit := .code 2

/-- The exit code that stands for how a run ended. -/
def codeOf : Status → Nat
  | .success => 0
  | .failure => 1
  | .cancel => 2

/-- A program that goes on, or ends early. -/
abbrev Act (α : Type) := ExceptT Exit (StateM Workstation) α

namespace Act

/-- Shows a line with markup. -/
def print (line : String) : Act Unit := do
  match Console.styled line with
  | .ok line => modify fun w => { w with terminal := w.terminal.display line }
  | .error _ => throw (.crash "MarkupError")

/-- Ends the program because its input is wrong. -/
def refuse {α : Type} (message : String) : Act α := do
  print message
  throw (.code 1)

def ofDisk {α : Type} (f : Disk → Except DiskFault α) : Act α := do
  match f (← get).machine.disk with
  | .ok a => return a
  | .error fault => throw (.crash fault.kind)

def setDisk (disk : Disk) : Act Unit :=
  modify fun w => { w with machine := { w.machine with disk } }

end Act

open Act

/-- The program that every command begins with: it reads the settings and sets up the logging. -/
def configured (level : Settings → String) : Act Settings := do
  let w ← get
  match Settings.read w.machine.disk.cwd w.machine.env [] with
  | .bad issues =>
    refuse ("[red]Configuration error:[/red] " ++ HostFault.issuesText "Settings" issues)
  | .ok settings => match Logging.initial.configure (level settings) with
    | .ok _ => return settings
    | .error _ => throw (.crash "ValueError")

/-- A result of reading a file; a fault that one has to reckon with is shown. -/
def expected {α : Type} (r : Except LoadFault α) : Act α :=
  match r with
  | .ok a => return a
  | .error fault =>
    if fault.isExpected then refuse ("[red]" ++ fault.message ++ "[/red]")
    else throw (.crash fault.kind)

/-- The scripts in a file, or those found in a directory. -/
def loadScripts (p : Path) : Act (List Entry) := do
  let d := (← get).machine.disk
  expected (if d.isDirectory p then Bundle.discover d p else Bundle.load d p)

/-- Shows the scripts of a bundle. -/
def list (scripts : Option Path) : Act Unit := do
  let settings ← configured Settings.logLevel
  let entries ← loadScripts (scripts.getD settings.scripts)
  let grid : Console.Grid :=
    { title := "Walkthrough Scripts"
      headings := [("ID", false), ("Name", false), ("Steps", true), ("Description", false)]
      rows := entries.map fun e => [e.id, e.name, toString e.steps.length, e.description.getD ""] }
  match grid.write with
  | .ok text => modify fun w => { w with terminal := w.terminal.print text }
  | .error _ => throw (.crash "MarkupError")

/-- The scripts that a document holds, each with a name: those of a bundle, or else the document
    itself. -/
def targets (stem : String) (document : Value) (entries : List Entry) : List (String × Value) :=
  if entries.isEmpty then [(stem, document)] else entries.map fun e => (e.id, e.script)

/-- What is reported of a script. -/
def verdict (name : String) (script : Value) : Bool × List String :=
  match Script.ofInput script with
  | .error fault => (false, ["[red]✗[/red] " ++ name ++ ": " ++ fault.message])
  | .ok script => (true,
      ("[green]✓[/green] " ++ name ++ ": " ++ toString script.steps.length ++ " steps") ::
        script.unreachable.map fun id =>
          "  [yellow]warning:[/yellow] step '" ++ id ++ "' is unreachable")

/-- Checks the scripts of a document. -/
def validate (p : Path) : Act Unit := do
  let _ ← configured Settings.logLevel
  let document ← expected (Bundle.readDocument (← get).machine.disk p)
  match Bundle.ofValue document with
  | .error fault => throw (.crash fault.kind)
  | .ok entries =>
    let verdicts := (targets p.stem document entries).map fun (name, script) => verdict name script
    for line in verdicts.flatMap Prod.snd do
      print line
    if !verdicts.all Prod.fst then throw (.code 1)

/-- What a surface at the terminal is made of. -/
def parts (store : FileStore) (now : Int) (key : String) : Surface.Parts Workstation where
  runner := Workstation.runner
  print s w := { w with terminal := w.terminal.print s }
  load w := store.get w.machine.disk now key
  save run w := (store.update w.machine.disk key run).map fun disk =>
    { w with machine := { w.machine with disk } }

/-- Shows what went wrong in a run, and writes it to a directory if there is one. -/
def reportFailures (clock : Clock) (d : Diagnostics) (directory : Option Path) : Act Unit := do
  if d.hasFailures then
    print d.summary
    if let some directory := directory then
      setDisk (← ofDisk fun disk => disk.makeDirectory directory)
      let (file, disk) ← ofDisk fun disk => d.save clock.moment disk directory
      setDisk disk
      print ("Diagnostic log saved to " ++ file.toString)

/-- Runs a script at the terminal. -/
def run (clock : Clock) (options : RunOptions) : Act Unit := do
  let settings ← configured fun s => if options.isVerbose then "DEBUG" else s.logLevel
  match readVars? options.vars with
  | none => throw misuse
  | some vars =>
    let entries ← loadScripts (options.scripts.getD settings.scripts)
    let w ← get
    let isTold := ((w.machine.env.lookup "WALKTHROUGH_VERBOSE").map (!·.isEmpty)).getD false
    let workspace := w.machine.disk.cwd.toString
    let p := parts ⟨options.stateFile.getD settings.stateFile⟩ clock.now (stateKey (some workspace))
    let c : Session.Setup (Surface.State Workstation) :=
      { scripts := entries
        workspace := some workspace
        limit := options.maxSteps.getD settings.maxSteps
        defers := false
        now := clock.now
        moment := clock.moment
        host := Surface.host p }
    let w := { w with
      isVerbose := options.isVerbose || settings.verbose || isTold
      limit := settings.commandTimeout.map Value.float }
    let request : RunRequest :=
      ⟨options.script, options.resumes, options.restarts, vars.map Value.text⟩
    match Surface.run p c request (Session.start c ⟨w, [], []⟩) with
    | .error fault => throw (.crash fault.kind)
    | .ok s =>
      set s.host.base
      match Surface.ending? s with
      | none | some .cancelled => throw .stuck
      | some (.failed fault) => throw (.crash fault.kind)
      | some (.result result) =>
        reportFailures clock s.diagnostics options.diagnosticsDirectory
        throw (.code (codeOf ((result.map Result.status).getD .failure)))

/-- Does what a command line asks for. -/
def perform (clock : Clock) (args : List String) (w : Workstation) : Exit × Workstation :=
  let act : Act Unit := match Job.read? args with
    | none => throw misuse
    | some .help => return ()
    | some (.list scripts) => list scripts
    | some (.validate path) => validate path
    | some (.run options) => run clock options
  match act.run.run w with
  | (.ok (), w) => (.code 0, w)
  | (.error exit, w) => (exit, w)

end Stepwise.Cli
