import Stepwise.Disk.Basic
import Stepwise.Value.Display

namespace Stepwise

/-- A run that ended in a fault. -/
structure Failure where
  script : String
  step : String
  error : String
  context : List (String × Value)
  time : Moment

/-- The failures of a session. -/
structure Diagnostics where
  started : Moment
  failures : List Failure

namespace Diagnostics

/-- Stands for the step of a run that never started. -/
def beforeSteps : String := "<validation>"

def start (now : Moment) : Diagnostics := ⟨now, []⟩

/-- Adds a failure; a run without a step never started. -/
def record (d : Diagnostics) (now : Moment) (script : String) (step : Option String)
    (error : String) (context : List (String × Value)) : Diagnostics :=
  let step := (step.filter (!·.isEmpty)).getD beforeSteps
  { d with failures := d.failures ++ [⟨script, step, error, context, now⟩] }

def hasFailures (d : Diagnostics) : Bool := !d.failures.isEmpty

/-- A short account of the failures. -/
def summary (d : Diagnostics) : String :=
  if d.failures.isEmpty then "No failures recorded"
  else "\n".intercalate ([toString d.failures.length ++ " run failures detected:", ""] ++
    d.failures.flatMap fun f =>
      ["* " ++ f.script ++ " failed at step: " ++ f.step, "  Error: " ++ f.error])

private def rule (c : Char) (n : Nat) : String := String.ofList (List.replicate n c)

private def section_ (number : Nat) (f : Failure) : List String :=
  ["FAILURE " ++ toString number ++ ": " ++ f.script, rule '-' 40, "Step: " ++ f.step,
    "Error: " ++ f.error, "Timestamp: " ++ f.time.display "T"] ++
    (if f.context.isEmpty then []
      else "Context:" :: f.context.map fun (key, v) => "  " ++ key ++ ": " ++ v.display) ++ [""]

/-- A full account of the failures. -/
def report (d : Diagnostics) (now : Moment) : String :=
  "\n".intercalate (["Walkthrough Run Diagnostics", "Session started: " ++ d.started.display " ",
    "Generated: " ++ now.display " ", rule '=' 70, ""] ++
    (d.failures.zipIdx.flatMap fun (f, i) => section_ (i + 1) f)) ++ "\n"

private def digitsOnly (s : String) : String := String.ofList (s.toList.filter Char.isDigit)

/-- The name of a file for a report, with its time to the second. -/
def fileName (now : Moment) : String :=
  let time := match now.time with
    | some t => { t with micro := 0, offset := none }.display
    | none => ""
  "walkthrough_diagnostic_" ++ digitsOnly ({ now with time := none }.display "") ++ "_" ++
    digitsOnly time ++ ".log"

/-- Writes the full account to a file in a directory. -/
def save (d : Diagnostics) (now : Moment) (disk : Disk) (directory : Path) :
    Except DiskFault (Path × Disk) := do
  let p := directory.join (.ofString (fileName now))
  return (p, ← disk.writeText p (d.report now))

end Diagnostics

end Stepwise
