import Stepwise.Disk.Path
import Stepwise.Record.Field
import Stepwise.Record.Scalar
import Stepwise.Run.Walk
import Stepwise.Text.Case

namespace Stepwise

open Record

/-- How a host is set up. -/
structure Settings where
  /-- A bundle, or a directory to search for one. -/
  scripts : Path
  stateFile : Path
  maxSteps : Int
  /-- How many seconds a command may take; it may take any time if there is no limit. -/
  commandTimeout : Option Float
  verbose : Bool
  logLevel : String

namespace Settings

/-- The names of all variables that count begin with this. -/
def envPrefix : String := "WALKTHROUGH_"

/-- The value of a variable. Names are compared without case, and empty values are ignored. -/
def valueOf? (env : List (String × String)) (name : String) : Option String :=
  ((env.reverse.find? fun (other, value) =>
    Text.lower other == Text.lower (envPrefix ++ name) && !value.isEmpty).map Prod.snd)

private def path (v : Value) : Decoded Path :=
  match v with
  | .text s => .ok (Path.ofString s)
  | _ => .mismatch .notPath

private def atLeastOne (v : Value) : Decoded Int :=
  (integer v).andThen fun n =>
    if n < 1 then .mismatch (.refused "WALKTHROUGH_MAX_STEPS must be at least 1") else .ok n

/-- A limit of zero is none. -/
private def limit (v : Value) : Decoded (Option Float) :=
  (nullable number v).map fun x => x.filter (· != 0.0)

private def level (v : Value) : Decoded String :=
  (text v).map fun s => Text.upper (Text.trim s)

/-- The settings from values that are given, then from variables, and then from defaults. A setting
    with a short name for its variable may be given under either name. -/
def read (cwd : Path) (env : List (String × String)) (given : List (Value × Value)) :
    Decoded Settings :=
  Settings.mk <$> setting "scripts_path" (some "SCRIPTS") path (cwd.join (.ofString "walkthroughs"))
    <*> setting "state_file" (some "STATE_FILE") path (cwd.join (.ofString ".walkthrough-state.yaml"))
    <*> setting "max_steps" none atLeastOne Run.defaultMaxSteps
    <*> setting "command_timeout" none limit (some 20.0)
    <*> setting "verbose" none truth false
    <*> setting "log_level" none level "WARNING"
where
  setting {α : Type} (name : String) (short : Option String) (read : Value → Decoded α)
      (whenMissing : α) : Decoded α :=
    let shown := match short with
      | some s => envPrefix ++ s
      | none => name
    let fromEnv := (short.bind (valueOf? env)) <|> valueOf? env (Text.upper name)
    match Value.lookup shown given <|> Value.lookup name given <|> fromEnv.map .text with
    | some v => (read v).under (.name shown)
    | none => .ok whenMissing

end Settings

end Stepwise
