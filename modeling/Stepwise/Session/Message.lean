import Stepwise.Bridge.Basic
import Stepwise.Record.Field

namespace Stepwise

open Record

/-- The run that a surface wants. -/
structure RunRequest where
  /-- The id of the script; the first script if there is none with this id. -/
  script : Option String
  /-- Goes by the answers and variables of the last run. -/
  resumes : Bool
  /-- Drops what is saved before it begins. -/
  clears : Bool
  vars : Table Value

/-- What a surface says. -/
inductive Message where
  | run (request : RunRequest)
  | answer (step : String) (response : Response String)

namespace Message

def runOf (entries : List (Value × Value)) (resumes clears : Bool) : Decoded Message :=
  (optional entries "scriptId" ["script_id"] none (nullable text)).map fun script =>
    run ⟨script, resumes, clears, .empty⟩

/-- The message that a record stands for. -/
def decode? (v : Value) : Option Message :=
  match v with
  | .map entries => (match Value.lookup "type" entries with
    | some (.text "start") => runOf entries false false
    | some (.text "resume") => runOf entries true false
    | some (.text "restart") => runOf entries false true
    | some (.text "promptResponse") =>
      (fun step value => answer step (.prompt value)) <$>
        required entries "stepId" ["step_id"] text <*> optional entries "value" [] none (nullable text)
    | some (.text "choiceResponse") =>
      (fun step option => answer step (.choice option)) <$>
        required entries "stepId" ["step_id"] text <*> required entries "choiceId" ["choice_id"] text
    | _ => .mismatch .missing).toExcept.toOption
  | _ => none

end Message

end Stepwise
