import Stepwise.Script.Decode
import Stepwise.Text.Utf8

namespace Stepwise

/-- What goes wrong outside of a run, in the host that answers it. -/
inductive HostFault where
  /-- The host gives up. -/
  | failure (message : String)
  | badValue (message : String)
  | badRecord (name : String) (issues : List Record.Issue)
  | noSuchItem
  | missingKey (key : String)
  | endOfInput
  | undecodable (bad : Text.BadByte)
deriving DecidableEq

namespace HostFault

/-- The name of the kind of fault. -/
def kind : HostFault → String
  | failure _ => "RuntimeError"
  | badValue _ => "ValueError"
  | badRecord _ _ => "ValidationError"
  | noSuchItem => "IndexError"
  | missingKey _ => "KeyError"
  | endOfInput => "EOFError"
  | undecodable _ => "UnicodeDecodeError"

/-- How many issues a record has, and then each of them under its place. -/
def issuesText (name : String) (issues : List Record.Issue) : String :=
  toString issues.length ++ " validation error" ++ (if issues.length == 1 then "" else "s") ++
    " for " ++ name ++ String.join (issues.map fun i =>
      "\n" ++ i.place ++ "\n  " ++ i.mismatch.message .document)

def message : HostFault → String
  | failure text | badValue text => text
  | badRecord name issues => issuesText name issues
  | noSuchItem => "list index out of range"
  | missingKey key => Text.quoted key
  | endOfInput => "EOF when reading a line"
  | undecodable bad => bad.message

end HostFault

/-- The kinds of requests that a host may leave unserved. -/
inductive Need where
  | prompt
  | choose
  | command
deriving DecidableEq

/-- Why a run ends without a result. -/
inductive Fault where
  | invalidScript (fault : ScriptFault)
  | unserved (need : Need) (step : String)
  | noEvaluator
  | stepNotFound (id : String)
  | unknownChoice (answer step : String)
  | requirementFailed (message : String)
  | budgetExceeded (limit : Int)
  | badOutcome (step : Option String) (issues : Nat)
  | badGuard (message : String)
  | cancelled
  | host (fault : HostFault)
deriving DecidableEq

namespace Fault

/-- The name of the kind of fault. -/
def kind : Fault → String
  | invalidScript (.schema _ _) => "SchemaError"
  | invalidScript (.graph _) => "GraphIntegrityError"
  | unserved _ _ | noEvaluator => "MissingHookError"
  | stepNotFound _ => "StepNotFoundError"
  | unknownChoice _ _ => "UnknownChoiceError"
  | requirementFailed _ => "AssertionFailure"
  | budgetExceeded _ => "StepBudgetExceeded"
  | badOutcome _ _ => "CommandResultError"
  | badGuard _ => "ExpressionError"
  | cancelled => "CancelledError"
  | host fault => fault.kind

def message : Fault → String
  | invalidScript fault => fault.message
  | unserved need step => (match need with
      | .prompt => "No prompt handler provided for step "
      | .choose => "No choice handler provided for step "
      | .command => "No command executor provided for step ") ++ step
  | noEvaluator => "No evaluator provided for assert/when clauses"
  | stepNotFound id => "Step '" ++ id ++ "' not found"
  | unknownChoice answer step => "Choice '" ++ answer ++ "' not found in step " ++ step
  | requirementFailed text => text
  | budgetExceeded limit =>
    "Aborted: exceeded maximum step count (" ++ toString limit ++ ")"
  | badOutcome step issues => "Command executor returned an invalid result for step " ++
      step.getD "None" ++ ": " ++ toString issues ++ " errors"
  | badGuard text => text
  | cancelled => ""
  | host fault => fault.message

/-- The run reports at which step it was, and with which variables. A fault of the host, or of a
    script that never started, says neither. -/
def isLocated : Fault → Bool
  | invalidScript _ | host _ => false
  | _ => true

end Fault

end Stepwise
