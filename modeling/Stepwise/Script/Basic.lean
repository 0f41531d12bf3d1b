namespace Stepwise

/-- An option of a choice: picking it leads on to the step `goto`. -/
structure Choice where
  id : String
  label : String
  goto : String
deriving DecidableEq

/-- How a run ends when it ends with a result. -/
inductive Status where
  | success
  | failure
  | cancel
deriving DecidableEq

def Status.name : Status → String
  | success => "success"
  | failure => "failure"
  | cancel => "cancel"

/-- What becomes of the run when a command fails. -/
inductive OnError where
  | fail
  | proceed
deriving DecidableEq

def OnError.name : OnError → String
  | fail => "fail"
  | proceed => "continue"

/-- What a step does. -/
inductive Action where
  /-- Asks for a text and keeps it in the variable `store`. -/
  | prompt (message store : String) (preset : Option String)
  /-- Asks for one of several options and goes where it leads. -/
  | choice (message : String) (options : List Choice)
  /-- Runs a command. -/
  | command (command : String) (args : Option (List String)) (cwd : Option String)
      (onError : OnError)
  /-- Stops the run unless an expression holds. -/
  | require (expression : String) (message : Option String)
  /-- Goes to another step. -/
  | goto (target : String)
  /-- Ends the run. -/
  | finish (status : Status) (message : Option String)
deriving DecidableEq

/-- A step of a script. A step whose guard is false is skipped; an empty guard is none. -/
structure Step where
  id : String
  description : Option String
  guard : Option String
  action : Action
deriving DecidableEq

/-- The guard of a step, if it has one. -/
def Step.guard? (step : Step) : Option String :=
  step.guard.filter (!·.isEmpty)

/-- The steps that the action itself names as next, in order. -/
def Action.targets : Action → List String
  | choice _ options => options.map Choice.goto
  | goto target => [target]
  | _ => []

/-- The action with other options, if it is a choice. -/
def Action.withOptions (options : List Choice) : Action → Action
  | choice message _ => choice message options
  | action => action

/-- A script: its steps run in order unless one of them leads elsewhere. -/
structure Script where
  name : Option String
  version : Option String
  start : Option String
  steps : List Step
deriving DecidableEq

namespace Script

def stepIds (script : Script) : List String :=
  script.steps.map Step.id

/-- The step with an id. -/
def step? (script : Script) (id : String) : Option Step :=
  script.steps.find? (·.id == id)

/-- The id that stands after the first occurrence of `id`. -/
def idAfter (id : String) : List String → Option String
  | [] => none
  | [_] => none
  | current :: next :: rest => if current = id then some next else idAfter id (next :: rest)

/-- The step declared after the one with an id. -/
def next? (script : Script) (id : String) : Option String :=
  idAfter id script.stepIds

/-- The step a run begins with. -/
def first? (script : Script) : Option String :=
  script.start <|> script.stepIds.head?

/-- The script in which a choice has other options. -/
def withOptions (script : Script) (id : String) (options : List Choice) : Script :=
  { script with steps := script.steps.map fun step =>
      if step.id = id then { step with action := step.action.withOptions options } else step }

end Script

end Stepwise
