import Stepwise.Run.Dialogue
import Stepwise.Run.Outcome
import Stepwise.Script.Decode

namespace Stepwise

open Record

/-- How a finished run ended, and what it left. -/
structure Result where
  status : Status
  stepsRun : Nat
  vars : Table String
  message : Option String
deriving DecidableEq

/-- The requests that a host serves. -/
structure Hooks where
  prompt : Bool
  choose : Bool
  command : Bool
  evaluate : Bool
  log : Bool

namespace Hooks

def all : Hooks := ⟨true, true, true, true, true⟩

def none : Hooks := ⟨false, false, false, false, false⟩

end Hooks

namespace Run

/-- How many steps a run may take unless its host says otherwise. -/
def defaultMaxSteps : Int := 1000

/-- A run between two steps. -/
structure Position where
  /-- The script; a host may have changed some of its options. -/
  script : Script
  /-- The step to visit next; the run is over when there is none. -/
  target : Option String
  stepsRun : Nat
  context : Context

/-- What follows a step. -/
inductive Move where
  | go (target : Option String)
  | stop (status : Status) (message : Option String)

namespace Position

/-- The variables, which all have to be texts in the end. -/
def texts (vars : Table Value) : Decoded (Table String) :=
  (vars.entries.foldr (fun (name, v) rest =>
    (((text v).under (.name name)).map fun s => (name, s)).map List.cons |>.ap rest)
    (.ok [])).map Table.ofList

/-- Ends the run here. -/
def conclude (p : Position) (status : Status) (message : Option String) : Dialogue Result :=
  match (texts p.context.vars).under (.name "vars") with
  | .ok vars => .done ⟨status, p.stepsRun, vars, message⟩
  | .bad issues => .fail p.context (.host (.badRecord "RunnerResult" issues))

end Position

/-- Asks whether an expression holds. -/
def holds (hooks : Hooks) (place : Context) (expression : String) : Dialogue (Context × Bool) :=
  if hooks.evaluate then do
    let (place, v) ← Dialogue.request place (.evaluate expression)
    return (place, v.isTruthy)
  else .fail place .noEvaluator

def log (hooks : Hooks) (place : Context) (message : String) : Dialogue Context :=
  if hooks.log then do
    let (place, _) ← Dialogue.request place (.log message)
    return place
  else return place

/-- The target of the first option that has the answer as its id or as its target. -/
def chosen? (options : List Choice) (answer : Value) : Option String :=
  answer.text?.bind fun s => (options.find? fun c => c.id = s ∨ c.goto = s).map Choice.goto

/-- Asks for one of the options; the host may hand back other options than it was shown. -/
def choose (hooks : Hooks) (place : Context) (step message : String) (options : List Choice) :
    Dialogue (Context × List Choice × String) :=
  if hooks.choose then
    .ask place (.choose message options) fun
      | place, .value answer => pick place options answer
      | place, .edited options answer => pick place options answer
      | place, .fault fault => .fail place fault
  else .fail place (.unserved .choose step)
where
  pick (place : Context) (options : List Choice) (answer : Value) :
      Dialogue (Context × List Choice × String) :=
    match chosen? options answer with
    | some target => .done (place, options, target)
    | none => .fail place (.unknownChoice answer.display step)

/-- The text that an answer is kept as; no answer counts as the empty one. -/
def answerText : Value → String
  | .null => ""
  | v => v.display

/-- Asks for a text. -/
def prompt (hooks : Hooks) (place : Context) (step message : String) (preset : Option String) :
    Dialogue (Context × String) :=
  if hooks.prompt then do
    let (place, v) ← Dialogue.request place (.prompt message preset)
    return (place, answerText v)
  else .fail place (.unserved .prompt step)

/-- Has a command run. -/
def execute (hooks : Hooks) (place : Context) (step command : String)
    (args : Option (List String)) (cwd : Option String) : Dialogue (Context × Outcome) :=
  if hooks.command then do
    let (place, v) ← Dialogue.request place (.command command args cwd)
    match Outcome.decode v with
    | .ok outcome => return (place, outcome)
    | .bad issues => .fail place (.badOutcome step issues.length)
  else .fail place (.unserved .command step)

/-- Does what a step does. -/
def perform (hooks : Hooks) (p : Position) (step : Step) : Dialogue (Position × Move) :=
  let onward := Move.go (p.script.next? step.id)
  match step.action with
  | .prompt message store preset => do
    let (place, answer) ← prompt hooks p.context step.id message preset
    let vars := place.vars.insert store (.text answer)
    return ({ p with context := { place with vars } }, onward)
  | .choice message options => do
    let (context, options, target) ← choose hooks p.context step.id message options
    return ({ p with context, script := p.script.withOptions step.id options }, .go target)
  | .command command args cwd onError => do
    let (context, outcome) ← execute hooks p.context step.id command args cwd
    if outcome.isOk then return ({ p with context }, onward)
    else match onError with
      | .fail => return ({ p with context }, .stop .failure outcome.output)
      | .proceed =>
        let context ← log hooks context
          s!"Command in step {step.id} exited with {outcome.code}; continuing"
        return ({ p with context }, onward)
  | .require expression message => do
    let (context, truth) ← holds hooks p.context expression
    if truth then return ({ p with context }, onward)
    else
      let text := (message.filter (!·.isEmpty)).getD ("Assertion failed: " ++ expression)
      .fail context (.requirementFailed text)
  | .goto target => return (p, .go target)
  | .finish status message => return (p, .stop status message)

/-- Visits a step: skips it if it has a guard that does not hold. -/
def dispatch (hooks : Hooks) (p : Position) (step : Step) : Dialogue (Position × Move) :=
  match step.guard? with
  | none => perform hooks p step
  | some guard => do
    let (context, truth) ← holds hooks p.context guard
    if truth then perform hooks { p with context } step
    else
      let context ← log hooks context ("Skipped step " ++ step.id)
      return ({ p with context }, .go (p.script.next? step.id))

/-- Walks on from a position with a budget of steps left. -/
def walk (hooks : Hooks) (limit : Int) : Nat → Position → Dialogue Result
  | budget, p =>
    match p.target.filter (!·.isEmpty) with
    | none => p.conclude .success none
    | some id => match p.script.step? id with
      | none => .fail p.context (.stepNotFound id)
      | some step =>
        let context := { p.context with step := some step.id }
        match budget with
        | 0 => .fail context (.budgetExceeded limit)
        | budget + 1 =>
          .visit context do
            match ← dispatch hooks { p with context, stepsRun := p.stepsRun + 1 } step with
            | (p, .go target) => walk hooks limit budget { p with target }
            | (p, .stop status message) => p.conclude status message

/-- Runs a script with at most `limit` steps. -/
def ofScript (hooks : Hooks) (limit : Int) (script : Script) (vars : Table Value) :
    Dialogue Result :=
  walk hooks limit limit.toNat ⟨script, script.first?, 0, ⟨none, vars⟩⟩

/-- Runs what an untrusted input holds. Nothing is asked if it holds no script. -/
def ofInput (hooks : Hooks) (limit : Int) (input : Value) (vars : Table Value) :
    Dialogue Result :=
  match Script.ofInput input with
  | .ok script => ofScript hooks limit script vars
  | .error fault => .fail ⟨none, vars⟩ (.invalidScript fault)

end Run

end Stepwise
