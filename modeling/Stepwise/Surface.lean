import Stepwise.Console.Print
import Stepwise.Session.Life

namespace Stepwise

/-- Acts for runs: it asks a person, and it runs commands. -/
structure Runner (σ : Type) where
  input : String → Option String → σ → Except HostFault Value × σ
  choose : String → List Value → σ → Except HostFault Value × σ
  execute : List String → Option String → σ → Except HostFault Outcome × σ

/-- The host of a run that has a runner act for it, given how messages are shown and how expressions
    are evaluated. -/
def Runner.host {σ : Type} (r : Runner σ) (display : String → σ → σ)
    (evaluate : String → Table Value → σ → Except Fault Value × σ) : Responder σ :=
  fun s c q => match q with
    | .prompt message preset => reply c (.mapError .host) (r.input message preset s)
    | .choose message options =>
      reply c (.mapError .host) (r.choose message (options.map (Script.dumpChoice .full)) s)
    | .command command args cwd =>
      reply c (fun outcome => (outcome.map Outcome.dump).mapError .host)
        (r.execute (command :: args.getD []) cwd s)
    | .evaluate expression => reply c id (evaluate expression c.vars s)
    | .log message => (c, .value .null, display message s)
where
  /-- Hands the context back with what an action gave. -/
  reply {α : Type} (c : Context) (read : α → Except Fault Value) (given : α × σ) :
      Context × Reply × σ :=
    (c, match read given.1 with
      | .ok v => .value v
      | .error fault => .fault fault, given.2)

namespace Surface

/-- What a surface is made of: a runner, a console and a store. -/
structure Parts (σ : Type) where
  runner : Runner σ
  print : String → σ → σ
  load : σ → Except StoreFault (Option SavedRun)
  save : Option SavedRun → σ → Except StoreFault σ

/-- A surface, with the events that it was told and the questions that it has yet to ask. -/
structure State (σ : Type) where
  base : σ
  events : List Value
  asked : List Value

variable {σ : Type}

def hasKind (event : Value) (kind : String) : Bool :=
  (event.field? "type").bind Value.text? == some kind

/-- The line that the console shows for an event. -/
def line? (event : Value) : Option String :=
  let shown (name missing : String) : String := ((event.field? name).map Value.display).getD missing
  if hasKind event "log" then
    let message := match event.field? "message" with
      | some (.text s) => Console.withPictures s
      | _ => shown "message" ""
    some (Console.plain message ++ "\n")
  else if hasKind event "status" then
    let isSaid := ((event.field? "message").map Value.isTruthy).getD false
    some (Console.plain (shown "status" "None" ++ ": " ++
      if isSaid then shown "message" "" else "") ++ "\n")
  else none

/-- Takes an event: shows it, or keeps it to be asked. -/
def receive (p : Parts σ) (event : Value) (s : State σ) : State σ :=
  { base := match line? event with
      | some line => p.print line s.base
      | none => s.base
    events := s.events ++ [event]
    asked := if hasKind event "prompt" || hasKind event "choice" then s.asked ++ [event]
      else s.asked }

def field (event : Value) (name : String) : Except HostFault Value :=
  match event.field? name with
  | some v => .ok v
  | none => .error (.missingKey name)

/-- What a question needs to be asked. -/
structure Wording where
  step : Value
  message : String
  options : List Value

def wording (event : Value) : Except HostFault Wording := do
  let step ← field event "stepId"
  let message ← field event "message"
  if hasKind event "prompt" then return ⟨step, message.display, []⟩
  match ← field event "options" with
  | .list options => return ⟨step, message.display, options⟩
  | _ => return ⟨step, message.display, []⟩

/-- Asks a question, and gives the message that answers it. -/
def ask (r : Runner σ) (event : Value) (s : σ) : Except HostFault Value × σ :=
  match wording event with
  | .error fault => (.error fault, s)
  | .ok w =>
    if hasKind event "prompt" then
      let preset := (event.field? "defaultValue").bind Value.text?
      let (answer, s) := r.input w.message preset s
      (answer.map fun value => .ofFields
        [("type", .text "promptResponse"), ("stepId", w.step), ("value", value)], s)
    else
      let (answer, s) := r.choose w.message w.options s
      (answer.map fun value => .ofFields
        [("type", .text "choiceResponse"), ("stepId", w.step), ("choiceId", value)], s)

/-- Asks the first of the questions that were kept. -/
def askNext (r : Runner σ) (s : State σ) : Except HostFault Value × State σ :=
  match s.asked with
  | [] => (.ok .null, s)
  | event :: asked =>
    let (answer, base) := ask r event s.base
    (answer, { s with base, asked })

/-- What a session needs of a surface. -/
def host (p : Parts σ) : Host (State σ) where
  load s := p.load s.base
  save run s := (p.save run s.base).map fun base => { s with base }
  receive e s := (false, receive p e.dump s)
  begin _ s := (false, s)
  collect argv cwd s :=
    let (outcome, base) := p.runner.execute argv cwd s.base
    (outcome, { s with base })

/-- Lets a session go on and answers its questions, until there are none. A question whose answer
    cannot be read stays open. -/
def converse (p : Parts σ) (c : Session.Setup (State σ)) :
    Nat → Session (State σ) → Session (State σ)
  | 0, s => s
  | fuel + 1, s =>
    let s := s.settle c
    if s.host.asked.isEmpty then s
    else
      let (answer, host) := askNext p.runner s.host
      let s := { s with host }
      match answer with
      | .ok message => converse p c fuel (s.receive message)
      | .error _ => converse p c fuel s

/-- Offers the scripts and has one of them run. A run asks at most one question in a step. -/
def run (p : Parts σ) (c : Session.Setup (State σ)) (request : RunRequest)
    (s : Session (State σ)) : Except StoreFault (Session (State σ)) := do
  let s ← s.offer c
  return converse p c (c.limit.toNat + 2) (s.request request)

/-- How the task that was started last has ended. -/
def ending? (s : Session (State σ)) : Option Session.Ending :=
  match s.tasks.getLast? with
  | some ⟨.finished ending, _⟩ => some ending
  | _ => none

end Surface

end Stepwise
