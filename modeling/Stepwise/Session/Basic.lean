import Stepwise.Bundle.Basic
import Stepwise.Diagnostics
import Stepwise.Run.Walk
import Stepwise.Session.Message
import Stepwise.Store.File

namespace Stepwise

/-- What a session is connected to: a store, a runner and a surface that share a state. -/
structure Host (σ : Type) where
  load : σ → Except StoreFault (Option SavedRun)
  save : Option SavedRun → σ → Except StoreFault σ
  /-- Takes an event; true if the surface gives the active run up on it. -/
  receive : Event → σ → Bool × σ
  /-- Begins a command; true if its outcome has to be waited for. -/
  begin : String → σ → Bool × σ
  /-- The outcome of a command that was begun. -/
  collect : List String → Option String → σ → Except HostFault Outcome × σ

namespace Session

/-- What stays the same for all runs of a session. -/
structure Setup (σ : Type) where
  scripts : List Entry
  /-- Commands run here unless they say where. -/
  workspace : Option String
  /-- How many steps a run may take. -/
  limit : Int
  /-- The surface lets everything else that is ready go first, before it takes an event. -/
  defers : Bool
  /-- The time, in milliseconds and by the calendar. -/
  now : Int
  moment : Moment
  host : Host σ

/-- A run that was accepted. -/
structure Plan where
  entry : Entry
  replays : Bool
  /-- The answers and variables to begin with. -/
  answers : Table String
  vars : Table Value

/-- What is said and saved of a run that is over. -/
structure Verdict where
  status : Status
  message : Option String
  vars : Table Value
  result : Option Result

/-- How a task ends. A run that was refused, failed or was given up has no result. -/
inductive Ending where
  | result (result : Option Result)
  | cancelled
  | failed (fault : StoreFault)

/-- What a run does once its events are delivered. -/
inductive Aim where
  | reply (reply : Reply)
  | retrieve (step : String)
  | await (ticket : Nat)

/-- What a run waits for. -/
inductive Wait where
  | delivery (event : Event) (later : List Event) (aim : Aim)
  | ticket (ticket : Nat)
  | command (argv : List String) (cwd : Option String) (isOver : Bool)

/-- What a task does, before a run and after it, once its events are delivered. -/
inductive Goal where
  | refuse
  | prepare (plan : Plan)
  | play (plan : Plan)
  | keep (plan : Plan) (verdict : Verdict)
  | finish (ending : Ending)

/-- Where a task stands. -/
inductive Phase where
  | new (request : RunRequest)
  | posting (event : Event) (later : List Event) (goal : Goal)
  | playing (plan : Plan) (next : Reply → Dialogue Result) (wait : Wait)
  /-- It goes on right now. -/
  | active
  | finished (ending : Ending)

/-- A run that was asked for. -/
structure Task where
  phase : Phase
  /-- Someone wants it cancelled as soon as it goes on. -/
  isFlagged : Bool

end Session

/-- A session: at most one run is active at a time. -/
structure Session (σ : Type) where
  saved : Option SavedRun
  isRunning : Bool
  /-- The bridge of the active run. -/
  bridge : Option (Bridge String)
  isAbandoned : Bool
  /-- The task that is playing a script. -/
  player : Option Nat
  tasks : List Session.Task
  /-- The tasks that can go on, in order. -/
  line : List Nat
  /-- What the surface was told. -/
  events : List Event
  diagnostics : Diagnostics
  host : σ

namespace Session

variable {σ : Type}

def start (c : Setup σ) (host : σ) : Session σ :=
  ⟨none, false, none, false, none, [], [], [], Diagnostics.start c.moment, host⟩

/-- The script with an id, and otherwise the first one. -/
def Setup.script? (c : Setup σ) (id : Option String) : Option Entry :=
  c.scripts.find? (fun entry => some entry.id = id) <|> c.scripts.head?

def setPhase (s : Session σ) (i : Nat) (phase : Phase) : Session σ :=
  { s with tasks := s.tasks.modify i fun task => { task with phase } }

def setFlag (s : Session σ) (i : Nat) (isFlagged : Bool) : Session σ :=
  { s with tasks := s.tasks.modify i fun task => { task with isFlagged } }

/-- Puts a task at the end of the line. -/
def enqueue (s : Session σ) (i : Nat) : Session σ :=
  { s with line := s.line ++ [i] }

def Task.isWaitingFor (ticket : Nat) : Task → Bool
  | ⟨.playing _ _ (.ticket t), _⟩ => t == ticket
  | _ => false

/-- Takes over a change of the bridge: whoever waits for a ticket that is settled now can go on. -/
def apply (s : Session σ) (change : Bridge.Change String) : Session σ :=
  { s with
    bridge := some change.bridge
    line := s.line ++ change.settled.flatMap fun ticket =>
      s.tasks.zipIdx.filterMap fun (task, i) =>
        if task.isWaitingFor ticket then some i else none }

/-- Cancels a task: at once if it waits for an answer or a command, and else as soon as it goes
    on. -/
def cancel (s : Session σ) (i : Nat) : Session σ :=
  match s.tasks[i]? with
  | none | some ⟨.finished _, _⟩ => s
  | some ⟨.playing _ _ (.ticket ticket), _⟩ => match s.bridge with
    | some b =>
      if b.isUnsettled ticket then s.apply (b.cancel ticket) else s.setFlag i true
    | none => s.setFlag i true
  | some ⟨.playing plan next (.command argv cwd false), _⟩ =>
    ((s.setFlag i true).setPhase i (.playing plan next (.command argv cwd true))).enqueue i
  | some _ => s.setFlag i true

/-- Gives the active run up: its questions are cancelled, and so is its task unless it is the one
    that goes on at the moment. -/
def abandon (s : Session σ) (current : Option Nat) : Session σ :=
  match s.bridge with
  | none => s
  | some b =>
    let s := { s with isAbandoned := true }.apply b.close
    match s.player with
    | some i => if current = some i then s else s.cancel i
    | none => s

/-- Delivers an event. -/
def deliver (c : Setup σ) (current : Option Nat) (e : Event) (s : Session σ) : Session σ :=
  let (givesUp, host) := c.host.receive e s.host
  let s := { s with events := s.events ++ [e], host }
  if givesUp then s.abandon current else s

/-- Delivers events in order. -/
def deliverAll (c : Setup σ) (current : Option Nat) (es : List Event) (s : Session σ) : Session σ :=
  es.foldl (fun s e => s.deliver c current e) s

end Session

end Stepwise
