import Stepwise.Run.Evaluator
import Stepwise.Script.Dump
import Stepwise.Session.Basic
import Stepwise.Text.Blank

namespace Stepwise.Session

variable {σ : Type}

/-- What a request of a run leads to: a reply, or something to wait for. -/
inductive Served where
  | reply (reply : Reply)
  | wait (wait : Wait)

namespace Served

def cancelled : Served := .reply (.fault .cancelled)

end Served

/-- What a command said, for the surface: its complaints are errors if it failed. -/
def outcomeLog (o : Outcome) : List Event :=
  let said (level : Level) (s : Option String) : List Event :=
    (s.filter (!·.isEmpty)).toList.map fun s => .log level (Text.trim s)
  said .info o.stdout ++ said (if o.isOk then .warn else .error) o.stderr

/-- Goes on with a request whose events are delivered. -/
def reach (aim : Aim) (s : Session σ) : Served :=
  match aim with
  | .reply reply => .reply reply
  | .retrieve step => match s.bridge.bind fun b => b.answers.get? step with
    | some a => .reply (.value (.text a))
    | none => .reply (.fault (.host (.missingKey step)))
  | .await ticket => match s.bridge.bind fun b => b.ticket? ticket with
    | some .unsettled => .wait (.ticket ticket)
    | some (.answered a) => .reply (.value (.text a))
    | some .cancelled | none => .cancelled

/-- Delivers the events of a request, now or later, and goes on with it. -/
def announce (c : Setup σ) (i : Nat) (es : List Event) (aim : Aim) (s : Session σ) :
    Served × Session σ :=
  match es with
  | [] => (s.reach aim, s)
  | e :: later =>
    if c.defers then (.wait (.delivery e later aim), s.enqueue i)
    else
      let s := s.deliverAll c (some i) es
      (s.reach aim, s)

/-- Puts a question, unless it has an answer already. -/
def put (c : Setup σ) (i : Nat) (step : String) (q : Question) (s : Session σ) :
    Served × Session σ :=
  match s.bridge with
  | none => (.cancelled, s)
  | some b => match b.replay? step with
    | some _ => s.announce c i [q.replayNotice step] (.retrieve step)
    | none => match b.register step q.kind with
      | none => (.cancelled, s)
      | some (ticket, change) => (s.apply change).announce c i [q.event step] (.await ticket)

/-- Takes the outcome of a command that is over. -/
def collect (c : Setup σ) (i : Nat) (argv : List String) (cwd : Option String) (s : Session σ) :
    Served × Session σ :=
  let (outcome, host) := c.host.collect argv cwd s.host
  let s := { s with host }
  match outcome with
  | .ok o => s.announce c i (outcomeLog o) (.reply (.value o.dump))
  | .error fault => (.reply (.fault (.host fault)), s)

/-- Serves a request. A run that was given up begins no command, decides no expression and says
    nothing any more. -/
def serve (c : Setup σ) (i : Nat) (place : Context) (request : Request) (s : Session σ) :
    Served × Session σ :=
  match request with
  | .prompt message preset =>
    let q := Question.prompt message preset
    s.put c i (q.place c.now place.step) q
  | .choose message options =>
    let q := Question.choice message (options.map (Script.dumpChoice .full))
    s.put c i (q.place c.now place.step) q
  | .command command args cwd =>
    if s.isAbandoned then (.cancelled, s)
    else
      let argv := command :: args.getD []
      let cwd := cwd.filter (!·.isEmpty) <|> c.workspace
      let (waits, host) := c.host.begin command s.host
      let s := { s with host }
      if waits then (.wait (.command argv cwd false), s) else s.collect c i argv cwd
  | .evaluate expression =>
    if s.isAbandoned then (.cancelled, s)
    else match Evaluator.standard.lenient expression place.vars with
      | .ok (b, report) =>
        s.announce c i (report.toList.map (.log .error)) (.reply (.ofTruth b))
      | .error fault => (.reply (.fault fault), s)
  | .log message =>
    if s.isAbandoned then (.cancelled, s)
    else s.announce c i [.log .info message] (.reply (.value .null))

/-- Goes on with a request that had to wait. -/
def awaken (c : Setup σ) (i : Nat) (wait : Wait) (s : Session σ) : Served × Session σ :=
  match wait with
  | .delivery e later aim => (s.deliver c (some i) e).announce c i later aim
  | .ticket ticket => (s.reach (.await ticket), s)
  | .command argv cwd _ => s.collect c i argv cwd

/-- How far a run has come: it waits, or it is over. -/
inductive Progress where
  | suspended (next : Reply → Dialogue Result) (wait : Wait)
  | ended (ending : Except (Context × Fault) Result)

/-- Plays a run until it waits or is over. -/
def advance (c : Setup σ) (i : Nat) : Dialogue Result → Session σ → Progress × Session σ
  | .done result, s => (.ended (.ok result), s)
  | .fail place fault, s => (.ended (.error (place, fault)), s)
  | .visit _ rest, s => advance c i rest s
  | .ask place request next, s => match s.serve c i place request with
    | (.reply reply, s) => advance c i (next place reply) s
    | (.wait wait, s) => (.suspended (next place) wait, s)

end Stepwise.Session
