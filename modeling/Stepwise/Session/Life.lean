import Stepwise.Session.Service

namespace Stepwise.Session

variable {σ : Type}

/-- Posts events, now or later, and then does something. -/
def post (c : Setup σ) (i : Nat) (es : List Event) (goal : Goal) (reached : Session σ → Session σ)
    (s : Session σ) : Session σ :=
  match es with
  | [] => reached s
  | e :: later =>
    if c.defers then (s.setPhase i (.posting e later goal)).enqueue i
    else reached (s.deliverAll c (some i) es)

def finish (i : Nat) (ending : Ending) (s : Session σ) : Session σ :=
  s.setPhase i (.finished ending)

/-- Ends the active run. -/
def conclude (c : Setup σ) (i : Nat) (ending : Ending) (s : Session σ) : Session σ :=
  let s := match s.bridge with
    | some b => s.apply b.close
    | none => s
  { s with bridge := none, isRunning := false }.post c i [.busy false] (.finish ending) (finish i ending)

/-- Saves what is to be kept of a run, which ends it. -/
def keep (c : Setup σ) (i : Nat) (plan : Plan) (v : Verdict) (s : Session σ) : Session σ :=
  match (Run.Position.texts v.vars).under (.name "vars") with
  | .bad issues => s.conclude c i (.failed (.badRecord issues))
  | .ok vars =>
    let answers := (s.bridge.map Bridge.answers).getD .empty
    let saved := some ⟨plan.entry.id, answers, vars, some v.status.name, v.message, c.now⟩
    let s := { s with saved }
    match c.host.save saved s.host with
    | .ok host => { s with host }.conclude c i (.result v.result)
    | .error fault => s.conclude c i (.failed fault)

/-- Says how a run ended, and saves what is to be kept of it. A run that was cancelled without
    being given up leaves nothing. -/
def judge (c : Setup σ) (i : Nat) (plan : Plan) (ending : Except (Context × Fault) Result)
    (s : Session σ) : Session σ :=
  match ending with
  | .ok r =>
    let text := (r.message.filter (!·.isEmpty)).getD r.status.name
    let verdict : Verdict := ⟨r.status, r.message, r.vars.map .text, some r⟩
    s.post c i [.status r.status text] (.keep plan verdict) (keep c i plan verdict)
  | .error (place, .cancelled) =>
    if s.isAbandoned then
      let text := "Run abandoned"
      let verdict : Verdict := ⟨.cancel, some text, place.vars, none⟩
      s.post c i [.log .warn text, .status .cancel text] (.keep plan verdict) (keep c i plan verdict)
    else s.conclude c i .cancelled
  | .error (place, fault) =>
    let text := if fault.message.isEmpty then "Unexpected error running script" else fault.message
    let (step, vars) := if fault.isLocated then (place.step, place.vars) else (none, plan.vars)
    let context := [("error_type", Value.text fault.kind)]
    let diagnostics := s.diagnostics.record c.moment plan.entry.id step text context
    let s := { s with diagnostics }
    let verdict : Verdict := ⟨.failure, some text, vars, none⟩
    s.post c i [.log .error text, .status .failure text] (.keep plan verdict) (keep c i plan verdict)

/-- Goes on with a run until it waits or is over. -/
def proceed (c : Setup σ) (i : Nat) (plan : Plan) (d : Dialogue Result) (s : Session σ) :
    Session σ :=
  match advance c i d s with
  | (.suspended next wait, s) => s.setPhase i (.playing plan next wait)
  | (.ended ending, s) => { s with player := none }.judge c i plan ending

/-- Goes on with a run after a request was served. -/
def carryOn (c : Setup σ) (i : Nat) (plan : Plan) (next : Reply → Dialogue Result)
    (served : Served × Session σ) : Session σ :=
  match served with
  | (.wait wait, s) => s.setPhase i (.playing plan next wait)
  | (.reply reply, s) => s.proceed c i plan (next reply)

/-- Begins to play the script of a run. -/
def play (c : Setup σ) (i : Nat) (plan : Plan) (s : Session σ) : Session σ :=
  { s with player := some i }.proceed c i plan
    (Run.ofInput .all c.limit plan.entry.script plan.vars)

/-- Opens a run, with a bridge of its own. -/
def prepare (c : Setup σ) (i : Nat) (plan : Plan) (s : Session σ) : Session σ :=
  let name := if plan.entry.name.isEmpty then plan.entry.id else plan.entry.name
  { s with bridge := some (.start plan.replays plan.answers) }.post c i
    [.busy true, .reset, .log .info ("Running script: " ++ name)] (.play plan) (play c i plan)

def refuse (i : Nat) (s : Session σ) : Session σ :=
  s.finish i (.result none)

/-- Accepts or refuses a run. What is saved counts only for the script that it was saved for. -/
def consider (c : Setup σ) (i : Nat) (request : RunRequest) (s : Session σ) : Session σ :=
  if s.isRunning then
    s.post c i [.log .warn "A walkthrough run is already in progress."] .refuse (refuse i)
  else match c.script? request.script with
    | none => s.post c i [.log .error "No walkthrough scripts available."] .refuse (refuse i)
    | some entry =>
      let s := { s with isRunning := true, isAbandoned := false }
      let begin (s : Session σ) : Session σ :=
        let saved := if request.resumes then s.saved else none
        match saved with
        | none => s.prepare c i ⟨entry, request.resumes, .empty, request.vars⟩
        | some saved =>
          if saved.scriptId = entry.id then
            s.prepare c i ⟨entry, request.resumes, saved.answers,
              (saved.vars.map .text).overlay request.vars⟩
          else
            let plan : Plan := ⟨entry, request.resumes, .empty, request.vars⟩
            s.post c i [.log .info s!"No saved run for {entry.id}; starting fresh"] (.prepare plan)
              (prepare c i plan)
      if request.clears then
        let s := { s with saved := none }
        match c.host.save none s.host with
        | .ok host => begin { s with host }
        | .error fault => s.conclude c i (.failed fault)
      else begin s

/-- What a task does once its events are delivered. -/
def reachGoal (c : Setup σ) (i : Nat) (goal : Goal) (s : Session σ) : Session σ :=
  match goal with
  | .refuse => s.refuse i
  | .prepare plan => s.prepare c i plan
  | .play plan => s.play c i plan
  | .keep plan verdict => s.keep c i plan verdict
  | .finish ending => s.finish i ending

/-- What a task does when it is cancelled while it posts events. -/
def dropGoal (c : Setup σ) (i : Nat) (goal : Goal) (s : Session σ) : Session σ :=
  match goal with
  | .refuse | .finish _ => s.finish i .cancelled
  | .prepare _ | .play _ | .keep _ _ => s.conclude c i .cancelled

/-- Lets a task go on. -/
def resume (c : Setup σ) (i : Nat) (s : Session σ) : Session σ :=
  match s.tasks[i]? with
  | none => s
  | some ⟨phase, isFlagged⟩ =>
    let s := { s with tasks := s.tasks.set i ⟨.active, false⟩ }
    match phase with
    | .finished _ | .active => s.setPhase i phase
    | .new request => if isFlagged then s.finish i .cancelled else s.consider c i request
    | .posting e later goal =>
      if isFlagged then s.dropGoal c i goal
      else (s.deliver c (some i) e).post c i later goal (reachGoal c i goal)
    | .playing plan next wait =>
      carryOn c i plan next (if isFlagged then (.cancelled, s) else s.awaken c i wait)

/-- Lets the first task in line go on. -/
def turn (c : Setup σ) (s : Session σ) : Session σ :=
  match s.line with
  | [] => s
  | i :: rest => { s with line := rest }.resume c i

/-- Lets up to a number of tasks go on. -/
def turns (c : Setup σ) : Nat → Session σ → Session σ
  | 0, s => s
  | n + 1, s => if s.line.isEmpty then s else turns c n (s.turn c)

/-- Lets tasks go on until none can. A task waits at most ten times before and after a run, and
    five times in a step. -/
def settle (c : Setup σ) (s : Session σ) : Session σ :=
  s.turns c (s.tasks.length * (5 * c.limit.toNat + 10))

/-- Asks for a run. -/
def request (r : RunRequest) (s : Session σ) : Session σ :=
  ({ s with tasks := s.tasks ++ [⟨.new r, false⟩] } : Session σ).enqueue s.tasks.length

/-- Answers a question of the active run. -/
def answer (step : String) (r : Response String) (s : Session σ) : Session σ :=
  match s.bridge with
  | none => s
  | some b => s.apply (b.answer step r.kind (r.value "")).2

/-- Does what a message says. A message that makes no sense is passed over. -/
def receive (v : Value) (s : Session σ) : Session σ :=
  match Message.decode? v with
  | some (.run r) => s.request r
  | some (.answer step r) => s.answer step r
  | none => s

/-- Lets every command be over that a run waits for. -/
def release (s : Session σ) : Session σ :=
  s.tasks.zipIdx.foldl (fun s (task, i) => match task.phase with
    | .playing plan next (.command argv cwd false) =>
      (s.setPhase i (.playing plan next (.command argv cwd true))).enqueue i
    | _ => s) s

/-- Reads what is saved, and offers the scripts to the surface. -/
def offer (c : Setup σ) (s : Session σ) : Except StoreFault (Session σ) := do
  let saved ← c.host.load s.host
  let s := { s with saved }
  let s := if c.defers then s.turns c s.line.length else s
  return s.deliver c none (.init (c.scripts.map Entry.offer) saved)

end Stepwise.Session
