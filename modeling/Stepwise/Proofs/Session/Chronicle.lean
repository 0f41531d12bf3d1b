import Stepwise.Proofs.Run.Trail
import Stepwise.Proofs.Session.Order

namespace Stepwise

namespace Session

variable {σ : Type}

/-- What is recorded of a run. -/
inductive Deed (σ : Type) where
  /-- It is accepted. -/
  | accept (r : RunRequest) (plan : Plan)
  /-- It calls the surface, in the course of going on from one session to another. -/
  | call (e : Event) (before after : Session σ)
  /-- It is given up. -/
  | giveUp
  /-- It visits a step. -/
  | visit (place : Context)
  /-- It puts a request, which is served at once or has to wait. -/
  | attempt (place : Context) (q : Request) (before : Session σ) (served : Served)
      (after : Session σ)
  /-- It hears the reply to the request that had to wait. -/
  | hear (reply : Reply)
  /-- Its script is over. -/
  | over (plan : Plan) (ending : Except (Context × Fault) Result)

/-- The event that the surface is taking. -/
def Phase.underway? : Phase → Option Event
  | .posting e _ _ | .playing _ _ (.delivery e _ _) => some e
  | _ => none

/-- A run in this phase has a bridge. -/
def Phase.isOpen : Phase → Bool
  | .posting _ _ (.play _) | .posting _ _ (.keep _ _) | .playing _ _ _ => true
  | _ => false

/-- The run that an abandonment gives up. -/
def openRun? (s : Session σ) : Option Nat :=
  s.tasks.findIdx? fun task => task.phase.isOpen

/-- The event that the surface takes as a task goes on. -/
def taken? (s : Session σ) (i : Nat) : Option Event :=
  (s.tasks[i]?).bind fun task => if task.isFlagged then none else task.phase.underway?

/-- The surface gives the active run up, or somebody else does. -/
def givesUp (c : Setup σ) (s : Session σ) : Happening → Bool
  | .abandon _ => true
  | .wake i => (s.taken? i).any fun e => (c.host.receive e s.host).1
  | _ => false

/-- What a run does as it plays its script, until it waits or is over. -/
def playDeeds (c : Setup σ) (i : Nat) (plan : Plan) :
    Dialogue Result → Session σ → List (Deed σ)
  | .done result, _ => [.over plan (.ok result)]
  | .fail place fault, _ => [.over plan (.error (place, fault))]
  | .visit place rest, s => .visit place :: playDeeds c i plan rest s
  | .ask place q next, s => match s.serve c i place q with
    | (.reply reply, s') =>
      .attempt place q s (.reply reply) s' :: playDeeds c i plan (next place reply) s'
    | (.wait wait, s') => [.attempt place q s (.wait wait) s']

/-- A run that was asked for is accepted if it comes to have a plan. -/
def acceptDeeds (r : RunRequest) : Option Task → List (Deed σ)
  | some ⟨.posting _ _ (.prepare plan), _⟩ | some ⟨.posting _ _ (.play plan), _⟩ =>
    [.accept r plan]
  | _ => []

/-- What a run does as it goes on from the request that had to wait. -/
def replyDeeds (c : Setup σ) (i : Nat) (plan : Plan) (next : Reply → Dialogue Result) :
    Served × Session σ → List (Deed σ)
  | (.reply reply, s) => .hear reply :: playDeeds c i plan (next reply) s
  | (.wait _, _) => []

/-- What a task does as it goes on, but for its call to the surface. -/
def deeds (c : Setup σ) (s : Session σ) (i : Nat) : List (Deed σ) :=
  match s.tasks[i]? with
  | some ⟨.new r, _⟩ => acceptDeeds r (s.happen c (.wake i)).tasks[i]?
  | some ⟨.posting e [] (.play plan), _⟩ =>
    playDeeds c i plan (Run.ofInput .all c.limit plan.entry.script plan.vars)
      { s.hand c i e with player := some i }
  | some ⟨.playing plan next wait, isFlagged⟩ =>
    replyDeeds c i plan next (s.comes c i wait isFlagged)
  | _ => []

section Deeds

variable {c : Setup σ} {s : Session σ} {i : Nat} {plan : Plan} {isFlagged : Bool}

theorem deeds_of_new {r : RunRequest} (htask : s.tasks[i]? = some ⟨.new r, isFlagged⟩) :
    s.deeds c i = acceptDeeds r (s.happen c (.wake i)).tasks[i]? := by
  simp only [deeds, htask]

theorem deeds_of_ready {e : Event}
    (htask : s.tasks[i]? = some ⟨.posting e [] (.play plan), isFlagged⟩) :
    s.deeds c i = playDeeds c i plan (Run.ofInput .all c.limit plan.entry.script plan.vars)
      { s.hand c i e with player := some i } := by
  simp only [deeds, htask]

theorem deeds_of_playing {next : Reply → Dialogue Result} {wait : Wait}
    (htask : s.tasks[i]? = some ⟨.playing plan next wait, isFlagged⟩) :
    s.deeds c i = replyDeeds c i plan next (s.comes c i wait isFlagged) := by
  simp only [deeds, htask]

end Deeds

/-- The call that a task makes as it goes on. -/
def callDeeds (c : Setup σ) (s : Session σ) (i : Nat) : List (Deed σ) :=
  (((s.happen c (.wake i)).tasks[i]?).bind fun task => task.phase.underway?).toList.map
    (.call · s (s.happen c (.wake i)))

/-- The run that is given up as something happens. -/
def givenUp? (c : Setup σ) (s : Session σ) (x : Happening) : Option Nat :=
  if s.givesUp c x && s.bridge.isSome then s.openRun? else none

/-- What is recorded as something happens. An abandonment comes before what follows from it. -/
def entries (c : Setup σ) (s : Session σ) (x : Happening) : List (Nat × Deed σ) :=
  (s.givenUp? c x).toList.map (·, .giveUp) ++
    match x with
    | .wake i => (s.deeds c i ++ s.callDeeds c i).map (i, ·)
    | _ => []

/-- The deeds of one run. -/
def own (log : List (Nat × Deed σ)) (i : Nat) : List (Deed σ) :=
  log.filterMap fun (j, deed) => if j = i then some deed else none

end Session

open Session

/-- A session with a record of its runs, by the numbers of their tasks. -/
structure Chronicle (σ : Type) where
  session : Session σ
  log : List (Nat × Session.Deed σ)

namespace Chronicle

variable {σ : Type}

/-- A new session, with what is saved of the last run. -/
def start (c : Setup σ) (saved : Option SavedRun) (host : σ) : Chronicle σ :=
  ⟨{ Session.start c host with saved }, []⟩

def note (c : Setup σ) (ch : Chronicle σ) (x : Happening) : Chronicle σ :=
  ⟨ch.session.happen c x, ch.log ++ ch.session.entries c x⟩

def run (c : Setup σ) (ch : Chronicle σ) (xs : List Happening) : Chronicle σ :=
  xs.foldl (note c) ch

/-- The deeds of a run, in order. -/
def of (ch : Chronicle σ) (i : Nat) : List (Deed σ) :=
  own ch.log i

end Chronicle

namespace Session

variable {σ : Type}

/-- What the surface is told. -/
def calls (ds : List (Deed σ)) : List Event :=
  ds.filterMap fun
    | .call e _ _ => some e
    | _ => none

/-- What the surface is told of being busy. -/
def busies (es : List Event) : List Bool :=
  es.filterMap fun
    | .busy b => some b
    | _ => none

/-- The acceptances. -/
def plans (ds : List (Deed σ)) : List (RunRequest × Plan) :=
  ds.filterMap fun
    | .accept r plan => some (r, plan)
    | _ => none

/-- How scripts were over. -/
def endings (ds : List (Deed σ)) : List (Plan × Except (Context × Fault) Result) :=
  ds.filterMap fun
    | .over plan ending => some (plan, ending)
    | _ => none

/-- The marks that a run left, and the request that waits for its reply. -/
structure Trail where
  marks : List Mark
  asked : Option (Context × Request)

def Trail.add (t : Trail) : Deed σ → Trail
  | .visit place => { t with marks := t.marks ++ [.visit place] }
  | .attempt place q _ (.reply reply) _ => ⟨t.marks ++ [.call place q reply], none⟩
  | .attempt place q _ (.wait _) _ => { t with asked := some (place, q) }
  | .hear reply => match t.asked with
    | some (place, q) => ⟨t.marks ++ [.call place q reply], none⟩
    | none => t
  | _ => t

/-- The way of a run through its script. -/
def trail (ds : List (Deed σ)) : Trail :=
  ds.foldl Trail.add ⟨[], none⟩

end Session

end Stepwise
