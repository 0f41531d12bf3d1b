import Stepwise.Event

namespace Stepwise

/-- What a run asks of a surface. -/
inductive Question where
  | prompt (message : String) (preset : Option String)
  | choice (message : String) (options : List Value)

/-- The two kinds of questions. -/
inductive Question.Kind where
  | prompt
  | choice
deriving DecidableEq

namespace Question

def kind : Question → Kind
  | prompt _ _ => .prompt
  | choice _ _ => .choice

/-- The event that puts the question. -/
def event (step : String) : Question → Event
  | prompt message preset => .prompt step message preset
  | choice message options => .choice step message options

/-- Says that the question is answered without being put. -/
def replayNotice (step : String) : Question → Event
  | prompt _ _ => .log .info ("Replaying saved answer for " ++ step)
  | choice _ _ => .log .info ("Replaying saved choice for " ++ step)

/-- The name under which a question is answered: the step that puts it, or else the time. -/
def place (now : Int) (step : Option String) (q : Question) : String :=
  match step.filter (!·.isEmpty) with
  | some step => step
  | none => (match q.kind with
    | .prompt => "prompt-"
    | .choice => "choice-") ++ toString now

end Question

/-- What a surface answers to a question. -/
inductive Response (α : Type) where
  | prompt (value : Option α)
  | choice (option : α)

namespace Response

variable {α : Type}

def kind : Response α → Question.Kind
  | prompt _ => .prompt
  | choice _ => .choice

/-- The answer itself. No answer to a prompt counts as the blank one. -/
def value (blank : α) : Response α → α
  | prompt value => value.getD blank
  | choice option => option

end Response

/-- What became of a question that was put. -/
inductive Ticket (α : Type) where
  | unsettled
  | answered (a : α)
  | cancelled
deriving DecidableEq

/-- A question that can be answered: its step, its kind, and the number of its ticket. -/
structure Pending where
  step : String
  kind : Question.Kind
  ticket : Nat
deriving DecidableEq

/-- Matches the questions of one run with the answers of a surface. -/
structure Bridge (α : Type) where
  /-- A step that has an answer is not asked again. -/
  replays : Bool
  /-- The answers given, by step. -/
  answers : Table α
  /-- The questions that can be answered, in the order in which they were put. -/
  pending : List Pending
  /-- The ticket of each question that was put, by number. -/
  tickets : List (Ticket α)
  isClosed : Bool

/-- A bridge after a change, and the numbers of the tickets settled by it, in order. -/
structure Bridge.Change (α : Type) where
  bridge : Bridge α
  settled : List Nat

namespace Bridge

variable {α : Type}

/-- A bridge with answers to begin with. -/
def start (replays : Bool) (answers : Table α) : Bridge α :=
  ⟨replays, answers, [], [], false⟩

def pending? (b : Bridge α) (step : String) : Option Pending :=
  b.pending.find? (·.step = step)

def hasPending (b : Bridge α) (step : String) : Bool :=
  (b.pending? step).isSome

def ticket? (b : Bridge α) (ticket : Nat) : Option (Ticket α) :=
  b.tickets[ticket]?

def isUnsettled (b : Bridge α) (ticket : Nat) : Bool :=
  b.ticket? ticket matches some .unsettled

/-- The answer that a question at a step gets without being put. -/
def replay? (b : Bridge α) (step : String) : Option α :=
  if b.replays then b.answers.get? step else none

def forget (b : Bridge α) (step : String) : Bridge α :=
  { b with pending := b.pending.filter (·.step ≠ step) }

/-- Cancels a ticket, unless it is settled. -/
def cancel (b : Bridge α) (ticket : Nat) : Change α :=
  if b.isUnsettled ticket then
    ⟨{ b with tickets := b.tickets.set ticket .cancelled }, [ticket]⟩
  else ⟨b, []⟩

/-- Puts a question, and gives the number of its ticket; a closed bridge refuses it. An earlier
    question of the same step is cancelled. -/
def register (b : Bridge α) (step : String) (kind : Question.Kind) : Option (Nat × Change α) :=
  if b.isClosed then none
  else
    let change := match b.pending? step with
      | some stale => b.cancel stale.ticket
      | none => ⟨b, []⟩
    let b := change.bridge.forget step
    let ticket := b.tickets.length
    some (ticket, { change with bridge := { b with
      pending := b.pending ++ [⟨step, kind, ticket⟩]
      tickets := b.tickets ++ [.unsettled] } })

/-- Answers the question of a step if one of this kind can be answered. -/
def answer (b : Bridge α) (step : String) (kind : Question.Kind) (a : α) : Bool × Change α :=
  match b.pending? step with
  | none => (false, ⟨b, []⟩)
  | some p =>
    if p.kind ≠ kind then (false, ⟨b, []⟩)
    else
      let rest := b.forget step
      if b.isUnsettled p.ticket then
        (true, ⟨{ rest with
          answers := b.answers.insert step a
          tickets := b.tickets.set p.ticket (.answered a) }, [p.ticket]⟩)
      else (false, ⟨rest, []⟩)

def cancelAll (b : Bridge α) : List Nat → Change α
  | [] => ⟨b, []⟩
  | ticket :: rest =>
    let change := b.cancel ticket
    let after := cancelAll change.bridge rest
    { after with settled := change.settled ++ after.settled }

/-- Cancels every question, and puts none from now on. -/
def close (b : Bridge α) : Change α :=
  let change := b.cancelAll (b.pending.map Pending.ticket)
  { change with bridge := { change.bridge with pending := [], isClosed := true } }

end Bridge

end Stepwise
