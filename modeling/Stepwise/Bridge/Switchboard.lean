import Stepwise.Bridge.Basic
import Stepwise.Run.Fault

namespace Stepwise

/-- How a surface takes an event. -/
inductive Delivery where
  | immediate
  /-- The surface lets everything else that is ready go first. -/
  | deferred
  | failing (fault : HostFault)

namespace Inquiry

/-- What an inquiry does once its event is delivered. -/
inductive Aim where
  | retrieve
  | await (ticket : Nat)
deriving DecidableEq

/-- Where an inquiry stands. -/
inductive Phase (α : Type) where
  | new
  | announcing (event : Event) (aim : Aim)
  | waiting (ticket : Nat)
  | returned (a : α)
  | cancelled
  | failed (fault : HostFault)

end Inquiry

/-- A question on its way through a bridge. -/
structure Inquiry (α : Type) where
  question : Question
  step : String
  phase : Inquiry.Phase α
  /-- Someone wants it cancelled as soon as it goes on. -/
  isFlagged : Bool

/-- A bridge with the inquiries made through it. Those that can go on stand in a line. -/
structure Switchboard (α : Type) where
  bridge : Bridge α
  delivery : Delivery
  inquiries : List (Inquiry α)
  line : List Nat
  events : List Event

namespace Switchboard

variable {α : Type}

def start (delivery : Delivery) (bridge : Bridge α) : Switchboard α :=
  ⟨bridge, delivery, [], [], []⟩

def setPhase (s : Switchboard α) (i : Nat) (phase : Inquiry.Phase α) : Switchboard α :=
  { s with inquiries := s.inquiries.modify i fun q => { q with phase } }

def isWaitingFor (s : Switchboard α) (ticket i : Nat) : Bool :=
  match s.inquiries[i]? with
  | some ⟨_, _, .waiting t, _⟩ => t == ticket
  | _ => false

/-- Takes over a change of the bridge: whoever waits for a ticket that is settled now can go on. -/
def apply (s : Switchboard α) (change : Bridge.Change α) : Switchboard α :=
  { s with
    bridge := change.bridge
    line := s.line ++ change.settled.flatMap fun ticket =>
      (List.range s.inquiries.length).filter (s.isWaitingFor ticket) }

/-- Starts an inquiry. -/
def inquire (s : Switchboard α) (step : String) (question : Question) : Switchboard α :=
  { s with
    inquiries := s.inquiries ++ [⟨question, step, .new, false⟩]
    line := s.line ++ [s.inquiries.length] }

def answer (s : Switchboard α) (step : String) (kind : Question.Kind) (a : α) :
    Bool × Switchboard α :=
  let (found, change) := s.bridge.answer step kind a
  (found, s.apply change)

/-- Answers a question with what a surface responds; true if the answer found a question. -/
def respond (blank : α) (s : Switchboard α) (step : String) (r : Response α) :
    Bool × Switchboard α :=
  s.answer step r.kind (r.value blank)

def close (s : Switchboard α) : Switchboard α :=
  s.apply s.bridge.close

def flag (s : Switchboard α) (i : Nat) : Switchboard α :=
  { s with inquiries := s.inquiries.modify i fun q => { q with isFlagged := true } }

/-- Cancels an inquiry: at once if it waits for an answer, and else as soon as it goes on. -/
def cancel (s : Switchboard α) (i : Nat) : Switchboard α :=
  match s.inquiries[i]? with
  | none => s
  | some q => match q.phase with
    | .returned _ | .cancelled | .failed _ => s
    | .new | .announcing _ _ => s.flag i
    | .waiting ticket =>
      if s.bridge.isUnsettled ticket then s.apply (s.bridge.cancel ticket) else s.flag i

/-- Waits for a ticket. -/
def await (s : Switchboard α) (i ticket : Nat) : Switchboard α :=
  s.setPhase i (match s.bridge.ticket? ticket with
    | some .unsettled => .waiting ticket
    | some (.answered a) => .returned a
    | some .cancelled | none => .cancelled)

def reach (s : Switchboard α) (i : Nat) (step : String) : Inquiry.Aim → Switchboard α
  | .await ticket => s.await i ticket
  | .retrieve => s.setPhase i (match s.bridge.answers.get? step with
    | some a => .returned a
    | none => .failed (.missingKey step))

def announce (s : Switchboard α) (i : Nat) (step : String) (event : Event)
    (aim : Inquiry.Aim) : Switchboard α :=
  match s.delivery with
  | .immediate => { s with events := s.events ++ [event] }.reach i step aim
  | .deferred => { s with line := s.line ++ [i] }.setPhase i (.announcing event aim)
  | .failing fault => s.setPhase i (.failed fault)

def put (s : Switchboard α) (i : Nat) (q : Inquiry α) : Switchboard α :=
  match s.bridge.replay? q.step with
  | some _ => s.announce i q.step (q.question.replayNotice q.step) .retrieve
  | none => match s.bridge.register q.step q.question.kind with
    | none => s.setPhase i .cancelled
    | some (ticket, change) =>
      (s.apply change).announce i q.step (q.question.event q.step) (.await ticket)

/-- Lets an inquiry go on. -/
def resume (s : Switchboard α) (i : Nat) : Switchboard α :=
  match s.inquiries[i]? with
  | none => s
  | some q => match q.phase with
    | .returned _ | .cancelled | .failed _ => s
    | phase =>
      if q.isFlagged then s.setPhase i .cancelled
      else match phase with
        | .new => s.put i q
        | .announcing event aim => { s with events := s.events ++ [event] }.reach i q.step aim
        | .waiting ticket => s.await i ticket
        | _ => s

/-- Lets the inquiries in line go on, each as often as it can; none goes on more than three times. -/
def settle (s : Switchboard α) : Switchboard α :=
  go (3 * s.inquiries.length) s
where
  go : Nat → Switchboard α → Switchboard α
    | 0, s => s
    | fuel + 1, s => match s.line with
      | [] => s
      | i :: rest => go fuel ({ s with line := rest }.resume i)

end Switchboard

end Stepwise
