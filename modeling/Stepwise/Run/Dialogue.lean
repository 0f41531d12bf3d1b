import Stepwise.Run.Fault
import Stepwise.Table

namespace Stepwise

/-- Where a run is: the step visited last, and the variables. -/
structure Context where
  step : Option String
  vars : Table Value

/-- What a run asks of its host. -/
inductive Request where
  | prompt (message : String) (preset : Option String)
  | choose (message : String) (options : List Choice)
  | command (command : String) (args : Option (List String)) (cwd : Option String)
  | evaluate (expression : String)
  | log (message : String)
deriving DecidableEq

/-- What a host replies. -/
inductive Reply where
  | value (v : Value)
  /-- A value, from a host that also changed the options it was shown; the change lasts for the
      rest of the run. -/
  | edited (options : List Choice) (v : Value)
  | fault (fault : Fault)

/-- A computation that talks to a host: it ends, or asks something and goes on from the reply and
    from the context, which the host is shown and may change. The steps that it visits are
    marked. -/
inductive Dialogue (α : Type) where
  | done (a : α)
  | fail (place : Context) (fault : Fault)
  | visit (place : Context) (rest : Dialogue α)
  | ask (place : Context) (request : Request) (next : Context → Reply → Dialogue α)

/-- A host with a state: it hands the context back, with its reply to a request. -/
abbrev Responder (σ : Type) := σ → Context → Request → Context × Reply × σ

namespace Dialogue

variable {α β σ : Type}

def bind : Dialogue α → (α → Dialogue β) → Dialogue β
  | done a, f => f a
  | fail place fault, _ => fail place fault
  | visit place rest, f => visit place (rest.bind f)
  | ask place request next, f => ask place request fun place reply => (next place reply).bind f

instance : Monad Dialogue where
  pure := done
  bind := bind

theorem bind_done (d : Dialogue α) : d.bind done = d := by
  induction d with
  | done a => rfl
  | fail place fault => rfl
  | visit place rest ih => simp [bind, ih]
  | ask place request next ih => simp [bind, ih]

theorem bind_assoc {γ : Type} (d : Dialogue α) (f : α → Dialogue β) (g : β → Dialogue γ) :
    (d.bind f).bind g = d.bind fun a => (f a).bind g := by
  induction d with
  | done a => rfl
  | fail place fault => rfl
  | visit place rest ih => simp [bind, ih]
  | ask place request next ih => simp [bind, ih]

/-- Asks for a value. -/
def request (place : Context) (request : Request) : Dialogue (Context × Value) :=
  ask place request fun
    | place, .value v | place, .edited _ v => done (place, v)
    | place, .fault fault => fail place fault

/-- Plays the dialogue with a host. -/
def play (host : Responder σ) : Dialogue α → σ → Except (Context × Fault) α × σ
  | done a, s => (.ok a, s)
  | fail place fault, s => (.error (place, fault), s)
  | visit _ rest, s => rest.play host s
  | ask place request next, s =>
    let (place, reply, s) := host s place request
    (next place reply).play host s

end Dialogue

end Stepwise
