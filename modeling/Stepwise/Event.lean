import Stepwise.Script.Basic
import Stepwise.Store.SavedRun

namespace Stepwise

/-- How much a message matters. -/
inductive Level where
  | info
  | warn
  | error
deriving DecidableEq

def Level.name : Level → String
  | info => "info"
  | warn => "warn"
  | error => "error"

/-- What an interactive surface is told. -/
inductive Event where
  /-- The scripts on offer, and what is saved of the last run. -/
  | init (scripts : List Value) (saved : Option SavedRun)
  | busy (isBusy : Bool)
  | reset
  | log (level : Level) (message : String)
  | status (status : Status) (message : String)
  /-- Asks for a text. -/
  | prompt (step message : String) (preset : Option String)
  /-- Asks for one of several options. -/
  | choice (step message : String) (options : List Value)

namespace Event

/-- The name of the kind of event. -/
def kind : Event → String
  | init _ _ => "init"
  | busy _ => "busy"
  | reset => "reset"
  | log _ _ => "log"
  | status _ _ => "status"
  | prompt _ _ _ => "prompt"
  | choice _ _ _ => "choice"

def fields : Event → List (String × Value)
  | init scripts saved =>
    [("scripts", .list scripts), ("state", (saved.map SavedRun.dump).getD .null)]
  | busy b => [("value", .bool b)]
  | reset => []
  | log level message => [("level", .text level.name), ("message", .text message)]
  | status s message => [("status", .text s.name), ("message", .text message)]
  | prompt step message preset =>
    [("stepId", .text step), ("message", .text message), ("defaultValue", .ofText? preset)]
  | choice step message options =>
    [("stepId", .text step), ("message", .text message), ("options", .list options)]

/-- The record of an event. -/
def dump (e : Event) : Value := .ofFields (("type", .text e.kind) :: e.fields)

end Event

end Stepwise
