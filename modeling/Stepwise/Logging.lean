import Stepwise.Text.Case
import Stepwise.Text.Quoted

namespace Stepwise

/-- How much is logged, as a number, and whether that has been set up. -/
structure Logging where
  level : Nat
  configured : Bool
deriving DecidableEq

namespace Logging

/-- Before it is set up. -/
def initial : Logging := ⟨30, false⟩

/-- The numbers of the levels. -/
def levels : List (String × Nat) :=
  [("CRITICAL", 50), ("FATAL", 50), ("ERROR", 40), ("WARNING", 30), ("WARN", 30), ("INFO", 20),
    ("DEBUG", 10), ("NOTSET", 0)]

/-- Names that stand for something other than a level, and what for. -/
def reserved : List (String × String) :=
  [("BASIC_FORMAT", "%(levelname)s:%(name)s:%(message)s")]

/-- Sets the level once; later calls have no effect. A name in any case that is no level counts as
    a warning, but one that is reserved is refused. -/
def configure (l : Logging) (name : String) : Except String Logging :=
  if l.configured then .ok l
  else
    let name := Text.upper name
    match reserved.lookup name with
    | some other => .error ("Unknown level: " ++ Text.quoted other)
    | none => .ok ⟨(levels.lookup name).getD 30, true⟩

end Logging

end Stepwise
