import Stepwise.Guard.Eval
import Stepwise.Run.Dialogue

namespace Stepwise

/-- Decides guards and requirements; longer expressions are refused. -/
structure Evaluator where
  maxLength : Int

namespace Evaluator

def standard : Evaluator := ⟨Guard.defaultMaxLength⟩

def evaluate (e : Evaluator) (expression : String) (vars : Table Value) :
    Except Guard.Trouble Bool :=
  Guard.evaluate e.maxLength expression vars.get?

/-- A broken expression is a fault of the run; one that cannot be read at all is the host's. -/
def faultOf (expression : String) (trouble : Guard.Trouble) : Fault :=
  match trouble with
  | .nul => .host (.badValue (trouble.message expression))
  | _ => .badGuard (trouble.message expression)

/-- The truth of an expression, or the fault that it is broken. -/
def strict (e : Evaluator) (expression : String) (vars : Table Value) : Except Fault Bool :=
  (e.evaluate expression vars).mapError (faultOf expression)

/-- The truth of an expression, where a broken one does not hold and is reported. -/
def lenient (e : Evaluator) (expression : String) (vars : Table Value) :
    Except Fault (Bool × Option String) :=
  match e.strict expression vars with
  | .ok b => .ok (b, none)
  | .error (.badGuard message) => .ok (false, some ("Eval error: " ++ message))
  | .error fault => .error fault

/-- The truth of an expression for a host with a state of its own. A broken expression does not
    hold, and the host is told of it. -/
def hook {σ : Type} (e : Evaluator) (onError : String → σ → σ) (expression : String)
    (vars : Table Value) (s : σ) : Except Fault Bool × σ :=
  match e.strict expression vars with
  | .ok b => (.ok b, s)
  | .error (.badGuard message) => (.ok false, onError ("Eval error: " ++ message) s)
  | .error fault => (.error fault, s)

end Evaluator

/-- The reply that a result of evaluation stands for. -/
def Reply.ofTruth (b : Bool) : Reply := .value (.bool b)

end Stepwise
