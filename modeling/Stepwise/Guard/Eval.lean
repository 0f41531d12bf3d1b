import Stepwise.Guard.Call
import Stepwise.Guard.Parser
import Stepwise.Guard.Relation

namespace Stepwise.Guard

/-- The value that a name stands for. -/
def resolve (id : String) : Except Fault Datum :=
  if id == varsName then .ok .vars
  else match Builtin.ofName? id with
    | some f => .ok (.builtin f)
    | none => .error (.unboundName id)

def negated (d : Datum) : Except Fault Datum :=
  match d with
  | .bool b => .ok (.int (if b then -1 else 0))
  | .int n => .ok (.int (-n))
  | .float x => .ok (.float (-x))
  | .complex re im => .ok (.complex (-re) (-im))
  | _ => .error (.badSign d.typeName)

/-- Where a value comes from. -/
inductive Origin where
  | literal
  | variable (name : String)
  | other
deriving DecidableEq

mutual

/-- Where the value of an expression comes from. -/
def Tree.origin : Tree → Origin
  | .constant _ | .unary .minus (.constant _) => .literal
  | .attribute (.name _) attr => .variable attr
  | .item (.name _) (.constant (.text name)) => .variable name
  | .tuple items => if areLiteral items then .literal else .other
  | _ => .other

def areLiteral : List Tree → Bool
  | [] => true
  | t :: rest => t.origin == .literal && areLiteral rest

end

/-- Two expressions take their values from one place. Equal literals share theirs. -/
def Tree.sharesOrigin (s t : Tree) : Bool :=
  s.origin == t.origin && s.origin != .other

mutual

/-- The value of an expression, where `vars` gives the values of the variables. Operands are
    evaluated left to right, and no further than the result requires. -/
def Tree.eval (vars : String → Option Datum) : Tree → Except Fault Datum
  | .constant c => .ok (.ofConstant c)
  | .name id => resolve id
  | .attribute base attr => do
    (← base.eval vars).attribute vars attr
  | .item base index => do
    let owner ← base.eval vars
    owner.item vars (← index.eval vars)
  | .call callee args _ => do
    let f ← callee.eval vars
    f.call (← evalAll vars args)
  | .list items => return .list (← evalAll vars items)
  | .tuple items => return .tuple (← evalAll vars items)
  | .junction op operands => evalJunction vars op operands
  | .unary .not operand => return .bool !(← operand.eval vars).isTruthy
  | .unary .minus operand => do
    negated (← operand.eval vars)
  | .unary _ _ => .error .notSupported
  | .comparison first rest => do
    evalChain vars first (← first.eval vars) rest
  | .foreign _ => .error .notSupported

def evalAll (vars : String → Option Datum) : List Tree → Except Fault (List Datum)
  | [] => .ok []
  | t :: rest => return (← t.eval vars) :: (← evalAll vars rest)

/-- The first operand that settles the junction, or the last one. -/
def evalJunction (vars : String → Option Datum) (op : Junction) : List Tree → Except Fault Datum
  | [] => .ok (.bool (op == .and))
  | [t] => t.eval vars
  | t :: rest => do
    let d ← t.eval vars
    if d.isTruthy == (op == .or) then return d else evalJunction vars op rest

/-- Every relation of a chain has to hold; operands after the first that fails are not
    evaluated. The chain begins with the value `left` of the expression `source`. -/
def evalChain (vars : String → Option Datum) (source : Tree) (left : Datum) :
    List (Relation × Tree) → Except Fault Datum
  | [] => .ok (.bool true)
  | (relation, t) :: rest => do
    let right ← t.eval vars
    if ← left.related vars relation (source.sharesOrigin t) right then evalChain vars t right rest
    else return .bool false

end

/-- Why a guard has no truth value. -/
inductive Trouble where
  /-- The text holds the character of code zero, which no expression may. -/
  | nul
  | refused (refusal : Refusal)
  | faulty (fault : Fault)

def Refusal.message (expression : String) : Refusal → String
  | tooLong length limit =>
    "Expression too long (" ++ toString length ++ " > " ++ toString limit ++ ")"
  | malformed => "Invalid expression " ++ Text.quoted expression
  | unsupported form => "Unsupported syntax in " ++ Text.quoted expression ++ ": " ++ form
  | unknownName id => "Unknown name " ++ Text.quoted id ++ " in " ++ Text.quoted expression
  | privateAttribute name =>
    "Private attribute " ++ Text.quoted name ++ " in " ++ Text.quoted expression
  | unsupportedCall => "Unsupported call in " ++ Text.quoted expression

def Trouble.message (expression : String) : Trouble → String
  | nul => "source code string cannot contain null bytes"
  | refused refusal => refusal.message expression
  | faulty fault => "Error evaluating " ++ Text.quoted expression ++ ": " ++ fault.message

/-- Expressions may be this long unless a host says otherwise. -/
def defaultMaxLength : Int := 1024

/-- Expressions may be nested this deep to be evaluated. -/
def maxDepth : Nat := 993

/-- The tree of an expression that is admitted as a guard. -/
def accept (maxLength : Int) (expression : String) : Except Trouble Tree :=
  if maxLength < expression.length then
    .error (.refused (.tooLong expression.length maxLength))
  else if expression.toList.contains '\x00' then .error .nul
  else match Tree.ofChars? (Text.trimChars Text.isBlank expression.toList) with
    | none => .error (.refused .malformed)
    | some tree => match tree.refusal? with
      | some refusal => .error (.refused refusal)
      | none => .ok tree

/-- The truth value of an expression over variables. -/
def evaluate (maxLength : Int) (expression : String) (vars : String → Option Value) :
    Except Trouble Bool :=
  match accept maxLength expression with
  | .error trouble => .error trouble
  | .ok tree =>
    if maxDepth < tree.depth then .error (.faulty .tooDeep)
    else match tree.eval fun name => (vars name).map Datum.ofValue with
      | .ok d => .ok d.isTruthy
      | .error fault => .error (.faulty fault)

end Stepwise.Guard
