import Stepwise.Guard.Tree

namespace Stepwise.Guard

/-- The functions a guard may call, by name. -/
inductive Builtin where
  | len
  | int
  | float
  | str
  | bool
deriving DecidableEq

def Builtin.ofName? : String → Option Builtin
  | "len" => some .len
  | "int" => some .int
  | "float" => some .float
  | "str" => some .str
  | "bool" => some .bool
  | _ => none

def Builtin.name : Builtin → String
  | len => "len"
  | int => "int"
  | float => "float"
  | str => "str"
  | bool => "bool"

/-- The methods a guard may call. -/
inductive Method where
  | lower
  | upper
  | strip
  | startswith
  | endswith
deriving DecidableEq

def Method.ofName? : String → Option Method
  | "lower" => some .lower
  | "upper" => some .upper
  | "strip" => some .strip
  | "startswith" => some .startswith
  | "endswith" => some .endswith
  | _ => none

def Method.name : Method → String
  | lower => "lower"
  | upper => "upper"
  | strip => "strip"
  | startswith => "startswith"
  | endswith => "endswith"

/-- The name under which a guard reads the variables of the run. -/
def varsName : String := "vars"

/-- Why an expression is no guard. -/
inductive Refusal where
  | tooLong (length : Nat) (limit : Int)
  | malformed
  | unsupported (form : String)
  | unknownName (id : String)
  | privateAttribute (name : String)
  | unsupportedCall
deriving DecidableEq

/-- A place of a tree that is looked at on its own: a subtree or the sign of a unary form. -/
inductive Place where
  | tree (t : Tree)
  | sign (s : Sign)

/-- The tree may stand as the callee of a call. -/
def Tree.isCallee : Tree → Bool
  | .name id => (Builtin.ofName? id).isSome
  | .attribute _ attr => (Method.ofName? attr).isSome
  | _ => false

/-- Why a place is refused, looking at nothing below it but the callee of a call. -/
def Place.refusal? : Place → Option Refusal
  | .sign .plus => some (.unsupported "UAdd")
  | .sign .invert => some (.unsupported "Invert")
  | .sign _ => none
  | .tree (.foreign form) => some (.unsupported form.name)
  | .tree (.name id) =>
    if id == varsName || (Builtin.ofName? id).isSome then none else some (.unknownName id)
  | .tree (.attribute _ name) =>
    if name.toList.head? == some '_' then some (.privateAttribute name) else none
  | .tree (.call callee _ hasKeywords) =>
    if callee.isCallee && !hasKeywords then none else some .unsupportedCall
  | .tree _ => none

/-- The places right below one, left to right. -/
def Place.children : Place → List Place
  | .sign _ => []
  | .tree t => match t with
    | .attribute base _ => [.tree base]
    | .item base index => [.tree base, .tree index]
    | .call callee args _ => .tree callee :: args.map .tree
    | .list items | .tuple items | .junction _ items => items.map .tree
    | .unary s operand => [.sign s, .tree operand]
    | .comparison first rest => .tree first :: rest.map fun (_, operand) => .tree operand
    | .constant _ | .name _ | .foreign _ => []

mutual

/-- The number of levels of a tree. -/
def Tree.height : Tree → Nat
  | .attribute base _ => base.height + 1
  | .item base index => max base.height index.height + 1
  | .call callee args _ => max callee.height (heightOf args) + 1
  | .list items | .tuple items | .junction _ items => heightOf items + 1
  | .unary _ operand => operand.height + 1
  | .comparison first rest => max first.height (heightOfRest rest) + 1
  | .constant _ | .name _ | .foreign _ => 1

def heightOf : List Tree → Nat
  | [] => 0
  | t :: rest => max t.height (heightOf rest)

def heightOfRest : List (Relation × Tree) → Nat
  | [] => 0
  | (_, t) :: rest => max t.height (heightOfRest rest)

end

/-- The first refusal among the places of a level, then of the level below it, and so on. -/
def refusalBelow? : (levels : Nat) → List Place → Option Refusal
  | 0, _ => none
  | levels + 1, places =>
    match places.findSome? Place.refusal? with
    | some refusal => some refusal
    | none => refusalBelow? levels (places.flatMap Place.children)

/-- The first refusal of a tree, level by level from the top. -/
def Tree.refusal? (t : Tree) : Option Refusal :=
  refusalBelow? (t.height + 1) [.tree t]

end Stepwise.Guard
