namespace Stepwise.Guard

/-- A literal. -/
inductive Constant where
  | none
  | bool (b : Bool)
  | int (n : Int)
  | float (x : Float)
  | imaginary (x : Float)
  | text (s : String)
  | bytes (bs : List UInt8)
  | ellipsis
deriving Inhabited

inductive Sign where
  | not
  | minus
  | plus
  | invert
deriving DecidableEq

inductive Junction where
  | and
  | or
deriving DecidableEq

inductive Relation where
  | eq
  | ne
  | lt
  | le
  | gt
  | ge
  | is
  | isNot
  | isIn
  | notIn
deriving DecidableEq

/-- A form that expressions have but guards may not use. Nothing below such a form matters, so it
    is kept without its parts. -/
inductive ForeignForm where
  | arithmetic
  | conditional
  | lambda
  | listComprehension
  | setComprehension
  | mappingComprehension
  | generator
  | mapping
  | set
  | starred
  | formatted
  | assignment
  | await
  | yield
  | yieldFrom
  | slice
deriving DecidableEq

/-- The name under which a foreign form is reported. -/
def ForeignForm.name : ForeignForm → String
  | arithmetic => "BinOp"
  | conditional => "IfExp"
  | lambda => "Lambda"
  | listComprehension => "ListComp"
  | setComprehension => "SetComp"
  | mappingComprehension => "DictComp"
  | generator => "GeneratorExp"
  | mapping => "Dict"
  | set => "Set"
  | starred => "Starred"
  | formatted => "JoinedStr"
  | assignment => "NamedExpr"
  | await => "Await"
  | yield => "Yield"
  | yieldFrom => "YieldFrom"
  | slice => "Slice"

/-- The tree of an expression. -/
inductive Tree where
  | constant (c : Constant)
  | name (id : String)
  | attribute (base : Tree) (name : String)
  | item (base index : Tree)
  | call (callee : Tree) (args : List Tree) (hasKeywords : Bool)
  | list (items : List Tree)
  | tuple (items : List Tree)
  | junction (op : Junction) (operands : List Tree)
  | unary (sign : Sign) (operand : Tree)
  | comparison (first : Tree) (rest : List (Relation × Tree))
  | foreign (form : ForeignForm)
deriving Inhabited

mutual

/-- How many expressions stand in one another at most. -/
def Tree.depth : Tree → Nat
  | .constant _ | .name _ | .foreign _ => 1
  | .attribute base _ => base.depth + 1
  | .item base index => max base.depth index.depth + 1
  | .call callee args _ => max callee.depth (depthOf args) + 1
  | .list items | .tuple items | .junction _ items => depthOf items + 1
  | .unary _ operand => operand.depth + 1
  | .comparison first rest => max first.depth (depthOfRelated rest) + 1

def depthOf : List Tree → Nat
  | [] => 0
  | t :: rest => max t.depth (depthOf rest)

def depthOfRelated : List (Relation × Tree) → Nat
  | [] => 0
  | (_, t) :: rest => max t.depth (depthOfRelated rest)

end

end Stepwise.Guard
