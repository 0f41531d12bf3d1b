import Stepwise.Guard.Eval

namespace Stepwise.Guard

/-- What an expression does while it is evaluated, besides putting values together and reading their
    items. -/
inductive Access where
  | name (id : String)
  | attribute (owner : Datum) (name : String)
  | call (callee : Datum) (args : List Datum) (hasKeywords : Bool)
  /-- A form or a sign that guards may not use. -/
  | foreign

/-- What a part of an evaluation did, first to last, and how it ended. -/
structure Watched (α : Type) where
  accesses : List Access
  outcome : Except Fault α

namespace Watched

variable {α β : Type}

/-- An operation that is written down. -/
def doing (access : Access) (outcome : Except Fault α) : Watched α := ⟨[access], outcome⟩

/-- An operation on values that is not written down. -/
def quietly (outcome : Except Fault α) : Watched α := ⟨[], outcome⟩

/-- Goes on with a result; a fault ends the whole. -/
protected def bind (x : Watched α) (f : α → Watched β) : Watched β :=
  match x.outcome with
  | .ok a => ⟨x.accesses ++ (f a).accesses, (f a).outcome⟩
  | .error fault => ⟨x.accesses, .error fault⟩

instance : Monad Watched where
  pure a := quietly (.ok a)
  bind := Watched.bind

@[simp]
theorem outcome_doing (access : Access) (outcome : Except Fault α) :
    (doing access outcome).outcome = outcome := rfl

@[simp]
theorem outcome_quietly (outcome : Except Fault α) : (quietly outcome).outcome = outcome := rfl

@[simp]
theorem outcome_pure (a : α) : (pure a : Watched α).outcome = .ok a := rfl

@[simp]
theorem outcome_bind (x : Watched α) (f : α → Watched β) :
    (x >>= f).outcome = x.outcome >>= fun a => (f a).outcome := by
  change (x.bind f).outcome = _
  unfold Watched.bind
  cases x.outcome with
  | ok a => rfl
  | error fault => rfl

theorem outcome_ite {c : Prop} [Decidable c] (x y : Watched α) :
    (if c then x else y).outcome = if c then x.outcome else y.outcome :=
  apply_ite Watched.outcome c x y

end Watched

mutual

/-- The evaluation of an expression, with all that it does. -/
def Tree.watch (vars : String → Option Datum) : Tree → Watched Datum
  | .constant c => pure (.ofConstant c)
  | .name id => .doing (.name id) (resolve id)
  | .attribute base attr => do
    let owner ← base.watch vars
    .doing (.attribute owner attr) (owner.attribute vars attr)
  | .item base index => do
    let owner ← base.watch vars
    let index ← index.watch vars
    .quietly (owner.item vars index)
  | .call callee args hasKeywords => do
    let f ← callee.watch vars
    let args ← watchAll vars args
    .doing (.call f args hasKeywords) (f.call args)
  | .list items => return .list (← watchAll vars items)
  | .tuple items => return .tuple (← watchAll vars items)
  | .junction op operands => watchJunction vars op operands
  | .unary .not operand => return .bool !(← operand.watch vars).isTruthy
  | .unary .minus operand => do
    let d ← operand.watch vars
    .quietly (negated d)
  | .unary _ _ => .doing .foreign (.error .notSupported)
  | .comparison first rest => do
    watchChain vars first (← first.watch vars) rest
  | .foreign _ => .doing .foreign (.error .notSupported)

def watchAll (vars : String → Option Datum) : List Tree → Watched (List Datum)
  | [] => pure []
  | t :: rest => return (← t.watch vars) :: (← watchAll vars rest)

def watchJunction (vars : String → Option Datum) (op : Junction) : List Tree → Watched Datum
  | [] => pure (.bool (op == .and))
  | [t] => t.watch vars
  | t :: rest => do
    let d ← t.watch vars
    if d.isTruthy == (op == .or) then return d else watchJunction vars op rest

def watchChain (vars : String → Option Datum) (source : Tree) (left : Datum) :
    List (Relation × Tree) → Watched Datum
  | [] => pure (.bool true)
  | (relation, t) :: rest => do
    let right ← t.watch vars
    let holds ← .quietly (left.related vars relation (source.sharesOrigin t) right)
    if holds then watchChain vars t right rest else return .bool false

end

variable {vars : String → Option Datum}

mutual

/-- Watching an evaluation changes nothing about its end. -/
theorem Tree.outcome_watch : (t : Tree) → (t.watch vars).outcome = t.eval vars
  | .constant c => by rw [Tree.watch, Tree.eval, Watched.outcome_pure]
  | .name id => by rw [Tree.watch, Tree.eval, Watched.outcome_doing]
  | .attribute base attr => by
    simp only [Tree.watch, Tree.eval, Watched.outcome_bind, Watched.outcome_doing,
      base.outcome_watch]
  | .item base index => by
    simp only [Tree.watch, Tree.eval, Watched.outcome_bind, Watched.outcome_quietly,
      base.outcome_watch, index.outcome_watch]
  | .call callee args hasKeywords => by
    simp only [Tree.watch, Tree.eval, Watched.outcome_bind, Watched.outcome_doing,
      callee.outcome_watch, outcome_watchAll args]
  | .list items => by
    simp only [Tree.watch, Tree.eval, Watched.outcome_bind, outcome_watchAll items]
    rfl
  | .tuple items => by
    simp only [Tree.watch, Tree.eval, Watched.outcome_bind, outcome_watchAll items]
    rfl
  | .junction op operands => by rw [Tree.watch, Tree.eval, outcome_watchJunction operands]
  | .unary .not operand => by
    simp only [Tree.watch, Tree.eval, Watched.outcome_bind, operand.outcome_watch]
    rfl
  | .unary .minus operand => by
    simp only [Tree.watch, Tree.eval, Watched.outcome_bind, Watched.outcome_quietly,
      operand.outcome_watch]
  | .unary .plus operand | .unary .invert operand => by
    rw [Tree.watch, Tree.eval, Watched.outcome_doing] <;> simp
  | .comparison first rest => by
    simp only [Tree.watch, Tree.eval, Watched.outcome_bind, first.outcome_watch,
      outcome_watchChain rest]
  | .foreign form => by rw [Tree.watch, Tree.eval, Watched.outcome_doing]

theorem outcome_watchAll : (ts : List Tree) → (watchAll vars ts).outcome = evalAll vars ts
  | [] => by rw [watchAll, evalAll, Watched.outcome_pure]
  | t :: rest => by
    simp only [watchAll, evalAll, Watched.outcome_bind, t.outcome_watch, outcome_watchAll rest]
    rfl

theorem outcome_watchJunction {op : Junction} :
    (ts : List Tree) → (watchJunction vars op ts).outcome = evalJunction vars op ts
  | [] => by rw [watchJunction, evalJunction, Watched.outcome_pure]
  | [t] => by rw [watchJunction, evalJunction, t.outcome_watch]
  | t :: next :: rest => by
    simp only [watchJunction, evalJunction, Watched.outcome_bind, Watched.outcome_ite,
      Watched.outcome_pure, t.outcome_watch, outcome_watchJunction (next :: rest)]
    rfl

theorem outcome_watchChain {source : Tree} {left : Datum} :
    (rest : List (Relation × Tree)) →
      (watchChain vars source left rest).outcome = evalChain vars source left rest
  | [] => by rw [watchChain, evalChain, Watched.outcome_pure]
  | (relation, t) :: rest => by
    simp only [watchChain, evalChain, Watched.outcome_bind, Watched.outcome_quietly,
      Watched.outcome_ite, Watched.outcome_pure, t.outcome_watch, outcome_watchChain rest]
    rfl

end

end Stepwise.Guard
