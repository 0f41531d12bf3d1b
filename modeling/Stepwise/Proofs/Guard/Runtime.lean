import Stepwise.Proofs.Guard.Confined

namespace Stepwise.Guard

/-- How calls are carried out and relations are judged. On data the rules leave no choice but whether
    two equal values are one thing. The rest is open: the text of a method, for one, may tell where
    it lies. -/
structure Runtime where
  call (callee : Datum) (args : List Datum) : Except Fault Datum
  /-- The judgement between the values of two trees. -/
  related (vars : String → Option Datum) (relation : Relation) (s t : Tree) (a b : Datum) :
    Except Fault Bool
  call_eq {callee : Datum} {args : List Datum} (hcallee : callee.MayBeCalled)
    (hargs : Datum.areData args) : call callee args = callee.call args
  related_eq {vars : String → Option Datum} {relation : Relation} {s t : Tree} {a b : Datum}
    (isShared : Bool) (ha : a.isData) (hb : b.isData)
    (hsingle : relation.isIdentity → a.isSingle ∨ b.isSingle) :
    related vars relation s t a b = a.related vars relation isShared b

namespace Runtime

/-- The runtime in which the values of two trees are one thing where `isShared` says so. -/
def sharing (isShared : Tree → Tree → Bool) : Runtime where
  call := Datum.call
  related vars relation s t a b := a.related vars relation (isShared s t) b
  call_eq _ _ := rfl
  related_eq _ _ _ hsingle := Datum.related_eq_of_isSingle hsingle

/-- The runtime in which values are one thing if they come from one place. -/
def standard : Runtime := sharing Tree.sharesOrigin

end Runtime

section

variable (r : Runtime) (vars : String → Option Datum)

mutual

/-- The value of an expression, as a runtime has it. -/
def Tree.evalIn : Tree → Except Fault Datum
  | .constant c => .ok (.ofConstant c)
  | .name id => resolve id
  | .attribute base attr => do
    (← base.evalIn).attribute vars attr
  | .item base index => do
    let owner ← base.evalIn
    owner.item vars (← index.evalIn)
  | .call callee args _ => do
    let f ← callee.evalIn
    r.call f (← evalAllIn args)
  | .list items => return .list (← evalAllIn items)
  | .tuple items => return .tuple (← evalAllIn items)
  | .junction op operands => evalJunctionIn op operands
  | .unary .not operand => return .bool !(← operand.evalIn).isTruthy
  | .unary .minus operand => do
    negated (← operand.evalIn)
  | .unary _ _ => .error .notSupported
  | .comparison first rest => do
    evalChainIn first (← first.evalIn) rest
  | .foreign _ => .error .notSupported

def evalAllIn : List Tree → Except Fault (List Datum)
  | [] => .ok []
  | t :: rest => return (← t.evalIn) :: (← evalAllIn rest)

def evalJunctionIn (op : Junction) : List Tree → Except Fault Datum
  | [] => .ok (.bool (op == .and))
  | [t] => t.evalIn
  | t :: rest => do
    let d ← t.evalIn
    if d.isTruthy == (op == .or) then return d else evalJunctionIn op rest

def evalChainIn (source : Tree) (left : Datum) : List (Relation × Tree) → Except Fault Datum
  | [] => .ok (.bool true)
  | (relation, t) :: rest => do
    let right ← t.evalIn
    if ← r.related vars relation source t left right then evalChainIn t right rest
    else return .bool false

end

/-- The truth value of an expression over variables, as a runtime has it. -/
def evaluateIn (maxLength : Int) (expression : String) (vars : String → Option Value) :
    Except Trouble Bool :=
  match accept maxLength expression with
  | .error trouble => .error trouble
  | .ok tree =>
    if maxDepth < tree.depth then .error (.faulty .tooDeep)
    else
      let outcome := tree.evalIn r fun name => (vars name).map Datum.ofValue
      (outcome.map Datum.isTruthy).mapError .faulty

end

/-! ### The standard runtime -/

section

variable {vars : String → Option Datum}

mutual

theorem Tree.evalIn_standard : (t : Tree) → t.evalIn .standard vars = t.eval vars
  | .constant c => by rw [Tree.evalIn, Tree.eval]
  | .name id => by rw [Tree.evalIn, Tree.eval]
  | .attribute base attr => by rw [Tree.evalIn, Tree.eval, base.evalIn_standard]
  | .item base index => by
    rw [Tree.evalIn, Tree.eval, base.evalIn_standard, index.evalIn_standard]
  | .call callee args hasKeywords => by
    rw [Tree.evalIn, Tree.eval, callee.evalIn_standard, evalAllIn_standard args]
    rfl
  | .list items => by rw [Tree.evalIn, Tree.eval, evalAllIn_standard items]
  | .tuple items => by rw [Tree.evalIn, Tree.eval, evalAllIn_standard items]
  | .junction op operands => by rw [Tree.evalIn, Tree.eval, evalJunctionIn_standard operands]
  | .unary .not operand => by rw [Tree.evalIn, Tree.eval, operand.evalIn_standard]
  | .unary .minus operand => by rw [Tree.evalIn, Tree.eval, operand.evalIn_standard]
  | .unary .plus operand | .unary .invert operand => by rw [Tree.evalIn, Tree.eval] <;> simp
  | .comparison first rest => by
    rw [Tree.evalIn, Tree.eval, first.evalIn_standard]
    simp only [evalChainIn_standard rest]
  | .foreign form => by rw [Tree.evalIn, Tree.eval]

theorem evalAllIn_standard : (ts : List Tree) → evalAllIn .standard vars ts = evalAll vars ts
  | [] => by rw [evalAllIn, evalAll]
  | t :: rest => by rw [evalAllIn, evalAll, t.evalIn_standard, evalAllIn_standard rest]

theorem evalJunctionIn_standard {op : Junction} :
    (ts : List Tree) → evalJunctionIn .standard vars op ts = evalJunction vars op ts
  | [] => by rw [evalJunctionIn, evalJunction]
  | [t] => by rw [evalJunctionIn, evalJunction, t.evalIn_standard]
  | t :: next :: rest => by
    simp only [evalJunctionIn, evalJunction, t.evalIn_standard,
      evalJunctionIn_standard (next :: rest)]

theorem evalChainIn_standard {source : Tree} {left : Datum} :
    (rest : List (Relation × Tree)) →
      evalChainIn .standard vars source left rest = evalChain vars source left rest
  | [] => by rw [evalChainIn, evalChain]
  | (relation, t) :: rest => by
    simp only [evalChainIn, evalChain, t.evalIn_standard, evalChainIn_standard rest]
    rfl

end

/-- An expression is evaluated as the standard runtime has it. -/
theorem evaluateIn_standard {maxLength : Int} {expression : String}
    {vars : String → Option Value} :
    evaluateIn .standard maxLength expression vars = evaluate maxLength expression vars := by
  unfold evaluateIn evaluate
  cases accept maxLength expression with
  | error trouble => rfl
  | ok tree =>
    dsimp only
    split
    · rfl
    · rw [Tree.evalIn_standard]
      cases tree.eval fun name => (vars name).map Datum.ofValue with
      | ok d => rfl
      | error fault => rfl

end

/-! ### Expressions that leave no choice to the runtime -/

namespace Tree

/-- The tree stands for the variables as a whole. -/
def isView : Tree → Bool
  | .name id => id == varsName
  | _ => false

def text? : Tree → Option String
  | .constant (.text s) => some s
  | _ => none

/-- The tree is one of the literals of which there is only one value. -/
def isSingle : Tree → Bool
  | .constant .none | .constant (.bool _) => true
  | _ => false

end Tree

mutual

/-- The variables occur only where one of them is named, functions and methods only where they are
    called, and identity is asked for only where one side is a literal of which there is only one
    value. -/
def Tree.isDirect : Tree → Bool
  | .constant _ => true
  | .name _ | .foreign _ => false
  | .attribute base attr => base.isView || (base.isDirect && !valueMethods.contains attr)
  | .item base index => (base.isView && index.text?.isSome) || (base.isDirect && index.isDirect)
  | .call callee args _ => callee.isDirectCallee && areDirect args
  | .list items | .tuple items | .junction _ items => areDirect items
  | .unary _ operand => operand.isDirect
  | .comparison first rest => first.isDirect && isDirectChain first rest

/-- The tree is a function that may be called, or a method of something. -/
def Tree.isDirectCallee : Tree → Bool
  | .name id => (Builtin.ofName? id).isSome
  | .attribute base attr => (Method.ofName? attr).isSome && (base.isView || base.isDirect)
  | _ => false

def areDirect : List Tree → Bool
  | [] => true
  | t :: rest => t.isDirect && areDirect rest

/-- Every operand that follows `source` in a chain, with the test between it and the one before. -/
def isDirectChain (source : Tree) : List (Relation × Tree) → Bool
  | [] => true
  | (relation, t) :: rest =>
    t.isDirect && (!relation.isIdentity || source.isSingle || t.isSingle) && isDirectChain t rest

end

/-! ### Two evaluations -/

/-- The two operations end alike, and their result, if there is one, has a property. -/
structure EndAlike {α : Type} (p : α → Prop) (x y : Except Fault α) : Prop where
  eq : x = y
  holds : ∀ a, x = .ok a → p a

namespace EndAlike

variable {α β : Type} {p : α → Prop} {x y : Except Fault α}

theorem ok {a : α} (h : p a) : EndAlike p (.ok a) (.ok a) := by
  refine ⟨rfl, fun b hb => ?_⟩
  cases hb
  exact h

theorem error (fault : Fault) : EndAlike p (.error fault) (.error fault) :=
  ⟨rfl, fun _ h => by cases h⟩

theorem bind {q : β → Prop} {f g : α → Except Fault β} (h : EndAlike p x y)
    (hf : ∀ a, x = .ok a → p a → EndAlike q (f a) (g a)) : EndAlike q (x >>= f) (y >>= g) := by
  obtain ⟨rfl, hholds⟩ := h
  cases x with
  | ok a => exact hf a rfl (hholds a rfl)
  | error fault => exact error fault

end EndAlike

/-! ### One evaluation in two runtimes -/

section

variable {r r' : Runtime} {vars : String → Option Datum}

theorem Runtime.endAlike_call {callee : Datum} {args : List Datum} (hcallee : callee.MayBeCalled)
    (hargs : Datum.areData args) :
    EndAlike (·.isData) (r.call callee args) (r'.call callee args) := by
  rw [r.call_eq hcallee hargs, r'.call_eq hcallee hargs]
  exact ⟨rfl, fun _ => Datum.isData_of_call⟩

theorem Runtime.endAlike_related {relation : Relation} {s t : Tree} {a b : Datum}
    (ha : a.isData) (hb : b.isData) (hsingle : relation.isIdentity → a.isSingle ∨ b.isSingle) :
    EndAlike (fun _ => True) (r.related vars relation s t a b)
      (r'.related vars relation s t a b) := by
  rw [r.related_eq false ha hb hsingle, r'.related_eq false ha hb hsingle]
  exact ⟨rfl, fun _ _ => trivial⟩

theorem Tree.eq_of_isView {base : Tree} (hview : base.isView) : base = .name varsName := by
  unfold isView at hview
  split at hview
  · rw [beq_iff_eq.1 hview]
  · cases hview

theorem Tree.eq_of_text? {index : Tree} {name : String} (h : index.text? = some name) :
    index = .constant (.text name) := by
  unfold text? at h
  split at h
  · cases h
    rfl
  · cases h

theorem Datum.isData_ofConstant (c : Constant) : (ofConstant c).isData := by
  cases c <;> rfl

theorem Datum.isPlain_of_isData {d : Datum} (hdata : d.isData) : d.isPlain := by
  cases d <;> simp_all [isPlain]

/-- A literal of which there is only one value has a single value. -/
theorem Tree.isSingle_of_evalIn {t : Tree} {d : Datum} (hsingle : t.isSingle)
    (heval : t.evalIn r vars = .ok d) : d.isSingle := by
  unfold isSingle at hsingle
  split at hsingle
  · rw [Tree.evalIn] at heval
    cases heval
    rfl
  · rw [Tree.evalIn] at heval
    cases heval
    rfl
  · cases hsingle

theorem isData_of_read (hvars : ∀ name d, vars name = some d → d.isData) {name : String}
    {d : Datum} (h : Datum.vars.attribute vars name = .ok d) : d.isData := by
  cases h
  cases hvar : vars name with
  | none => rfl
  | some d => exact hvars name d hvar

mutual

/-- A direct expression ends alike in any two runtimes. The induction carries that the value of
    every part that is no callee is data. -/
theorem Tree.endAlike_evalIn (hvars : ∀ name d, vars name = some d → d.isData) :
    (t : Tree) → t.isDirect → EndAlike (·.isData) (t.evalIn r vars) (t.evalIn r' vars)
  | .constant c, _ => by
    simp only [Tree.evalIn]
    exact .ok (Datum.isData_ofConstant c)
  | .attribute base attr, hdirect => by
    simp only [Tree.isDirect, Bool.or_eq_true, Bool.and_eq_true, Bool.not_eq_true',
      List.contains_eq_mem, decide_eq_false_iff_not] at hdirect
    simp only [Tree.evalIn]
    rcases hdirect with hview | ⟨hbase, hattr⟩
    · obtain rfl := Tree.eq_of_isView hview
      exact ⟨rfl, fun _ => isData_of_read hvars⟩
    · refine (base.endAlike_evalIn hvars hbase).bind fun owner _ howner => ⟨rfl, fun d hd => ?_⟩
      cases Datum.part_of_attribute (Datum.ne_vars_of_isData howner) hd with
      | data hdata => exact hdata
      | method hname => exact absurd (hname howner) hattr
      | ofType htype => cases htype ▸ howner
  | .item base index, hdirect => by
    simp only [Tree.isDirect, Bool.or_eq_true, Bool.and_eq_true] at hdirect
    simp only [Tree.evalIn]
    rcases hdirect with ⟨hview, htext⟩ | ⟨hbase, hindex⟩
    · obtain ⟨name, hname⟩ := Option.isSome_iff_exists.1 htext
      obtain rfl := Tree.eq_of_isView hview
      obtain rfl := Tree.eq_of_text? hname
      exact ⟨rfl, fun _ => isData_of_read hvars⟩
    · have hbase := base.endAlike_evalIn hvars hbase
      have hindex := index.endAlike_evalIn hvars hindex
      exact hbase.bind fun owner _ howner => hindex.bind fun index _ _ =>
        ⟨rfl, fun _ => Datum.isData_of_item howner⟩
  | .call callee args _, hdirect => by
    simp only [Tree.isDirect, Bool.and_eq_true] at hdirect
    simp only [Tree.evalIn]
    have hcallee := callee.endAlike_callee hvars hdirect.1
    have hargs := endAlike_evalAllIn hvars args hdirect.2
    exact hcallee.bind fun f _ hf => hargs.bind fun args _ hargs =>
      Runtime.endAlike_call hf hargs
  | .list items, hdirect | .tuple items, hdirect => by
    simp only [Tree.evalIn]
    exact (endAlike_evalAllIn hvars items hdirect).bind fun items _ hitems => .ok hitems
  | .junction op operands, hdirect => by
    simp only [Tree.evalIn]
    exact endAlike_evalJunctionIn hvars operands hdirect
  | .unary .not operand, hdirect => by
    simp only [Tree.evalIn]
    exact (operand.endAlike_evalIn hvars hdirect).bind fun d _ _ => .ok rfl
  | .unary .minus operand, hdirect => by
    simp only [Tree.evalIn]
    exact (operand.endAlike_evalIn hvars hdirect).bind fun d _ _ =>
      ⟨rfl, (computes_negated d).isData⟩
  | .unary .plus operand, _ | .unary .invert operand, _ => by
    simp only [Tree.evalIn]
    exact .error _
  | .comparison first rest, hdirect => by
    simp only [Tree.isDirect, Bool.and_eq_true] at hdirect
    simp only [Tree.evalIn]
    exact (first.endAlike_evalIn hvars hdirect.1).bind fun left heval hleft =>
      endAlike_evalChainIn hvars hleft (Tree.isSingle_of_evalIn · heval) rest hdirect.2
  | .name _, hdirect | .foreign _, hdirect => by simp [Tree.isDirect] at hdirect

/-- The value of a callee may be called. -/
theorem Tree.endAlike_callee (hvars : ∀ name d, vars name = some d → d.isData) :
    (t : Tree) → t.isDirectCallee → EndAlike Datum.MayBeCalled (t.evalIn r vars) (t.evalIn r' vars)
  | .name id, hdirect => by
    obtain ⟨f, rfl, hresolve⟩ := resolve_of_mem (isSome_builtin_iff.1 hdirect)
    simp only [Tree.evalIn, hresolve]
    exact .ok (.function (isSome_builtin_iff.1 hdirect))
  | .attribute base attr, hdirect => by
    simp only [Tree.isDirectCallee, Bool.and_eq_true, Bool.or_eq_true] at hdirect
    obtain ⟨hmethod, hbase⟩ := hdirect
    have hplain : ∀ name d, vars name = some d → d.isPlain :=
      fun name d hd => Datum.isPlain_of_isData (hvars name d hd)
    have hcallee (owner f : Datum) : owner.attribute vars attr = .ok f → f.MayBeCalled :=
      Datum.mayBeCalled_of_attribute hplain (isSome_method_iff.1 hmethod)
    simp only [Tree.evalIn]
    rcases hbase with hview | hbase
    · obtain rfl := Tree.eq_of_isView hview
      exact ⟨rfl, hcallee .vars⟩
    · exact (base.endAlike_evalIn hvars hbase).bind fun owner _ _ => ⟨rfl, hcallee owner⟩
  | .constant _, hdirect | .item _ _, hdirect | .call _ _ _, hdirect | .list _, hdirect
  | .tuple _, hdirect | .junction _ _, hdirect | .unary _ _, hdirect | .comparison _ _, hdirect
  | .foreign _, hdirect => by simp [Tree.isDirectCallee] at hdirect

theorem endAlike_evalAllIn (hvars : ∀ name d, vars name = some d → d.isData) :
    (ts : List Tree) → areDirect ts →
      EndAlike (Datum.areData ·) (evalAllIn r vars ts) (evalAllIn r' vars ts)
  | [], _ => by
    simp only [evalAllIn]
    exact .ok rfl
  | t :: rest, hdirect => by
    simp only [areDirect, Bool.and_eq_true] at hdirect
    simp only [evalAllIn]
    have hfirst := t.endAlike_evalIn hvars hdirect.1
    have hrest := endAlike_evalAllIn hvars rest hdirect.2
    exact hfirst.bind fun d _ hd => hrest.bind fun ds _ hds => .ok (by simp [hd, hds])

theorem endAlike_evalJunctionIn (hvars : ∀ name d, vars name = some d → d.isData)
    {op : Junction} :
    (ts : List Tree) → areDirect ts →
      EndAlike (·.isData) (evalJunctionIn r vars op ts) (evalJunctionIn r' vars op ts)
  | [], _ => by
    simp only [evalJunctionIn]
    exact .ok rfl
  | [t], hdirect => by
    simp only [areDirect, Bool.and_true] at hdirect
    simp only [evalJunctionIn]
    exact t.endAlike_evalIn hvars hdirect
  | t :: next :: rest, hdirect => by
    rw [areDirect, Bool.and_eq_true] at hdirect
    have hrest : EndAlike (·.isData) (evalJunctionIn r vars op (next :: rest))
        (evalJunctionIn r' vars op (next :: rest)) :=
      endAlike_evalJunctionIn hvars (next :: rest) hdirect.2
    simp only [evalJunctionIn]
    refine (t.endAlike_evalIn hvars hdirect.1).bind fun d _ hd => ?_
    split
    · exact .ok hd
    · exact hrest

theorem endAlike_evalChainIn (hvars : ∀ name d, vars name = some d → d.isData) {source : Tree}
    {left : Datum} (hleft : left.isData) (hsource : source.isSingle → left.isSingle) :
    (rest : List (Relation × Tree)) → isDirectChain source rest →
      EndAlike (·.isData) (evalChainIn r vars source left rest)
        (evalChainIn r' vars source left rest)
  | [], _ => by
    simp only [evalChainIn]
    exact .ok rfl
  | (relation, t) :: rest, hdirect => by
    simp only [isDirectChain, Bool.and_eq_true, Bool.or_eq_true, Bool.not_eq_true'] at hdirect
    obtain ⟨⟨ht, htest⟩, hrest⟩ := hdirect
    simp only [evalChainIn]
    refine (t.endAlike_evalIn hvars ht).bind fun right heval hright => ?_
    have hsides : relation.isIdentity → left.isSingle ∨ right.isSingle := by
      intro hidentity
      have hliteral : source.isSingle ∨ t.isSingle := by simpa [hidentity] using htest
      exact hliteral.imp hsource (Tree.isSingle_of_evalIn · heval)
    refine (Runtime.endAlike_related hleft hright hsides).bind fun holds _ _ => ?_
    split
    · exact endAlike_evalChainIn hvars hright (Tree.isSingle_of_evalIn · heval) rest hrest
    · exact .ok rfl

end

end

/-- Whether one runtime or another evaluates an accepted direct expression makes no difference. -/
theorem evaluateIn_congr {maxLength : Int} {expression : String} {tree : Tree}
    {vars : String → Option Value} (haccept : accept maxLength expression = .ok tree)
    (hdirect : tree.isDirect)
    (hvars : ∀ name v, vars name = some v → (Datum.ofValue v).isData) (r r' : Runtime) :
    evaluateIn r maxLength expression vars = evaluateIn r' maxLength expression vars := by
  have hdata : ∀ name d, (vars name).map Datum.ofValue = some d → d.isData := by
    intro name d hd
    obtain ⟨v, hv, rfl⟩ := Option.map_eq_some_iff.1 hd
    exact hvars name v hv
  have heval : (tree.evalIn r fun name => (vars name).map Datum.ofValue) =
      tree.evalIn r' fun name => (vars name).map Datum.ofValue :=
    (tree.endAlike_evalIn hdata hdirect).eq
  simp only [evaluateIn, haccept, heval]

/-- Whether two variables of the same text are one thing is left to the runtime. -/
example :
    let vars : String → Option Value := fun _ => some (.text "ann")
    let outcome (isShared : Bool) :=
      evaluateIn (.sharing fun _ _ => isShared) defaultMaxLength "vars.first is vars.last" vars
    (outcome true).toOption = some true ∧ (outcome false).toOption = some false := by
  decide +kernel

end Stepwise.Guard
