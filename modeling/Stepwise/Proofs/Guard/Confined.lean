import Stepwise.Proofs.Guard.Admitted
import Stepwise.Proofs.Guard.Faults
import Stepwise.Proofs.Guard.Watched

namespace Stepwise.Guard

/-- Of the types, only that of texts has the methods that guards may call. -/
theorem Builtin.member?_of_mem {name : String} (hname : name ∈ methodNames) (type : Builtin) :
    type.member? name = if type = .str then some .method else none := by
  revert name
  cases type <;> decide

namespace Datum

/-- The value is no function, and no part that was taken from a value or a type. -/
def isPlain : Datum → Bool
  | .builtin _ | .bound _ _ | .member _ _ _ => false
  | _ => true

/-- A plain value refuses to be called. -/
theorem call_of_isPlain {d : Datum} (hplain : d.isPlain) (args : List Datum) :
    d.call args = .error (.notCallable d.typeName) := by
  cases d <;> simp_all [isPlain, call]

theorem isPlain_ofValue (v : Value) : (ofValue v).isPlain := by
  cases v <;> simp [ofValue, isPlain]

/-- A guard may call the value. -/
inductive MayBeCalled : Datum → Prop where
  | function {f : Builtin} (hname : f.name ∈ functionNames) : MayBeCalled (.builtin f)
  | ofText {s : String} {name : String} (hname : name ∈ methodNames) :
    MayBeCalled (.bound (.text s) name)
  | ofBytes {bs : List UInt8} {name : String} (hname : name ∈ methodNames) :
    MayBeCalled (.bound (.bytes bs) name)
  | ofType {name : String} (hname : name ∈ methodNames) : MayBeCalled (.member .str name .method)
  | plain {d : Datum} (hplain : d.isPlain) : MayBeCalled d

theorem MayBeCalled.failsOnValues {d : Datum} (h : d.MayBeCalled) (args : List Datum) :
    FailsOnValues (d.call args) := by
  cases h with
  | function hname => exact (Builtin.computes_call _ args).faults
  | ofText hname =>
    obtain ⟨method, hmethod⟩ := Option.isSome_iff_exists.1 (isSome_method_iff.2 hname)
    simp only [call, hmethod]
    exact computes_callOnText.faults
  | ofBytes hname =>
    obtain ⟨method, hmethod⟩ := Option.isSome_iff_exists.1 (isSome_method_iff.2 hname)
    simp only [call, hmethod]
    exact computes_callOnBytes.faults
  | ofType hname =>
    obtain ⟨method, hmethod⟩ := Option.isSome_iff_exists.1 (isSome_method_iff.2 hname)
    simp only [call, hmethod]
    cases args with
    | nil => simp
    | cons d rest =>
      cases d
      case text s => exact computes_callOnText.faults
      all_goals simp
  | plain hplain => simp [call_of_isPlain hplain]

/-- Of the values, only texts and bytes have the methods that guards may call. -/
theorem mayBeCalled_of_attribute? {owner f : Datum} {name : String} (hname : name ∈ methodNames)
    (h : owner.attribute? name = some f) : f.MayBeCalled := by
  have hproperty (n : Int) : integerProperty? n name = none := by
    unfold integerProperty?
    split <;> simp_all [methodNames]
  have hfew : name ∉ "from_bytes" :: integerMethods ∧ name ∉ "fromhex" :: floatMethods ∧
      name ∉ ["conjugate"] ∧ name ∉ listMethods ∧ name ∉ ["count", "index"] ∧
      name ∉ mappingMethods := by
    clear hproperty h
    revert name
    decide
  obtain ⟨hint, hfloat, hcomplex, hlist, htuple, hmapping⟩ := hfew
  unfold attribute? at h
  split at h
  · simp [hproperty, hint] at h
  · simp [hproperty, hint] at h
  · split at h
    · simp [methodNames] at hname
    · simp [methodNames] at hname
    · simp [hfloat] at h
  · split at h
    · simp [methodNames] at hname
    · simp [methodNames] at hname
    · simp [hcomplex] at h
  · obtain ⟨_, hf⟩ := Option.ite_none_right_eq_some.1 h
    cases hf
    exact .ofText hname
  · obtain ⟨_, hf⟩ := Option.ite_none_right_eq_some.1 h
    cases hf
    exact .ofBytes hname
  · simp [hlist] at h
  · simp [htuple] at h
  · simp [hmapping] at h
  · next type =>
    obtain ⟨kind, hkind, rfl⟩ := Option.map_eq_some_iff.1 h
    rw [Builtin.member?_of_mem hname, Option.ite_none_right_eq_some] at hkind
    obtain ⟨rfl, hmethod⟩ := hkind
    cases hmethod
    exact .ofType hname
  all_goals cases h

theorem mayBeCalled_of_attribute {vars : String → Option Datum}
    (hvars : ∀ name d, vars name = some d → d.isPlain) {owner f : Datum} {name : String}
    (hname : name ∈ methodNames) (h : owner.attribute vars name = .ok f) : f.MayBeCalled := by
  unfold Datum.attribute at h
  split at h
  · cases h
    cases hvar : vars name with
    | none => exact .plain rfl
    | some d => exact .plain (hvars name d hvar)
  · split at h
    · next d hd =>
      cases h
      exact mayBeCalled_of_attribute? hname hd
    all_goals cases h

end Datum

/-- What a guard may do while it is evaluated. -/
def Access.IsPermitted : Access → Prop
  | .name id => id ∈ varsName :: functionNames
  | .attribute _ attr => attr.toList.head? ≠ some '_'
  | .call callee _ hasKeywords => callee.MayBeCalled ∧ hasKeywords = false
  | .foreign => False

/-- All that is done is permitted, and only values make it fail. -/
structure Watched.Confined {α : Type} (x : Watched α) : Prop where
  permitted : ∀ access ∈ x.accesses, access.IsPermitted
  faults : FailsOnValues x.outcome

namespace Watched.Confined

variable {α β : Type}

theorem quietly {outcome : Except Fault α} (hfaults : FailsOnValues outcome) :
    (Watched.quietly outcome).Confined :=
  ⟨fun _ hmem => absurd hmem List.not_mem_nil, hfaults⟩

theorem pure (a : α) : (Pure.pure a : Watched α).Confined := quietly (.ok a)

theorem doing {access : Access} {outcome : Except Fault α} (hpermitted : access.IsPermitted)
    (hfaults : FailsOnValues outcome) : (Watched.doing access outcome).Confined := by
  refine ⟨fun other hmem => ?_, hfaults⟩
  obtain rfl := List.mem_singleton.1 hmem
  exact hpermitted

theorem bind {x : Watched α} {f : α → Watched β} (h : x.Confined)
    (hf : ∀ a, x.outcome = .ok a → (f a).Confined) : (x >>= f).Confined := by
  refine ⟨?_, ?_⟩
  · change ∀ access ∈ (x.bind f).accesses, access.IsPermitted
    unfold Watched.bind
    cases houtcome : x.outcome with
    | error fault => exact h.permitted
    | ok a =>
      intro access hmem
      rcases List.mem_append.1 hmem with hbefore | hafter
      · exact h.permitted access hbefore
      · exact (hf a houtcome).permitted access hafter
  · rw [outcome_bind]
    exact h.faults.bind fun a houtcome => (hf a houtcome).faults

end Watched.Confined

theorem resolve_of_mem {id : String} (hmem : id ∈ functionNames) :
    ∃ f : Builtin, f.name = id ∧ resolve id = .ok (.builtin f) := by
  simp only [functionNames, List.mem_cons, List.not_mem_nil, or_false] at hmem
  rcases hmem with rfl | rfl | rfl | rfl | rfl
  · exact ⟨.len, rfl, rfl⟩
  · exact ⟨.int, rfl, rfl⟩
  · exact ⟨.float, rfl, rfl⟩
  · exact ⟨.str, rfl, rfl⟩
  · exact ⟨.bool, rfl, rfl⟩

section

variable {vars : String → Option Datum}

/-- What an admitted callee stands for may be called. -/
theorem Tree.mayBeCalled_of_eval (hvars : ∀ name d, vars name = some d → d.isPlain)
    {callee : Tree} {args : List Tree} {hasKeywords : Bool}
    (hadmitted : (Tree.call callee args hasKeywords).IsAdmitted) {f : Datum}
    (heval : callee.eval vars = .ok f) : f.MayBeCalled := by
  rcases hadmitted.of_call.1 with ⟨id, hid, rfl⟩ | ⟨base, attr, hattr, rfl⟩
  · obtain ⟨g, rfl, hresolve⟩ := resolve_of_mem hid
    rw [Tree.eval, hresolve] at heval
    cases heval
    exact .function hid
  · rw [Tree.eval] at heval
    cases howner : base.eval vars with
    | error fault =>
      rw [howner] at heval
      cases heval
    | ok owner =>
      rw [howner] at heval
      exact Datum.mayBeCalled_of_attribute hvars hattr heval

mutual

/-- Whatever an admitted expression does is permitted, at every depth. -/
theorem Tree.IsAdmitted.confined (hvars : ∀ name d, vars name = some d → d.isPlain) :
    (t : Tree) → t.IsAdmitted → (t.watch vars).Confined
  | .constant c, _ => by
    rw [Tree.watch]
    exact .pure _
  | .name id, h => by
    rw [Tree.watch]
    refine .doing h.of_name ?_
    rcases List.mem_cons.1 h.of_name with rfl | hfunction
    · exact .ok _
    · obtain ⟨f, _, hresolve⟩ := resolve_of_mem hfunction
      rw [hresolve]
      exact .ok _
  | .attribute base attr, h => by
    rw [Tree.watch]
    have hbase := confined hvars base h.of_attribute.1
    exact hbase.bind fun owner _ =>
      .doing h.of_attribute.2 (failsOnValues_attribute owner attr)
  | .item base index, h => by
    rw [Tree.watch]
    have hbase := confined hvars base h.of_item.1
    have hindex := confined hvars index h.of_item.2
    exact hbase.bind fun owner _ => hindex.bind fun index _ =>
      .quietly (failsOnValues_item owner index)
  | .call callee args hasKeywords, h => by
    rw [Tree.watch]
    have hcallee := confined hvars callee h.parts_of_call.1
    have hargs := confined_all hvars args h.parts_of_call.2
    refine hcallee.bind fun f houtcome => hargs.bind fun args _ => ?_
    rw [Tree.outcome_watch] at houtcome
    have hf := Tree.mayBeCalled_of_eval hvars h houtcome
    exact .doing ⟨hf, h.of_call.2⟩ (hf.failsOnValues args)
  | .list items, h => by
    rw [Tree.watch]
    exact (confined_all hvars items h.of_list).bind fun items _ => .pure _
  | .tuple items, h => by
    rw [Tree.watch]
    exact (confined_all hvars items h.of_tuple).bind fun items _ => .pure _
  | .junction op operands, h => by
    rw [Tree.watch]
    exact confined_junction hvars operands h.of_junction
  | .unary .not operand, h => by
    rw [Tree.watch]
    exact (confined hvars operand h.of_unary.1).bind fun d _ => .pure _
  | .unary .minus operand, h => by
    rw [Tree.watch]
    exact (confined hvars operand h.of_unary.1).bind fun d _ =>
      .quietly (computes_negated d).faults
  | .unary .plus operand, h | .unary .invert operand, h => by
    have hsign := h.of_unary.2
    simp at hsign
  | .comparison first rest, h => by
    rw [Tree.watch]
    exact (confined hvars first h.of_comparison.1).bind fun left _ =>
      confined_chain hvars rest h.of_comparison.2
  | .foreign form, h => absurd h Tree.IsAdmitted.not_foreign

theorem Tree.IsAdmitted.confined_all (hvars : ∀ name d, vars name = some d → d.isPlain) :
    (ts : List Tree) → (∀ t ∈ ts, t.IsAdmitted) → (watchAll vars ts).Confined
  | [], _ => by
    rw [watchAll]
    exact .pure _
  | t :: rest, h => by
    rw [watchAll]
    have hfirst := confined hvars t (h t List.mem_cons_self)
    have hrest := confined_all hvars rest fun u hu => h u (List.mem_cons_of_mem _ hu)
    exact hfirst.bind fun d _ => hrest.bind fun ds _ => .pure _

theorem Tree.IsAdmitted.confined_junction (hvars : ∀ name d, vars name = some d → d.isPlain)
    {op : Junction} :
    (ts : List Tree) → (∀ t ∈ ts, t.IsAdmitted) → (watchJunction vars op ts).Confined
  | [], _ => by
    rw [watchJunction]
    exact .pure _
  | [t], h => by
    rw [watchJunction]
    exact confined hvars t (h t List.mem_cons_self)
  | t :: next :: rest, h => by
    have hfirst := confined hvars t (h t List.mem_cons_self)
    have hrest : (watchJunction vars op (next :: rest)).Confined :=
      confined_junction hvars (next :: rest) fun u hu => h u (List.mem_cons_of_mem _ hu)
    rw [watchJunction]
    · refine hfirst.bind fun d _ => ?_
      split
      · exact .pure _
      · exact hrest
    · simp

theorem Tree.IsAdmitted.confined_chain (hvars : ∀ name d, vars name = some d → d.isPlain)
    {source : Tree} {left : Datum} :
    (rest : List (Relation × Tree)) → (∀ entry ∈ rest, entry.2.IsAdmitted) →
      (watchChain vars source left rest).Confined
  | [], _ => by
    rw [watchChain]
    exact .pure _
  | (relation, t) :: rest, h => by
    rw [watchChain]
    have hfirst := confined hvars t (h (relation, t) List.mem_cons_self)
    refine hfirst.bind fun right _ => ?_
    refine (Watched.Confined.quietly (failsOnValues_related left right)).bind fun holds _ => ?_
    split
    · exact confined_chain hvars rest fun entry hentry => h entry (List.mem_cons_of_mem _ hentry)
    · exact .pure _

end

end

section

variable {maxLength : Int} {expression : String} {tree : Tree}

theorem isAdmitted_of_accept (haccept : accept maxLength expression = .ok tree) :
    tree.IsAdmitted := by
  unfold accept at haccept
  split at haccept
  · cases haccept
  · split at haccept
    · cases haccept
    · split at haccept
      · cases haccept
      · split at haccept
        · cases haccept
        · next hnone =>
          cases haccept
          exact Tree.isAdmitted_of_refusal? hnone

/-- An accepted expression is evaluated as it is watched, unless it is too deep to be evaluated. -/
theorem evaluate_eq_watch (haccept : accept maxLength expression = .ok tree)
    (vars : String → Option Value) :
    evaluate maxLength expression vars =
      if maxDepth < tree.depth then .error (.faulty .tooDeep)
      else ((tree.watch fun name => (vars name).map Datum.ofValue).outcome.map
        Datum.isTruthy).mapError .faulty := by
  rw [evaluate, haccept, Tree.outcome_watch]
  dsimp only
  split
  · rfl
  · cases tree.eval fun name => (vars name).map Datum.ofValue with
    | ok d => rfl
    | error fault => rfl

theorem accept_of_evaluate {vars : String → Option Value} {b : Bool}
    (hevaluate : evaluate maxLength expression vars = .ok b) :
    ∃ tree, accept maxLength expression = .ok tree := by
  cases haccept : accept maxLength expression with
  | ok tree => exact ⟨tree, rfl⟩
  | error trouble =>
    rw [evaluate, haccept] at hevaluate
    cases hevaluate

/-- An accepted expression reads no name but those of the variables and the functions, and no
    attribute that begins with a low line. It calls the functions, and the methods of texts and
    bytes by their names; what else it calls are values of variables, which refuse. So it never
    fails for a name that stands for nothing. -/
theorem accept_confines (haccept : accept maxLength expression = .ok tree)
    (vars : String → Option Value) :
    let watched := tree.watch fun name => (vars name).map Datum.ofValue
    (∀ access ∈ watched.accesses, access.IsPermitted) ∧
    evaluate maxLength expression vars =
      (if maxDepth < tree.depth then .error (.faulty .tooDeep)
      else (watched.outcome.map Datum.isTruthy).mapError .faulty) ∧
    ∀ id, evaluate maxLength expression vars ≠ .error (.faulty (.unboundName id)) := by
  intro watched
  have hvars : ∀ name d, (vars name).map Datum.ofValue = some d → d.isPlain := by
    intro name d hd
    obtain ⟨v, _, rfl⟩ := Option.map_eq_some_iff.1 hd
    exact Datum.isPlain_ofValue v
  have hconfined : watched.Confined := (isAdmitted_of_accept haccept).confined hvars tree
  have hevaluate := evaluate_eq_watch haccept vars
  refine ⟨hconfined.permitted, hevaluate, fun id hunbound => ?_⟩
  rw [hevaluate] at hunbound
  split at hunbound
  · cases hunbound
  · cases houtcome : watched.outcome with
    | ok d =>
      rw [houtcome] at hunbound
      cases hunbound
    | error fault =>
      rw [houtcome] at hunbound
      cases hunbound
      have hform := hconfined.faults _ houtcome
      cases hform

/-- A chain of methods, a relation and a function, on a variable that is set. -/
theorem accept_confines_strip :
    let expression := "vars.name.strip().lower() in ('ann', 'bob') and len(vars.name) > 0"
    let vars : String → Option Value := fun name =>
      if name = "name" then some (.text " Ann ") else none
    evaluate defaultMaxLength expression vars = .ok true ∧
    ∃ tree, accept defaultMaxLength expression = .ok tree ∧
      (let watched := tree.watch fun name => (vars name).map Datum.ofValue
      (∀ access ∈ watched.accesses, access.IsPermitted) ∧
      evaluate defaultMaxLength expression vars =
        (if maxDepth < tree.depth then .error (.faulty .tooDeep)
        else (watched.outcome.map Datum.isTruthy).mapError .faulty) ∧
      ∀ id, evaluate defaultMaxLength expression vars ≠ .error (.faulty (.unboundName id))) := by
  intro expression vars
  have htrue : (evaluate defaultMaxLength expression vars).toOption = some true := by decide +kernel
  have hevaluate : evaluate defaultMaxLength expression vars = .ok true := by
    cases h : evaluate defaultMaxLength expression vars with
    | ok b =>
      rw [h] at htrue
      cases htrue
      rfl
    | error trouble =>
      rw [h] at htrue
      cases htrue
  obtain ⟨tree, haccept⟩ := accept_of_evaluate hevaluate
  exact ⟨hevaluate, tree, haccept, accept_confines haccept vars⟩

end

end Stepwise.Guard
