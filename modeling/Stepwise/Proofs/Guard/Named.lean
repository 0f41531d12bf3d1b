import Stepwise.Proofs.Guard.Runtime
import Stepwise.Proofs.Table
import Stepwise.Run.Evaluator

namespace Stepwise.Guard

/-! ### Expressions that read variables by name -/

mutual

/-- The variables that an expression names, as an attribute or as an item of them as a whole. -/
def Tree.named : Tree → List String
  | .constant _ | .name _ | .foreign _ => []
  | .attribute base attr => if base.isView then [attr] else base.named
  | .item base index =>
    (if base.isView then index.text?.toList else []) ++ (base.named ++ index.named)
  | .call callee args _ => callee.named ++ namedAmong args
  | .list items | .tuple items | .junction _ items => namedAmong items
  | .unary _ operand => operand.named
  | .comparison first rest => first.named ++ namedAmongRelated rest

def namedAmong : List Tree → List String
  | [] => []
  | t :: rest => t.named ++ namedAmong rest

def namedAmongRelated : List (Relation × Tree) → List String
  | [] => []
  | (_, t) :: rest => t.named ++ namedAmongRelated rest

end

mutual

/-- The variables as a whole occur only where one of them is named. -/
def Tree.readsByName : Tree → Bool
  | .constant _ | .foreign _ => true
  | .name id => id != varsName
  | .attribute base _ => base.isView || base.readsByName
  | .item base index =>
    (base.isView && index.text?.isSome) || (base.readsByName && index.readsByName)
  | .call callee args _ => callee.readsByName && readByName args
  | .list items | .tuple items | .junction _ items => readByName items
  | .unary _ operand => operand.readsByName
  | .comparison first rest => first.readsByName && relatedByName rest

def readByName : List Tree → Bool
  | [] => true
  | t :: rest => t.readsByName && readByName rest

def relatedByName : List (Relation × Tree) → Bool
  | [] => true
  | (_, t) :: rest => t.readsByName && relatedByName rest

end

/-! ### Values without the variables -/

namespace Datum

mutual

/-- The variables as a whole are no part of the value. -/
@[simp]
def isFree : Datum → Bool
  | .list items | .tuple items => areFree items
  | .mapping entries => areFreeEntries entries
  | .bound owner _ => owner.isFree
  | .vars => false
  | _ => true

@[simp]
def areFree : List Datum → Bool
  | [] => true
  | item :: rest => item.isFree && areFree rest

@[simp]
def areFreeEntries : List (String × Datum) → Bool
  | [] => true
  | (_, value) :: rest => value.isFree && areFreeEntries rest

end

variable {vars vars' : String → Option Datum} {d a b index f : Datum} {name : String}

theorem ne_vars_of_isFree (hfree : d.isFree) : d ≠ .vars := by
  rintro rfl
  cases hfree

theorem areFree_iff {items : List Datum} : areFree items ↔ ∀ d ∈ items, d.isFree := by
  induction items with
  | nil => simp
  | cons item rest ih => simp [ih]

theorem isFree_of_lookup {entries : List (String × Datum)} (hfree : areFreeEntries entries)
    (h : entries.lookup name = some d) : d.isFree := by
  induction entries with
  | nil => cases h
  | cons entry rest ih =>
    obtain ⟨key, value⟩ := entry
    simp only [areFreeEntries, Bool.and_eq_true] at hfree
    rw [List.lookup_cons] at h
    split at h
    · cases h
      exact hfree.1
    · exact ih hfree.2 h

mutual

theorem isFree_of_isData : (d : Datum) → d.isData → d.isFree
  | .list items, hdata | .tuple items, hdata => areFree_of_areData items hdata
  | .nothing, _ | .bool _, _ | .int _, _ | .float _, _ | .complex _ _, _ | .text _, _
  | .bytes _, _ | .ellipsis, _ => rfl

theorem areFree_of_areData : (items : List Datum) → areData items → areFree items
  | [], _ => rfl
  | item :: rest, hdata => by
    simp only [areData, Bool.and_eq_true] at hdata
    simp only [areFree, Bool.and_eq_true]
    exact ⟨isFree_of_isData item hdata.1, areFree_of_areData rest hdata.2⟩

end

mutual

/-- No variable holds the variables as a whole. -/
theorem isFree_ofValue : (v : Value) → (ofValue v).isFree
  | .list items | .set items => areFree_ofValues items
  | .map entries => areFreeEntries_ofEntries entries
  | .null | .bool _ | .int _ | .float _ | .text _ | .bytes _ | .moment _ => rfl

theorem areFree_ofValues : (items : List Value) → areFree (ofValues items)
  | [] => rfl
  | item :: rest => by
    simp only [ofValues, areFree, Bool.and_eq_true]
    exact ⟨isFree_ofValue item, areFree_ofValues rest⟩

theorem areFreeEntries_ofEntries :
    (entries : List (Value × Value)) → areFreeEntries (ofEntries entries)
  | [] => rfl
  | (.text key, value) :: rest => by
    simp only [ofEntries, areFreeEntries, Bool.and_eq_true]
    exact ⟨isFree_ofValue value, areFreeEntries_ofEntries rest⟩
  | (.null, _) :: rest | (.bool _, _) :: rest | (.int _, _) :: rest | (.float _, _) :: rest
  | (.bytes _, _) :: rest | (.moment _, _) :: rest | (.list _, _) :: rest | (.set _, _) :: rest
  | (.map _, _) :: rest => areFreeEntries_ofEntries rest

end

theorem isFree_of_item (hfree : d.isFree) (h : d.item vars index = .ok f) : f.isFree := by
  unfold item at h
  split at h
  · cases hfree
  · split at h
    · cases h
    · obtain ⟨c, _, rfl⟩ := exists_mem_of_sequenceItem h
      rfl
  · obtain ⟨item, hitem, rfl⟩ := exists_mem_of_sequenceItem h
    exact areFree_iff.1 hfree item hitem
  · obtain ⟨item, hitem, rfl⟩ := exists_mem_of_sequenceItem h
    exact areFree_iff.1 hfree item hitem
  · obtain ⟨b, _, rfl⟩ := exists_mem_of_sequenceItem h
    rfl
  · split at h
    · cases h
    · split at h
      · split at h
        · next hlookup =>
          cases h
          exact isFree_of_lookup hfree hlookup
        · cases h
      · cases h
  all_goals cases h

/-! ### Operations that do not ask for the variables -/

theorem attribute_congr (hne : d ≠ .vars) : d.attribute vars name = d.attribute vars' name := by
  cases d
  case vars => exact absurd rfl hne
  all_goals rfl

theorem item_congr (hne : d ≠ .vars) : d.item vars index = d.item vars' index := by
  cases d
  case vars => exact absurd rfl hne
  case builtin f => cases f <;> rfl
  all_goals rfl

theorem related_congr {relation : Relation} {isShared : Bool} (hne : b ≠ .vars) :
    a.related vars relation isShared b = a.related vars' relation isShared b := by
  have hmember : a.memberOf vars b = a.memberOf vars' b := by
    cases b
    case vars => exact absurd rfl hne
    all_goals rfl
  cases relation with
  | isIn => exact hmember
  | notIn => exact congrArg (Except.map (!·)) hmember
  | eq | ne | lt | le | gt | ge | is | isNot => rfl

end Datum

/-! ### Evaluation over two tables -/

section

variable {vars vars' : String → Option Datum}

theorem isFree_of_resolve {id : String} {d : Datum} (hid : id ≠ varsName)
    (h : resolve id = .ok d) : d.isFree := by
  rw [resolve, if_neg (by simpa using hid)] at h
  split at h
  · cases h
    rfl
  · cases h

/-- A variable that both tables have under a name, or neither, is read alike. -/
theorem endAlike_read (hvars : ∀ name d, vars name = some d → d.isFree) {name : String}
    (hname : vars name = vars' name) :
    EndAlike (·.isFree) (Datum.vars.attribute vars name) (Datum.vars.attribute vars' name) := by
  simp only [Datum.attribute, ← hname]
  refine .ok ?_
  cases hvar : vars name with
  | none => rfl
  | some d => exact hvars name d hvar

theorem Datum.endAlike_attribute {owner : Datum} {name : String} (hfree : owner.isFree) :
    EndAlike (·.isFree) (owner.attribute vars name) (owner.attribute vars' name) := by
  have hne := ne_vars_of_isFree hfree
  refine ⟨attribute_congr hne, fun f hf => ?_⟩
  cases part_of_attribute hne hf with
  | data hdata => exact isFree_of_isData f hdata
  | method => exact hfree
  | ofType => rfl

theorem Datum.endAlike_item {owner index : Datum} (hfree : owner.isFree) :
    EndAlike (·.isFree) (owner.item vars index) (owner.item vars' index) :=
  ⟨item_congr (ne_vars_of_isFree hfree), fun _ => isFree_of_item hfree⟩

theorem Datum.endAlike_related {relation : Relation} {isShared : Bool} {a b : Datum}
    (hfree : b.isFree) :
    EndAlike (fun _ => True) (a.related vars relation isShared b)
      (a.related vars' relation isShared b) :=
  ⟨related_congr (ne_vars_of_isFree hfree), fun _ _ => trivial⟩

mutual

/-- An expression that reads variables by name is evaluated alike over two tables that agree on what
    it names. The induction carries that the variables as a whole are in none of its values. -/
theorem Tree.endAlike_eval (hvars : ∀ name d, vars name = some d → d.isFree) :
    (t : Tree) → t.readsByName → (∀ name ∈ t.named, vars name = vars' name) →
      EndAlike (·.isFree) (t.eval vars) (t.eval vars')
  | .constant c, _, _ => by
    simp only [Tree.eval]
    exact .ok (Datum.isFree_of_isData _ (Datum.isData_ofConstant c))
  | .name id, hreads, _ => by
    simp only [Tree.readsByName, bne_iff_ne] at hreads
    simp only [Tree.eval]
    exact ⟨rfl, fun d => isFree_of_resolve hreads⟩
  | .attribute base attr, hreads, hagree => by
    simp only [Tree.readsByName, Bool.or_eq_true] at hreads
    simp only [Tree.eval]
    by_cases hview : base.isView
    · obtain rfl := Tree.eq_of_isView hview
      exact endAlike_read hvars (hagree attr (List.mem_singleton_self attr))
    · simp only [Tree.named, if_neg hview] at hagree
      have hbase := base.endAlike_eval hvars (hreads.resolve_left hview) hagree
      exact hbase.bind fun owner _ howner => Datum.endAlike_attribute howner
  | .item base index, hreads, hagree => by
    simp only [Tree.readsByName, Bool.or_eq_true, Bool.and_eq_true] at hreads
    simp only [Tree.named, List.forall_mem_append] at hagree
    obtain ⟨hread, hbaseNamed, hindexNamed⟩ := hagree
    simp only [Tree.eval]
    rcases hreads with ⟨hview, htext⟩ | ⟨hbase, hindex⟩
    · obtain ⟨name, hname⟩ := Option.isSome_iff_exists.1 htext
      obtain rfl := Tree.eq_of_isView hview
      obtain rfl := Tree.eq_of_text? hname
      exact endAlike_read hvars (hread name (List.mem_singleton_self name))
    · have hbase := base.endAlike_eval hvars hbase hbaseNamed
      have hindex := index.endAlike_eval hvars hindex hindexNamed
      exact hbase.bind fun owner _ howner => hindex.bind fun index _ _ =>
        Datum.endAlike_item howner
  | .call callee args _, hreads, hagree => by
    simp only [Tree.readsByName, Bool.and_eq_true] at hreads
    simp only [Tree.named, List.forall_mem_append] at hagree
    simp only [Tree.eval]
    have hcallee := callee.endAlike_eval hvars hreads.1 hagree.1
    have hargs := endAlike_evalAll hvars args hreads.2 hagree.2
    exact hcallee.bind fun f _ _ => hargs.bind fun args _ _ =>
      ⟨rfl, fun d hd => Datum.isFree_of_isData d (Datum.isData_of_call hd)⟩
  | .list items, hreads, hagree | .tuple items, hreads, hagree => by
    simp only [Tree.eval]
    exact (endAlike_evalAll hvars items hreads hagree).bind fun items _ hitems => .ok hitems
  | .junction op operands, hreads, hagree => by
    simp only [Tree.eval]
    exact endAlike_evalJunction hvars operands hreads hagree
  | .unary .not operand, hreads, hagree => by
    simp only [Tree.eval]
    exact (operand.endAlike_eval hvars hreads hagree).bind fun d _ _ => .ok rfl
  | .unary .minus operand, hreads, hagree => by
    simp only [Tree.eval]
    refine (operand.endAlike_eval hvars hreads hagree).bind fun d _ _ => ⟨rfl, fun m hm => ?_⟩
    exact Datum.isFree_of_isData m ((computes_negated d).isData m hm)
  | .unary .plus operand, _, _ | .unary .invert operand, _, _ | .foreign form, _, _ => by
    simp only [Tree.eval]
    exact .error _
  | .comparison first rest, hreads, hagree => by
    simp only [Tree.readsByName, Bool.and_eq_true] at hreads
    simp only [Tree.named, List.forall_mem_append] at hagree
    simp only [Tree.eval]
    have hfirst := first.endAlike_eval hvars hreads.1 hagree.1
    exact hfirst.bind fun left _ _ => endAlike_evalChain hvars rest hreads.2 hagree.2

theorem endAlike_evalAll (hvars : ∀ name d, vars name = some d → d.isFree) :
    (ts : List Tree) → readByName ts → (∀ name ∈ namedAmong ts, vars name = vars' name) →
      EndAlike (Datum.areFree ·) (evalAll vars ts) (evalAll vars' ts)
  | [], _, _ => by
    simp only [evalAll]
    exact .ok rfl
  | t :: rest, hreads, hagree => by
    simp only [readByName, Bool.and_eq_true] at hreads
    simp only [namedAmong, List.forall_mem_append] at hagree
    simp only [evalAll]
    have hfirst := t.endAlike_eval hvars hreads.1 hagree.1
    have hrest := endAlike_evalAll hvars rest hreads.2 hagree.2
    exact hfirst.bind fun d _ hd => hrest.bind fun ds _ hds => .ok (by simp [hd, hds])

theorem endAlike_evalJunction (hvars : ∀ name d, vars name = some d → d.isFree) {op : Junction} :
    (ts : List Tree) → readByName ts → (∀ name ∈ namedAmong ts, vars name = vars' name) →
      EndAlike (·.isFree) (evalJunction vars op ts) (evalJunction vars' op ts)
  | [], _, _ => by
    simp only [evalJunction]
    exact .ok rfl
  | [t], hreads, hagree => by
    simp only [readByName, Bool.and_true] at hreads
    simp only [namedAmong, List.append_nil] at hagree
    simp only [evalJunction]
    exact t.endAlike_eval hvars hreads hagree
  | t :: next :: rest, hreads, hagree => by
    rw [readByName, Bool.and_eq_true] at hreads
    rw [namedAmong, List.forall_mem_append] at hagree
    have hfirst := t.endAlike_eval hvars hreads.1 hagree.1
    have hrest : EndAlike (·.isFree) (evalJunction vars op (next :: rest))
        (evalJunction vars' op (next :: rest)) :=
      endAlike_evalJunction hvars (next :: rest) hreads.2 hagree.2
    simp only [evalJunction]
    refine hfirst.bind fun d _ hd => ?_
    split
    · exact .ok hd
    · exact hrest

theorem endAlike_evalChain (hvars : ∀ name d, vars name = some d → d.isFree) {source : Tree}
    {left : Datum} :
    (rest : List (Relation × Tree)) → relatedByName rest →
      (∀ name ∈ namedAmongRelated rest, vars name = vars' name) →
      EndAlike (·.isFree) (evalChain vars source left rest) (evalChain vars' source left rest)
  | [], _, _ => by
    simp only [evalChain]
    exact .ok rfl
  | (relation, t) :: rest, hreads, hagree => by
    simp only [relatedByName, Bool.and_eq_true] at hreads
    simp only [namedAmongRelated, List.forall_mem_append] at hagree
    simp only [evalChain]
    refine (t.endAlike_eval hvars hreads.1 hagree.1).bind fun right _ hright => ?_
    refine (Datum.endAlike_related hright).bind fun holds _ _ => ?_
    split
    · exact endAlike_evalChain hvars rest hreads.2 hagree.2
    · exact .ok rfl

end

end

/-- Two tables that agree on what an accepted expression names make no difference to it. -/
theorem evaluate_congr {maxLength : Int} {expression : String} {tree : Tree}
    {vars vars' : String → Option Value} (haccept : accept maxLength expression = .ok tree)
    (hreads : tree.readsByName) (hagree : ∀ name ∈ tree.named, vars name = vars' name) :
    evaluate maxLength expression vars = evaluate maxLength expression vars' := by
  have hfree : ∀ name d, (vars name).map Datum.ofValue = some d → d.isFree := by
    intro name d hd
    obtain ⟨v, _, rfl⟩ := Option.map_eq_some_iff.1 hd
    exact Datum.isFree_ofValue v
  have hsame : ∀ name ∈ tree.named,
      (vars name).map Datum.ofValue = (vars' name).map Datum.ofValue :=
    fun name hname => congrArg (Option.map Datum.ofValue) (hagree name hname)
  have hends := tree.endAlike_eval hfree hreads hsame
  simp only [evaluate, haccept, hends.eq]

end Stepwise.Guard

namespace Stepwise.Evaluator

/-- What an accepted expression says depends on the variables that it names and on nothing else, if
    it reads variables by name. Over two tables that have the same texts under these names, or none,
    it has the same truth value or the same fault. It is the same in every runtime if functions and
    methods are only called and identity is only asked of literals of which there is one value. -/
theorem evaluate_eq_of_agree {e : Evaluator} {expression : String} {tree : Guard.Tree}
    (haccept : Guard.accept e.maxLength expression = .ok tree) (hreads : tree.readsByName)
    {vars vars' : Table String} (hagree : ∀ name ∈ tree.named, vars.get? name = vars'.get? name) :
    e.evaluate expression (vars.map .text) = e.evaluate expression (vars'.map .text) ∧
    (tree.isDirect → ∀ r : Guard.Runtime,
      Guard.evaluateIn r e.maxLength expression (vars'.map Value.text).get? =
        e.evaluate expression (vars.map .text)) := by
  have hvalues : ∀ name ∈ tree.named,
      (vars.map Value.text).get? name = (vars'.map Value.text).get? name := by
    intro name hname
    rw [Table.get?_map, Table.get?_map, hagree name hname]
  have hsame : e.evaluate expression (vars.map .text) = e.evaluate expression (vars'.map .text) :=
    Guard.evaluate_congr haccept hreads hvalues
  refine ⟨hsame, fun hdirect r => ?_⟩
  have htexts : ∀ name v, (vars'.map Value.text).get? name = some v →
      (Guard.Datum.ofValue v).isData := by
    intro name v hv
    rw [Table.get?_map] at hv
    obtain ⟨s, _, rfl⟩ := Option.map_eq_some_iff.1 hv
    rfl
  rw [hsame, Guard.evaluateIn_congr haccept hdirect htexts r .standard, Guard.evaluateIn_standard,
    evaluate]

/-- Two tables with the same name and mode, in another order and beside other variables. -/
theorem evaluate_eq_of_agree_visitor :
    let expression :=
      "vars.name.strip().lower() in ('ann', 'bob') and len(vars['mode']) > 0 and vars.nick is None"
    let vars : Table String := .ofList [("name", " Ann "), ("mode", "fast"), ("token", "7")]
    let vars' : Table String := .ofList [("mode", "fast"), ("extra", "on"), ("name", " Ann ")]
    (standard.evaluate expression (vars.map .text)).toOption = some true ∧
    ∃ tree, Guard.accept standard.maxLength expression = .ok tree ∧
      tree.readsByName ∧ tree.isDirect ∧ tree.named = ["name", "mode", "nick"] ∧
      (∀ name ∈ tree.named, vars.get? name = vars'.get? name) ∧
      standard.evaluate expression (vars.map .text) =
        standard.evaluate expression (vars'.map .text) ∧
      ∀ r : Guard.Runtime,
        Guard.evaluateIn r standard.maxLength expression (vars'.map Value.text).get? =
          standard.evaluate expression (vars.map .text) := by
  intro expression vars vars'
  -- One evaluation for both, so that the expression is read once.
  have hvalues : (standard.evaluate expression (vars.map .text)).toOption = some true ∧
      (Guard.accept standard.maxLength expression).toOption.map
        (fun tree => (tree.readsByName, tree.isDirect, tree.named)) =
          some (true, true, ["name", "mode", "nick"]) := by
    decide +kernel
  obtain ⟨htrue, hread⟩ := hvalues
  cases haccept : Guard.accept standard.maxLength expression with
  | error trouble =>
    rw [haccept] at hread
    cases hread
  | ok tree =>
    rw [haccept] at hread
    obtain ⟨hreads, hrest⟩ := Prod.mk.inj (Option.some.inj hread)
    obtain ⟨hdirect, hnamed⟩ := Prod.mk.inj hrest
    have hagree : ∀ name ∈ tree.named, vars.get? name = vars'.get? name := by
      rw [hnamed]
      decide
    obtain ⟨hsame, hruntimes⟩ := evaluate_eq_of_agree (e := standard) haccept hreads hagree
    exact ⟨htrue, tree, rfl, hreads, hdirect, hnamed, hagree, hsame,
      hruntimes hdirect⟩

end Stepwise.Evaluator
