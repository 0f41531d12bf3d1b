import Mathlib.Data.List.Basic
import Stepwise.Guard.Admission

namespace Stepwise.Guard

/-- The functions that a guard may call. -/
def functionNames : List String := ["len", "int", "float", "str", "bool"]

/-- The methods that a guard may call. -/
def methodNames : List String := ["lower", "upper", "strip", "startswith", "endswith"]

theorem isSome_builtin_iff {id : String} : (Builtin.ofName? id).isSome ↔ id ∈ functionNames := by
  unfold Builtin.ofName? functionNames
  split <;> simp_all

theorem isSome_method_iff {name : String} : (Method.ofName? name).isSome ↔ name ∈ methodNames := by
  unfold Method.ofName? methodNames
  split <;> simp_all

/-! ### Levels of a tree -/

theorem Tree.height_pos (t : Tree) : 0 < t.height := by
  cases t <;> simp [Tree.height]

theorem le_heightOf {t : Tree} {ts : List Tree} (hmem : t ∈ ts) : t.height ≤ heightOf ts := by
  induction ts with
  | nil => cases hmem
  | cons u rest ih =>
    rw [heightOf]
    rcases List.mem_cons.1 hmem with rfl | hrest
    · exact Nat.le_max_left ..
    · exact Nat.le_trans (ih hrest) (Nat.le_max_right ..)

theorem le_heightOfRest {entry : Relation × Tree} {rest : List (Relation × Tree)}
    (hmem : entry ∈ rest) : entry.2.height ≤ heightOfRest rest := by
  induction rest with
  | nil => cases hmem
  | cons first rest ih =>
    rw [heightOfRest]
    rcases List.mem_cons.1 hmem with rfl | hrest
    · exact Nat.le_max_left ..
    · exact Nat.le_trans (ih hrest) (Nat.le_max_right ..)

namespace Place

/-- How many levels there are from a place downwards. -/
def height : Place → Nat
  | .tree t => t.height
  | .sign _ => 1

theorem height_pos (p : Place) : 0 < p.height := by
  cases p with
  | tree t => exact t.height_pos
  | sign s => exact Nat.one_pos

theorem height_lt_of_mem_children {p q : Place} (hmem : q ∈ p.children) : q.height < p.height := by
  match p, hmem with
  | .tree (.attribute base name), hmem =>
    obtain rfl := List.mem_singleton.1 hmem
    exact Nat.lt_succ_self _
  | .tree (.item base index), hmem =>
    have hle : q.height ≤ max base.height index.height := by
      rcases List.mem_pair.1 hmem with rfl | rfl
      · exact Nat.le_max_left ..
      · exact Nat.le_max_right ..
    exact Nat.lt_succ_of_le hle
  | .tree (.call callee args hasKeywords), hmem =>
    have hle : q.height ≤ max callee.height (heightOf args) := by
      rcases List.mem_cons.1 hmem with rfl | harg
      · exact Nat.le_max_left ..
      · obtain ⟨arg, hin, rfl⟩ := List.mem_map.1 harg
        exact Nat.le_trans (le_heightOf hin) (Nat.le_max_right ..)
    exact Nat.lt_succ_of_le hle
  | .tree (.list items), hmem | .tree (.tuple items), hmem | .tree (.junction op items), hmem =>
    obtain ⟨item, hitem, rfl⟩ := List.mem_map.1 hmem
    exact Nat.lt_succ_of_le (le_heightOf hitem)
  | .tree (.unary s operand), hmem =>
    have hle : q.height ≤ operand.height := by
      rcases List.mem_pair.1 hmem with rfl | rfl
      · exact operand.height_pos
      · exact Nat.le_refl _
    exact Nat.lt_succ_of_le hle
  | .tree (.comparison first rest), hmem =>
    have hle : q.height ≤ max first.height (heightOfRest rest) := by
      rcases List.mem_cons.1 hmem with rfl | hrest
      · exact Nat.le_max_left ..
      · obtain ⟨entry, hentry, rfl⟩ := List.mem_map.1 hrest
        exact Nat.le_trans (le_heightOfRest hentry) (Nat.le_max_right ..)
    exact Nat.lt_succ_of_le hle

/-- Nothing is refused at a place, nor anywhere below it. -/
inductive IsClear : Place → Prop where
  | intro {p : Place} (hhere : p.refusal? = none) (hbelow : ∀ q ∈ p.children, q.IsClear) : p.IsClear

theorem IsClear.here {p : Place} (hclear : p.IsClear) : p.refusal? = none := by
  cases hclear with
  | intro hhere hbelow => exact hhere

theorem IsClear.child {p q : Place} (hclear : p.IsClear) (hmem : q ∈ p.children) : q.IsClear := by
  cases hclear with
  | intro hhere hbelow => exact hbelow q hmem

/-- Going down level by level reaches every place, if it goes far enough. -/
theorem isClear_of_refusalBelow? {levels : Nat} {places : List Place}
    (hnone : refusalBelow? levels places = none) (hheight : ∀ p ∈ places, p.height ≤ levels) :
    ∀ p ∈ places, p.IsClear := by
  induction levels generalizing places with
  | zero =>
    intro p hp
    have hpos := p.height_pos
    have hle := hheight p hp
    omega
  | succ levels ih =>
    intro p hp
    rw [refusalBelow?] at hnone
    split at hnone
    · cases hnone
    · next hhere =>
      have hchildren : ∀ q ∈ places.flatMap children, q.height ≤ levels := by
        intro q hq
        obtain ⟨parent, hparent, hq⟩ := List.mem_flatMap.1 hq
        have hlt := height_lt_of_mem_children hq
        have hle := hheight parent hparent
        omega
      have hbelow := ih hnone hchildren
      exact .intro (List.findSome?_eq_none_iff.1 hhere p hp)
        fun q hq => hbelow q (List.mem_flatMap.2 ⟨p, hp, hq⟩)

end Place

namespace Tree

/-- No part of the tree is refused. -/
def IsAdmitted (t : Tree) : Prop := (Place.tree t).IsClear

theorem isAdmitted_of_refusal? {t : Tree} (hnone : t.refusal? = none) : t.IsAdmitted := by
  refine Place.isClear_of_refusalBelow? hnone (fun p hp => ?_) _ (List.mem_singleton_self _)
  obtain rfl := List.mem_singleton.1 hp
  exact Nat.le_succ _

namespace IsAdmitted

variable {base callee index first operand : Tree} {args items : List Tree} {id attr : String}
  {hasKeywords : Bool} {sign : Sign} {op : Junction} {rest : List (Relation × Tree)}

theorem of_name (h : (Tree.name id).IsAdmitted) : id ∈ varsName :: functionNames := by
  have hhere := h.here
  simp only [Place.refusal?, isSome_builtin_iff, Bool.or_eq_true, beq_iff_eq, ite_eq_left_iff,
    reduceCtorEq, imp_false, not_not] at hhere
  exact List.mem_cons.2 hhere

theorem of_attribute (h : (Tree.attribute base attr).IsAdmitted) :
    base.IsAdmitted ∧ attr.toList.head? ≠ some '_' := by
  refine ⟨h.child (List.mem_singleton_self _), fun hhead => ?_⟩
  have hhere := h.here
  simp [Place.refusal?, hhead] at hhere

theorem of_item (h : (Tree.item base index).IsAdmitted) : base.IsAdmitted ∧ index.IsAdmitted :=
  ⟨h.child List.mem_cons_self, h.child (List.mem_cons_of_mem _ (List.mem_singleton_self _))⟩

/-- What is called is a function, or a method of something, by its name. -/
theorem of_call (h : (Tree.call callee args hasKeywords).IsAdmitted) :
    ((∃ id ∈ functionNames, callee = .name id) ∨
      ∃ base, ∃ attr ∈ methodNames, callee = .attribute base attr) ∧ hasKeywords = false := by
  have hhere := h.here
  simp only [Place.refusal?, Bool.and_eq_true, Bool.not_eq_true', ite_eq_left_iff, reduceCtorEq,
    imp_false, not_not] at hhere
  obtain ⟨hcallee, hkeywords⟩ := hhere
  refine ⟨?_, hkeywords⟩
  unfold isCallee at hcallee
  split at hcallee
  · exact .inl ⟨_, isSome_builtin_iff.1 hcallee, rfl⟩
  · exact .inr ⟨_, _, isSome_method_iff.1 hcallee, rfl⟩
  · cases hcallee

theorem parts_of_call (h : (Tree.call callee args hasKeywords).IsAdmitted) :
    callee.IsAdmitted ∧ ∀ t ∈ args, t.IsAdmitted :=
  ⟨h.child List.mem_cons_self,
    fun _ ht => h.child (List.mem_cons_of_mem _ (List.mem_map_of_mem ht))⟩

theorem of_list (h : (Tree.list items).IsAdmitted) : ∀ t ∈ items, t.IsAdmitted :=
  fun _ ht => h.child (List.mem_map_of_mem ht)

theorem of_tuple (h : (Tree.tuple items).IsAdmitted) : ∀ t ∈ items, t.IsAdmitted :=
  fun _ ht => h.child (List.mem_map_of_mem ht)

theorem of_junction (h : (Tree.junction op items).IsAdmitted) : ∀ t ∈ items, t.IsAdmitted :=
  fun _ ht => h.child (List.mem_map_of_mem ht)

theorem of_unary (h : (Tree.unary sign operand).IsAdmitted) :
    operand.IsAdmitted ∧ (sign = .not ∨ sign = .minus) := by
  refine ⟨h.child (List.mem_cons_of_mem _ (List.mem_singleton_self _)), ?_⟩
  have hhere := (h.child (q := .sign sign) List.mem_cons_self).here
  cases sign with
  | not => exact .inl rfl
  | minus => exact .inr rfl
  | plus => cases hhere
  | invert => cases hhere

theorem of_comparison (h : (Tree.comparison first rest).IsAdmitted) :
    first.IsAdmitted ∧ ∀ entry ∈ rest, entry.2.IsAdmitted :=
  ⟨h.child List.mem_cons_self,
    fun _ hentry => h.child (List.mem_cons_of_mem _ (List.mem_map.2 ⟨_, hentry, rfl⟩))⟩

theorem not_foreign {form : ForeignForm} : ¬ (Tree.foreign form).IsAdmitted := by
  intro h
  have hhere := h.here
  simp [Place.refusal?] at hhere

end IsAdmitted

end Tree

end Stepwise.Guard
