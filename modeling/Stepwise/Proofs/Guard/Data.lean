import Stepwise.Guard.Eval

namespace Stepwise.Guard

/-- The names of the methods that values have. -/
def valueMethods : List String :=
  "from_bytes" :: "fromhex" :: "maketrans" ::
    (integerMethods ++ floatMethods ++ textMethods ++ bytesMethods ++ listMethods)

/-- The relation asks whether two values are one thing. -/
def Relation.isIdentity : Relation → Bool
  | .is | .isNot => true
  | _ => false

namespace Datum

mutual

/-- The value is put together from texts, bytes, numbers and single values. No function, no method
    and not the variables as a whole are part of it, nor any mapping, which no text leads to. -/
@[simp]
def isData : Datum → Bool
  | .list items | .tuple items => areData items
  | .mapping _ | .vars | .builtin _ | .bound _ _ | .member _ _ _ => false
  | _ => true

@[simp]
def areData : List Datum → Bool
  | [] => true
  | item :: rest => item.isData && areData rest

end

/-- The value is the only one of its kind that reads like it. -/
def isSingle : Datum → Bool
  | .nothing | .bool _ => true
  | _ => false

variable {vars : String → Option Datum} {d a b index f : Datum} {name : String}

theorem ne_vars_of_isData (hdata : d.isData) : d ≠ .vars := by
  rintro rfl
  cases hdata

theorem areData_iff {items : List Datum} : areData items ↔ ∀ d ∈ items, d.isData := by
  induction items with
  | nil => simp
  | cons item rest ih => simp [ih]

/-! ### Attributes -/

theorem isData_of_integerProperty? {n : Int} (h : integerProperty? n name = some f) : f.isData := by
  unfold integerProperty? at h
  split at h <;> cases h <;> rfl

/-- What an attribute of a value is: data, a method of the value, or a part of a type. The methods of
    data are known by name. -/
inductive Part (d : Datum) (name : String) : Datum → Prop where
  | data {f : Datum} (hdata : f.isData) : Part d name f
  | method (hname : d.isData → name ∈ valueMethods) : Part d name (.bound d name)
  | ofType {type : Builtin} {kind : Member} (htype : d = .builtin type) :
    Part d name (.member type name kind)

theorem part_of_contains {names : List String} (hnames : d.isData → names ⊆ valueMethods)
    (h : (if names.contains name then some (bound d name) else none) = some f) :
    d.Part name f := by
  obtain ⟨hname, hf⟩ := Option.ite_none_right_eq_some.1 h
  cases hf
  exact .method fun hdata => hnames hdata (List.contains_iff_mem.1 hname)

theorem part_of_orElse {names : List String} {n : Int} (hnames : names ⊆ valueMethods)
    (h : (integerProperty? n name <|>
      if names.contains name then some (bound d name) else none) = some f) :
    d.Part name f := by
  rw [Option.orElse_eq_orElse, Option.orElse_eq_or, Option.or_eq_some_iff] at h
  rcases h with hproperty | ⟨_, hmethod⟩
  · exact .data (isData_of_integerProperty? hproperty)
  · exact part_of_contains (fun _ => hnames) hmethod

theorem part_of_attribute? (h : d.attribute? name = some f) : d.Part name f := by
  unfold attribute? at h
  split at h
  · exact part_of_orElse (by decide) h
  · exact part_of_orElse (by decide) h
  · split at h
    · cases h
      exact .data rfl
    · cases h
      exact .data rfl
    · exact part_of_contains (fun _ => by decide) h
  · split at h
    · cases h
      exact .data rfl
    · cases h
      exact .data rfl
    · exact part_of_contains (fun _ => by decide) h
  · exact part_of_contains (fun _ => by decide) h
  · exact part_of_contains (fun _ => by decide) h
  · exact part_of_contains (fun _ => by decide) h
  · exact part_of_contains (fun _ => by decide) h
  · exact part_of_contains (fun hdata => by cases hdata) h
  · obtain ⟨kind, _, rfl⟩ := Option.map_eq_some_iff.1 h
    exact .ofType rfl
  all_goals cases h

/-- The result of reading an attribute of anything but the variables as a whole. -/
theorem part_of_attribute (hne : d ≠ .vars) (h : d.attribute vars name = .ok f) :
    d.Part name f := by
  unfold Datum.attribute at h
  split at h
  · exact absurd rfl hne
  · split at h
    · next hf =>
      cases h
      exact part_of_attribute? hf
    all_goals cases h

/-! ### Items and relations -/

theorem mem_of_itemAt {α : Type} {items : List α} {n : Int} {item : α}
    (h : itemAt items n = some item) : item ∈ items := by
  unfold itemAt at h
  split at h
  · split at h
    · exact List.mem_of_getElem? h
    · cases h
  · exact List.mem_of_getElem? h

theorem exists_mem_of_sequenceItem {α : Type} {kind shown : String} {items : List α}
    {result : α → Datum} (h : sequenceItem kind shown items result index = .ok d) :
    ∃ item ∈ items, result item = d := by
  unfold sequenceItem at h
  split at h
  · cases h
  · split at h
    · cases h
    · split at h
      · next hitem =>
        cases h
        exact ⟨_, mem_of_itemAt hitem, rfl⟩
      · cases h

/-- An item of data is data. -/
theorem isData_of_item (hdata : d.isData) (h : d.item vars index = .ok f) : f.isData := by
  unfold item at h
  split at h
  · cases hdata
  · split at h
    · cases h
    · obtain ⟨c, _, rfl⟩ := exists_mem_of_sequenceItem h
      rfl
  · obtain ⟨item, hitem, rfl⟩ := exists_mem_of_sequenceItem h
    exact areData_iff.1 hdata item hitem
  · obtain ⟨item, hitem, rfl⟩ := exists_mem_of_sequenceItem h
    exact areData_iff.1 hdata item hitem
  · obtain ⟨b, _, rfl⟩ := exists_mem_of_sequenceItem h
    rfl
  · cases hdata
  all_goals cases h

/-- Whether a single value is the same as another has nothing to do with where they come from. -/
theorem same_eq_of_isSingle {isShared isShared' : Bool} (hsingle : a.isSingle ∨ b.isSingle) :
    same isShared a b = same isShared' a b := by
  unfold same
  split <;> simp_all [isSingle]

/-- Only a test of identity asks where its values come from, and not if one of them is single. -/
theorem related_eq_of_isSingle {relation : Relation} {isShared isShared' : Bool}
    (hsingle : relation.isIdentity → a.isSingle ∨ b.isSingle) :
    a.related vars relation isShared b = a.related vars relation isShared' b := by
  cases relation with
  | is => exact congrArg Except.ok (same_eq_of_isSingle (hsingle rfl))
  | isNot => exact congrArg (fun isSame => Except.ok (!isSame)) (same_eq_of_isSingle (hsingle rfl))
  | eq | ne | lt | le | gt | ge | isIn | notIn => rfl

end Datum

end Stepwise.Guard
