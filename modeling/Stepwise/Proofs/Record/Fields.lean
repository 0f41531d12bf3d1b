import Mathlib.Data.List.Forall2
import Stepwise.Record.Field
import Stepwise.Script.Dump

namespace Stepwise

namespace Record

variable {α β : Type}

namespace Decoded

@[simp]
theorem map_eq_ok {f : α → β} {x : Decoded α} {b : β} :
    x.map f = .ok b ↔ ∃ a, x = .ok a ∧ f a = b := by
  cases x <;> simp [map]

@[simp]
theorem ap_eq_ok {f : Decoded (α → β)} {x : Decoded α} {b : β} :
    f.ap x = .ok b ↔ ∃ g a, f = .ok g ∧ x = .ok a ∧ g a = b := by
  cases f <;> cases x <;> simp [ap]

@[simp]
theorem functorMap_eq (f : α → β) (x : Decoded α) : f <$> x = x.map f := by
  cases x <;> rfl

@[simp]
theorem seq_eq (f : Decoded (α → β)) (x : Decoded α) : f <*> x = f.ap x := rfl

@[simp]
theorem under_eq_ok {part : Part} {x : Decoded α} {a : α} :
    x.under part = .ok a ↔ x = .ok a := by
  cases x <;> simp [under]

@[simp]
theorem andThen_eq_ok {x : Decoded α} {f : α → Decoded β} {b : β} :
    x.andThen f = .ok b ↔ ∃ a, x = .ok a ∧ f a = .ok b := by
  cases x <;> simp [andThen]

@[simp]
theorem mismatch_ne_ok {m : Mismatch} {a : α} : (mismatch m : Decoded α) ≠ .ok a := by
  simp [mismatch]

/-- A list is read item by item. -/
theorem items_eq_ok {γ : Type} {read : γ → Decoded α} {position : Nat} {xs : List γ}
    {ys : List α} :
    items read position xs = .ok ys ↔ List.Forall₂ (fun x y => read x = .ok y) xs ys := by
  induction xs generalizing position ys with
  | nil => cases ys <;> simp [items]
  | cons x rest ih =>
    cases ys with
    | nil => simp [items]
    | cons y ys => simp [items, ih]

/-- Every item that was read was read from some value. -/
theorem exists_of_items {γ : Type} {read : γ → Decoded α} {position : Nat} {xs : List γ}
    {ys : List α} (hread : items read position xs = .ok ys) : ∀ y ∈ ys, ∃ x, read x = .ok y := by
  have hall := items_eq_ok.1 hread
  clear hread
  induction hall with
  | nil => simp
  | cons hhead _ ih => exact List.forall_mem_cons.2 ⟨⟨_, hhead⟩, ih⟩

end Decoded

/-- Everything that is wrong with what was read. -/
def Decoded.issues : Decoded α → List Issue
  | .ok _ => []
  | .bad issues => issues

@[simp]
theorem Decoded.issues_map (f : α → β) (x : Decoded α) : (x.map f).issues = x.issues := by
  cases x <;> rfl

@[simp]
theorem Decoded.issues_ap (f : Decoded (α → β)) (x : Decoded α) :
    (f.ap x).issues = f.issues ++ x.issues := by
  cases f <;> cases x <;> simp [ap, issues]

theorem boundedText_eq_ok {least : Nat} {most : Option Nat} {v : Value} {s : String} :
    boundedText least most v = .ok s ↔
      text v = .ok s ∧ least ≤ s.length ∧ ∀ bound ∈ most, s.length ≤ bound := by
  unfold boundedText
  rw [Decoded.andThen_eq_ok]
  constructor
  · rintro ⟨t, htext, hread⟩
    split at hread
    · cases hread
    · cases most with
      | none =>
        cases hread
        exact ⟨htext, by omega, by simp⟩
      | some bound =>
        dsimp only at hread
        split at hread
        · cases hread
        · cases hread
          exact ⟨htext, by omega, by simp; omega⟩
  · rintro ⟨htext, hleast, hmost⟩
    refine ⟨s, htext, ?_⟩
    rw [if_neg (by omega)]
    cases most with
    | none => rfl
    | some bound => exact if_neg (Nat.not_lt.2 (hmost bound rfl))

theorem boundedList_eq_ok {least : Nat} {read : Value → Decoded α} {v : Value} {xs : List α} :
    boundedList least read v = .ok xs ↔ list read v = .ok xs ∧ least ≤ xs.length := by
  unfold boundedList
  rw [Decoded.andThen_eq_ok]
  constructor
  · rintro ⟨ys, hread, hbound⟩
    split at hbound
    · cases hbound
    · cases hbound
      exact ⟨hread, by omega⟩
  · rintro ⟨hread, hbound⟩
    exact ⟨xs, hread, if_neg (by omega)⟩

/-- A list whose items are taken as they are is a list of these items, or a set of them. -/
theorem list_ok_eq_ok_iff {v : Value} {xs : List Value} :
    list Decoded.ok v = .ok xs ↔ v = .list xs ∨ v = .set xs := by
  have hitems : ∀ {ys : List Value}, Decoded.items Decoded.ok 0 ys = .ok xs ↔ ys = xs := by
    intro ys
    rw [Decoded.items_eq_ok]
    simp only [Decoded.ok.injEq]
    exact List.forall₂_eq_eq_eq ▸ Iff.rfl
  cases v <;> simp [list, hitems]

theorem nullable_null (read : Value → Decoded α) : nullable read .null = .ok none := rfl

theorem nullable_eq_map {read : Value → Decoded α} {v : Value} (hnull : v ≠ .null) :
    nullable read v = (read v).map some := by
  cases v with
  | null => exact absurd rfl hnull
  | _ => rfl

theorem exists_nullable_iff {read : Value → Decoded α} {v : Value} :
    (∃ o, nullable read v = .ok o) ↔ v.isNull ∨ ∃ a, read v = .ok a := by
  cases v <;> simp [nullable, Value.isNull]

theorem exists_of_list {read : Value → Decoded α} {v : Value} {xs : List α}
    (hread : list read v = .ok xs) : ∀ x ∈ xs, ∃ v, read v = .ok x := by
  unfold list at hread
  split at hread
  · exact Decoded.exists_of_items hread
  · exact Decoded.exists_of_items hread
  · simp at hread

section lookup

variable {entries : List (Value × Value)} {name : String} {v : Value} {read : Value → Decoded α}

theorem required_eq_under (hlookup : Value.lookup name entries = some v) (others : List String) :
    required entries name others read = (read v).under (.name name) := by
  simp only [required, firstOf, hlookup]

theorem optional_eq_under {whenMissing : α} (hlookup : Value.lookup name entries = some v)
    (others : List String) :
    optional entries name others whenMissing read = (read v).under (.name name) := by
  simp only [optional, firstOf, hlookup]

/-- A field for which null counts as missing is read as null when it is missing. -/
theorem optional_eq_getD {whenMissing : α} (hnull : read .null = .ok whenMissing)
    (entries : List (Value × Value)) (name : String) :
    optional entries name [] whenMissing read =
      (read ((Value.lookup name entries).getD .null)).under (.name name) := by
  cases hlookup : Value.lookup name entries with
  | none => simp only [optional, firstOf, hlookup, Option.getD_none, hnull, Decoded.under]
  | some v => exact optional_eq_under hlookup []

end lookup

/-- What a required field holds was read from some value. -/
theorem exists_of_required {entries : List (Value × Value)} {name : String} {others : List String}
    {read : Value → Decoded α} {a : α} (hread : required entries name others read = .ok a) :
    ∃ v, read v = .ok a := by
  unfold required at hread
  split at hread
  · exact ⟨_, Decoded.under_eq_ok.1 hread⟩
  · simp at hread

/-- What an optional field holds was read from some value, unless it is missing. -/
theorem exists_of_optional {entries : List (Value × Value)} {name : String} {others : List String}
    {whenMissing : α} {read : Value → Decoded α} {a : α}
    (hread : optional entries name others whenMissing read = .ok a) :
    a = whenMissing ∨ ∃ v, read v = .ok a := by
  unfold optional at hread
  split at hread
  · exact .inr ⟨_, Decoded.under_eq_ok.1 hread⟩
  · exact .inl (Decoded.ok.inj hread).symm

end Record

theorem Value.lookup_ofFields (name : String) (fields : List (String × Value)) :
    Value.lookup name (fields.map fun (n, v) => (.text n, v)) = fields.lookup name := by
  induction fields with
  | nil => rfl
  | cons field rest ih =>
    obtain ⟨n, v⟩ := field
    rw [List.map_cons, Value.lookup, List.lookup_cons, ih]
    by_cases hn : n = name
    · simp [hn]
    · simp [hn, beq_false_of_ne (Ne.symm hn)]

theorem lookup_filter {fields : List (String × Value)} (hnodup : (fields.map Prod.fst).Nodup)
    (keep : Value → Bool) (name : String) :
    (fields.filter fun field => keep field.2).lookup name = (fields.lookup name).filter keep := by
  induction fields with
  | nil => rfl
  | cons field rest ih =>
    obtain ⟨n, v⟩ := field
    obtain ⟨hnew, hrest⟩ := List.nodup_cons.1 hnodup
    by_cases hn : name = n
    · subst hn
      have hnone : rest.lookup name = none := by
        rw [List.lookup_eq_none_iff]
        intro field hfield
        simpa using fun heq => hnew (List.mem_map.2 ⟨field, hfield, heq.symm⟩)
      cases hkeep : keep v <;> simp [hkeep, ih hrest, hnone, Option.filter_some]
    · cases hkeep : keep v <;> simp [hkeep, ih hrest, List.lookup_cons, beq_false_of_ne hn]

namespace DumpStyle

/-- The entries of a written record: those of its fields, except that null ones may be left out. -/
def Writes (style : DumpStyle) (fields : List (String × Value)) (entries : List (Value × Value)) :
    Prop :=
  ∀ name, Value.lookup name entries =
    (fields.lookup name).filter fun v => style.keepsNulls || !v.isNull

theorem exists_writes (style : DumpStyle) {fields : List (String × Value)}
    (hnodup : (fields.map Prod.fst).Nodup) :
    ∃ entries, style.fields fields = .map entries ∧ style.Writes fields entries := by
  refine ⟨_, rfl, fun name => ?_⟩
  rw [Value.lookup_ofFields]
  cases style.keepsNulls with
  | true =>
    rw [if_pos rfl]
    cases fields.lookup name <;> rfl
  | false =>
    simp only [Bool.false_eq_true, if_false, Bool.false_or]
    exact lookup_filter hnodup (fun v => !v.isNull) name

namespace Writes

open Record

variable {α : Type} {style : DumpStyle} {fields : List (String × Value)}
  {entries : List (Value × Value)} {read : Value → Decoded α} {a : α} {v : Value}

theorem firstOf_eq_none (hwrites : style.Writes fields entries) {names : List String}
    (hnames : names.filterMap (fun n => fields.lookup n) = []) : firstOf entries names = none := by
  induction names with
  | nil => rfl
  | cons name rest ih =>
    cases hfield : fields.lookup name with
    | some w => simp [hfield] at hnames
    | none =>
      rw [firstOf, hwrites name, hfield]
      exact ih (by simpa [hfield] using hnames)

/-- If a record has one field under one of several names, that field is found, unless it was left
    out. -/
theorem firstOf_eq (hwrites : style.Writes fields entries) {names : List String}
    (hnames : names.filterMap (fun n => fields.lookup n) = [v]) :
    (firstOf entries names).map Prod.snd = if style.keepsNulls || !v.isNull then some v else none := by
  induction names with
  | nil => cases hnames
  | cons name rest ih =>
    rw [firstOf, hwrites name]
    cases hfield : fields.lookup name with
    | none => exact ih (by simpa [hfield] using hnames)
    | some w =>
      obtain ⟨rfl, hrest⟩ : w = v ∧ rest.filterMap (fun n => fields.lookup n) = [] := by
        simpa [List.filterMap_cons, hfield] using hnames
      cases hkept : style.keepsNulls || !w.isNull with
      | true => simp [Option.filter_some, hkept]
      | false => simp [Option.filter_some, hkept, hwrites.firstOf_eq_none hrest]

theorem required_eq_ok (hwrites : style.Writes fields entries) (name : String)
    (others : List String) (hnames : (name :: others).filterMap (fun n => fields.lookup n) = [v])
    (hnull : v.isNull = false) (hread : read v = .ok a) :
    required entries name others read = .ok a := by
  have hfirst := hwrites.firstOf_eq hnames
  simp only [hnull, Bool.not_false, Bool.or_true, if_true, Option.map_eq_some_iff] at hfirst
  obtain ⟨found, hfound, rfl⟩ := hfirst
  rw [required, hfound]
  exact Decoded.under_eq_ok.2 hread

theorem optional_eq_ok (hwrites : style.Writes fields entries) (name : String)
    (others : List String) {whenMissing : α}
    (hnames : (name :: others).filterMap (fun n => fields.lookup n) = [v]) (hread : read v = .ok a)
    (hmissing : v.isNull = true → whenMissing = a) :
    optional entries name others whenMissing read = .ok a := by
  have hfirst := hwrites.firstOf_eq hnames
  unfold Record.optional
  cases hfound : firstOf entries (name :: others) with
  | none =>
    have hdropped : style.keepsNulls = false ∧ v.isNull = true := by simpa [hfound] using hfirst
    exact congrArg Decoded.ok (hmissing hdropped.2)
  | some found =>
    rw [hfound] at hfirst
    have heq : found.2 = v := by
      simp only [Option.map_some] at hfirst
      split at hfirst
      · exact Option.some.inj hfirst
      · cases hfirst
    exact Decoded.under_eq_ok.2 (heq ▸ hread)

end Writes

end DumpStyle

end Stepwise
