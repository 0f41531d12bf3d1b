import Stepwise.Bundle.Basic
import Stepwise.Proofs.Record.Fields
import Stepwise.Proofs.Value.Alike

namespace Stepwise.Bundle

open Record

/-- The value of a field of an item; a field that the item does not have counts as null. -/
def fieldOf (name : String) (fields : List (Value × Value)) : Value :=
  (Value.lookup name fields).getD .null

/-- What an item is called: its id, or else its name. -/
def givenOf (fields : List (Value × Value)) : Value :=
  orElse (fieldOf "id" fields) (fieldOf "name" fields)

/-- The id of an item that is not called anything, by its place in the bundle. -/
def placeId (index : Nat) : String :=
  "script-" ++ toString index

def idOf (index : Nat) (fields : List (Value × Value)) : Value :=
  orElse (givenOf fields) (.text (placeId index))

def nameOf (index : Nat) (fields : List (Value × Value)) : Value :=
  orElse (fieldOf "name" fields) (idOf index fields)

/-- The entry has what the fields of the item at a place say, and all keys of the item are texts. -/
structure Describes (index : Nat) (fields : List (Value × Value)) (entry : Entry) : Prop where
  keys : ∀ field ∈ fields, field.1.text?.isSome
  id : text (idOf index fields) = .ok entry.id
  name : text (nameOf index fields) = .ok entry.name
  description : nullable text (fieldOf "description" fields) = .ok entry.description
  version : nullable Entry.decodeVersion (fieldOf "version" fields) = .ok entry.version
  start : nullable text (fieldOf "start" fields) = .ok entry.start
  steps : list .ok (fieldOf "steps" fields) = .ok entry.steps

def IsText (v : Value) : Prop := ∃ s, text v = .ok s

/-- Every key of the item is a text, and every field is of the kind that an entry has there: what the
    item is called and what else it says of itself are texts, its version may be a number too, and
    its steps are a list or a set. -/
structure IsReadable (index : Nat) (fields : List (Value × Value)) : Prop where
  keys : ∀ field ∈ fields, field.1.text?.isSome
  id : IsText (idOf index fields)
  name : IsText (nameOf index fields)
  description : (fieldOf "description" fields).isNull ∨ IsText (fieldOf "description" fields)
  version : (fieldOf "version" fields).isNull ∨ IsText (fieldOf "version" fields) ∨
    ∃ x, number (fieldOf "version" fields) = .ok x
  start : (fieldOf "start" fields).isNull ∨ IsText (fieldOf "start" fields)
  steps : ∃ steps, fieldOf "steps" fields = .list steps ∨ fieldOf "steps" fields = .set steps

/-- What is wrong with the fields of the item at a place, field by field. -/
def issuesOf (index : Nat) (fields : List (Value × Value)) : List Issue :=
  ((text (idOf index fields)).under (.name "id")).issues ++
  ((text (nameOf index fields)).under (.name "name")).issues ++
  ((nullable text (fieldOf "description" fields)).under (.name "description")).issues ++
  ((nullable Entry.decodeVersion (fieldOf "version" fields)).under (.name "version")).issues ++
  ((nullable text (fieldOf "start" fields)).under (.name "start")).issues ++
  ((list Decoded.ok (fieldOf "steps" fields)).under (.name "steps")).issues

/-- Why the item at a place is no entry: a key of it is no text, or some field is not what it has to
    be. -/
inductive Fails (index : Nat) (fields : List (Value × Value)) : BundleFault → Prop where
  | key {key value : Value} (hmem : (key, value) ∈ fields) (hkey : key.text? = none) :
    Fails index fields .badKey
  | fields (hkeys : ∀ field ∈ fields, field.1.text?.isSome)
    (hfields : ¬IsReadable index fields) :
    Fails index fields (.badEntry (issuesOf index fields))

/-- The fields of an item, and its place, if it is a mapping that has steps. -/
def listing? : Value × Nat → Option (Nat × List (Value × Value))
  | (.map fields, index) => if (fieldOf "steps" fields).isTruthy then some (index, fields) else none
  | _ => none

/-- The items of a bundle that are mappings with steps, in order and with their places. -/
def listed (items : List Value) : List (Nat × List (Value × Value)) :=
  items.zipIdx.filterMap listing?

variable {index : Nat} {fields : List (Value × Value)} {item : Value} {entry : Entry}

/-- A version is kept as a text if it is one, and otherwise as a number. -/
theorem decodeVersion_eq_ok_iff {v w : Value} : Entry.decodeVersion v = .ok w ↔
    (∃ s, text v = .ok s ∧ w = .text s) ∨
      (∀ s, text v ≠ .ok s) ∧ ∃ x, number v = .ok x ∧ w = .float x := by
  unfold Entry.decodeVersion
  cases text v <;> cases number v <;> simp [Decoded.map, Decoded.under, Decoded.orElse, eq_comm]

theorem exists_decodeVersion_iff {v : Value} :
    (∃ w, Entry.decodeVersion v = .ok w) ↔ IsText v ∨ ∃ x, number v = .ok x := by
  simp only [decodeVersion_eq_ok_iff, IsText]
  cases text v <;> simp

/-- The fields of an item describe an entry exactly if they are of the right kinds. -/
theorem exists_describes_iff : (∃ entry, Describes index fields entry) ↔ IsReadable index fields := by
  constructor
  · rintro ⟨entry, h⟩
    exact ⟨h.keys, ⟨_, h.id⟩, ⟨_, h.name⟩, exists_nullable_iff.1 ⟨_, h.description⟩,
      (exists_nullable_iff.1 ⟨_, h.version⟩).imp_right exists_decodeVersion_iff.1,
      exists_nullable_iff.1 ⟨_, h.start⟩, ⟨_, list_ok_eq_ok_iff.1 h.steps⟩⟩
  · intro h
    obtain ⟨id, hid⟩ := h.id
    obtain ⟨name, hname⟩ := h.name
    obtain ⟨description, hdescription⟩ := exists_nullable_iff.2 h.description
    obtain ⟨version, hversion⟩ :=
      exists_nullable_iff.2 (h.version.imp_right exists_decodeVersion_iff.2)
    obtain ⟨start, hstart⟩ := exists_nullable_iff.2 h.start
    obtain ⟨steps, hsteps⟩ := h.steps
    exact ⟨⟨id, name, description, version, start, steps⟩, h.keys, hid, hname, hdescription, hversion,
      hstart, list_ok_eq_ok_iff.2 hsteps⟩

/-- The fields from which an entry is read: those of the item, with its id and name filled in. -/
def completed (index : Nat) (fields : List (Value × Value)) : List (Value × Value) :=
  Value.insertEntry (.text "name") (nameOf index fields)
    (Value.insertEntry (.text "id") (idOf index fields) fields)

theorem lookup_completed_id : Value.lookup "id" (completed index fields) = some (idOf index fields) := by
  rw [completed, Value.lookup_insertEntry_ne (by decide), Value.lookup_insertEntry_self]

theorem lookup_completed_name :
    Value.lookup "name" (completed index fields) = some (nameOf index fields) :=
  Value.lookup_insertEntry_self

theorem lookup_completed {name : String} (hid : name ≠ "id") (hname : name ≠ "name") :
    Value.lookup name (completed index fields) = Value.lookup name fields := by
  rw [completed, Value.lookup_insertEntry_ne hname, Value.lookup_insertEntry_ne hid]

theorem lookup_of_isTruthy {name : String} (hfull : (fieldOf name fields).isTruthy) :
    Value.lookup name fields = some (fieldOf name fields) := by
  unfold fieldOf at hfull ⊢
  cases hlookup : Value.lookup name fields with
  | none => simp [hlookup, Value.isTruthy] at hfull
  | some v => rfl

/-- An entry is read field by field from the fields of an item that has steps. -/
theorem decode_completed (hsteps : (fieldOf "steps" fields).isTruthy) :
    Entry.decode (completed index fields) = Entry.mk
      <$> (text (idOf index fields)).under (.name "id")
      <*> (text (nameOf index fields)).under (.name "name")
      <*> (nullable text (fieldOf "description" fields)).under (.name "description")
      <*> (nullable Entry.decodeVersion (fieldOf "version" fields)).under (.name "version")
      <*> (nullable text (fieldOf "start" fields)).under (.name "start")
      <*> (list Decoded.ok (fieldOf "steps" fields)).under (.name "steps") := by
  have hlookup : Value.lookup "steps" (completed index fields) = some (fieldOf "steps" fields) := by
    rw [lookup_completed (by decide) (by decide), lookup_of_isTruthy hsteps]
  rw [Entry.decode, required_eq_under lookup_completed_id, required_eq_under lookup_completed_name,
    optional_eq_getD (nullable_null text), optional_eq_getD (nullable_null Entry.decodeVersion),
    optional_eq_getD (nullable_null text), optional_eq_under hlookup,
    lookup_completed (by decide) (by decide), lookup_completed (by decide) (by decide),
    lookup_completed (by decide) (by decide)]
  rfl

theorem decode_completed_eq_ok_iff (hsteps : (fieldOf "steps" fields).isTruthy)
    (hkeys : ∀ field ∈ fields, field.1.text?.isSome) :
    Entry.decode (completed index fields) = .ok entry ↔ Describes index fields entry := by
  rw [decode_completed hsteps]
  simp only [Decoded.functorMap_eq, Decoded.seq_eq, Decoded.ap_eq_ok, Decoded.map_eq_ok,
    Decoded.under_eq_ok]
  constructor
  · rintro ⟨_, _, ⟨_, _, ⟨_, _, ⟨_, _, ⟨_, _, ⟨_, hid, rfl⟩, hname, rfl⟩, hdescription, rfl⟩, hversion, rfl⟩,
      hstart, rfl⟩, hsteps, rfl⟩
    exact ⟨hkeys, hid, hname, hdescription, hversion, hstart, hsteps⟩
  · intro h
    exact ⟨_, _, ⟨_, _, ⟨_, _, ⟨_, _, ⟨_, _, ⟨_, h.id, rfl⟩, h.name, rfl⟩, h.description, rfl⟩, h.version, rfl⟩,
      h.start, rfl⟩, h.steps, rfl⟩

theorem issues_decode_completed (hsteps : (fieldOf "steps" fields).isTruthy) :
    (Entry.decode (completed index fields)).issues = issuesOf index fields := by
  rw [decode_completed hsteps]
  simp only [Decoded.functorMap_eq, Decoded.seq_eq, Decoded.issues_ap, Decoded.issues_map]
  rfl

/-! ### One item -/

theorem listing?_eq_some_iff {place : Nat} : listing? (item, index) = some (place, fields) ↔
    place = index ∧ item = .map fields ∧ (fieldOf "steps" fields).isTruthy := by
  cases item with
  | map others =>
    unfold listing?
    split
    · next heq =>
      cases heq
      rw [Option.ite_none_right_eq_some, Option.some.injEq, Prod.mk.injEq]
      constructor
      · rintro ⟨hsteps, rfl, rfl⟩
        exact ⟨rfl, rfl, hsteps⟩
      · rintro ⟨rfl, ⟨⟩, hsteps⟩
        exact ⟨hsteps, rfl, rfl⟩
    · next hno => exact absurd rfl (hno others index)
  | _ => simp [listing?]

theorem entryOf_of_listing?_eq_none (hnone : listing? (item, index) = none) :
    entryOf index item = .ok none := by
  cases item with
  | map fields =>
    have hsteps : (fieldOf "steps" fields).isTruthy = false := by
      simpa [listing?] using hnone
    unfold entryOf
    simp only
    rw [if_pos]
    simpa [fieldOf] using hsteps
  | _ => rfl

theorem entryOf_map (hsteps : (fieldOf "steps" fields).isTruthy) :
    entryOf index (.map fields) = if !fields.all fun (key, _) => key.text?.isSome then .error .badKey
      else match Entry.decode (completed index fields) with
        | .ok entry => .ok (some entry)
        | .bad issues => .error (.badEntry issues) := by
  unfold entryOf
  simp only
  rw [if_neg (by simpa [fieldOf] using hsteps)]
  rfl

/-- An item that has steps becomes the entry that its fields describe, or fails. -/
theorem entryOf_cases (index : Nat) (hsteps : (fieldOf "steps" fields).isTruthy) :
    (∃ entry, entryOf index (.map fields) = .ok (some entry) ∧ Describes index fields entry) ∨
      ∃ fault, entryOf index (.map fields) = .error fault ∧ Fails index fields fault := by
  rw [entryOf_map hsteps]
  cases hall : fields.all fun (key, _) => key.text?.isSome with
  | true =>
    have hkeys : ∀ field ∈ fields, field.1.text?.isSome := List.all_eq_true.1 hall
    rw [if_neg (by simp)]
    cases hread : Entry.decode (completed index fields) with
    | ok entry => exact .inl ⟨entry, rfl, (decode_completed_eq_ok_iff hsteps hkeys).1 hread⟩
    | bad issues =>
      have hissues : issues = issuesOf index fields := by
        rw [← issues_decode_completed hsteps, hread]
        rfl
      refine .inr ⟨_, rfl, hissues ▸ .fields hkeys fun hreadable => ?_⟩
      obtain ⟨entry, hentry⟩ := exists_describes_iff.2 hreadable
      rw [(decode_completed_eq_ok_iff hsteps hkeys).2 hentry] at hread
      cases hread
  | false =>
    obtain ⟨⟨key, value⟩, hmem, hkey⟩ := List.all_eq_false.1 hall
    exact .inr ⟨_, rfl, .key hmem (by simpa using hkey)⟩

/-- What an item becomes is what its fields describe. -/
theorem describes_of_entryOf (hitem : entryOf index item = .ok (some entry)) :
    ∃ fields, item = .map fields ∧ (fieldOf "steps" fields).isTruthy ∧
      Describes index fields entry := by
  cases hlisting : listing? (item, index) with
  | none =>
    rw [entryOf_of_listing?_eq_none hlisting] at hitem
    cases hitem
  | some listing =>
    obtain ⟨place, fields⟩ := listing
    obtain ⟨-, rfl, hsteps⟩ := listing?_eq_some_iff.1 hlisting
    rcases entryOf_cases index hsteps with ⟨other, hother, hdescribes⟩ | ⟨fault, hfault, -⟩
    · cases hother.symm.trans hitem
      exact ⟨fields, rfl, hsteps, hdescribes⟩
    · cases hfault.symm.trans hitem

theorem Fails.not_isReadable {fault : BundleFault} (h : Fails index fields fault) :
    ¬IsReadable index fields := by
  cases h with
  | key hmem hkey =>
    intro hreadable
    have hsome := hreadable.keys _ hmem
    rw [hkey] at hsome
    cases hsome
  | fields _ hfields => exact hfields

/-! ### All items of a bundle -/

/-- The entries are those of the items, in their order. -/
def DescribesAll (items : List (Nat × List (Value × Value))) (entries : List Entry) : Prop :=
  List.Forall₂ (fun item entry => Describes item.1 item.2 entry) items entries

theorem DescribesAll.exists_of_mem {items : List (Nat × List (Value × Value))}
    {entries : List Entry} (hall : DescribesAll items entries) (hmem : (index, fields) ∈ items) :
    ∃ entry ∈ entries, Describes index fields entry := by
  induction hall with
  | nil => cases hmem
  | cons hfirst _ ih =>
    rcases List.mem_cons.1 hmem with rfl | hrest
    · exact ⟨_, List.mem_cons_self, hfirst⟩
    · obtain ⟨entry, hentry, hdescribes⟩ := ih hrest
      exact ⟨entry, List.mem_cons_of_mem _ hentry, hdescribes⟩

/-- The entries of items, each with its place. -/
def gather (items : List (Value × Nat)) : Except BundleFault (List Entry) := do
  let found ← items.mapM fun (item, index) => entryOf index item
  return found.filterMap id

section gather

variable {items : List (Value × Nat)}

theorem gather_cons_of_none (hentry : entryOf index item = .ok none) :
    gather ((item, index) :: items) = gather items := by
  simp only [gather, List.mapM_cons, hentry]
  cases items.mapM fun (item, index) => entryOf index item <;> rfl

theorem gather_cons_of_some (hentry : entryOf index item = .ok (some entry)) :
    gather ((item, index) :: items) = (gather items).map (entry :: ·) := by
  simp only [gather, List.mapM_cons, hentry]
  cases items.mapM fun (item, index) => entryOf index item <;> rfl

theorem gather_cons_of_error {fault : BundleFault} (hentry : entryOf index item = .error fault) :
    gather ((item, index) :: items) = .error fault := by
  simp only [gather, List.mapM_cons, hentry]
  rfl

/-- Items give one entry for each that is listed, in order, or what is wrong with the first that is
    listed but no entry: by induction on the items. -/
theorem gather_cases (items : List (Value × Nat)) :
    (∃ entries, gather items = .ok entries ∧ DescribesAll (items.filterMap listing?) entries) ∨
    ∃ fault before index fields after, gather items = .error fault ∧
      items.filterMap listing? = before ++ (index, fields) :: after ∧
      (∀ p ∈ before, IsReadable p.1 p.2) ∧ Fails index fields fault := by
  induction items with
  | nil => exact .inl ⟨[], rfl, .nil⟩
  | cons pair rest ih =>
    obtain ⟨item, index⟩ := pair
    cases hlisting : listing? (item, index) with
    | none =>
      rw [gather_cons_of_none (entryOf_of_listing?_eq_none hlisting),
        List.filterMap_cons_none hlisting]
      exact ih
    | some listing =>
      obtain ⟨place, fields⟩ := listing
      rw [List.filterMap_cons_some hlisting]
      obtain ⟨rfl, rfl, hsteps⟩ := listing?_eq_some_iff.1 hlisting
      rcases entryOf_cases place hsteps with ⟨entry, hentry, hdescribes⟩ | ⟨fault, hentry, hfails⟩
      · rw [gather_cons_of_some hentry]
        rcases ih with ⟨entries, hrest, hall⟩ | ⟨fault, before, index, others, after, hrest, hsplit,
          hbefore, hfails⟩
        · exact .inl ⟨entry :: entries, by rw [hrest]; rfl, .cons hdescribes hall⟩
        · refine .inr ⟨fault, (place, fields) :: before, index, others, after, by rw [hrest]; rfl,
            by rw [hsplit]; rfl, ?_, hfails⟩
          exact List.forall_mem_cons.2 ⟨exists_describes_iff.1 ⟨entry, hdescribes⟩, hbefore⟩
      · exact .inr ⟨fault, [], place, fields, _, gather_cons_of_error hentry, rfl, nofun, hfails⟩

end gather

/-- A step that ends a run, for the items of examples. -/
def byeStep : Value := .ofFields [("id", .text "bye"), ("type", .text "end")]

end Stepwise.Bundle
