import Stepwise.Record.Scalar
import Stepwise.Value.Display

namespace Stepwise.Record

/-- A list, or the members of a set. -/
def list {α : Type} (read : Value → Decoded α) : Value → Decoded (List α)
  | .list xs | .set xs => Decoded.items read 0 xs
  | _ => .mismatch .notList

/-- A list with at least `least` items. -/
def boundedList {α : Type} (least : Nat) (read : Value → Decoded α) (v : Value) :
    Decoded (List α) :=
  (list read v).andThen fun xs =>
    if xs.length < least then .mismatch (.listTooShort least xs.length) else .ok xs

/-- A key as a part of a place: numbers that fit a machine word stay numbers. -/
def keyPart : Value → Part
  | .text s => .name s
  | .bool b => .index (if b then 1 else 0)
  | .int n => if -0x8000000000000000 ≤ n ∧ n < 0x8000000000000000 then .index n else .name (toString n)
  | v => .name v.quoted

/-- The entries of a mapping from texts to texts. A key that is no text is reported beside its
    value. -/
def textMap : Value → Decoded (List (String × String))
  | .map entries => entries.foldr (fun (key, value) rest =>
      let readKey := ((text key).under (.name "[key]")).under (keyPart key)
      let readValue := (text value).under (keyPart key)
      ((Decoded.map Prod.mk readKey).ap readValue).map List.cons |>.ap rest) (.ok [])
  | _ => .mismatch .notMapping

/-- The first of several names that the record has, with its value. -/
def firstOf (entries : List (Value × Value)) : List String → Option (String × Value)
  | [] => none
  | name :: rest => match Value.lookup name entries with
    | some v => some (name, v)
    | none => firstOf entries rest

/-- A field that has to be there. It is reported under the name that it has, and under the first
    of its names when it is missing. -/
def required {α : Type} (entries : List (Value × Value)) (name : String) (others : List String)
    (read : Value → Decoded α) : Decoded α :=
  match firstOf entries (name :: others) with
  | some (found, v) => (read v).under (.name found)
  | none => (Decoded.mismatch .missing).under (.name name)

/-- A field with a value of its own when it is missing. -/
def optional {α : Type} (entries : List (Value × Value)) (name : String) (others : List String)
    (whenMissing : α) (read : Value → Decoded α) : Decoded α :=
  match firstOf entries (name :: others) with
  | some (found, v) => (read v).under (.name found)
  | none => .ok whenMissing

end Stepwise.Record
