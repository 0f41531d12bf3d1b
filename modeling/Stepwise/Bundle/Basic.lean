import Stepwise.Record.Field
import Stepwise.Record.Scalar

namespace Stepwise

open Record

/-- A script of a bundle. Its steps are not read yet, so that a broken script is listed too. -/
structure Entry where
  id : String
  name : String
  description : Option String
  /-- A text or a number. -/
  version : Option Value
  start : Option String
  steps : List Value

namespace Entry

/-- A version is a text, or a number. -/
def decodeVersion (v : Value) : Decoded Value :=
  (((text v).map Value.text).under (.name "str")).orElse
    (((number v).map Value.float).under (.name "float"))

def decode (entries : List (Value × Value)) : Decoded Entry :=
  Entry.mk <$> required entries "id" [] text
    <*> required entries "name" [] text
    <*> optional entries "description" [] none (nullable text)
    <*> optional entries "version" [] none (nullable decodeVersion)
    <*> optional entries "start" [] none (nullable text)
    <*> optional entries "steps" [] [] (list .ok)

/-- The entry with every field, absent ones as null. -/
def dump (e : Entry) : Value :=
  .ofFields [("id", .text e.id), ("name", .text e.name), ("description", .ofText? e.description),
    ("version", e.version.getD .null), ("start", .ofText? e.start), ("steps", .list e.steps)]

def present (fields : List (String × Value)) : Value :=
  .ofFields (fields.filter fun (_, v) => !v.isNull)

/-- The entry without its absent fields. -/
def offer (e : Entry) : Value :=
  present [("id", .text e.id), ("name", .text e.name), ("description", .ofText? e.description),
    ("version", e.version.getD .null), ("start", .ofText? e.start), ("steps", .list e.steps)]

/-- The script of the entry, as a document. -/
def script (e : Entry) : Value :=
  present [("name", .text e.name), ("version", e.version.getD .null), ("start", .ofText? e.start),
    ("steps", .list e.steps)]

end Entry

/-- Why a document is no bundle. -/
inductive BundleFault where
  | badEntry (issues : List Issue)
  | badKey
deriving DecidableEq

namespace BundleFault

def kind : BundleFault → String
  | badEntry _ => "ValidationError"
  | badKey => "TypeError"

end BundleFault

namespace Bundle

/-- The first of two values that is not empty. -/
def orElse (v w : Value) : Value := if v.isTruthy then v else w

/-- The entry of an item of a bundle. Its id falls back on its name, and then on its place; its
    name falls back on its id. An item that is no mapping, or that has no steps, is skipped. -/
def entryOf (index : Nat) (item : Value) : Except BundleFault (Option Entry) :=
  match item with
  | .map entries =>
    let field (name : String) : Value := (Value.lookup name entries).getD .null
    if !(field "steps").isTruthy then .ok none
    else
      let name := field "name"
      let id := orElse (orElse (field "id") name) (.text ("script-" ++ toString index))
      if !entries.all fun (key, _) => key.text?.isSome then .error .badKey
      else
        let entries := Value.insertEntry (.text "name") (orElse name id)
          (Value.insertEntry (.text "id") id entries)
        match Entry.decode entries with
        | .ok entry => .ok (some entry)
        | .bad issues => .error (.badEntry issues)
  | _ => .ok none

/-- The entries of the items of a bundle. -/
def entriesOf (items : List Value) : Except BundleFault (List Entry) := do
  let found ← items.zipIdx.mapM fun (item, index) => entryOf index item
  return found.filterMap id

theorem sizeOf_lookup_lt {name : String} {entries : List (Value × Value)} {v : Value}
    (hlookup : Value.lookup name entries = some v) : sizeOf v < sizeOf entries := by
  induction entries with
  | nil => simp [Value.lookup] at hlookup
  | cons entry rest ih =>
    obtain ⟨key, value⟩ := entry
    have hrest (h : Value.lookup name rest = some v) : sizeOf v < sizeOf ((key, value) :: rest) := by
      have := ih h
      simp only [List.cons.sizeOf_spec]
      omega
    cases key with
    | text s =>
      by_cases hs : s = name
      · simp only [Value.lookup, hs, if_true, Option.some.injEq] at hlookup
        subst hlookup
        simp only [List.cons.sizeOf_spec, Prod.mk.sizeOf_spec]
        omega
      · simp only [Value.lookup, hs, if_false] at hlookup
        exact hrest hlookup
    | _ => exact hrest hlookup

/-- The scripts of a document: a list of them, or a mapping that has the list as `scripts`, or
    that has such a document as `default`. -/
def ofValue (v : Value) : Except BundleFault (List Entry) :=
  match v with
  | .list items => entriesOf items
  | .map entries => match Value.lookup "scripts" entries with
    | some (.list items) => entriesOf items
    | _ => match _hlookup : Value.lookup "default" entries with
      | some inner => if inner.isTruthy then ofValue inner else .ok []
      | none => .ok []
  | _ => .ok []
termination_by sizeOf v
decreasing_by
  have := sizeOf_lookup_lt _hlookup
  simp only [Value.map.sizeOf_spec]
  omega

end Bundle

end Stepwise
