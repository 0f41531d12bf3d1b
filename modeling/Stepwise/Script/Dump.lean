import Stepwise.Script.Basic
import Stepwise.Value.Basic

namespace Stepwise

/-- How the fields of a written script are named, and whether absent ones are written as null. -/
structure DumpStyle where
  /-- Names of two words are joined with a capital letter, and otherwise with an underscore. -/
  capitals : Bool
  keepsNulls : Bool

namespace DumpStyle

/-- Underscores, and every field. -/
def full : DumpStyle := ⟨false, true⟩

/-- The fields of a record in this style. -/
def fields (style : DumpStyle) (all : List (String × Value)) : Value :=
  .ofFields (if style.keepsNulls then all else all.filter fun (_, v) => !v.isNull)

end DumpStyle

namespace Script

def dumpChoice (style : DumpStyle) (c : Choice) : Value :=
  style.fields [("id", .text c.id), ("label", .text c.label), ("goto", .text c.goto)]

/-- The tag of an action and the fields that it adds to a step. -/
def dumpAction (style : DumpStyle) : Action → String × List (String × Value)
  | .prompt message store preset => ("prompt", [
      ("message", .text message), ("variable", .text store),
      (if style.capitals then "defaultValue" else "default_value", .ofText? preset)])
  | .choice message options => ("choice", [
      ("message", .text message), ("options", .list (options.map (dumpChoice style)))])
  | .command command args cwd onError => ("command", [
      ("command", .text command),
      ("args", match args with
        | some args => .list (args.map .text)
        | none => .null),
      ("cwd", .ofText? cwd),
      (if style.capitals then "onError" else "on_error", .text onError.name)])
  | .require expression message => ("assert", [
      ("expression", .text expression), ("message", .ofText? message)])
  | .goto target => ("goto", [("target", .text target)])
  | .finish status message => ("end", [
      ("status", .text status.name), ("message", .ofText? message)])

def dumpStep (style : DumpStyle) (step : Step) : Value :=
  let (tag, own) := dumpAction style step.action
  style.fields ([("id", .text step.id), ("description", .ofText? step.description),
    ("when", .ofText? step.guard), ("type", .text tag)] ++ own)

/-- The document of a script. -/
def dump (style : DumpStyle) (script : Script) : Value :=
  style.fields [("name", .ofText? script.name), ("version", .ofText? script.version),
    ("start", .ofText? script.start), ("steps", .list (script.steps.map (dumpStep style)))]

end Script

end Stepwise
