import Stepwise.Json.Reader
import Stepwise.Record.Field
import Stepwise.Script.Graph
import Stepwise.Value.Display

namespace Stepwise

open Record

namespace Script

/-- Ids have one to this many characters. -/
def maxIdLength : Nat := 128

/-- Expressions have one to this many characters. -/
def maxExpressionLength : Nat := 1024

def idText : Value → Decoded String :=
  boundedText 1 (some maxIdLength)

def filledText : Value → Decoded String :=
  boundedText 1 none

def textOrNull : Value → Decoded (Option String) :=
  nullable text

def decodeChoice (v : Value) : Decoded Choice :=
  match v with
  | .map entries =>
    Choice.mk <$> required entries "id" [] idText
      <*> required entries "label" [] filledText
      <*> required entries "goto" [] idText
  | _ => .mismatch (.notRecord "ChoiceOption")

def onErrorWords : List (String × OnError) :=
  [("fail", .fail), ("continue", .proceed)]

def statusWords : List (String × Status) :=
  [("success", .success), ("failure", .failure), ("cancel", .cancel)]

/-- The words that name the kinds of steps. -/
def actionTags : List String := ["prompt", "choice", "command", "assert", "goto", "end"]

/-- The fields of a kind of step beyond those that all steps have. -/
def decodeAction? (entries : List (Value × Value)) (tag : String) : Option (Decoded Action) :=
  match tag with
  | "prompt" => some <| Action.prompt <$> required entries "message" [] filledText
      <*> required entries "variable" [] filledText
      <*> optional entries "defaultValue" ["default_value"] none textOrNull
  | "choice" => some <| Action.choice <$> required entries "message" [] filledText
      <*> required entries "options" [] (boundedList 1 decodeChoice)
  | "command" => some <| Action.command <$> required entries "command" [] filledText
      <*> optional entries "args" [] none (nullable (Record.list text))
      <*> optional entries "cwd" [] none textOrNull
      <*> optional entries "onError" ["on_error"] .fail (oneOf onErrorWords)
  | "assert" => some <| Action.require
      <$> required entries "expression" [] (boundedText 1 (some maxExpressionLength))
      <*> optional entries "message" [] none textOrNull
  | "goto" => some <| Action.goto <$> required entries "target" [] idText
  | "end" => some <| Action.finish <$> optional entries "status" [] .success (oneOf statusWords)
      <*> optional entries "message" [] none textOrNull
  | _ => none

/-- A step: its tag says which kind it is of, and so which fields it has. -/
def decodeStep (v : Value) : Decoded Step :=
  match v with
  | .map entries => match Value.lookup "type" entries with
    | none => .mismatch (.tagMissing "type")
    | some tag => match tag.text?.bind fun word => (decodeAction? entries word).map (word, ·) with
      | none => .mismatch (.tagUnknown "type" tag.display actionTags)
      | some (word, action) =>
        Decoded.under (.name word) <|
          Step.mk <$> required entries "id" [] idText
            <*> optional entries "description" [] none textOrNull
            <*> optional entries "when" [] none textOrNull
            <*> action
  | _ => .mismatch .notTagged

/-- A version may be given as a number, which then stands for its text. -/
def versionText (v : Value) : Decoded (Option String) :=
  match v with
  | .int _ | .float _ => .ok (some v.display)
  | _ => textOrNull v

/-- A script, without regard to how its steps refer to each other. -/
def decode (v : Value) : Decoded Script :=
  match v with
  | .map entries =>
    Script.mk <$> optional entries "name" [] none textOrNull
      <*> optional entries "version" [] none versionText
      <*> optional entries "start" [] none (nullable idText)
      <*> required entries "steps" [] (boundedList 1 decodeStep)
  | _ => .mismatch (.notRecord "Script")

end Script

/-- Why an input is no script. -/
inductive ScriptFault where
  | schema (origin : Origin) (issues : List Issue)
  | graph (fault : GraphFault)
deriving DecidableEq

def ScriptFault.message : ScriptFault → String
  | schema origin issues =>
    "Invalid script: " ++
      "; ".intercalate (issues.map fun i => i.place ++ ": " ++ i.mismatch.message origin)
  | graph fault => fault.message

namespace Script

/-- The script itself, if its steps refer to each other properly. -/
def checked (script : Script) : Except ScriptFault Script :=
  match script.graphFault? with
  | some fault => .error (.graph fault)
  | none => .ok script

def ofDecoded (origin : Origin) (d : Decoded Script) : Except ScriptFault Script :=
  match d with
  | .ok script => script.checked
  | .bad issues => .error (.schema origin issues)

/-- Containers in a script's JSON text may be nested this deep. -/
def maxJsonDepth : Nat := 200

/-- A script from its JSON text. -/
def ofJson (s : String) : Except ScriptFault Script :=
  match Json.read? maxJsonDepth s with
  | some v => ofDecoded .json (decode v)
  | none => .error (.schema .json [⟨[], .malformedJson⟩])

/-- A script from its JSON text in bytes. -/
def ofJsonBytes (bs : List UInt8) : Except ScriptFault Script :=
  match String.fromUTF8? (ByteArray.mk bs.toArray) with
  | some s => ofJson s
  | none => .error (.schema .json [⟨[], .malformedJson⟩])

/-- A script from untrusted input: a document, or a text or bytes that hold JSON. -/
def ofInput (v : Value) : Except ScriptFault Script :=
  match v with
  | .text s => ofJson s
  | .bytes bs => ofJsonBytes bs
  | v => ofDecoded .document (decode v)

end Script

end Stepwise
