import Stepwise.Record.Field
import Stepwise.Table

namespace Stepwise

open Record

/-- What is kept of a run, so that it can be resumed. -/
structure SavedRun where
  scriptId : String
  /-- The answers given, by step. -/
  answers : Table String
  vars : Table String
  lastStatus : Option String
  lastMessage : Option String
  /-- When it was saved, in milliseconds. -/
  updatedAt : Int
deriving DecidableEq

namespace SavedRun

/-- The saved run that a record stands for; one without a time is saved `now`. -/
def decode (now : Int) (v : Value) : Decoded SavedRun :=
  match v with
  | .map entries =>
    SavedRun.mk <$> required entries "scriptId" ["script_id"] text
      <*> optional entries "answers" [] .empty table
      <*> optional entries "vars" [] .empty table
      <*> optional entries "lastStatus" ["last_status"] none (nullable text)
      <*> optional entries "lastMessage" ["last_message"] none (nullable text)
      <*> optional entries "updatedAt" ["updated_at"] now integer
  | _ => .mismatch (.notRecord "SavedRunState")
where
  table (v : Value) : Decoded (Table String) := (textMap v).map Table.ofList

def tableValue (t : Table String) : Value := .ofFields (t.map Value.text).entries

/-- The record of a saved run. -/
def dump (s : SavedRun) : Value :=
  .ofFields [("scriptId", .text s.scriptId), ("answers", tableValue s.answers),
    ("vars", tableValue s.vars), ("lastStatus", .ofText? s.lastStatus),
    ("lastMessage", .ofText? s.lastMessage), ("updatedAt", .int s.updatedAt)]

end SavedRun

/-- The key under which the runs of a workspace are saved. -/
def stateKey (workspace : Option String) : String :=
  "walkthrough.state:" ++ (workspace.filter (!·.isEmpty)).getD "global"

end Stepwise
