import Stepwise.Disk.Basic
import Stepwise.Store.SavedRun
import Stepwise.Yaml.Reader
import Stepwise.Yaml.Writer

namespace Stepwise

/-- Why a store cannot be read or written. -/
inductive StoreFault where
  | disk (fault : DiskFault)
  | content (fault : Yaml.Fault)
  | badRecord (issues : List Record.Issue)
deriving DecidableEq

/-- The name of the kind of fault. -/
def StoreFault.kind : StoreFault → String
  | disk fault => fault.kind
  | content fault => fault.kind
  | badRecord _ => "ValidationError"

namespace SavedRun

/-- What is saved under a key among the entries of a store; an empty record counts as none. -/
def find (now : Int) (key : String) (entries : List (Value × Value)) :
    Except StoreFault (Option SavedRun) :=
  match Value.lookup key entries with
  | none => .ok none
  | some v =>
    if !v.isTruthy then .ok none
    else match decode now v with
      | .ok run => .ok (some run)
      | .bad issues => .error (.badRecord issues)

/-- The entries of a store in which something, or nothing, is saved under a key. -/
def put (key : String) (run : Option SavedRun) (entries : List (Value × Value)) :
    List (Value × Value) :=
  match run with
  | none => Value.eraseField key entries
  | some run => Value.insertEntry (.text key) run.dump entries

end SavedRun

/-- A store in a file, which is a mapping from keys to saved runs. -/
structure FileStore where
  path : Path
deriving DecidableEq

namespace FileStore

/-- The entries in the file. A file that is missing, or that holds no mapping, has none. -/
def entries (store : FileStore) (d : Disk) : Except StoreFault (List (Value × Value)) := do
  if !d.contains store.path then return []
  let s ← (d.readText store.path).mapError .disk
  match ← (Yaml.read s).mapError .content with
  | .map entries => return entries
  | _ => return []

def get (store : FileStore) (d : Disk) (now : Int) (key : String) :
    Except StoreFault (Option SavedRun) := do
  SavedRun.find now key (← store.entries d)

/-- Saves a run, or nothing, under a key. A file that would hold nothing is removed. -/
def update (store : FileStore) (d : Disk) (key : String) (run : Option SavedRun) :
    Except StoreFault Disk := do
  let entries := SavedRun.put key run (← store.entries d)
  if entries.isEmpty then return d.remove store.path
  let d ← (d.makeDirectory store.path.parent).mapError .disk
  (d.writeText store.path (Yaml.writeMapping entries)).mapError .disk

end FileStore

end Stepwise
