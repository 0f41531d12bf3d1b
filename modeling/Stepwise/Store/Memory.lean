import Stepwise.Store.SavedRun

namespace Stepwise

/-- A store that keeps its runs in memory. -/
structure MemoryStore where
  runs : Table SavedRun

namespace MemoryStore

def empty : MemoryStore := ⟨.empty⟩

def get (store : MemoryStore) (key : String) : Option SavedRun :=
  store.runs.get? key

/-- Saves a run, or nothing, under a key. -/
def update (store : MemoryStore) (key : String) (run : Option SavedRun) : MemoryStore :=
  match run with
  | none => ⟨store.runs.erase key⟩
  | some run => ⟨store.runs.insert key run⟩

end MemoryStore

end Stepwise
