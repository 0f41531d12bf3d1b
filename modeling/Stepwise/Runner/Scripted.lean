import Stepwise.Surface

namespace Stepwise

/-- What a runner was called for. -/
inductive Call where
  | display (message : String)
  | input (prompt : String) (preset : Option String)
  | choose (message : String) (ids : List String)
  | shell (argv : List String) (cwd : Option String)
  | execute (command : String)
deriving DecidableEq

/-- Answers prepared for commands. -/
inductive Responses where
  | always (response : Value)
  /-- Answers by the words of the command. -/
  | byCommand (known : List (List String × Value)) (other : Option Value)

namespace Responses

/-- Success without output. -/
def silence : Value :=
  .ofFields [("stdout", .text ""), ("stderr", .text ""), ("returncode", .int 0)]

private def isComplete (v : Value) : Bool :=
  (v.field? "returncode").isSome

/-- A response without an exit code is the output of a command that succeeded. -/
private def completed (response : Value) : Value :=
  if isComplete response then response
  else .ofFields [("stdout", response), ("stderr", .text ""), ("returncode", .int 0)]

/-- The response to a command. A response prepared for every command counts only if it has an exit
    code, and otherwise for what it has by default. -/
def respond (responses : Responses) (argv : List String) : Value :=
  match responses with
  | .always response =>
    if isComplete response then response else (response.field? "default").getD silence
  | .byCommand known other => match (known.reverse).lookup argv with
    | some response => completed response
    | none => other.getD silence

end Responses

/-- A runner that answers from prepared queues. -/
structure Scripted where
  inputs : List Value
  choices : List Value
  responses : Responses

namespace Scripted

/-- The next prepared input; an empty one, or none, takes the preset. -/
def input (r : Scripted) (preset : Option String) : Value × Scripted :=
  match r.inputs with
  | reply :: rest => (if reply.isTruthy then reply else fallback, { r with inputs := rest })
  | [] => (fallback, r)
where
  fallback : Value := .text (preset.getD "")

/-- The next prepared choice, and the first option when none is left. -/
def choice (r : Scripted) (ids : List String) : Except HostFault Value × Scripted :=
  match r.choices, ids with
  | reply :: rest, _ => (.ok reply, { r with choices := rest })
  | [], id :: _ => (.ok (.text id), r)
  | [], [] => (.error .noSuchItem, r)

/-- What a command gives, as the record that it stands for. -/
def execute (r : Scripted) (argv : List String) : Except HostFault Outcome :=
  match Outcome.decode (r.responses.respond argv) with
  | .ok outcome => .ok outcome
  | .bad issues => .error (.badRecord "CommandResult" issues)

end Scripted

/-- A scripted runner at work, with what it was called for. -/
structure Rehearsal where
  scripted : Scripted
  calls : List Call

namespace Rehearsal

def note (r : Rehearsal) (scripted : Scripted) (call : Call) : Rehearsal :=
  ⟨scripted, r.calls ++ [call]⟩

/-- The runner that keeps account of its calls. -/
def runner : Runner Rehearsal where
  input prompt preset r :=
    let (answer, scripted) := r.scripted.input preset
    (.ok answer, r.note scripted (.input prompt preset))
  choose message options r :=
    let ids := options.map fun option => ((option.field? "id").bind Value.text?).getD ""
    let (answer, scripted) := r.scripted.choice ids
    (answer, r.note scripted (.choose message ids))
  execute argv cwd r := (r.scripted.execute argv, r.note r.scripted (.shell argv cwd))

def display (message : String) (r : Rehearsal) : Rehearsal :=
  r.note r.scripted (.display message)

end Rehearsal

end Stepwise
