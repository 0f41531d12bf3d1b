import Stepwise.Shell.Run
import Stepwise.Surface
import Stepwise.Text.Digit

namespace Stepwise

/-- A terminal: the lines that are still to be typed, and what was shown. -/
structure Terminal where
  typed : List String
  shown : String
deriving DecidableEq

namespace Terminal

/-- A terminal at which a text will be typed. -/
def ofInput (text : String) : Terminal :=
  let lines := (text.splitOn "\n")
  ⟨if lines.getLast? == some "" then lines.dropLast else lines, ""⟩

def print (t : Terminal) (s : String) : Terminal :=
  { t with shown := t.shown ++ s }

def display (t : Terminal) (line : String) : Terminal :=
  t.print (line ++ "\n")

/-- Asks for a line. Blanks around it do not count, and an empty one takes the preset. -/
def input (t : Terminal) (prompt : String) (preset : Option String) :
    Except HostFault String × Terminal :=
  let offered := match preset with
    | some s => " [" ++ s ++ "]"
    | none => ""
  let t := t.print (prompt ++ offered ++ ": ")
  match t.typed with
  | [] => (.error .endOfInput, t)
  | line :: rest =>
    let reply := Text.trim line
    (.ok (if reply.isEmpty then preset.getD reply else reply), { t with typed := rest }.display "")

/-- The number of an option in a reply: digits of any script. One that is not written in decimal
    digits is no number at all. -/
def number? (reply : String) : Except HostFault (Option Int) :=
  if !reply.isEmpty && reply.toList.all Text.isDigit then
    match Text.readInteger 10 (Text.asciiNumeral reply.toList) with
    | .ok n => .ok (some n)
    | .error fault => .error (.badValue (fault.message 10 (Text.quoted reply)))
  else .ok none

/-- What a reply to a menu picks: the option with its number, or the one with its id. -/
def pick (ids : List Value) (reply : String) : Except HostFault (Option Value) :=
  (number? reply).map fun number =>
    match number.bind fun n => if 1 ≤ n then ids[n.toNat - 1]? else none with
    | some id => some id
    | none => if ids.any fun id => id.text? == some reply then some (.text reply) else none

def menu (message : String) (labels : List String) : String :=
  String.join ((["", message] ++ (labels.zipIdx.map fun (label, i) =>
    "  " ++ toString (i + 1) ++ ". " ++ label) ++ [""]).map (· ++ "\n"))

/-- Shows a menu and asks until a reply picks one of its options. -/
def choose (t : Terminal) (message : String) (ids : List Value) (labels : List String) :
    Except HostFault Value × Terminal :=
  go t.typed t.shown
where
  go (typed : List String) (shown : String) : Except HostFault Value × Terminal :=
    let t : Terminal := (Terminal.mk typed shown).print (menu message labels)
    match typed with
    | [] => (.error .endOfInput, (t.input "Select an option" none).2)
    | line :: rest =>
      let t := { (t.input "Select an option" none).2 with typed := rest }
      let reply := Text.trim line
      match pick ids reply with
      | .error fault => (.error fault, t)
      | .ok (some id) => (.ok id, t)
      | .ok none =>
        go rest (t.display ("Error: '" ++ reply ++ "' is not one of the options")).shown

end Terminal

/-- What becomes of a machine that is to run a command, in a directory and for so many seconds at
    most. -/
abbrev System :=
  Machine → List String → Option String → Option Float → Completion × Machine

/-- A terminal with a system behind it that runs commands. -/
structure Workstation where
  terminal : Terminal
  machine : Machine
  /-- Commands are shown before they run. -/
  isVerbose : Bool
  /-- How many seconds a command may take. -/
  limit : Option Value

namespace Workstation

def seconds? : Value → Option Float
  | .float x => some x
  | .int n => some (Float.ofInt n)
  | .bool b => some (if b then 1.0 else 0.0)
  | _ => none

/-- The default limit, in seconds. -/
def defaultLimit : Value := .float 20.0

/-- Has a system run a command, and reports its outcome. -/
def executeOn (system : System) (w : Workstation) (argv : List String) (cwd : Option String) :
    Except HostFault Outcome × Workstation :=
  let place := (cwd.filter (!·.isEmpty)).getD w.machine.disk.cwd.toString
  let terminal := if w.isVerbose then
      w.terminal.display ("[VERBOSE] $ " ++ " ".intercalate argv ++ "  (cwd: " ++ place ++ ")")
    else w.terminal
  let (completion, machine) := system w.machine argv cwd (w.limit.bind seconds?)
  (completion.outcome argv ((w.limit.map Value.display).getD ""), { w with terminal, machine })

/-- Runs a command on the machine. -/
def execute (w : Workstation) (argv : List String) (cwd : Option String) :
    Except HostFault Outcome × Workstation :=
  w.executeOn Machine.run argv cwd

def optionField (name : String) (option : Value) : Value :=
  (option.field? name).getD (.text "")

/-- A runner that asks at the terminal and runs commands on the system. -/
def runner : Runner Workstation where
  input prompt preset w :=
    let (reply, terminal) := w.terminal.input prompt preset
    (reply.map .text, { w with terminal })
  choose message options w :=
    let (id, terminal) := w.terminal.choose message (options.map (optionField "id"))
      (options.map fun option => (optionField "label" option).display)
    (id, { w with terminal })
  execute argv cwd w := w.execute argv cwd

/-- The same runner with another system behind its terminal. -/
def runnerOn (system : System) : Runner Workstation :=
  { runner with execute := fun argv cwd w => w.executeOn system argv cwd }

/-- Shows a message at the terminal. -/
def display (message : String) (w : Workstation) : Workstation :=
  { w with terminal := w.terminal.display message }

end Workstation

end Stepwise
