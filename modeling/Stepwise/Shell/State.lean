import Stepwise.Disk.Basic

namespace Stepwise.Shell

/-- Where the bytes go that a program writes. -/
inductive Sink where
  | out
  | err
  | file (path : Path)
  | nowhere
deriving DecidableEq

/-- What programs run in, and what they have written. -/
structure State where
  disk : Disk
  env : List (String × String)
  /-- The words that a script was started with; the first one is its name. -/
  args : List String
  status : Int
  out : List UInt8
  err : List UInt8
  /-- Where the two descriptors for output lead. -/
  first : Sink
  second : Sink
  input : List UInt8
  /-- How many seconds have passed, and how many may. -/
  elapsed : Float
  limit : Option Float
  /-- The script ends here. -/
  isOver : Bool

namespace State

def start (disk : Disk) (env : List (String × String)) (limit : Option Float) : State :=
  ⟨disk, env, [], 0, [], [], .out, .err, [], 0.0, limit, false⟩

/-- The time is up, so that nothing happens any more. -/
def isLate (s : State) : Bool :=
  match s.limit with
  | some limit => limit ≤ s.elapsed
  | none => false

def wait (s : State) (seconds : Float) : State :=
  { s with elapsed := s.elapsed + seconds }

private def pour (s : State) (sink : Sink) (bs : List UInt8) : State :=
  match sink with
  | .out => { s with out := s.out ++ bs }
  | .err => { s with err := s.err ++ bs }
  | .nowhere => s
  | .file p => match s.disk.readBytes p with
    | .ok old => { s with disk := (s.disk.writeBytes p (old ++ bs)).toOption.getD s.disk }
    | .error _ => s

/-- Writes bytes as output. -/
def write (s : State) (bs : List UInt8) : State := s.pour s.first bs

def say (s : State) (text : String) : State := s.write (Text.toBytes text)

/-- Writes a complaint, and fails. -/
def complain (s : State) (status : Int) (text : String) : State :=
  { s.pour s.second (Text.toBytes (text ++ "\n")) with status }

def succeed (s : State) : State := { s with status := 0 }

end State

end Stepwise.Shell
