import Stepwise.Bundle.Sample
import Stepwise.Disk.Basic
import Stepwise.Json.Reader
import Stepwise.Run.Fault
import Stepwise.Yaml.Reader

namespace Stepwise

/-- Why no document or bundle is loaded from a file. -/
inductive LoadFault where
  | missing (path : Path)
  | unparsable (path : Path)
  /-- A container in a JSON file is nested too deeply; whether it is a mapping. -/
  | tooDeep (isMap : Bool)
  /-- An integer in a JSON file has too many digits. -/
  | tooLong (digits : Nat)
  | disk (fault : DiskFault)
  | content (fault : Yaml.Fault)
  | bundle (fault : BundleFault)
deriving DecidableEq

namespace LoadFault

def kind : LoadFault → String
  | missing _ => "FileNotFoundError"
  | unparsable _ | tooLong _ => "ValueError"
  | tooDeep _ => "RecursionError"
  | disk fault => fault.kind
  | content fault => fault.kind
  | bundle fault => fault.kind

def message : LoadFault → String
  | missing path => "Script bundle not found: " ++ path.toString
  | unparsable path => "Cannot parse script bundle " ++ path.toString
  | tooDeep isMap => "maximum recursion depth exceeded while decoding a JSON " ++
      (if isMap then "object" else "array") ++ " from a unicode string"
  | tooLong digits => (Text.IntegerFault.tooLong digits).message 10 ""
  | disk fault => fault.message
  | content fault => fault.message
  | bundle (.badEntry issues) => HostFault.issuesText "ScriptEntry" issues
  | bundle .badKey => "keywords must be strings"

/-- A fault that one has to reckon with: the file is not there, or what it holds is wrong. -/
def isExpected : LoadFault → Bool
  | missing _ | unparsable _ | tooLong _ => true
  | disk (.notFound _) | disk (.undecodable _) => true
  | content (.badValue _) => true
  | bundle (.badEntry _) => true
  | _ => false

end LoadFault

namespace Bundle

/-- Containers in a JSON file may be nested this deep, and its integers may have as many digits as a
    numeral. -/
def jsonLimits : Json.Limits := ⟨900, some Text.maxIntegerDigits⟩

/-- The suffix of the path says that the file is YAML. -/
def isYaml (p : Path) : Bool := p.suffix == ".yaml" || p.suffix == ".yml"

/-- The document that the text of a file holds, which is YAML or JSON as the path says. -/
def parse (p : Path) (s : String) : Except LoadFault Value :=
  if isYaml p then
    match Yaml.read s with
    | .ok v => .ok v
    | .error .malformed => .error (.unparsable p)
    | .error fault => .error (.content fault)
  else match Json.read jsonLimits s with
    | .ok v => .ok v
    | .error .malformed => .error (.unparsable p)
    | .error (.tooDeep isMap) => .error (.tooDeep isMap)
    | .error (.tooLong digits) => .error (.tooLong digits)

/-- The document in a file. -/
def readDocument (d : Disk) (p : Path) : Except LoadFault Value := do
  if !d.contains p then throw (.missing p)
  parse p (← (d.readText p).mapError .disk)

/-- The scripts in a file. -/
def load (d : Disk) (p : Path) : Except LoadFault (List Entry) := do
  (ofValue (← readDocument d p)).mapError .bundle

/-- The files that a directory is searched for, in order. -/
def candidates : List String := ["scripts.json", "bundle.json", "scripts.yaml"]

/-- The scripts of the first path that has any, and the sample if none has. -/
def firstOf (read : Path → Except LoadFault (List Entry)) :
    List Path → Except LoadFault (List Entry)
  | [] => .ok [sample]
  | p :: rest => match read p with
    | .ok [] => firstOf read rest
    | .ok entries => .ok entries
    | .error fault => if fault.isExpected then firstOf read rest else .error fault

/-- The scripts of the first candidate in a directory that has any. -/
def discover (d : Disk) (base : Path) : Except LoadFault (List Entry) :=
  firstOf (load d) (candidates.map fun name => base.join (Path.ofString name))

/-- Where a directory keeps its scripts unless it is told otherwise. -/
def defaultBase (cwd : Path) : Path := cwd.join (Path.ofString "walkthroughs")

end Bundle

end Stepwise
