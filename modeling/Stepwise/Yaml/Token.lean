import Stepwise.Text.Quoted

namespace Stepwise.Yaml

/-- Why a text does not yield a document. -/
inductive Fault where
  | malformed
  | badValue (message : String)
  /-- The code of a character is too large to be a number of the machine. -/
  | hugeCode
  | unknownWord (word : String)
  | noDigits
  | notMoment
deriving DecidableEq

namespace Fault

def kind : Fault → String
  | malformed => "YAMLError"
  | badValue _ => "ValueError"
  | hugeCode => "OverflowError"
  | unknownWord _ => "KeyError"
  | noDigits => "IndexError"
  | notMoment => "AttributeError"

def message : Fault → String
  | malformed => "malformed document"
  | badValue text => text
  | hugeCode => "Python int too large to convert to C int"
  | unknownWord word => Text.quoted word
  | noDigits => "string index out of range"
  | notMoment => "'NoneType' object has no attribute 'groupdict'"

end Fault

/-- A tag as it is written: the handle, if it has one, and the rest. -/
structure RawTag where
  handle : Option String
  suffix : String
deriving DecidableEq

inductive Token where
  | version (major : Nat)
  | tagPrefix (handle text : String)
  | directive
  | documentStart
  | documentEnd
  | blockSequenceStart
  | blockMappingStart
  | blockEnd
  | flowSequenceStart
  | flowSequenceEnd
  | flowMappingStart
  | flowMappingEnd
  | flowEntry
  | blockEntry
  | key
  | value
  | alias (name : String)
  | anchor (name : String)
  | tag (raw : RawTag)
  | scalar (text : String) (isPlain : Bool)
deriving DecidableEq

end Stepwise.Yaml
