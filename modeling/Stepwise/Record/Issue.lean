namespace Stepwise.Record

/-- Where a value came from; the wording of some messages depends on it. -/
inductive Origin where
  | document
  | json
deriving DecidableEq

/-- A step on the way from a record to one of its values. -/
inductive Part where
  | name (s : String)
  | index (n : Int)
deriving DecidableEq

def Part.display : Part → String
  | name s => s
  | index n => toString n

/-- Why a value does not fit where it stands. -/
inductive Mismatch where
  | missing
  | notText
  | textNotUnicode
  | textTooShort (least : Nat)
  | textTooLong (most : Nat)
  | notList
  | listTooShort (least size : Nat)
  | notMapping
  | notRecord (name : String)
  | notTagged
  | tagMissing (key : String)
  | tagUnknown (key shown : String) (expected : List String)
  | notOneOf (expected : List String)
  | notInteger
  | integerText
  | integerFraction
  | integerSize
  | notFinite
  | notNumber
  | numberText
  | notTruth
  | truthText
  | notPath
  | refused (reason : String)
  | malformedJson
deriving DecidableEq

namespace Mismatch

/-- The word that names the kind of mismatch. -/
def code (origin : Origin) : Mismatch → String
  | missing => "missing"
  | notText => "string_type"
  | textNotUnicode => "string_unicode"
  | textTooShort _ => "string_too_short"
  | textTooLong _ => "string_too_long"
  | notList => "list_type"
  | listTooShort _ _ => "too_short"
  | notMapping => "dict_type"
  | notRecord _ => "model_type"
  | notTagged => match origin with
    | .document => "model_attributes_type"
    | .json => "dict_type"
  | tagMissing _ => "union_tag_not_found"
  | tagUnknown _ _ _ => "union_tag_invalid"
  | notOneOf _ => "literal_error"
  | notInteger => "int_type"
  | integerText => "int_parsing"
  | integerFraction => "int_from_float"
  | integerSize => "int_parsing_size"
  | notFinite => "finite_number"
  | notNumber => "float_type"
  | numberText => "float_parsing"
  | notTruth => "bool_type"
  | truthText => "bool_parsing"
  | notPath => "path_type"
  | refused _ => "value_error"
  | malformedJson => "json_invalid"

private def plural (n : Nat) (word : String) : String :=
  toString n ++ " " ++ word ++ (if n == 1 then "" else "s")

private def quotedWords (words : List String) : List String :=
  words.map fun word => "'" ++ word ++ "'"

/-- Words with commas between them and `or` before the last. -/
private def alternatives : List String → String
  | [] => ""
  | [word] => word
  | [word, last] => word ++ " or " ++ last
  | word :: rest => word ++ ", " ++ alternatives rest

def message (origin : Origin) : Mismatch → String
  | missing => "Field required"
  | notText => "Input should be a valid string"
  | textNotUnicode => "Input should be a valid string, unable to parse raw data as a unicode string"
  | textTooShort least => "String should have at least " ++ plural least "character"
  | textTooLong most => "String should have at most " ++ plural most "character"
  | notList => match origin with
    | .document => "Input should be a valid list"
    | .json => "Input should be a valid array"
  | listTooShort least size =>
    "List should have at least " ++ plural least "item" ++ " after validation, not " ++ toString size
  | notMapping => match origin with
    | .document => "Input should be a valid dictionary"
    | .json => "Input should be an object"
  | notRecord name => match origin with
    | .document => "Input should be a valid dictionary or instance of " ++ name
    | .json => "Input should be an object"
  | notTagged => match origin with
    | .document => "Input should be a valid dictionary or object to extract fields from"
    | .json => "Input should be an object"
  | tagMissing key => "Unable to extract tag using discriminator '" ++ key ++ "'"
  | tagUnknown key shown expected =>
    "Input tag '" ++ shown ++ "' found using '" ++ key ++
      "' does not match any of the expected tags: " ++ ", ".intercalate (quotedWords expected)
  | notOneOf expected => "Input should be " ++ alternatives (quotedWords expected)
  | notInteger => "Input should be a valid integer"
  | integerText => "Input should be a valid integer, unable to parse string as an integer"
  | integerFraction => "Input should be a valid integer, got a number with a fractional part"
  | integerSize => "Unable to parse input string as an integer, exceeded maximum size"
  | notFinite => "Input should be a finite number"
  | notNumber => "Input should be a valid number"
  | numberText => "Input should be a valid number, unable to parse string as a number"
  | notTruth => "Input should be a valid boolean"
  | truthText => "Input should be a valid boolean, unable to interpret input"
  | notPath => "Input is not a valid path for <class 'pathlib.Path'>"
  | refused reason => "Value error, " ++ reason
  | malformedJson => "Invalid JSON"

end Mismatch

/-- A mismatch at a place of a record. -/
structure Issue where
  path : List Part
  mismatch : Mismatch
deriving DecidableEq

/-- The place with points between its parts; the whole record has a name of its own. -/
def Issue.place (issue : Issue) : String :=
  if issue.path.isEmpty then "<root>" else ".".intercalate (issue.path.map Part.display)

end Stepwise.Record
