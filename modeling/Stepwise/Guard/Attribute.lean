import Stepwise.Guard.Fault

namespace Stepwise.Guard

/-- The attributes of integers that are no methods of a value. -/
def integerProperties : List String := ["real", "imag", "numerator", "denominator"]

def integerMethods : List String :=
  ["as_integer_ratio", "bit_count", "bit_length", "conjugate", "to_bytes"]

def floatMethods : List String := ["as_integer_ratio", "conjugate", "hex", "is_integer"]

def bytesMethods : List String := [
  "capitalize", "center", "count", "decode", "endswith", "expandtabs", "find", "hex", "index",
  "isalnum", "isalpha", "isascii", "isdigit", "islower", "isspace", "istitle", "isupper", "join",
  "ljust", "lower", "lstrip", "partition", "removeprefix", "removesuffix", "replace", "rfind",
  "rindex", "rjust", "rpartition", "rsplit", "rstrip", "split", "splitlines", "startswith",
  "strip", "swapcase", "title", "translate", "upper", "zfill"]

def textMethods : List String := [
  "capitalize", "casefold", "center", "count", "encode", "endswith", "expandtabs", "find",
  "format", "format_map", "index", "isalnum", "isalpha", "isascii", "isdecimal", "isdigit",
  "isidentifier", "islower", "isnumeric", "isprintable", "isspace", "istitle", "isupper", "join",
  "ljust", "lower", "lstrip", "partition", "removeprefix", "removesuffix", "replace", "rfind",
  "rindex", "rjust", "rpartition", "rsplit", "rstrip", "split", "splitlines", "startswith",
  "strip", "swapcase", "title", "translate", "upper", "zfill"]

def listMethods : List String := [
  "append", "clear", "copy", "count", "extend", "index", "insert", "pop", "remove", "reverse",
  "sort"]

def mappingMethods : List String := [
  "clear", "copy", "fromkeys", "get", "items", "keys", "pop", "popitem", "setdefault", "update",
  "values"]

/-- What a type holds under a name, seen from the type. -/
def Builtin.member? (type : Builtin) (name : String) : Option Member :=
  match type with
  | .len => none
  | .int | .bool =>
    if integerProperties.contains name then some .property
    else if integerMethods.contains name then some .method
    else if name == "from_bytes" || name == "mro" then some .function
    else none
  | .float =>
    if name == "real" || name == "imag" then some .property
    else if floatMethods.contains name then some .method
    else if name == "fromhex" || name == "mro" then some .function
    else none
  | .str =>
    if textMethods.contains name then some .method
    else if name == "maketrans" || name == "mro" then some .function
    else none

/-- A property of a number. -/
def integerProperty? (n : Int) : String → Option Datum
  | "real" | "numerator" => some (.int n)
  | "imag" => some (.int 0)
  | "denominator" => some (.int 1)
  | _ => none

/-- An attribute of a value other than the variables. -/
def Datum.attribute? (owner : Datum) (name : String) : Option Datum :=
  let method (names : List String) : Option Datum :=
    if names.contains name then some (.bound owner name) else none
  match owner with
  | .bool b =>
    integerProperty? (if b then 1 else 0) name <|> method ("from_bytes" :: integerMethods)
  | .int n => integerProperty? n name <|> method ("from_bytes" :: integerMethods)
  | .float x => match name with
    | "real" => some (.float x)
    | "imag" => some (.float 0.0)
    | _ => method ("fromhex" :: floatMethods)
  | .complex re im => match name with
    | "real" => some (.float re)
    | "imag" => some (.float im)
    | _ => method ["conjugate"]
  | .text _ => method ("maketrans" :: textMethods)
  | .bytes _ => method ("fromhex" :: "maketrans" :: bytesMethods)
  | .list _ => method listMethods
  | .tuple _ => method ["count", "index"]
  | .mapping _ => method mappingMethods
  | .builtin type => (type.member? name).map (.member type name)
  | .nothing | .ellipsis | .vars | .bound _ _ | .member _ _ _ => none

/-- Reads an attribute. Every name is an attribute of the variables; one that no variable has
    reads as nothing. -/
def Datum.attribute (vars : String → Option Datum) (owner : Datum) (name : String) :
    Except Fault Datum :=
  match owner with
  | .vars => .ok ((vars name).getD .nothing)
  | _ => match owner.attribute? name, owner with
    | some d, _ => .ok d
    | none, .builtin .len => .error (.noAttribute owner.typeName name)
    | none, .builtin type => .error (.typeNoAttribute type.name name)
    | none, _ => .error (.noAttribute owner.typeName name)

/-- A position that sequences can have at all. -/
def fitsIndex (n : Int) : Bool :=
  -0x8000000000000000 ≤ n && n < 0x8000000000000000

/-- The item at a position, counted from the end if negative. -/
def itemAt {α : Type} (items : List α) (n : Int) : Option α :=
  if n < 0 then
    if 0 ≤ n + items.length then items[(n + items.length).toNat]? else none
  else items[n.toNat]?

def sequenceItem {α : Type} (kind : String) (shown : String) (items : List α)
    (result : α → Datum) (index : Datum) : Except Fault Datum :=
  match index.index? with
  | none => .error (.sequenceIndex kind index.typeName)
  | some n =>
    if !fitsIndex n then .error .hugeIndex
    else match itemAt items n with
      | some item => .ok (result item)
      | none => .error (.outOfRange shown)

/-- Reads an item. -/
def Datum.item (vars : String → Option Datum) (owner index : Datum) : Except Fault Datum :=
  match owner with
  | .vars => match index.unhashable? with
    | some type => .error (.unhashable type)
    | none => match index with
      | .text name => .ok ((vars name).getD .nothing)
      | _ => .ok .nothing
  | .text s => match index.index? with
    | none => .error (.textIndex index.typeName)
    | some _ => sequenceItem "string" "string " s.toList (fun c => .text (String.ofList [c])) index
  | .list items => sequenceItem "list" "list " items id index
  | .tuple items => sequenceItem "tuple" "tuple " items id index
  | .bytes bs => sequenceItem "byte" "" bs (fun b => .int b.toNat) index
  | .mapping entries => match index.unhashable? with
    | some type => .error (.unhashable type)
    | none => match index with
      | .text key => match entries.lookup key with
        | some d => .ok d
        | none => .error (.missingKey index.quoted)
      | _ => .error (.missingKey index.quoted)
  | .builtin .len => .error (.notSubscriptable owner.typeName)
  | .builtin type => .error (.typeNotSubscriptable type.name)
  | _ => .error (.notSubscriptable owner.typeName)

end Stepwise.Guard
