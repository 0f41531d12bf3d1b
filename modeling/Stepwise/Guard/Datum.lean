import Stepwise.Guard.Admission
import Stepwise.Text.Quoted
import Stepwise.Text.Numeral
import Stepwise.Decimal.Shortest
import Stepwise.Value.Basic

namespace Stepwise.Guard

/-- What an attribute of a type is, seen from the type itself. -/
inductive Member where
  | method
  | property
  | function
deriving DecidableEq

/-- A value that an expression may take. -/
inductive Datum where
  | nothing
  | bool (b : Bool)
  | int (n : Int)
  | float (x : Float)
  | complex (re im : Float)
  | text (s : String)
  | bytes (bs : List UInt8)
  | ellipsis
  | list (items : List Datum)
  | tuple (items : List Datum)
  | mapping (entries : List (String × Datum))
  /-- The variables of the run as a whole. -/
  | vars
  | builtin (f : Builtin)
  /-- A method of a value, not yet called. -/
  | bound (owner : Datum) (name : String)
  /-- A part of a type, taken from the type itself. -/
  | member (owner : Builtin) (name : String) (kind : Member)
deriving Inhabited

/-- The name of a type, as messages give it. -/
def Datum.typeName : Datum → String
  | nothing => "NoneType"
  | bool _ => "bool"
  | int _ => "int"
  | float _ => "float"
  | complex _ _ => "complex"
  | text _ => "str"
  | bytes _ => "bytes"
  | ellipsis => "ellipsis"
  | list _ => "list"
  | tuple _ => "tuple"
  | mapping _ => "dict"
  | vars => "VarsView"
  | builtin .len => "builtin_function_or_method"
  | builtin _ => "type"
  | bound _ _ => "builtin_function_or_method"
  | member _ _ .method => "method_descriptor"
  | member _ _ .property => "getset_descriptor"
  | member _ _ .function => "builtin_function_or_method"

/-- What the value counts as where a truth value is asked for. -/
def Datum.isTruthy : Datum → Bool
  | nothing => false
  | bool b => b
  | int n => n != 0
  | float x => x != 0.0
  | complex re im => re != 0.0 || im != 0.0
  | text s => !s.isEmpty
  | bytes bs => !bs.isEmpty
  | list items | tuple items => !items.isEmpty
  | mapping entries => !entries.isEmpty
  | ellipsis | vars | builtin _ | bound _ _ | member _ _ _ => true

mutual

/-- The value of a variable. -/
def Datum.ofValue : Value → Datum
  | .null => .nothing
  | .bool b => .bool b
  | .int n => .int n
  | .float x => .float x
  | .text s => .text s
  | .bytes bs => .bytes bs
  | .moment _ => .ellipsis
  | .list items | .set items => .list (Datum.ofValues items)
  | .map entries => .mapping (Datum.ofEntries entries)

def Datum.ofValues : List Value → List Datum
  | [] => []
  | item :: rest => Datum.ofValue item :: Datum.ofValues rest

def Datum.ofEntries : List (Value × Value) → List (String × Datum)
  | [] => []
  | (.text key, value) :: rest => (key, Datum.ofValue value) :: Datum.ofEntries rest
  | _ :: rest => Datum.ofEntries rest

end

def Datum.ofConstant : Constant → Datum
  | .none => .nothing
  | .bool b => .bool b
  | .int n => .int n
  | .float x => .float x
  | .imaginary x => .complex 0.0 x
  | .text s => .text s
  | .bytes bs => .bytes bs
  | .ellipsis => .ellipsis

/-- The integer that a value stands for where a position is asked for. -/
def Datum.index? : Datum → Option Int
  | bool b => some (if b then 1 else 0)
  | int n => some n
  | _ => none

mutual

/-- The value may be looked up among keys; the name of the type that prevents it otherwise. -/
def Datum.unhashable? : Datum → Option String
  | .list _ => some "list"
  | .mapping _ => some "dict"
  | .tuple items => unhashableAmong? items
  | _ => none

def unhashableAmong? : List Datum → Option String
  | [] => none
  | item :: rest => item.unhashable? <|> unhashableAmong? rest

end

def imaginaryText (x : Float) : String :=
  let shown := Decimal.ofFloat x
  if shown.endsWith ".0" then String.ofList (shown.toList.take (shown.length - 2)) else shown

def complexText (re im : Float) : String :=
  let imaginary := imaginaryText im
  if re == 0.0 && !Decimal.isNegative re then imaginary ++ "j"
  else "(" ++ imaginaryText re ++ (if Decimal.isNegative im && !im.isNaN then "" else "+") ++
    imaginary ++ "j)"

def memberText (owner name : String) : Member → String
  | .method => "<method '" ++ name ++ "' of '" ++ owner ++ "' objects>"
  | .property => "<attribute '" ++ name ++ "' of '" ++ owner ++ "' objects>"
  | .function => "<built-in method " ++ name ++ " of type object>"

mutual

/-- The value as it stands inside the text of another value. -/
def Datum.quoted : Datum → String
  | .nothing => "None"
  | .bool b => if b then "True" else "False"
  | .int n => toString n
  | .float x => Decimal.ofFloat x
  | .complex re im => complexText re im
  | .text s => Text.quoted s
  | .bytes bs => Text.quotedBytes bs
  | .ellipsis => "Ellipsis"
  | .list items => "[" ++ ", ".intercalate (quotedItems items) ++ "]"
  | .tuple [item] => "(" ++ item.quoted ++ ",)"
  | .tuple items => "(" ++ ", ".intercalate (quotedItems items) ++ ")"
  | .mapping entries => "\x7b" ++ ", ".intercalate (quotedEntries entries) ++ "\x7d"
  | .vars => "<VarsView object>"
  | .builtin .len => "<built-in function len>"
  | .builtin f => "<class '" ++ f.name ++ "'>"
  | .bound owner name => "<built-in method " ++ name ++ " of " ++ owner.typeName ++ " object>"
  | .member owner name kind => memberText owner.name name kind

def quotedItems : List Datum → List String
  | [] => []
  | item :: rest => item.quoted :: quotedItems rest

def quotedEntries : List (String × Datum) → List String
  | [] => []
  | (key, value) :: rest => (Text.quoted key ++ ": " ++ value.quoted) :: quotedEntries rest

end

def Datum.display : Datum → String
  | .text s => s
  | d => d.quoted

def hasManyDigits (n : Int) : Bool :=
  Nat.pow 10 Text.maxIntegerDigits ≤ n.natAbs

mutual

/-- An integer with too many digits to be written is part of the value. -/
def Datum.isUnwritable : Datum → Bool
  | .int n => hasManyDigits n
  | .list items | .tuple items => anyUnwritable items
  | .mapping entries => anyEntryUnwritable entries
  | _ => false

def anyUnwritable : List Datum → Bool
  | [] => false
  | item :: rest => item.isUnwritable || anyUnwritable rest

def anyEntryUnwritable : List (String × Datum) → Bool
  | [] => false
  | (_, value) :: rest => value.isUnwritable || anyEntryUnwritable rest

end

end Stepwise.Guard
