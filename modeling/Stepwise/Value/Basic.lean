import Stepwise.Decimal.Binary

namespace Stepwise

/-- A time of day, with the distance from universal time in seconds if one was given. -/
structure TimeOfDay where
  hour : Nat
  minute : Nat
  second : Nat
  micro : Nat
  offset : Option Int
deriving DecidableEq

/-- A calendar day, or a moment of it. -/
structure Moment where
  year : Nat
  month : Nat
  day : Nat
  time : Option TimeOfDay
deriving DecidableEq

/-- A value of a document. A mapping keeps its entries in order and has each key once. -/
inductive Value where
  | null
  | bool (b : Bool)
  | int (n : Int)
  | float (x : Float)
  | text (s : String)
  | bytes (bs : List UInt8)
  | moment (m : Moment)
  | list (items : List Value)
  | map (entries : List (Value × Value))
  | set (members : List Value)
deriving Inhabited

namespace Value

/-- A mapping whose keys are texts. -/
def ofFields (fields : List (String × Value)) : Value :=
  .map (fields.map fun (name, value) => (.text name, value))

/-- An optional text, null when absent. -/
def ofText? : Option String → Value
  | some s => .text s
  | none => .null

def isNull : Value → Bool
  | null => true
  | _ => false

/-- Null, false, zero and whatever is empty count as false. -/
def isTruthy : Value → Bool
  | null => false
  | bool b => b
  | int n => n != 0
  | float x => x != 0.0
  | text s => !s.isEmpty
  | bytes bs => !bs.isEmpty
  | moment _ => true
  | list items => !items.isEmpty
  | map entries => !entries.isEmpty
  | set members => !members.isEmpty

def text? : Value → Option String
  | text s => some s
  | _ => none

/-- The value of the entry whose key is the text `name`. -/
def lookup (name : String) : List (Value × Value) → Option Value
  | [] => none
  | (text key, value) :: rest => if key = name then some value else lookup name rest
  | _ :: rest => lookup name rest

/-- The value under a text key, if this is a mapping that has it. -/
def field? (name : String) : Value → Option Value
  | map entries => lookup name entries
  | _ => none

/-- A finite number as an exact fraction; truth values count as one and zero. -/
def ratio? : Value → Option (Int × Nat)
  | bool b => some (if b then 1 else 0, 1)
  | int n => some (n, 1)
  | float x => Decimal.ratio? x
  | _ => none

/-- The two are numbers of the same size. -/
def sameNumber (x y : Value) : Bool :=
  match ratio? x, ratio? y with
  | some (n, d), some (m, e) => n * e == m * d
  | _, _ => match x, y with
    | float a, float b => a == b
    | _, _ => false

/-- The two would be one key of a mapping. Only values that may be keys are compared. -/
def sameKey : Value → Value → Bool
  | null, null => true
  | text s, text t => s == t
  | bytes bs, bytes cs => bs == cs
  | moment m, moment n => m == n
  | x, y => sameNumber x y

/-- The value may be a key of a mapping. -/
def isKey : Value → Bool
  | list _ | map _ | set _ => false
  | _ => true

/-- Adds an entry; an entry under the same key keeps its place and takes the new value. -/
def insertEntry (key value : Value) : List (Value × Value) → List (Value × Value)
  | [] => [(key, value)]
  | (k, v) :: rest =>
    if sameKey k key then (k, value) :: rest else (k, v) :: insertEntry key value rest

/-- The entries with each key once: the first place and the last value of each. -/
def mapOfEntries (entries : List (Value × Value)) : Value :=
  .map (entries.foldl (fun done (key, value) => insertEntry key value done) [])

/-- Removes the entry under a text key. -/
def eraseField (name : String) : List (Value × Value) → List (Value × Value)
  | [] => []
  | (text key, value) :: rest =>
    if key = name then rest else (text key, value) :: eraseField name rest
  | entry :: rest => entry :: eraseField name rest

end Value

end Stepwise
