import Stepwise.Json.Token
import Stepwise.Value.Basic

namespace Stepwise.Json

/-- A container whose end has not been reached. Entries are kept last first. -/
inductive Frame where
  | list (items : List Value)
  | entry (entries : List (Value × Value)) (key : Option String)

/-- What may come next. -/
inductive Expected where
  | value
  | valueOrEnd
  | keyOrEnd
  | key
  | colon
  | commaOrEnd
  | nothing
deriving DecidableEq

/-- A reader part way through a document: the open containers, innermost first, and the finished
    value once there is one. -/
structure Progress where
  frames : List Frame
  expected : Expected
  result : Option Value

/-- Why a text is not read. -/
inductive Fault where
  | malformed
  /-- A mapping, or a list, lies in more containers than may be nested. -/
  | tooDeep (isMap : Bool)
  /-- An integer has more digits than one may have. -/
  | tooLong (digits : Nat)
deriving DecidableEq

/-- How deep containers may be nested, and how many digits an integer may have if that is bounded. -/
structure Limits where
  depth : Nat
  digits : Option Nat

namespace Progress

def start : Progress := ⟨[], .value, none⟩

/-- Puts a finished value in its place. -/
def deliver (p : Progress) (value : Value) : Except Fault Progress :=
  match p.frames with
  | [] => .ok ⟨[], .nothing, some value⟩
  | .list items :: rest => .ok ⟨.list (value :: items) :: rest, .commaOrEnd, none⟩
  | .entry entries (some key) :: rest =>
    .ok ⟨.entry ((.text key, value) :: entries) none :: rest, .commaOrEnd, none⟩
  | .entry _ none :: _ => .error .malformed

def takesValue (p : Progress) : Bool :=
  p.expected == .value || p.expected == .valueOrEnd

def takesKey (p : Progress) : Bool :=
  p.expected == .key || p.expected == .keyOrEnd

/-- Takes one token. -/
def step (limits : Limits) (p : Progress) (token : Token) : Except Fault Progress :=
  match token with
  | .openBracket => opened p false ⟨.list [] :: p.frames, .valueOrEnd, none⟩
  | .openBrace => opened p true ⟨.entry [] none :: p.frames, .keyOrEnd, none⟩
  | .closeBracket => match p.frames with
    | .list items :: rest =>
      if p.expected == .valueOrEnd || p.expected == .commaOrEnd then
        deliver ⟨rest, .value, none⟩ (.list items.reverse)
      else throw .malformed
    | _ => throw .malformed
  | .closeBrace => match p.frames with
    | .entry entries none :: rest =>
      if p.expected == .keyOrEnd || p.expected == .commaOrEnd then
        deliver ⟨rest, .value, none⟩ (Value.mapOfEntries entries.reverse)
      else throw .malformed
    | _ => throw .malformed
  | .colon => if p.expected == .colon then return { p with expected := .value } else throw .malformed
  | .comma =>
    if p.expected == .commaOrEnd then
      match p.frames with
      | .list _ :: _ => return { p with expected := .value }
      | .entry _ _ :: _ => return { p with expected := .key }
      | [] => throw .malformed
    else throw .malformed
  | .null => scalar p .null
  | .bool b => scalar p (.bool b)
  | .float x => scalar p (.float x)
  | .integer n digits =>
    if !p.takesValue then throw .malformed
    else if limits.digits.any (· < digits) then throw (.tooLong digits)
    else deliver p (.int n)
  | .text s => match p.frames with
    | .entry entries none :: rest =>
      if p.takesKey then return ⟨.entry entries (some s) :: rest, .colon, none⟩
      else throw .malformed
    | _ => scalar p (.text s)
where
  opened (p : Progress) (isMap : Bool) (inside : Progress) : Except Fault Progress :=
    if !p.takesValue then throw .malformed
    else if p.frames.length < limits.depth then return inside
    else throw (.tooDeep isMap)
  scalar (p : Progress) (value : Value) : Except Fault Progress :=
    if p.takesValue then deliver p value else throw .malformed

end Progress

/-- The value that a text holds. Of entries with one key the last counts. What stands after a fault
    is not looked at. -/
def read (limits : Limits) (s : String) : Except Fault Value := do
  let (tokens, isWhole) := tokens s
  let final ← tokens.foldlM (Progress.step limits) .start
  match isWhole, final.result with
  | true, some value => return value
  | _, _ => throw .malformed

/-- The value that a text holds, if it holds one, with integers of any length. -/
def read? (maxDepth : Nat) (s : String) : Option Value :=
  (read ⟨maxDepth, none⟩ s).toOption

end Stepwise.Json
