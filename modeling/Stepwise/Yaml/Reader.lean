import Stepwise.Text.Base64
import Stepwise.Text.Quoted
import Stepwise.Yaml.Lexer
import Stepwise.Yaml.Node

namespace Stepwise.Yaml

/-- What building a value gives. Values are built level by level, so of two faults the one at the
    lesser depth counts. -/
inductive Built (α : Type) where
  | ok (a : α)
  | bad (depth : Nat) (fault : Fault)

namespace Built

variable {α β γ : Type}

def both (f : α → β → γ) (x : Built α) (y : Built β) : Built γ :=
  match x, y with
  | ok a, ok b => ok (f a b)
  | bad d e, bad d' e' => if d' < d then bad d' e' else bad d e
  | bad d e, _ => bad d e
  | _, bad d e => bad d e

def map (f : α → β) : Built α → Built β
  | ok a => ok (f a)
  | bad d e => bad d e

def ofExcept (depth : Nat) : Except Fault α → Built α
  | .ok a => ok a
  | .error e => bad depth e

end Built

/-! ### Scalars -/

private def signed (s : String) : Except Fault (Bool × List Char) :=
  match s.toList.filter (· != '_') with
  | [] => .error .noDigits
  | '-' :: rest => .ok (true, rest)
  | '+' :: rest => .ok (false, rest)
  | cs => .ok (false, cs)

private def integerIn (base : Nat) (cs : List Char) : Except Fault Int :=
  match Text.readInteger base (Text.asciiNumeral cs) with
  | .ok n => .ok n
  | .error e => .error (.badValue (e.message base (Text.quoted (String.ofList cs))))

private def splitColons (cs : List Char) : List (List Char) :=
  match cs with
  | [] => [[]]
  | c :: rest =>
    if c == ':' then [] :: splitColons rest
    else match splitColons rest with
      | [] => [[c]]
      | part :: parts => (c :: part) :: parts

/-- An integer; its first characters tell its base. -/
def integer (s : String) : Except Fault Int := do
  let (negative, cs) ← signed s
  let n ← match cs with
    | ['0'] => pure 0
    | '0' :: 'b' :: rest => integerIn 2 rest
    | '0' :: 'x' :: rest => integerIn 16 rest
    | '0' :: _ => integerIn 8 cs
    | [] => throw .noDigits
    | _ =>
      if cs.contains ':' then
        return ← (do
          let parts ← (splitColons cs).mapM (integerIn 10)
          let n := parts.foldl (fun acc part => acc * 60 + part) 0
          pure (if negative then -n else n))
      else integerIn 10 cs
  return if negative then -n else n

private def floatIn (cs : List Char) : Except Fault Float :=
  match Text.readFloat? (Text.asciiNumeral cs) with
  | some x => .ok x
  | none =>
    .error (.badValue ("could not convert string to float: " ++ Text.quoted (String.ofList cs)))

/-- A number with a fraction, or groups of sixty before it. -/
def float (s : String) : Except Fault Float := do
  let (negative, cs) ← signed (s.map Char.toLower)
  let x ← match String.ofList cs with
    | ".inf" => pure (1.0 / 0.0)
    | ".nan" => return 0.0 / 0.0
    | _ =>
      if cs.contains ':' then do
        let parts ← (splitColons cs).mapM floatIn
        pure (parts.reverse.foldl (fun (sum, base) part => (sum + part * base, base * 60.0))
          ((0.0 : Float), (1.0 : Float))).1
      else floatIn cs
  return if negative then -x else x

def moment (s : String) : Except Fault Value :=
  match MomentText.ofChars? s.toList with
  | none => .error .notMoment
  | some t => match t.toMoment with
    | .ok m => .ok (.moment m)
    | .error message => .error (.badValue message)

/-- The value of a scalar with a tag. -/
def scalar (tag : Tag) (s : String) : Except Fault Value :=
  match tag with
  | .null => .ok .null
  | .bool => match Tag.truthWords.lookup (s.map Char.toLower) with
    | some b => .ok (.bool b)
    | none => .error (.unknownWord (s.map Char.toLower))
  | .int => (integer s).map .int
  | .float => (float s).map .float
  | .text => .ok (.text s)
  | .binary =>
    if s.toList.all (·.toNat < 0x80) then match Text.readBase64? s.toList with
      | some bytes => .ok (.bytes bytes)
      | none => .error .malformed
    else .error .malformed
  | .moment => moment s
  | _ => .error .malformed

/-! ### Collections -/

/-- The entries of a mapping after those that it merges from others. -/
def flatten : Nat → List (Node × Node) → Except Fault (List (Node × Node))
  | 0, _ => .error .malformed
  | fuel + 1, entries => do
    let (merged, kept) ← entries.foldlM (fun (merged, kept) entry => do
      match entry with
      | (.scalar .merge _, .mapping _ inner) => return (merged ++ (← flatten fuel inner), kept)
      | (.scalar .merge _, .sequence _ items) =>
        let parts ← items.mapM fun
          | .mapping _ inner => flatten fuel inner
          | _ => .error .malformed
        return (merged ++ parts.reverse.flatten, kept)
      | (.scalar .merge _, _) => .error .malformed
      | (.scalar .equals s, value) => return (merged, kept ++ [(.scalar .text s, value)])
      | entry => return (merged, kept ++ [entry])) ([], [])
    return merged ++ kept

/-- The text that a node gives where a scalar has to be. -/
def scalarText : Nat → Node → Except Fault String
  | 0, _ => .error .malformed
  | _ + 1, .scalar _ s => .ok s
  | _ + 1, .sequence _ _ => .error .malformed
  | fuel + 1, .mapping _ entries =>
    match entries.find? fun
      | (.scalar .equals _, _) => true
      | _ => false with
    | some (_, value) => scalarText fuel value
    | none => .error .malformed

private def isScalarTag : Tag → Bool
  | .null | .bool | .int | .float | .text | .binary | .moment => true
  | _ => false

private def keysOf (entries : List (Value × Value)) : Value :=
  match Value.mapOfEntries entries with
  | .map entries => .set (entries.map Prod.fst)
  | v => v

/-- The value of a node at a depth. -/
def build : Nat → Nat → Node → Built Value
  | 0, depth, _ => .bad depth .malformed
  | fuel + 1, depth, node =>
    let malformed : Built Value := .bad (depth + 1) .malformed
    let listOf (items : List Node) : Built (List Value) :=
      items.foldr (fun item rest => (build fuel (depth + 1) item).both List.cons rest) (.ok [])
    let entriesOf (entries : List (Node × Node)) : Built (List (Value × Value)) :=
      match flatten (fuel + 1) entries with
      | .error e => .bad (depth + 1) e
      | .ok entries => entries.foldr (fun (key, value) rest =>
          let key := match key with
            | .scalar _ _ => build fuel (depth + 1) key
            | _ => malformed
          (key.both Prod.mk (build fuel (depth + 1) value)).both List.cons rest) (.ok [])
    let pairsOf (items : List Node) : Built (List Value) :=
      items.foldr (fun item rest =>
        let pair := match item with
          | .mapping _ [(key, value)] =>
            (build fuel (depth + 1) key).both (fun k v => Value.list [k, v])
              (build fuel (depth + 1) value)
          | _ => malformed
        pair.both List.cons rest) (.ok [])
    match node with
    | .scalar tag s =>
      if tag matches .sequence | .mapping | .set | .orderedMap | .pairs then malformed
      else .ofExcept depth (scalar tag s)
    | .sequence tag items => match tag with
      | .sequence => (listOf items).map .list
      | .orderedMap | .pairs => (pairsOf items).map .list
      | .mapping | .set => malformed
      | _ => .bad depth .malformed
    | .mapping tag entries => match tag with
      | .mapping => (entriesOf entries).map Value.mapOfEntries
      | .set => (entriesOf entries).map keysOf
      | .sequence | .orderedMap | .pairs => malformed
      | tag =>
        if isScalarTag tag then .ofExcept depth (do scalar tag (← scalarText (fuel + 1) node))
        else .bad depth .malformed

/-- The value that a text holds; an empty text holds null. -/
def read (s : String) : Except Fault Value := do
  let tokens ← tokens s
  match ← Node.ofTokens tokens with
  | none => return .null
  | some node => match build (tokens.length + 2) 0 node with
    | .ok value => return value
    | .bad _ fault => throw fault

end Stepwise.Yaml
