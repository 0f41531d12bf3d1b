import Stepwise.Guard.Fault

namespace Stepwise.Guard

namespace Relation

/-- The sign of an order relation. -/
def symbol : Relation → String
  | eq => "=="
  | ne => "!="
  | lt => "<"
  | le => "<="
  | gt => ">"
  | ge => ">="
  | is => "is"
  | isNot => "is not"
  | isIn => "in"
  | notIn => "not in"

/-- How the relation judges an order. -/
def ofOrdering (relation : Relation) (order : Ordering) : Bool :=
  match relation with
  | eq | is => order == .eq
  | ne | isNot => order != .eq
  | lt => order == .lt
  | le => order != .gt
  | gt => order == .gt
  | ge => order != .lt
  | isIn | notIn => false

end Relation

namespace Datum

def toValue? : Datum → Option Value
  | bool b => some (.bool b)
  | int n => some (.int n)
  | float x => some (.float x)
  | _ => none

/-- The order of two real numbers; nothing if one of them is undefined. -/
def compareNumbers? (a b : Value) : Option Ordering :=
  match a.ratio?, b.ratio? with
  | some (n, d), some (m, e) => some (compare (n * e) (m * d))
  | _, _ =>
    let size (v : Value) : Option Float := match v with
      | .float x => if x.isNaN then none else some x
      | _ => some 0.0
    match size a, size b with
    | some x, some y =>
      let x := if x.isInf then x else 0.0
      let y := if y.isInf then y else 0.0
      some (if x < y then .lt else if y < x then .gt else .eq)
    | _, _ => none

mutual

/-- The two values are equal: numbers by size, and everything else only within its own type. -/
def equal : Datum → Datum → Bool
  | .nothing, .nothing | .ellipsis, .ellipsis | .vars, .vars => true
  | .text s, .text t => s == t
  | .bytes bs, .bytes cs => bs == cs
  | .complex re im, .complex re' im' => re == re' && im == im'
  | .complex re im, b => im == 0.0 && sameReal re b
  | a, .complex re im => im == 0.0 && sameReal re a
  | .list xs, .list ys => equalItems xs ys
  | .tuple xs, .tuple ys => equalItems xs ys
  | .mapping xs, .mapping ys => xs.length == ys.length && entriesAmong xs ys
  | .builtin f, .builtin g => f == g
  | .bound a name, .bound b name' => equal a b && name == name'
  | .member f name _, .member g name' _ => f == g && name == name'
  | a, b => match toValue? a, toValue? b with
    | some v, some w => compareNumbers? v w == some .eq
    | _, _ => false
where
  sameReal (re : Float) (b : Datum) : Bool :=
    match toValue? b with
    | some w => compareNumbers? (.float re) w == some .eq
    | none => false

def equalItems : List Datum → List Datum → Bool
  | [], [] => true
  | x :: xs, y :: ys => equal x y && equalItems xs ys
  | _, _ => false

/-- Each entry of the first mapping is one of the second. -/
def entriesAmong : List (String × Datum) → List (String × Datum) → Bool
  | [], _ => true
  | (key, x) :: rest, ys =>
    (match ys.lookup key with
      | some y => equal x y
      | none => false) && entriesAmong rest ys

end

/-- The two are one thing. Single values are, and so are the least integers and the shortest texts;
    any other values only if they come from the same place, as `isShared` says. -/
def same (isShared : Bool) : Datum → Datum → Bool
  | .bool a, .bool b => a == b
  | .int a, .int b => a == b && (isShared || (-5 ≤ a && a ≤ 256))
  | .text s, .text t =>
    s == t && (isShared || s.isEmpty || (s.length == 1 && s.toList.all (·.toNat < 256)))
  | .bytes bs, .bytes cs => bs == cs && (isShared || bs.length ≤ 1)
  | .nothing, .nothing | .ellipsis, .ellipsis | .vars, .vars => true
  | .builtin f, .builtin g => f == g
  | .tuple [], .tuple [] => true
  | .float x, .float y => isShared && x.toBits == y.toBits
  | .complex re im, .complex re' im' =>
    isShared && re.toBits == re'.toBits && im.toBits == im'.toBits
  | .tuple xs, .tuple ys => isShared && equalItems xs ys
  | .list _, .list _ | .mapping _, .mapping _ => isShared
  | _, _ => false

mutual

/-- An order relation between two values. Sequences are judged by the first items that differ. -/
def ordered (relation : Relation) : Datum → Datum → Except Fault Bool
  | .text s, .text t => .ok (relation.ofOrdering (compare s t))
  | .bytes bs, .bytes cs =>
    .ok (relation.ofOrdering (compareOfLessAndEq (bs.map UInt8.toNat) (cs.map UInt8.toNat)))
  | .list xs, .list ys => orderedItems relation xs ys
  | .tuple xs, .tuple ys => orderedItems relation xs ys
  | a, b => match toValue? a, toValue? b with
    | some v, some w => .ok ((compareNumbers? v w).any relation.ofOrdering)
    | _, _ => .error (.notOrdered relation.symbol a.typeName b.typeName)

def orderedItems (relation : Relation) : List Datum → List Datum → Except Fault Bool
  | [], ys => .ok (relation.ofOrdering (if ys.isEmpty then .eq else .lt))
  | _ :: _, [] => .ok (relation.ofOrdering .gt)
  | x :: xs, y :: ys => if equal x y then orderedItems relation xs ys else ordered relation x y

end

/-- The first list stands somewhere within the second. -/
def isWithin {α : Type} [BEq α] (xs : List α) : List α → Bool
  | [] => xs.isEmpty
  | y :: ys => xs.isPrefixOf (y :: ys) || isWithin xs ys

/-- The value is among the parts of the other. -/
def memberOf (vars : String → Option Datum) (x : Datum) : Datum → Except Fault Bool
  | .text s => match x with
    | .text part => .ok (isWithin part.toList s.toList)
    | _ => .error (.textMembership x.typeName)
  | .bytes bs => match x with
    | .bytes part => .ok (isWithin part bs)
    | _ => match x.index? with
      | some n =>
        if 0 ≤ n && n < 256 then .ok (bs.contains n.toNat.toUInt8) else .error .byteRange
      | none => .error (.bytesNeeded x.typeName)
  | .list items | .tuple items => .ok (items.any (equal x))
  | .mapping entries => match x.unhashable? with
    | some type => .error (.unhashable type)
    | none => match x with
      | .text key => .ok (entries.lookup key).isSome
      | _ => .ok false
  | .vars => match x.unhashable? with
    | some type => .error (.unhashable type)
    | none => match x with
      | .text key => .ok (vars key).isSome
      | _ => .ok false
  | container => .error (.notIterable container.typeName)

/-- The judgement of a relation between two values, which may come from the same place. -/
def related (vars : String → Option Datum) (relation : Relation) (isShared : Bool) (a b : Datum) :
    Except Fault Bool :=
  match relation with
  | .eq => .ok (equal a b)
  | .ne => .ok (!equal a b)
  | .is => .ok (same isShared a b)
  | .isNot => .ok (!same isShared a b)
  | .isIn => memberOf vars a b
  | .notIn => (memberOf vars a b).map (!·)
  | relation => ordered relation a b

end Datum

end Stepwise.Guard
