import Stepwise.Text.Numeral

namespace Stepwise.Yaml

/-- The kinds of nodes that a document may hold. -/
inductive Tag where
  | null
  | bool
  | int
  | float
  | text
  | binary
  | moment
  | merge
  | equals
  | sequence
  | mapping
  | set
  | orderedMap
  | pairs
  | other (name : String)
deriving DecidableEq

namespace Tag

/-- The address that the common tags begin with. -/
def address : String := "tag:yaml.org,2002:"

private def known : List (String × Tag) :=
  [("null", null), ("bool", bool), ("int", int), ("float", float), ("str", text),
    ("binary", binary), ("timestamp", moment), ("merge", merge), ("value", equals),
    ("seq", sequence), ("map", mapping), ("set", set), ("omap", orderedMap), ("pairs", pairs)]

def ofName (name : String) : Tag :=
  match known.find? fun (word, _) => address ++ word == name with
  | some (_, tag) => tag
  | none => other name

/-! ### What a plain scalar stands for -/

/-- The two spellings of a truth value, in lower case. -/
def truthWords : List (String × Bool) :=
  [("yes", true), ("no", false), ("true", true), ("false", false), ("on", true), ("off", false)]

/-- The word in lower case, capitalised or in upper case, but not in mixed case. -/
private def spellings (word : String) : List String :=
  [word, word.capitalize, word.map Char.toUpper]

def isTruth (s : String) : Bool :=
  truthWords.any fun (word, _) => (spellings word).contains s

def isNull (s : String) : Bool :=
  s == "" || s == "~" || (spellings "null").contains s

private def isDigit (c : Char) : Bool := '0' ≤ c && c ≤ '9'

private def isDigitOr (c : Char) : Bool := isDigit c || c == '_'

private def dropSign : List Char → List Char
  | '+' :: rest => rest
  | '-' :: rest => rest
  | rest => rest

private def isNonEmpty (p : Char → Bool) (cs : List Char) : Bool :=
  !cs.isEmpty && cs.all p

/-- One or more groups of one or two digits below sixty, each after a colon, and nothing after. -/
private def isSixties : List Char → Bool
  | ':' :: a :: b :: rest =>
    if isDigit b then a ≤ '5' && isDigit a && (rest.isEmpty || isSixties rest)
    else isDigit a && b == ':' && isSixties (b :: rest)
  | [':', a] => isDigit a
  | _ => false

/-- An integer: binary, octal, decimal, hexadecimal, or groups of sixty. -/
def isInteger (cs : List Char) : Bool :=
  match dropSign cs with
  | '0' :: 'b' :: rest => isNonEmpty (fun c => c == '0' || c == '1' || c == '_') rest
  | '0' :: 'x' :: rest => isNonEmpty (fun c => c == '_' || (Text.digitValue? c).any (· < 16)) rest
  | ['0'] => true
  | '0' :: rest => isNonEmpty (fun c => ('0' ≤ c && c ≤ '7') || c == '_') rest
  | c :: rest =>
    isDigit c && (rest.all isDigitOr || isSixties (rest.dropWhile isDigitOr))
  | [] => false

/-- Nothing, or an exponent, whose sign is always written. -/
private def isExponent : List Char → Bool
  | [] => true
  | mark :: sign :: rest =>
    (mark == 'e' || mark == 'E') && (sign == '+' || sign == '-') && isNonEmpty isDigit rest
  | _ => false

/-- A number with a point, or the name of one. -/
def isFloat (cs : List Char) : Bool :=
  isFraction cs || isNumber (dropSign cs) || isInfinity (dropSign cs) ||
    [".nan", ".NaN", ".NAN"].contains (String.ofList cs)
where
  isFraction : List Char → Bool
    | '.' :: c :: rest => isDigit c && isExponent (rest.dropWhile isDigitOr)
    | _ => false
  isNumber : List Char → Bool
    | c :: rest =>
      isDigit c && (match rest.dropWhile isDigitOr with
        | '.' :: rest => isExponent (rest.dropWhile isDigitOr)
        | ':' :: rest =>
          let groups := ':' :: rest.takeWhile (· != '.')
          isSixties groups && (match rest.dropWhile (· != '.') with
            | '.' :: rest => rest.all isDigitOr
            | _ => false)
        | _ => false)
    | [] => false
  isInfinity (cs : List Char) : Bool :=
    [".inf", ".Inf", ".INF"].contains (String.ofList cs)

end Tag

end Stepwise.Yaml
