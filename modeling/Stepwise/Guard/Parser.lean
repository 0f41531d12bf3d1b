import Stepwise.Guard.Token

namespace Stepwise.Guard

/-- Reads a part of an expression off the front of the tokens. -/
abbrev Parser := StateT (List Token) Option

namespace Parser

private def fail {α : Type} : Parser α := fun _ => none

private def peekSymbol (s : String) : Parser Bool := fun tokens =>
  match tokens with
  | .symbol t :: _ => some (s == t, tokens)
  | _ => some (false, tokens)

private def peekKeyword (w : String) : Parser Bool := fun tokens =>
  match tokens with
  | .keyword v :: _ => some (w == v, tokens)
  | _ => some (false, tokens)

/-- Takes the symbol if it comes next. -/
private def takesSymbol (s : String) : Parser Bool := fun tokens =>
  match tokens with
  | .symbol t :: rest => if s == t then some (true, rest) else some (false, tokens)
  | _ => some (false, tokens)

private def takesKeyword (w : String) : Parser Bool := fun tokens =>
  match tokens with
  | .keyword v :: rest => if w == v then some (true, rest) else some (false, tokens)
  | _ => some (false, tokens)

private def symbol (s : String) : Parser Unit := do
  unless ← takesSymbol s do fail

private def keyword (w : String) : Parser Unit := do
  unless ← takesKeyword w do fail

private def name : Parser String := fun tokens =>
  match tokens with
  | .name id :: rest => some (id, rest)
  | _ => none

/-- A name with the symbol right after it comes next. -/
private def peekNameThen (s : String) : Parser Bool := fun tokens =>
  match tokens with
  | .name _ :: .symbol t :: _ => some (s == t, tokens)
  | _ => some (false, tokens)

private def peekAny (symbols : List String) : Parser Bool := fun tokens =>
  match tokens with
  | .symbol t :: _ => some (symbols.contains t, tokens)
  | _ => some (false, tokens)

private def binarySymbols : List String :=
  ["|", "^", "&", "<<", ">>", "+", "-", "*", "/", "//", "%", "@"]

private def closers : List String := [")", "]", "\x7d"]

/-- A comparison sign, if one comes next. -/
private def relation? : Parser (Option Relation) := fun tokens =>
  match tokens with
  | .symbol "==" :: rest => some (some .eq, rest)
  | .symbol "!=" :: rest => some (some .ne, rest)
  | .symbol "<" :: rest => some (some .lt, rest)
  | .symbol "<=" :: rest => some (some .le, rest)
  | .symbol ">" :: rest => some (some .gt, rest)
  | .symbol ">=" :: rest => some (some .ge, rest)
  | .keyword "in" :: rest => some (some .isIn, rest)
  | .keyword "not" :: .keyword "in" :: rest => some (some .notIn, rest)
  | .keyword "is" :: .keyword "not" :: rest => some (some .isNot, rest)
  | .keyword "is" :: rest => some (some .is, rest)
  | _ => some (none, tokens)

mutual

/-- A name, a part of a value, or a bracketed group of these may be assigned to. -/
def isTarget : Tree → Bool
  | .name _ | .attribute _ _ | .item _ _ => true
  | .list items | .tuple items => areTargets items
  | .foreign .starred => true
  | _ => false

def areTargets : List Tree → Bool
  | [] => true
  | item :: rest => isTarget item && areTargets rest

end

/-- What one text literal contributes to a run of adjacent ones. -/
private inductive Piece where
  | text (s : String)
  | bytes (bs : List UInt8)
  | formatted

/-- Adjacent literals join; texts and bytes do not mix. -/
private def join? : Piece → Piece → Option Piece
  | .text s, .text t => some (.text (s ++ t))
  | .bytes bs, .bytes cs => some (.bytes (bs ++ cs))
  | .bytes _, _ | _, .bytes _ => none
  | _, _ => some .formatted

private def Piece.tree : Piece → Tree
  | .text s => .constant (.text s)
  | .bytes bs => .constant (.bytes bs)
  | .formatted => .foreign .formatted

private def isBlankText (cs : List Char) : Bool :=
  cs.all fun c => c == ' ' || ('\t' ≤ c && c ≤ '\r')

private def matchingCloser (c : Char) : Char :=
  if c == '(' then ')' else if c == '[' then ']' else '\x7d'

/-- The text of an embedded expression up to the mark that ends it, and the rest from that mark on.
    Marks inside brackets and inside quotes do not count; a backslash, a comment sign and a bracket
    that does not match are refused. -/
private def embedded? (closing : List Char) (quote : Option (List Char)) :
    (fuel : Nat) → List Char → List Char → Option (List Char × List Char)
  | 0, _, _ => none
  | fuel + 1, done, cs =>
    match cs with
    | [] => none
    | c :: rest =>
      if c == '\\' then none
      else match quote with
        | some marks =>
          if marks.isPrefixOf cs then
            embedded? closing none fuel (marks.reverse ++ done) (cs.drop marks.length)
          else embedded? closing quote fuel (c :: done) rest
        | none =>
          if c == '\'' || c == '"' then
            let marks := if [c, c, c].isPrefixOf cs then [c, c, c] else [c]
            embedded? closing (some marks) fuel (marks.reverse ++ done) (cs.drop marks.length)
          else if c == '(' || c == '[' || c == '\x7b' then
            embedded? (matchingCloser c :: closing) none fuel (c :: done) rest
          else if c == '#' then none
          else match closing with
            | close :: outer =>
              if c == ')' || c == ']' || c == '\x7d' then
                if c == close then embedded? outer none fuel (c :: done) rest else none
              else embedded? closing none fuel (c :: done) rest
            | [] =>
              if c == ')' || c == ']' then none
              else if (c == '!' || c == '=' || c == '<' || c == '>') && rest.head? == some '=' then
                embedded? [] none fuel ('=' :: c :: done) (rest.drop 1)
              else if c == '!' || c == ':' || c == '=' || c == '\x7d' then some (done.reverse, cs)
              else embedded? [] none fuel (c :: done) rest

/-- Skips the literal part before the next embedded expression, or before the end of a nested
    format: its characters, and the rest. -/
private def literalPart? (isRaw isNested : Bool) :
    (fuel : Nat) → List Char → List Char → Option (List Char × List Char)
  | 0, _, _ => none
  | fuel + 1, done, cs =>
    match cs with
    | [] => some (done.reverse, [])
    | '\\' :: c :: rest =>
      if isRaw || c == '\x7b' || c == '\x7d' then
        literalPart? isRaw isNested fuel ('\\' :: done) (c :: rest)
      else if c == 'N' then
        match rest with
        | '\x7b' :: more =>
          let name := more.takeWhile (· != '\x7d')
          let rest := more.drop name.length
          literalPart? isRaw isNested fuel
            ((rest.take 1).reverse ++ name.reverse ++ ['\x7b', 'N', '\\'] ++ done) (rest.drop 1)
        | _ => literalPart? isRaw isNested fuel ('N' :: '\\' :: done) rest
      else literalPart? isRaw isNested fuel (c :: '\\' :: done) rest
    | c :: rest =>
      if c == '\x7b' || c == '\x7d' then
        if !isNested && rest.head? == some c then
          literalPart? isRaw isNested fuel (c :: done) (rest.drop 1)
        else if c == '\x7d' && !isNested then none
        else some (done.reverse, cs)
      else literalPart? isRaw isNested fuel (c :: done) rest

mutual

/-- An expression with its conditional form and its function form. -/
def expression : (fuel : Nat) → Parser Tree
  | 0 => fail
  | fuel + 1 => do
    if ← peekKeyword "lambda" then function fuel
    else
      let value ← disjunction fuel
      if ← takesKeyword "if" then
        let _ ← disjunction fuel
        keyword "else"
        let _ ← expression fuel
        return .foreign .conditional
      else return value

/-- A function of one expression: its parameters and its result. -/
def function : (fuel : Nat) → Parser Tree
  | 0 => fail
  | fuel + 1 => do
    keyword "lambda"
    parameters fuel false false false false
    symbol ":"
    let _ ← expression fuel
    return .foreign .lambda

/-- The parameters of a function. A parameter without a default may not follow one with a default
    unless a star stands between them; `bare` says that the star had no name, so that a parameter
    has to follow it. -/
def parameters : (fuel : Nat) → (hasDefault slashed starred bare : Bool) → Parser Unit
  | 0, _, _, _, _ => fail
  | fuel + 1, hasDefault, slashed, starred, bare => do
    if ← peekSymbol ":" then
      if bare then fail else return
    else if ← takesSymbol "**" then
      if bare then fail
      let _ ← name
      let _ ← takesSymbol ","
      return
    else if ← takesSymbol "*" then
      if starred then fail
      if ← takesSymbol "," then parameters fuel false slashed true true
      else
        let _ ← name
        if ← takesSymbol "," then parameters fuel false slashed true false
    else
      let _ ← name
      let withDefault ← takesSymbol "="
      if withDefault then
        let _ ← expression fuel
      if hasDefault && !withDefault && !starred then fail
      let hasDefault := hasDefault || withDefault
      if ← takesSymbol "," then
        if ← takesSymbol "/" then
          if slashed || starred then fail
          if ← takesSymbol "," then parameters fuel hasDefault true starred false
        else parameters fuel hasDefault slashed starred false

/-- Operands joined by `or`. -/
def disjunction : (fuel : Nat) → Parser Tree
  | 0 => fail
  | fuel + 1 => do
    let first ← conjunction fuel
    let rest ← junctionRest fuel .or
    return if rest.isEmpty then first else .junction .or (first :: rest)

/-- Operands joined by `and`. -/
def conjunction : (fuel : Nat) → Parser Tree
  | 0 => fail
  | fuel + 1 => do
    let first ← inversion fuel
    let rest ← junctionRest fuel .and
    return if rest.isEmpty then first else .junction .and (first :: rest)

def junctionRest : (fuel : Nat) → Junction → Parser (List Tree)
  | 0, _ => fail
  | fuel + 1, .or => do
    if ← takesKeyword "or" then
      let operand ← conjunction fuel
      return operand :: (← junctionRest fuel .or)
    else return []
  | fuel + 1, .and => do
    if ← takesKeyword "and" then
      let operand ← inversion fuel
      return operand :: (← junctionRest fuel .and)
    else return []

def inversion : (fuel : Nat) → Parser Tree
  | 0 => fail
  | fuel + 1 => do
    if ← takesKeyword "not" then return .unary .not (← inversion fuel)
    else
      let first ← arithmetic fuel
      let rest ← comparisonRest fuel
      return if rest.isEmpty then first else .comparison first rest

def comparisonRest : (fuel : Nat) → Parser (List (Relation × Tree))
  | 0 => fail
  | fuel + 1 => do
    match ← relation? with
    | some relation =>
      let operand ← arithmetic fuel
      return (relation, operand) :: (← comparisonRest fuel)
    | none => return []

/-- Operands joined by arithmetic signs. How they group does not matter, since the result is
    foreign to guards in any case. -/
def arithmetic : (fuel : Nat) → Parser Tree
  | 0 => fail
  | fuel + 1 => do
    let first ← factor fuel
    if ← peekAny binarySymbols then
      arithmeticRest fuel
      return .foreign .arithmetic
    else return first

def arithmeticRest : (fuel : Nat) → Parser Unit
  | 0 => fail
  | fuel + 1 => do
    if ← peekAny binarySymbols then
      modify (·.drop 1)
      let _ ← factor fuel
      arithmeticRest fuel

/-- An operand with the signs before it and the power after it. -/
def factor : (fuel : Nat) → Parser Tree
  | 0 => fail
  | fuel + 1 => do
    if ← takesSymbol "-" then return .unary .minus (← factor fuel)
    else if ← takesSymbol "+" then return .unary .plus (← factor fuel)
    else if ← takesSymbol "~" then return .unary .invert (← factor fuel)
    else
      let base ←
        if ← takesKeyword "await" then
          let _ ← primary fuel
          pure (Tree.foreign .await)
        else primary fuel
      if ← takesSymbol "**" then
        let _ ← factor fuel
        return .foreign .arithmetic
      else return base

def primary : (fuel : Nat) → Parser Tree
  | 0 => fail
  | fuel + 1 => do
    let base ← atom fuel
    primaryRest fuel base

/-- The attributes, items and calls that follow a value. -/
def primaryRest : (fuel : Nat) → Tree → Parser Tree
  | 0, _ => fail
  | fuel + 1, base => do
    if ← takesSymbol "." then
      let id ← name
      primaryRest fuel (.attribute base id)
    else if ← takesSymbol "(" then
      let (args, hasKeywords) ← arguments fuel
      primaryRest fuel (.call base args hasKeywords)
    else if ← takesSymbol "[" then
      let index ← subscript fuel
      primaryRest fuel (.item base index)
    else return base

/-- The arguments of a call up to the closing bracket, and whether any of them is named. -/
def arguments : (fuel : Nat) → Parser (List Tree × Bool)
  | 0 => fail
  | fuel + 1 => do
    if ← takesSymbol ")" then return ([], false)
    else if ← peekNameThen "=" then
      namedArguments fuel false
      return ([], true)
    else if ← peekSymbol "**" then
      namedArguments fuel false
      return ([], true)
    else
      let first ← starredOrNamed fuel
      if (← peekKeyword "for") || (← peekKeyword "async") then
        match first with
        | .foreign .starred => fail
        | _ =>
          clauses fuel
          symbol ")"
          return ([.foreign .generator], false)
      else
        if ← takesSymbol "," then moreArguments fuel [first]
        else
          symbol ")"
          return ([first], false)

/-- The arguments after those already read, last first. -/
def moreArguments : (fuel : Nat) → List Tree → Parser (List Tree × Bool)
  | 0, _ => fail
  | fuel + 1, done => do
    if ← takesSymbol ")" then return (done.reverse, false)
    else if (← peekNameThen "=") || (← peekSymbol "**") then
      namedArguments fuel false
      return (done.reverse, true)
    else
      let arg ← starredOrNamed fuel
      if ← takesSymbol "," then moreArguments fuel (arg :: done)
      else
        symbol ")"
        return ((arg :: done).reverse, false)

/-- Named arguments up to the closing bracket; after a spread mapping no spread list may stand. -/
def namedArguments : (fuel : Nat) → (spread : Bool) → Parser Unit
  | 0, _ => fail
  | fuel + 1, spread => do
    let spread ←
      if ← takesSymbol "**" then
        let _ ← expression fuel
        pure true
      else if ← peekNameThen "=" then
        modify (·.drop 2)
        let _ ← expression fuel
        pure spread
      else
        if spread then fail
        symbol "*"
        let _ ← expression fuel
        pure spread
    if ← takesSymbol "," then
      if ← takesSymbol ")" then return
      namedArguments fuel spread
    else symbol ")"

/-- One positional argument. -/
def starredOrNamed : (fuel : Nat) → Parser Tree
  | 0 => fail
  | fuel + 1 => do
    if ← takesSymbol "*" then
      let _ ← expression fuel
      return .foreign .starred
    else named fuel

/-- An expression, or one with a name assigned to it. -/
def named : (fuel : Nat) → Parser Tree
  | 0 => fail
  | fuel + 1 => do
    if ← peekNameThen ":=" then
      modify (·.drop 2)
      let _ ← expression fuel
      return .foreign .assignment
    else expression fuel

/-- The inside of an item access up to the closing bracket. -/
def subscript : (fuel : Nat) → Parser Tree
  | 0 => fail
  | fuel + 1 => do
    let first ← subscriptPart fuel
    if ← takesSymbol "," then return .tuple (first :: (← subscriptRest fuel))
    else
      symbol "]"
      match first with
      | .foreign .starred => return .tuple [first]
      | _ => return first

def subscriptRest : (fuel : Nat) → Parser (List Tree)
  | 0 => fail
  | fuel + 1 => do
    if ← takesSymbol "]" then return []
    else
      let part ← subscriptPart fuel
      if ← takesSymbol "," then return part :: (← subscriptRest fuel)
      else
        symbol "]"
        return [part]

/-- An index or a slice. -/
def subscriptPart : (fuel : Nat) → Parser Tree
  | 0 => fail
  | fuel + 1 => do
    if ← peekSymbol ":" then sliceRest fuel
    else if ← takesSymbol "*" then
      let _ ← expression fuel
      return .foreign .starred
    else
      let isAssignment ← peekNameThen ":="
      let first ← named fuel
      if ← peekSymbol ":" then
        if isAssignment then fail else sliceRest fuel
      else return first

/-- The part of a slice from its first colon on. -/
def sliceRest : (fuel : Nat) → Parser Tree
  | 0 => fail
  | fuel + 1 => do
    symbol ":"
    unless ← peekAny [":", ",", "]"] do
      let _ ← expression fuel
    if ← takesSymbol ":" then
      unless ← peekAny [",", "]"] do
        let _ ← expression fuel
    return .foreign .slice

def atom : (fuel : Nat) → Parser Tree
  | 0 => fail
  | fuel + 1 => fun tokens =>
    match tokens with
    | .name id :: rest => some (.name id, rest)
    | .keyword "None" :: rest => some (.constant .none, rest)
    | .keyword "True" :: rest => some (.constant (.bool true), rest)
    | .keyword "False" :: rest => some (.constant (.bool false), rest)
    | .symbol "..." :: rest => some (.constant .ellipsis, rest)
    | .symbol "(" :: rest => (parenthesized fuel).run rest
    | .symbol "[" :: rest => (listDisplay fuel).run rest
    | .symbol "\x7b" :: rest => (braced fuel).run rest
    | .constant (.text s) :: rest => (literalRun fuel (.text s)).run rest
    | .constant (.bytes bs) :: rest => (literalRun fuel (.bytes bs)).run rest
    | .constant c :: rest => some (.constant c, rest)
    | .formatted isRaw body :: rest =>
      if formattedIsWellFormed fuel isRaw 0 body == some [] then
        (literalRun fuel .formatted).run rest
      else none
    | _ => none

/-- Joins the literals that follow one another. -/
def literalRun : (fuel : Nat) → Piece → Parser Tree
  | 0, _ => fail
  | fuel + 1, piece => fun tokens =>
    match tokens with
    | .constant (.text s) :: rest => do
      let joined ← join? piece (.text s)
      (literalRun fuel joined).run rest
    | .constant (.bytes bs) :: rest => do
      let joined ← join? piece (.bytes bs)
      (literalRun fuel joined).run rest
    | .formatted isRaw body :: rest => do
      let joined ← join? piece .formatted
      if formattedIsWellFormed fuel isRaw 0 body == some [] then (literalRun fuel joined).run rest
      else none
    | _ => some (piece.tree, tokens)

/-- Walks through a text with embedded expressions, or through the format of one: what is left of
    it, nothing if it is malformed. -/
def formattedIsWellFormed : (fuel : Nat) → (isRaw : Bool) → (depth : Nat) → List Char →
    Option (List Char)
  | 0, _, _, _ => none
  | fuel + 1, isRaw, depth, cs => do
    let (literal, rest) ← literalPart? isRaw (depth != 0) (cs.length + 1) [] cs
    let _ ← Token.literalText? isRaw literal
    match rest with
    | '\x7b' :: rest =>
      if 2 ≤ depth then none
      let (source, rest) ← embedded? [] none (rest.length + 1) [] rest
      if isBlankText source then none
      let tokens ← Token.ofChars? ('(' :: source ++ [')'])
      let (_, after) ← (expressionList fuel).run tokens
      unless after.all (fun token => match token with | .newline => true | _ => false) do none
      let rest := match rest with
        | '=' :: rest => rest.dropWhile fun c => c == ' ' || ('\t' ≤ c && c ≤ '\r')
        | _ => rest
      let rest ← match rest with
        | '!' :: c :: rest => if c == 's' || c == 'r' || c == 'a' then some rest else none
        | '!' :: [] => none
        | _ => some rest
      let rest ← match rest with
        | ':' :: rest => formattedIsWellFormed fuel isRaw (depth + 1) rest
        | _ => some rest
      match rest with
      | '\x7d' :: rest => formattedIsWellFormed fuel isRaw depth rest
      | _ => none
    | rest => return rest

/-- What follows an opening round bracket. -/
def parenthesized : (fuel : Nat) → Parser Tree
  | 0 => fail
  | fuel + 1 => do
    if ← takesSymbol ")" then return .tuple []
    else if ← peekKeyword "yield" then
      let form ← yielded fuel
      symbol ")"
      return .foreign form
    else
      let first ← displayItem fuel
      if (← peekKeyword "for") || (← peekKeyword "async") then
        comprehension fuel first ")" .generator
      else if ← takesSymbol "," then return .tuple (first :: (← displayRest fuel ")"))
      else
        symbol ")"
        match first with
        | .foreign .starred => fail
        | _ => return first

def yielded : (fuel : Nat) → Parser ForeignForm
  | 0 => fail
  | fuel + 1 => do
    keyword "yield"
    if ← takesKeyword "from" then
      let _ ← expression fuel
      return .yieldFrom
    else
      unless ← peekAny closers do
        yieldedValues fuel
      return .yield

def yieldedValues : (fuel : Nat) → Parser Unit
  | 0 => fail
  | fuel + 1 => do
    if ← takesSymbol "*" then
      let _ ← arithmetic fuel
    else
      let _ ← expression fuel
    if ← takesSymbol "," then
      unless ← peekAny closers do
        yieldedValues fuel

/-- What follows an opening square bracket that begins a list. -/
def listDisplay : (fuel : Nat) → Parser Tree
  | 0 => fail
  | fuel + 1 => do
    if ← takesSymbol "]" then return .list []
    else
      let first ← displayItem fuel
      if (← peekKeyword "for") || (← peekKeyword "async") then
        comprehension fuel first "]" .listComprehension
      else if ← takesSymbol "," then return .list (first :: (← displayRest fuel "]"))
      else
        symbol "]"
        return .list [first]

/-- What follows an opening brace: a mapping or a set. -/
def braced : (fuel : Nat) → Parser Tree
  | 0 => fail
  | fuel + 1 => do
    if ← takesSymbol "\x7d" then return .foreign .mapping
    else if ← takesSymbol "**" then
      let _ ← arithmetic fuel
      mappingRest fuel
      return .foreign .mapping
    else
      let isKey := !((← peekSymbol "*") || (← peekNameThen ":="))
      let first ← displayItem fuel
      if ← peekSymbol ":" then
        if isKey then
          symbol ":"
          let _ ← expression fuel
          if (← peekKeyword "for") || (← peekKeyword "async") then
            clauses fuel
            symbol "\x7d"
            return .foreign .mappingComprehension
          else
            mappingRest fuel
            return .foreign .mapping
        else fail
      else if (← peekKeyword "for") || (← peekKeyword "async") then
        comprehension fuel first "\x7d" .setComprehension
      else
        if ← takesSymbol "," then
          let _ ← displayRest fuel "\x7d"
        else symbol "\x7d"
        return .foreign .set

/-- The entries of a mapping after the first. -/
def mappingRest : (fuel : Nat) → Parser Unit
  | 0 => fail
  | fuel + 1 => do
    if ← takesSymbol "\x7d" then return
    symbol ","
    if ← takesSymbol "\x7d" then return
    if ← takesSymbol "**" then
      let _ ← arithmetic fuel
    else
      let _ ← expression fuel
      symbol ":"
      let _ ← expression fuel
    mappingRest fuel

def displayItem : (fuel : Nat) → Parser Tree
  | 0 => fail
  | fuel + 1 => do
    if ← takesSymbol "*" then
      let _ ← arithmetic fuel
      return .foreign .starred
    else named fuel

/-- The items after a comma, up to the closing bracket. -/
def displayRest : (fuel : Nat) → (close : String) → Parser (List Tree)
  | 0, _ => fail
  | fuel + 1, close => do
    if ← takesSymbol close then return []
    else
      let item ← displayItem fuel
      if ← takesSymbol "," then return item :: (← displayRest fuel close)
      else
        symbol close
        return [item]

def comprehension : (fuel : Nat) → Tree → (close : String) → ForeignForm → Parser Tree
  | 0, _, _, _ => fail
  | fuel + 1, first, close, form => do
    match first with
    | .foreign .starred => fail
    | _ =>
      clauses fuel
      symbol close
      return .foreign form

/-- The `for` and `if` clauses of a comprehension. -/
def clauses : (fuel : Nat) → Parser Unit
  | 0 => fail
  | fuel + 1 => do
    let _ ← takesKeyword "async"
    keyword "for"
    targets fuel
    keyword "in"
    let _ ← disjunction fuel
    conditions fuel
    if (← peekKeyword "for") || (← peekKeyword "async") then clauses fuel

def conditions : (fuel : Nat) → Parser Unit
  | 0 => fail
  | fuel + 1 => do
    if ← takesKeyword "if" then
      let _ ← disjunction fuel
      conditions fuel

/-- The names that a comprehension assigns to. -/
def targets : (fuel : Nat) → Parser Unit
  | 0 => fail
  | fuel + 1 => do
    let _ ← takesSymbol "*"
    let target ← primary fuel
    match target with
    | .foreign .starred => fail
    | target => unless isTarget target do fail
    if ← takesSymbol "," then
      unless ← peekKeyword "in" do
        targets fuel

/-- Expressions with commas between them: one alone is itself, several are a tuple. -/
def expressionList : (fuel : Nat) → Parser Tree
  | 0 => fail
  | fuel + 1 => do
    let first ← expression fuel
    if ← takesSymbol "," then return .tuple (first :: (← expressionListRest fuel))
    else return first

def expressionListRest : (fuel : Nat) → Parser (List Tree)
  | 0 => fail
  | fuel + 1 => fun tokens =>
    match tokens with
    | [] | .newline :: _ => some ([], tokens)
    | _ => (do
      let item ← expression fuel
      if ← takesSymbol "," then return item :: (← expressionListRest fuel)
      else return [item] : Parser (List Tree)).run tokens

end

end Parser

namespace Tree

/-- The tree of an expression given by its characters. Each token is met at some twenty levels of
    the grammar at most, which bounds the fuel. -/
def ofChars? (cs : List Char) : Option Tree := do
  let tokens ← Token.ofChars? cs
  let (tree, rest) ← (Parser.expressionList (24 * cs.length + 24)).run tokens
  if rest.all (fun token => match token with | .newline => true | _ => false) then some tree
  else none

end Tree

end Stepwise.Guard
