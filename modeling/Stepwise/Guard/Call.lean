import Stepwise.Text.Case
import Stepwise.Guard.Attribute

namespace Stepwise.Guard

/-- The characters of the bytes, one for each. -/
def asciiChars (bs : List UInt8) : List Char :=
  bs.map fun b => Char.ofNat b.toNat

def integerOfText (base : Nat) (cs : List Char) (shown : String) : Except Fault Datum :=
  match Text.readInteger base cs with
  | .ok n => .ok (.int n)
  | .error .malformed => .error (.intLiteral base shown)
  | .error (.tooLong digits) => .error (.longNumeral digits)

/-- The integer that a single value is turned into. -/
def integerOf (d : Datum) : Except Fault Datum :=
  match d with
  | .bool b => .ok (.int (if b then 1 else 0))
  | .int n => .ok (.int n)
  | .float x => match Decimal.truncate? x with
    | some n => .ok (.int n)
    | none => .error (if x.isNaN then .nanToInteger else .infinityToInteger)
  | .text s => integerOfText 10 (Text.asciiNumeral s.toList) d.quoted
  | .bytes bs => integerOfText 10 (asciiChars bs) d.quoted
  | _ => .error (.intArgument d.typeName)

def integerInBase (d base : Datum) : Except Fault Datum :=
  match base.index? with
  | none => .error (.notAnInteger base.typeName)
  | some n =>
    if (n != 0 && n < 2) || 36 < n then .error .badBase
    else match d with
      | .text s => integerOfText n.toNat (Text.asciiNumeral s.toList) d.quoted
      | .bytes bs => integerOfText n.toNat (asciiChars bs) d.quoted
      | _ => .error .baseWithoutText

/-- An integer as a number with a fraction; nothing if it is beyond the greatest one. -/
def floatOfInt? (n : Int) : Option Float :=
  let x := Float.ofInt n
  if x.isInf then none else some x

def floatOf (d : Datum) : Except Fault Datum :=
  let read (cs : List Char) : Except Fault Datum :=
    match Text.readFloat? cs with
    | some x => .ok (.float x)
    | none => .error (.floatLiteral d.quoted)
  match d with
  | .bool b => .ok (.float (if b then 1.0 else 0.0))
  | .int n => match floatOfInt? n with
    | some x => .ok (.float x)
    | none => .error .integerTooLarge
  | .float x => .ok (.float x)
  | .text s => read (Text.asciiNumeral s.toList)
  | .bytes bs => read (asciiChars bs)
  | _ => .error (.floatArgument d.typeName)

def lengthOf (d : Datum) : Except Fault Datum :=
  match d with
  | .text s => .ok (.int s.length)
  | .bytes bs => .ok (.int bs.length)
  | .list items | .tuple items => .ok (.int items.length)
  | .mapping entries => .ok (.int entries.length)
  | _ => .error (.noLength d.typeName)

def textOf (d : Datum) : Except Fault Datum :=
  if d.isUnwritable then .error .longInteger else .ok (.text d.display)

/-- What stands for bytes that are no character, by the name of a way to recover. -/
def recover (encoding : Text.Encoding) (name : String) (bad : Text.BadByte)
    (bytes : List UInt8) : Except Fault (List Char) :=
  match name with
  | "strict" | "surrogatepass" => .error (.undecodable encoding bad)
  | "ignore" => .ok []
  | "replace" => .ok ['\ufffd']
  | "surrogateescape" => .ok (bytes.map fun _ => '\ufffd')
  | "backslashreplace" => .ok (bytes.flatMap fun b => '\\' :: 'x' :: (Text.hexOfByte b).toList)
  | "xmlcharrefreplace" | "namereplace" => .error .unfitRecovery
  | _ => .error (.unknownRecovery name)

/-- The text of bytes in a named encoding. -/
def decoded (bs : List UInt8) (encoding recovery : String) : Except Fault Datum :=
  if bs.isEmpty then .ok (.text "")
  else match Text.Encoding.named? encoding with
    | some e => (e.decode (recover e recovery) bs).map .text
    | none => .error (.unknownEncoding encoding)

/-- A name among the arguments, in which no null character may stand. -/
def nameIn (argument : String) : Datum → Except Fault String
  | .text s => if s.toList.contains '\x00' then .error .embeddedNull else .ok s
  | .nothing => .error (.strArgument argument "None")
  | d => .error (.strArgument argument d.typeName)

def textIn (d encoding : Datum) (recovery : Option Datum) : Except Fault Datum := do
  let encoding ← nameIn "encoding" encoding
  let recovery ← match recovery with
    | some recovery => nameIn "errors" recovery
    | none => pure "strict"
  match d with
  | .text _ => .error .decodedText
  | .bytes bs => decoded bs encoding recovery
  | _ => .error (.decodedOther d.typeName)

/-- Calls a function by the number of its arguments. -/
def Builtin.call (f : Builtin) (args : List Datum) : Except Fault Datum :=
  match f, args with
  | .len, [d] => lengthOf d
  | .len, _ => .error (.lenArity args.length)
  | .int, [] => .ok (.int 0)
  | .int, [d] => integerOf d
  | .int, [d, base] => integerInBase d base
  | .int, _ => .error (.takesAtMost "int" 2 args.length)
  | .float, [] => .ok (.float 0.0)
  | .float, [d] => floatOf d
  | .float, _ => .error (.expectedAtMostOne "float" args.length)
  | .bool, [] => .ok (.bool false)
  | .bool, [d] => .ok (.bool d.isTruthy)
  | .bool, _ => .error (.expectedAtMostOne "bool" args.length)
  | .str, [] => .ok (.text "")
  | .str, [d] => textOf d
  | .str, [d, encoding] => textIn d encoding none
  | .str, [d, encoding, recovery] => textIn d encoding (some recovery)
  | .str, _ => .error (.takesAtMost "str" 3 args.length)

/-- A bound of a range of positions. -/
def bound (d : Datum) (whenNothing : Int) : Except Fault Int :=
  match d with
  | .nothing => .ok whenNothing
  | _ => match d.index? with
    | some n => .ok n
    | none => .error .sliceIndex

/-- The items stand at the start, or at the end, of a range of the others. A negative bound counts
    from the end, and an empty part stands wherever the range is not reversed. -/
def standsAt {α : Type} [BEq α] (atEnd : Bool) (items part : List α)
    (start finish : Int) : Bool :=
  let size : Int := items.length
  let fromEnd (n : Int) : Int := if n < 0 then max (n + size) 0 else n
  let finish := fromEnd (min finish size)
  let start := fromEnd start
  let last := finish - part.length
  if last < start then false
  else part.isPrefixOf (items.drop (if atEnd then last else start).toNat)

/-- The parts a text or bytes may be asked to begin or end with: one, or several in a tuple. -/
def edgeTest (method : Method) (isBytes : Bool) (test : Datum → Option Bool) (d : Datum) :
    Except Fault Bool :=
  let rec among : List Datum → Except Fault Bool
    | [] => .ok false
    | part :: rest => match test part with
      | some true => .ok true
      | some false => among rest
      | none =>
        .error (if isBytes then .bytesNeeded part.typeName
          else .badStartInTuple method.name part.typeName)
  match d with
  | .tuple parts => among parts
  | _ => match test d with
    | some result => .ok result
    | none => .error (.badStart method.name (if isBytes then "bytes" else "str") d.typeName)

/-- A bound far beyond every position. -/
def farBound : Int := 0x8000000000000000

def edge (method : Method) (isBytes : Bool) (test : Int → Int → Datum → Option Bool)
    (args : List Datum) : Except Fault Datum := do
  match args with
  | [] => throw (.takesAtLeastOne method.name)
  | part :: bounds =>
    if 2 < bounds.length then throw (.takesAtMost method.name 3 args.length)
    let start ← bound (bounds.getD 0 .nothing) 0
    let finish ← bound (bounds.getD 1 .nothing) farBound
    return .bool (← edgeTest method isBytes (test start finish) part)

def callOnText (s : String) (method : Method) (args : List Datum) : Except Fault Datum :=
  let cs := s.toList
  let test (atEnd : Bool) (start finish : Int) : Datum → Option Bool
    | .text part => some (standsAt atEnd cs part.toList start finish)
    | _ => none
  match method, args with
  | .lower, [] => .ok (.text (Text.lower s))
  | .upper, [] => .ok (.text (Text.upper s))
  | .lower, _ | .upper, _ => .error (.takesNoArguments ("str." ++ method.name) args.length)
  | .strip, [] | .strip, [.nothing] => .ok (.text (Text.trim s))
  | .strip, [.text chars] =>
    .ok (.text (String.ofList (Text.trimChars chars.toList.contains cs)))
  | .strip, [_] => .error .stripArgument
  | .strip, _ => .error (.expectedAtMostOne "strip" args.length)
  | .startswith, _ => edge method false (test false) args
  | .endswith, _ => edge method false (test true) args

def trimBytes (p : UInt8 → Bool) (bs : List UInt8) : List UInt8 :=
  ((bs.dropWhile p).reverse.dropWhile p).reverse

def callOnBytes (bs : List UInt8) (method : Method) (args : List Datum) :
    Except Fault Datum :=
  let test (atEnd : Bool) (start finish : Int) : Datum → Option Bool
    | .bytes part => some (standsAt atEnd bs part start finish)
    | _ => none
  let mapped (f : Char → Char) : Datum :=
    .bytes (bs.map fun b => if b < 0x80 then (f (Char.ofNat b.toNat)).toNat.toUInt8 else b)
  match method, args with
  | .lower, [] => .ok (mapped Char.toLower)
  | .upper, [] => .ok (mapped Char.toUpper)
  | .lower, _ | .upper, _ => .error (.takesNoArguments ("bytes." ++ method.name) args.length)
  | .strip, [] | .strip, [.nothing] =>
    .ok (.bytes (trimBytes (fun b => Text.isAsciiBlank (Char.ofNat b.toNat)) bs))
  | .strip, [.bytes chars] => .ok (.bytes (trimBytes chars.contains bs))
  | .strip, [d] => .error (.bytesNeeded d.typeName)
  | .strip, _ => .error (.expectedAtMostOne "strip" args.length)
  | .startswith, _ => edge method true (test false) args
  | .endswith, _ => edge method true (test true) args

/-- Calls a value. Only the functions and the methods of `Method` can be called. -/
def Datum.call (callee : Datum) (args : List Datum) : Except Fault Datum :=
  match callee with
  | .builtin f => f.call args
  | .bound owner name => match owner, Method.ofName? name with
    | .text s, some method => callOnText s method args
    | .bytes bs, some method => callOnBytes bs method args
    | _, _ => .error .notSupported
  | .member .str name .method => match Method.ofName? name, args with
    | some method, .text s :: rest => callOnText s method rest
    | some method, [] => .error (.unboundMethod ("str." ++ method.name))
    | some method, d :: _ => .error (.foreignReceiver method.name "str" d.typeName)
    | none, _ => .error .notSupported
  | _ => .error (.notCallable callee.typeName)

end Stepwise.Guard
