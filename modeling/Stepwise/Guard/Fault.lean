import Stepwise.Guard.Datum
import Stepwise.Text.Encoding

namespace Stepwise.Guard

/-- Why the evaluation of a guard stops. -/
inductive Fault where
  | tooDeep
  | unboundName (id : String)
  | notSupported
  | notOrdered (relation left right : String)
  | notIterable (type : String)
  | textMembership (type : String)
  | byteRange
  | bytesNeeded (type : String)
  | unhashable (type : String)
  | missingKey (key : String)
  | textIndex (type : String)
  | sequenceIndex (sequence type : String)
  | outOfRange (sequence : String)
  | hugeIndex
  | notSubscriptable (type : String)
  | typeNotSubscriptable (name : String)
  | noAttribute (type name : String)
  | typeNoAttribute (type name : String)
  | notCallable (type : String)
  | badSign (type : String)
  | noLength (type : String)
  | lenArity (given : Nat)
  | takesNoArguments (method : String) (given : Nat)
  | takesAtLeastOne (method : String)
  | takesAtMost (function : String) (most given : Nat)
  | expectedAtMostOne (function : String) (given : Nat)
  | intArgument (type : String)
  | floatArgument (type : String)
  | notAnInteger (type : String)
  | badBase
  | baseWithoutText
  | intLiteral (base : Nat) (shown : String)
  | longNumeral (digits : Nat)
  | longInteger
  | floatLiteral (shown : String)
  | nanToInteger
  | infinityToInteger
  | integerTooLarge
  | decodedText
  | decodedOther (type : String)
  | strArgument (name type : String)
  | unknownEncoding (name : String)
  | embeddedNull
  | undecodable (encoding : Text.Encoding) (bad : Text.BadByte)
  | unknownRecovery (name : String)
  | unfitRecovery
  | sliceIndex
  | badStart (method kind type : String)
  | badStartInTuple (method type : String)
  | stripArgument
  | unboundMethod (method : String)
  | foreignReceiver (method owner type : String)

def Fault.message : Fault → String
  | tooDeep => "maximum recursion depth exceeded while traversing 'expr' node"
  | unboundName id => "name '" ++ id ++ "' is not defined"
  | notSupported => "unsupported form"
  | notOrdered relation left right =>
    "'" ++ relation ++ "' not supported between instances of '" ++ left ++ "' and '" ++ right ++ "'"
  | notIterable type => "argument of type '" ++ type ++ "' is not iterable"
  | textMembership type => "'in <string>' requires string as left operand, not " ++ type
  | byteRange => "byte must be in range(0, 256)"
  | bytesNeeded type => "a bytes-like object is required, not '" ++ type ++ "'"
  | unhashable type => "unhashable type: '" ++ type ++ "'"
  | missingKey key => key
  | textIndex type => "string indices must be integers, not '" ++ type ++ "'"
  | sequenceIndex sequence type =>
    sequence ++ " indices must be integers or slices, not " ++ type
  | outOfRange sequence => sequence ++ "index out of range"
  | hugeIndex => "cannot fit 'int' into an index-sized integer"
  | notSubscriptable type => "'" ++ type ++ "' object is not subscriptable"
  | typeNotSubscriptable name => "type '" ++ name ++ "' is not subscriptable"
  | noAttribute type name => "'" ++ type ++ "' object has no attribute '" ++ name ++ "'"
  | typeNoAttribute type name => "type object '" ++ type ++ "' has no attribute '" ++ name ++ "'"
  | notCallable type => "'" ++ type ++ "' object is not callable"
  | badSign type => "bad operand type for unary -: '" ++ type ++ "'"
  | noLength type => "object of type '" ++ type ++ "' has no len()"
  | lenArity given => "len() takes exactly one argument (" ++ toString given ++ " given)"
  | takesNoArguments method given =>
    method ++ "() takes no arguments (" ++ toString given ++ " given)"
  | takesAtLeastOne method => method ++ "() takes at least 1 argument (0 given)"
  | takesAtMost function most given =>
    function ++ "() takes at most " ++ toString most ++ " arguments (" ++ toString given ++ " given)"
  | expectedAtMostOne function given =>
    function ++ " expected at most 1 argument, got " ++ toString given
  | intArgument type =>
    "int() argument must be a string, a bytes-like object or a real number, not '" ++ type ++ "'"
  | floatArgument type =>
    "float() argument must be a string or a real number, not '" ++ type ++ "'"
  | notAnInteger type => "'" ++ type ++ "' object cannot be interpreted as an integer"
  | badBase => "int() base must be >= 2 and <= 36, or 0"
  | baseWithoutText => "int() can't convert non-string with explicit base"
  | intLiteral base shown => Text.IntegerFault.malformed.message base shown
  | longNumeral digits => (Text.IntegerFault.tooLong digits).message 10 ""
  | longInteger =>
    "Exceeds the limit (" ++ toString Text.maxIntegerDigits ++
      " digits) for integer string conversion; use sys.set_int_max_str_digits() to increase the limit"
  | floatLiteral shown => "could not convert string to float: " ++ shown
  | nanToInteger => "cannot convert float NaN to integer"
  | infinityToInteger => "cannot convert float infinity to integer"
  | integerTooLarge => "int too large to convert to float"
  | decodedText => "decoding str is not supported"
  | decodedOther type => "decoding to str: need a bytes-like object, " ++ type ++ " found"
  | strArgument name type => "str() argument '" ++ name ++ "' must be str, not " ++ type
  | unknownEncoding name => "unknown encoding: " ++ name
  | embeddedNull => "embedded null character"
  | undecodable encoding bad => bad.messageIn encoding.name
  | unknownRecovery name => "unknown error handler name '" ++ name ++ "'"
  | unfitRecovery => "don't know how to handle UnicodeDecodeError in error callback"
  | sliceIndex => "slice indices must be integers or None or have an __index__ method"
  | badStart method kind type =>
    method ++ " first arg must be " ++ kind ++ " or a tuple of " ++ kind ++ ", not " ++ type
  | badStartInTuple method type => "tuple for " ++ method ++ " must only contain str, not " ++ type
  | stripArgument => "strip arg must be None or str"
  | unboundMethod method => "unbound method " ++ method ++ "() needs an argument"
  | foreignReceiver method owner type =>
    "descriptor '" ++ method ++ "' for '" ++ owner ++ "' objects doesn't apply to a '" ++ type ++
      "' object"

end Stepwise.Guard
