namespace Stepwise.Text

/-- The first bytes of a text that are no character: the first of them, where it is, how many they
    are, and why. -/
structure BadByte where
  byte : UInt8
  position : Nat
  count : Nat
  reason : String
deriving DecidableEq

/-- A byte in two digits. -/
def hexOfByte (b : UInt8) : String :=
  String.ofList ((Nat.toDigits 16 (b.toNat + 256)).drop 1)

def BadByte.messageIn (encoding : String) (bad : BadByte) : String :=
  "'" ++ encoding ++ "' codec can't decode " ++
    (if bad.count ≤ 1 then
      "byte 0x" ++ hexOfByte bad.byte ++ " in position " ++ toString bad.position
    else
      "bytes in position " ++ toString bad.position ++ "-" ++
        toString (bad.position + bad.count - 1)) ++ ": " ++ bad.reason

def BadByte.message (bad : BadByte) : String := bad.messageIn "utf-8"

private def isContinuation (b : UInt8) : Bool := 0x80 ≤ b && b < 0xc0

/-- The range that the second byte of a character has to lie in. -/
private def secondRange (lead : UInt8) : UInt8 × UInt8 :=
  if lead == 0xe0 then (0xa0, 0xbf)
  else if lead == 0xed then (0x80, 0x9f)
  else if lead == 0xf0 then (0x90, 0xbf)
  else if lead == 0xf4 then (0x80, 0x8f)
  else (0x80, 0xbf)

private def widthOf (lead : UInt8) : Nat :=
  if lead < 0x80 then 1
  else if lead < 0xc2 then 0
  else if lead < 0xe0 then 2
  else if lead < 0xf0 then 3
  else if lead < 0xf5 then 4
  else 0

/-- Looks for bytes that are no character. -/
def firstBadByte? : Nat → Nat → List UInt8 → Option BadByte
  | 0, _, _ => none
  | _ + 1, _, [] => none
  | fuel + 1, position, lead :: rest =>
    let width := widthOf lead
    if width == 0 then some ⟨lead, position, 1, "invalid start byte"⟩
    else
      let (low, high) := secondRange lead
      let isGood (index : Nat) (b : UInt8) : Bool :=
        if index == 0 then low ≤ b && b ≤ high else isContinuation b
      let tail := ((rest.take (width - 1)).zipIdx.takeWhile fun (b, i) => isGood i b).length
      if tail == width - 1 then firstBadByte? fuel (position + width) (rest.drop tail)
      else some ⟨lead, position, tail + 1,
        if tail < rest.length then "invalid continuation byte" else "unexpected end of data"⟩

/-- The text that bytes are. -/
def ofBytes (bytes : List UInt8) : Except BadByte String :=
  match String.fromUTF8? (ByteArray.mk bytes.toArray) with
  | some s => .ok s
  | none => .error ((firstBadByte? (bytes.length + 1) 0 bytes).getD ⟨0, 0, 0, ""⟩)

def toBytes (s : String) : List UInt8 := s.toUTF8.toList

private def plain : List Char → List Char
  | '\r' :: '\n' :: rest => '\n' :: plain rest
  | '\r' :: rest => '\n' :: plain rest
  | c :: rest => c :: plain rest
  | [] => []

/-- Every kind of line end becomes a line feed. -/
def plainLines (s : String) : String :=
  String.ofList (plain s.toList)

end Stepwise.Text
