import Stepwise.Text.Utf8

namespace Stepwise.Text

/-- The ways to write a text as bytes. -/
inductive Encoding where
  | utf8
  | ascii
  | latin1
deriving DecidableEq

namespace Encoding

def name : Encoding → String
  | utf8 => "utf-8"
  | ascii => "ascii"
  | latin1 => "latin-1"

/-- The names of an encoding, in small letters and with low lines between their parts. -/
def names : Encoding → List String
  | utf8 => ["utf_8", "utf8", "utf", "u8", "utf8_ucs2", "utf8_ucs4", "cp65001"]
  | ascii => ["ascii", "us_ascii", "646", "us", "iso646_us", "iso_ir_6", "ibm367", "cp367", "csascii",
    "ansi_x3.4_1968", "ansi_x3_4_1968", "ansi_x3.4_1986", "iso_646.irv_1991"]
  | latin1 => ["latin_1", "latin1", "latin", "l1", "iso_8859_1", "iso8859_1", "iso8859", "8859",
    "iso_8859_1_1987", "iso_ir_100", "ibm819", "cp819", "csisolatin1"]

/-- Puts one low line where signs stand between letters, digits and points, and none at the ends. -/
private def joined (cs : List Char) : List Char :=
  let isPart (c : Char) : Bool := c.isAlphanum || c == '.'
  match cs with
  | [] => []
  | c :: rest =>
    let after := joined rest
    if isPart c then c.toLower :: after
    else match after with
      | '_' :: _ | [] => after
      | _ => '_' :: after

/-- The encoding with a name, in any case of letters. -/
def named? (s : String) : Option Encoding :=
  let parts := String.ofList ((joined s.toList).dropWhile (· == '_'))
  [utf8, ascii, latin1].find? fun e => e.names.contains parts

private def isByteOf (e : Encoding) (b : UInt8) : Bool :=
  e != ascii || b < 0x80

/-- The first bytes at or after a position that are no character. -/
def firstBad? (e : Encoding) (position : Nat) (bs : List UInt8) : Option BadByte :=
  match e with
  | utf8 => firstBadByte? (bs.length + 1) position bs
  | _ => (bs.findIdx? (!e.isByteOf ·)).map fun i =>
    ⟨bs.getD i 0, position + i, 1, "ordinal not in range(128)"⟩

/-- The characters of bytes without bad ones among them. -/
private def chars (e : Encoding) (bs : List UInt8) : List Char :=
  match e with
  | utf8 => ((ofBytes bs).toOption.getD "").toList
  | _ => bs.map fun b => Char.ofNat b.toNat

private def decodeFrom {ε : Type} (e : Encoding)
    (recover : BadByte → List UInt8 → Except ε (List Char)) :
    (fuel position : Nat) → List UInt8 → Except ε (List Char)
  | 0, _, _ => .ok []
  | fuel + 1, position, bs => match e.firstBad? position bs with
    | none => .ok (e.chars bs)
    | some bad => do
      let (good, rest) := bs.splitAt (bad.position - position)
      let instead ← recover bad (rest.take bad.count)
      let after ← e.decodeFrom recover fuel (bad.position + bad.count) (rest.drop bad.count)
      return e.chars good ++ instead ++ after

/-- The text of bytes, where `recover` says what stands for bytes that are no character. -/
def decode {ε : Type} (e : Encoding) (recover : BadByte → List UInt8 → Except ε (List Char))
    (bs : List UInt8) : Except ε String :=
  (e.decodeFrom recover (bs.length + 1) 0 bs).map String.ofList

section

variable {ε : Type} {e : Encoding} {recover : BadByte → List UInt8 → Except ε (List Char)}
  {bs : List UInt8} {failure : ε}

private theorem error_of_bind {α β : Type} {x : Except ε α} {f : α → Except ε β}
    (h : x >>= f = .error failure) : x = .error failure ∨ ∃ a, f a = .error failure := by
  cases x with
  | ok a => exact .inr ⟨a, h⟩
  | error other =>
    cases h
    exact .inl rfl

private theorem exists_of_decodeFrom_error {fuel position : Nat}
    (h : e.decodeFrom recover fuel position bs = .error failure) :
    ∃ bad bytes, recover bad bytes = .error failure := by
  induction fuel generalizing position bs with
  | zero => cases h
  | succ fuel ih =>
    rw [decodeFrom] at h
    split at h
    · cases h
    · rcases error_of_bind h with hrecover | ⟨instead, hlater⟩
      · exact ⟨_, _, hrecover⟩
      · rcases error_of_bind hlater with hafter | ⟨after, hdone⟩
        · exact ih hafter
        · cases hdone

/-- Bytes have no text only where nothing stands for the bad ones among them. -/
theorem exists_of_decode_error (h : e.decode recover bs = .error failure) :
    ∃ bad bytes, recover bad bytes = .error failure := by
  rw [decode] at h
  cases hfrom : e.decodeFrom recover (bs.length + 1) 0 bs with
  | error other =>
    rw [hfrom] at h
    cases h
    exact exists_of_decodeFrom_error hfrom
  | ok cs =>
    rw [hfrom] at h
    cases h

end

end Encoding

end Stepwise.Text
