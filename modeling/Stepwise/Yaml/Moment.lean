import Stepwise.Text.Numeral
import Stepwise.Value.Basic

namespace Stepwise.Yaml

/-- The parts of a moment as they are written. -/
structure MomentText where
  year : List Char
  month : List Char
  day : List Char
  time : Option (List Char × List Char × List Char × List Char)
  /-- The sign, hours and minutes of the distance from universal time; no sign means none. -/
  zone : Option (Option Char × List Char × List Char)

namespace MomentText

private def isDigit (c : Char) : Bool := '0' ≤ c && c ≤ '9'

/-- From `least` to `most` digits, as many as there are. -/
private def digits (least most : Nat) (cs : List Char) : Option (List Char × List Char) :=
  let found := (cs.takeWhile isDigit).take most
  if found.length < least then none else some (found, cs.drop found.length)

private def expect (c : Char) : List Char → Option (List Char)
  | d :: rest => if c = d then some rest else none
  | [] => none

private def isBlank (c : Char) : Bool := c == ' ' || c == '\t'

/-- The zone at the end of a moment, with blanks before it. -/
private def zone? (cs : List Char) : Option (Option (Option Char × List Char × List Char)) :=
  match cs.dropWhile isBlank with
  | [] => if cs.isEmpty then some none else none
  | ['Z'] => some (some (none, [], []))
  | sign :: rest =>
    if sign == '+' || sign == '-' then do
      let (hours, rest) ← digits 1 2 rest
      match rest with
      | [] => return some (some sign, hours, [])
      | rest =>
        let (minutes, rest) ← digits 2 2 (← expect ':' rest)
        if rest.isEmpty then return some (some sign, hours, minutes) else none
    else none

/-- Splits a moment into its parts; a month or a day may have one digit. -/
def ofChars? (cs : List Char) : Option MomentText := do
  let (year, cs) ← digits 4 4 cs
  let (month, cs) ← digits 1 2 (← expect '-' cs)
  let (day, cs) ← digits 1 2 (← expect '-' cs)
  match cs with
  | [] => return ⟨year, month, day, none, none⟩
  | mark :: after =>
    let rest := if mark == 'T' || mark == 't' then after else cs.dropWhile isBlank
    if mark != 'T' && mark != 't' && !isBlank mark then none
    let (hour, rest) ← digits 1 2 rest
    let (minute, rest) ← digits 2 2 (← expect ':' rest)
    let (second, rest) ← digits 2 2 (← expect ':' rest)
    let (fraction, rest) := match rest with
      | '.' :: rest => (rest.takeWhile isDigit, rest.dropWhile isDigit)
      | _ => ([], rest)
    return ⟨year, month, day, some (hour, minute, second, fraction), ← zone? rest⟩

/-- A plain scalar of this form is a moment. A day alone has two digits for the month and the
    day. -/
def isPlainMoment (cs : List Char) : Bool :=
  match ofChars? cs with
  | some t => t.time.isSome || (t.month.length == 2 && t.day.length == 2)
  | none => false

private def value (cs : List Char) : Nat :=
  Text.valueOfDigits 10 (cs.filterMap Text.digitValue?)

def isLeapYear (year : Nat) : Bool :=
  year % 4 == 0 && (year % 100 != 0 || year % 400 == 0)

def daysOfMonth (year month : Nat) : Nat :=
  if month == 2 then if isLeapYear year then 29 else 28
  else if [4, 6, 9, 11].contains month then 30
  else 31

private def inSeconds (sign : Option Char) (hours minutes : List Char) : Int :=
  let size : Int := 3600 * value hours + 60 * value minutes
  if sign == some '-' then -size else size

private def deltaText (seconds : Int) : String :=
  let days := seconds.fdiv 86400
  let rest := seconds.fmod 86400
  "datetime.timedelta(days=" ++ toString days ++
    (if rest == 0 then "" else ", seconds=" ++ toString rest) ++ ")"

/-- The moment with these parts, or what is wrong with them. -/
def toMoment (t : MomentText) : Except String Moment := do
  let (year, month, day) := (value t.year, value t.month, value t.day)
  let zone ← match t.zone with
    | some (sign, hours, minutes) =>
      let offset := inSeconds sign hours minutes
      if offset.natAbs < 86400 then pure (some offset)
      else throw ("offset must be a timedelta strictly between -timedelta(hours=24) and " ++
        "timedelta(hours=24), not " ++ deltaText offset ++ ".")
    | none => pure none
  if year == 0 then throw "year 0 is out of range"
  if month == 0 || 12 < month then throw "month must be in 1..12"
  if day == 0 || daysOfMonth year month < day then throw "day is out of range for month"
  match t.time with
  | none => return ⟨year, month, day, none⟩
  | some (hour, minute, second, fraction) =>
    if 23 < value hour then throw "hour must be in 0..23"
    if 59 < value minute then throw "minute must be in 0..59"
    if 59 < value second then throw "second must be in 0..59"
    let shown := fraction.take 6
    let micro := value (shown ++ List.replicate (6 - shown.length) '0')
    return ⟨year, month, day, some ⟨value hour, value minute, value second, micro, zone⟩⟩

end MomentText

end Stepwise.Yaml
