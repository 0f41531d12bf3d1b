import Stepwise.Text.Quoted
import Stepwise.Decimal.Shortest
import Stepwise.Value.Basic

namespace Stepwise

private def twoDigits (n : Nat) : String :=
  if n < 10 then "0" ++ toString n else toString n

private def digitsTo (width n : Nat) : String :=
  let shown := toString n
  String.ofList (List.replicate (width - shown.length) '0') ++ shown

private def offsetText (offset : Int) : String :=
  let size := offset.natAbs
  let seconds := size % 60
  (if offset < 0 then "-" else "+") ++ twoDigits (size / 3600) ++ ":" ++
    twoDigits (size / 60 % 60) ++ (if seconds == 0 then "" else ":" ++ twoDigits seconds)

/-- The time with its fraction, if it has one, and its distance from universal time. -/
def TimeOfDay.display (t : TimeOfDay) : String :=
  twoDigits t.hour ++ ":" ++ twoDigits t.minute ++ ":" ++ twoDigits t.second ++
    (if t.micro == 0 then "" else "." ++ digitsTo 6 t.micro) ++
    (match t.offset with
      | some offset => offsetText offset
      | none => "")

/-- The day, and the time after the separator. -/
def Moment.display (separator : String) (m : Moment) : String :=
  digitsTo 4 m.year ++ "-" ++ twoDigits m.month ++ "-" ++ twoDigits m.day ++
    (match m.time with
      | some t => separator ++ t.display
      | none => "")

private def commaSeparated (parts : List String) : String :=
  ", ".intercalate parts

private def zoneText (offset : Int) : String :=
  if offset == 0 then "datetime.timezone.utc"
  else
    let days := offset.fdiv 86400
    let seconds := offset.fmod 86400
    let parts := (if days == 0 then [] else ["days=" ++ toString days]) ++
      (if seconds == 0 then [] else ["seconds=" ++ toString seconds])
    "datetime.timezone(datetime.timedelta(" ++ commaSeparated parts ++ "))"

/-- The call that builds the moment. -/
def Moment.quoted (m : Moment) : String :=
  let day := [toString m.year, toString m.month, toString m.day]
  match m.time with
  | none => "datetime.date(" ++ commaSeparated day ++ ")"
  | some t =>
    let clock := [toString t.hour, toString t.minute] ++
      (if t.second == 0 && t.micro == 0 then [] else [toString t.second]) ++
      (if t.micro == 0 then [] else [toString t.micro]) ++
      (match t.offset with
        | some offset => ["tzinfo=" ++ zoneText offset]
        | none => [])
    "datetime.datetime(" ++ commaSeparated (day ++ clock) ++ ")"

namespace Value

mutual

/-- The value as it stands inside the text of another value: texts are quoted. -/
def quoted : Value → String
  | null => "None"
  | bool b => if b then "True" else "False"
  | int n => toString n
  | float x => Decimal.ofFloat x
  | text s => Text.quoted s
  | bytes bs => Text.quotedBytes bs
  | moment m => m.quoted
  | list items => "[" ++ commaSeparated (quotedItems items) ++ "]"
  | map entries => "\x7b" ++ commaSeparated (quotedEntries entries) ++ "\x7d"
  | set [] => "set()"
  | set members => "\x7b" ++ commaSeparated (quotedItems members) ++ "\x7d"

def quotedItems : List Value → List String
  | [] => []
  | item :: rest => item.quoted :: quotedItems rest

def quotedEntries : List (Value × Value) → List String
  | [] => []
  | (key, value) :: rest => (key.quoted ++ ": " ++ value.quoted) :: quotedEntries rest

end

/-- The text of a value: a text is its own, and all else is written as it is inside another. -/
def display : Value → String
  | text s => s
  | moment m => m.display " "
  | value => value.quoted

end Value

end Stepwise
