import Stepwise.Proofs.Bundle.Entries
import Stepwise.Script.Decode

namespace Stepwise

open Record

namespace Script

variable {xs ys : List (Value × Value)}

/-- Mappings are read as the same script, or refused for the same reasons, if their fields are. -/
theorem decode_congr {v w : Value}
    (hname : textOrNull ((Value.lookup "name" xs).getD .null) =
      textOrNull ((Value.lookup "name" ys).getD .null))
    (hversion : versionText ((Value.lookup "version" xs).getD .null) =
      versionText ((Value.lookup "version" ys).getD .null))
    (hstart : nullable idText ((Value.lookup "start" xs).getD .null) =
      nullable idText ((Value.lookup "start" ys).getD .null))
    (hv : Value.lookup "steps" xs = some v) (hw : Value.lookup "steps" ys = some w)
    (hsteps : boundedList 1 decodeStep v = boundedList 1 decodeStep w) :
    decode (.map xs) = decode (.map ys) := by
  have hfields : ∀ {α : Type} {read : Value → Decoded (Option α)} (name : String),
      read .null = .ok none →
      read ((Value.lookup name xs).getD .null) = read ((Value.lookup name ys).getD .null) →
      optional xs name [] none read = optional ys name [] none read := by
    intro α read name hnull hsame
    rw [optional_eq_getD hnull, optional_eq_getD hnull, hsame]
  rw [decode, decode, hfields "name" rfl hname, hfields "version" rfl hversion,
    hfields "start" rfl hstart, required_eq_under hv, required_eq_under hw, hsteps]

theorem idText_congr {v w : Value} (htext : text v = text w) : idText v = idText w := by
  simp only [idText, boundedText, htext]

end Script

namespace Bundle

/-- The script that an item is by itself, under a name: it has the version, the start and the steps
    of the item, each if the item has it. -/
def source (name : String) (version start steps : Option Value) : Value :=
  .ofFields (("name", .text name) :: [("version", version), ("start", start), ("steps", steps)].filterMap
    fun (field, value) => value.map (field, ·))

/-- A version as the entry keeps it: numbers have a fraction, and truth values are numbers. -/
def keptVersion : Value → Value
  | .int n => .float (.ofInt n)
  | .bool b => .float (if b then 1.0 else 0.0)
  | v => v

variable {index : Nat} {fields : List (Value × Value)} {item : Value} {entry : Entry}

theorem number_int {n : Int} {x : Float} (hread : number (.int n) = .ok x) : x = .ofInt n := by
  unfold number at hread
  dsimp only at hread
  split at hread
  · cases hread
  · exact (Decoded.ok.inj hread).symm

/-- The version of an entry stands for the same text as the one that it keeps of its item. -/
theorem versionText_of_decodeVersion {v : Value} {version : Option Value}
    (hread : nullable Entry.decodeVersion v = .ok version) :
    Script.versionText (version.getD .null) = Script.versionText (keptVersion v) := by
  by_cases hnull : v = .null
  · subst hnull
    cases hread
    rfl
  · rw [nullable_eq_map hnull, Decoded.map_eq_ok] at hread
    obtain ⟨w, hread, rfl⟩ := hread
    rcases decodeVersion_eq_ok_iff.1 hread with ⟨s, htext, rfl⟩ | ⟨hno, x, hnumber, rfl⟩
    · cases v with
      | text t => cases htext; rfl
      | bytes bs =>
        change Decoded.ok (some s) = (text (.bytes bs)).map some
        rw [htext, Decoded.map]
      | _ => cases htext
    · cases v with
      | int n => rw [number_int hnumber]; rfl
      | float y => cases hnumber; rfl
      | bool b => cases hnumber; rfl
      | text t => exact absurd rfl (hno t)
      | _ => cases hnumber

theorem startText_of_text {v : Value} {start : Option String}
    (hread : nullable text v = .ok start) :
    nullable Script.idText (.ofText? start) = nullable Script.idText v := by
  by_cases hnull : v = .null
  · subst hnull
    cases hread
    rfl
  · rw [nullable_eq_map hnull, Decoded.map_eq_ok] at hread
    obtain ⟨s, htext, rfl⟩ := hread
    rw [nullable_eq_map hnull, ← Script.idText_congr (v := .text s) htext.symm]
    rfl

theorem steps_of_list {v : Value} {steps : List Value} (hread : list Decoded.ok v = .ok steps) :
    boundedList 1 Script.decodeStep (.list steps) = boundedList 1 Script.decodeStep v := by
  rcases list_ok_eq_ok_iff.1 hread with rfl | rfl <;> rfl

theorem lookup_script (entry : Entry) : ∃ entries, entry.script = .map entries ∧
    Value.lookup "name" entries = some (.text entry.name) ∧
    (Value.lookup "version" entries).getD .null = entry.version.getD .null ∧
    (Value.lookup "start" entries).getD .null = .ofText? entry.start ∧
    Value.lookup "steps" entries = some (.list entry.steps) := by
  have hnodup : ([("name", Value.text entry.name), ("version", entry.version.getD .null),
    ("start", .ofText? entry.start), ("steps", .list entry.steps)].map Prod.fst).Nodup := by simp
  have hlookup := fun name =>
    (Value.lookup_ofFields name _).trans (lookup_filter hnodup (fun v => !v.isNull) name)
  have hnull : ∀ v : Value, ((some v).filter fun v => !v.isNull).getD .null = v := by
    intro v
    cases v <;> rfl
  have hgetD := fun name => congrArg (fun found : Option Value => found.getD .null) (hlookup name)
  exact ⟨_, rfl, hlookup "name", (hgetD "version").trans (hnull (entry.version.getD .null)),
    (hgetD "start").trans (hnull (.ofText? entry.start)), hlookup "steps"⟩

theorem lookup_source (name : String) (version start steps : Option Value) :
    ∃ entries, source name version start steps = .map entries ∧
      Value.lookup "name" entries = some (.text name) ∧ Value.lookup "version" entries = version ∧
      Value.lookup "start" entries = start ∧ Value.lookup "steps" entries = steps := by
  refine ⟨_, rfl, ?_⟩
  cases version <;> cases start <;> cases steps <;> exact ⟨rfl, rfl, rfl, rfl⟩

/-- The script of an entry is read, or refused, as the item itself is under the name of the entry,
    except that its version is the one that the entry keeps. -/
theorem decode_script (hsteps : (fieldOf "steps" fields).isTruthy)
    (hentry : Describes index fields entry) :
    Script.decode entry.script = Script.decode (source entry.name
      ((Value.lookup "version" fields).map keptVersion) (Value.lookup "start" fields)
      (Value.lookup "steps" fields)) := by
  obtain ⟨xs, hscript, hname, hversion, hstart, hlist⟩ := lookup_script entry
  obtain ⟨ys, hsource, hname', hversion', hstart', hlist'⟩ := lookup_source entry.name
    ((Value.lookup "version" fields).map keptVersion) (Value.lookup "start" fields)
    (Value.lookup "steps" fields)
  rw [lookup_of_isTruthy hsteps] at hlist'
  have hkept : ((Value.lookup "version" fields).map keptVersion).getD .null =
      keptVersion (fieldOf "version" fields) := by
    unfold fieldOf
    cases Value.lookup "version" fields <;> rfl
  rw [hscript, hsource]
  refine Script.decode_congr ?_ ?_ ?_ hlist hlist' (steps_of_list hentry.steps)
  · rw [hname, hname']
  · rw [hversion, hversion', hkept]
    exact versionText_of_decodeVersion hentry.version
  · rw [hstart, hstart']
    exact startText_of_text hentry.start

/-- Of an item that becomes an entry, the script of the entry gets the verdict of the item itself
    under the name of the entry, but with the version that the entry keeps: that of the item unless it
    is a number without a fraction or a truth value. -/
theorem ofInput_script (hitem : entryOf index item = .ok (some entry)) :
    ∃ fields, item = .map fields ∧
      Script.ofInput entry.script = Script.ofInput (source entry.name
        ((Value.lookup "version" fields).map keptVersion) (Value.lookup "start" fields)
        (Value.lookup "steps" fields)) ∧
      ((∀ n, Value.lookup "version" fields ≠ some (.int n)) →
        (∀ b, Value.lookup "version" fields ≠ some (.bool b)) →
        Script.ofInput entry.script = Script.ofInput (source entry.name
          (Value.lookup "version" fields) (Value.lookup "start" fields)
          (Value.lookup "steps" fields))) := by
  obtain ⟨fields, rfl, hsteps, hdescribes⟩ := describes_of_entryOf hitem
  have hkept : Script.ofInput entry.script = Script.ofInput (source entry.name
      ((Value.lookup "version" fields).map keptVersion) (Value.lookup "start" fields)
      (Value.lookup "steps" fields)) :=
    congrArg (Script.ofDecoded .document) (decode_script hsteps hdescribes)
  refine ⟨fields, rfl, hkept, fun hint hbool => ?_⟩
  have hsame : (Value.lookup "version" fields).map keptVersion = Value.lookup "version" fields := by
    cases hlookup : Value.lookup "version" fields with
    | none => rfl
    | some v =>
      cases v with
      | int n => exact absurd hlookup (hint n)
      | bool b => exact absurd hlookup (hbool b)
      | _ => rfl
  rw [hsame] at hkept
  exact hkept

/-- An item whose start is given in bytes, and whose id and description are null. -/
def postcard : Value :=
  .ofFields [("id", .null), ("name", .text "Postcard"), ("description", .null),
    ("version", .text "2"), ("start", .bytes [98, 121, 101]), ("steps", .list [byeStep])]

def postcardEntry : Entry :=
  ⟨"Postcard", "Postcard", none, some (.text "2"), some "bye", [byeStep]⟩

def byeScript (name version : String) (start : Option String) : Script :=
  ⟨some name, some version, start, [⟨"bye", none, none, .finish .success none⟩]⟩

theorem ofInput_script_postcard : entryOf 3 postcard = .ok (some postcardEntry) ∧
    Script.ofInput (source "Postcard" (some (.text "2")) (some (.bytes [98, 121, 101]))
      (some (.list [byeStep]))) = .ok (byeScript "Postcard" "2" (some "bye")) := by
  have hitem : entryOf 3 postcard = .ok (some postcardEntry) := by rfl
  obtain ⟨fields, hfields, -, hsame⟩ := ofInput_script hitem
  cases hfields
  have hscript : Script.ofInput postcardEntry.script = .ok (byeScript "Postcard" "2" (some "bye")) := by
    rfl
  exact ⟨hitem, (hsame (fun n => nofun) fun b => nofun).symm.trans hscript⟩

/-- An item with a version, and the entry that keeps it as a number. -/
def versioned (version : Value) : Value :=
  .ofFields [("id", .text "s"), ("version", version), ("steps", .list [byeStep])]

def versionedEntry (version : Float) : Entry :=
  ⟨"s", "s", none, some (.float version), none, [byeStep]⟩

/-- The version 2 of an item is read as 2.0 when it comes through an entry. A truth value is no
    version of a script, but is read as 1.0 then. -/
theorem entry_alters_version :
    entryOf 0 (versioned (.int 2)) = .ok (some (versionedEntry 2.0)) ∧
    Script.ofInput (versionedEntry 2.0).script = .ok (byeScript "s" "2.0" none) ∧
    Script.ofInput (source "s" (some (.int 2)) none (some (.list [byeStep]))) =
      .ok (byeScript "s" "2" none) ∧
    entryOf 0 (versioned (.bool true)) = .ok (some (versionedEntry 1.0)) ∧
    Script.ofInput (versionedEntry 1.0).script = .ok (byeScript "s" "1.0" none) ∧
    Script.ofInput (source "s" (some (.bool true)) none (some (.list [byeStep]))) =
      .error (.schema .document [⟨[.name "version"], .notText⟩]) := by
  refine ⟨?_, ?_, ?_, ?_, ?_, ?_⟩
  · rfl
  · decide +kernel
  · decide +kernel
  · rfl
  · decide +kernel
  · decide +kernel

end Bundle

end Stepwise
