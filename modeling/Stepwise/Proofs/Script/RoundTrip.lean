import Stepwise.Proofs.Script.Linked
import Stepwise.Proofs.Script.Schema
import Stepwise.Script.Dump

namespace Stepwise.Script

open Record

variable {style : DumpStyle}

theorem textOrNull_ofText? (o : Option String) : textOrNull (.ofText? o) = .ok o := by
  cases o <;> rfl

theorem eq_none_of_isNull {o : Option String} (hnull : (Value.ofText? o).isNull = true) :
    none = o := by
  cases o
  · rfl
  · cases hnull

theorem idText_text {s : String} (hs : IsId s) : idText (.text s) = .ok s :=
  idText_eq_ok.2 ⟨rfl, hs⟩

theorem filledText_text {s : String} (hs : IsFilled s) : filledText (.text s) = .ok s :=
  filledText_eq_ok.2 ⟨rfl, hs⟩

theorem list_map {α : Type} {read : Value → Decoded α} {write : α → Value} {xs : List α}
    (hread : ∀ x ∈ xs, read (write x) = .ok x) : list read (.list (xs.map write)) = .ok xs := by
  refine Decoded.items_eq_ok.2 (List.forall₂_map_left_iff.2 ?_)
  exact List.forall₂_same.2 hread

theorem decodeChoice_dumpChoice {c : Choice} (hc : c.MeetsSchema) :
    decodeChoice (dumpChoice style c) = .ok c := by
  have hnodup : ([("id", Value.text c.id), ("label", .text c.label), ("goto", .text c.goto)].map
      Prod.fst).Nodup := by simp
  obtain ⟨entries, hentries, hwrites⟩ := style.exists_writes hnodup
  have hid := hwrites.required_eq_ok "id" [] rfl rfl (idText_text hc.id)
  have hlabel := hwrites.required_eq_ok "label" [] rfl rfl
    (filledText_text hc.label)
  have hgoto := hwrites.required_eq_ok "goto" [] rfl rfl (idText_text hc.goto)
  rw [dumpChoice, hentries, decodeChoice]
  simp [hid, hlabel, hgoto]

/-- The fields that all steps have, as they are written. -/
def stepFields (id : String) (description guard : Option String) (tag : String) :
    List (String × Value) :=
  [("id", .text id), ("description", .ofText? description), ("when", .ofText? guard),
    ("type", .text tag)]

theorem decodeAction_dumpAction {id : String} {description guard : Option String} {action : Action}
    (haction : action.MeetsSchema) {entries : List (Value × Value)}
    (hwrites : style.Writes (stepFields id description guard (dumpAction style action).1 ++
      (dumpAction style action).2) entries) :
    decodeAction? entries (dumpAction style action).1 = some (.ok action) := by
  obtain ⟨capitals, keepsNulls⟩ := style
  cases action with
  | prompt message store preset =>
    have hmessage := hwrites.required_eq_ok "message" [] rfl rfl
      (filledText_text haction.1)
    have hstore := hwrites.required_eq_ok "variable" [] rfl rfl
      (filledText_text haction.2)
    have hpreset := hwrites.optional_eq_ok "defaultValue" ["default_value"]
      (by cases capitals <;> rfl) (textOrNull_ofText? preset) eq_none_of_isNull
    simp [dumpAction, decodeAction?, hmessage, hstore, hpreset]
  | choice message options =>
    have hmessage := hwrites.required_eq_ok "message" [] rfl rfl
      (filledText_text haction.1)
    have hoptions := hwrites.required_eq_ok "options" [] rfl rfl
      (boundedList_eq_ok.2 ⟨list_map fun c hc => decodeChoice_dumpChoice (haction.2.2 c hc),
        haction.2.1⟩)
    simp [dumpAction, decodeAction?, hmessage, hoptions]
  | command name args cwd onError =>
    have hname := hwrites.required_eq_ok "command" [] rfl rfl
      (filledText_text haction)
    have hargs : Record.optional entries "args" [] none (nullable (list text)) = .ok args := by
      refine hwrites.optional_eq_ok "args" [] rfl ?_ ?_
      · cases args with
        | none => rfl
        | some args =>
          have hlist : list text (.list (args.map .text)) = .ok args := list_map fun _ _ => rfl
          exact congrArg (Decoded.map some) hlist
      · cases args
        · exact fun _ => rfl
        · exact fun hnull => by cases hnull
    have hcwd := hwrites.optional_eq_ok "cwd" [] rfl
      (textOrNull_ofText? cwd) eq_none_of_isNull
    have honError : Record.optional entries "onError" ["on_error"] .fail (oneOf onErrorWords) =
        .ok onError :=
      hwrites.optional_eq_ok "onError" ["on_error"] (by cases capitals <;> rfl)
        (by cases onError <;> rfl) (fun hnull => by cases hnull)
    simp [dumpAction, decodeAction?, hname, hargs, hcwd, honError]
  | require expression message =>
    have hlength : ∀ most ∈ some maxExpressionLength, expression.length ≤ most := by
      simpa using haction.2
    have hexpression := hwrites.required_eq_ok "expression" [] rfl rfl
      (boundedText_eq_ok.2 ⟨rfl, haction.1, hlength⟩)
    have hmessage := hwrites.optional_eq_ok "message" [] rfl
      (textOrNull_ofText? message) eq_none_of_isNull
    simp [dumpAction, decodeAction?, hexpression, hmessage]
  | goto target =>
    have htarget := hwrites.required_eq_ok "target" [] rfl rfl
      (idText_text haction)
    simp [dumpAction, decodeAction?, htarget]
  | finish status message =>
    have hstatus : Record.optional entries "status" [] .success (oneOf statusWords) = .ok status :=
      hwrites.optional_eq_ok "status" [] rfl (by cases status <;> rfl) (fun hnull => by cases hnull)
    have hmessage := hwrites.optional_eq_ok "message" [] rfl
      (textOrNull_ofText? message) eq_none_of_isNull
    simp [dumpAction, decodeAction?, hstatus, hmessage]

theorem nodup_fields (id : String) (description guard : Option String) (action : Action) :
    ((stepFields id description guard (dumpAction style action).1 ++
      (dumpAction style action).2).map Prod.fst).Nodup := by
  obtain ⟨capitals, keepsNulls⟩ := style
  cases action <;> cases capitals <;> simp [stepFields, dumpAction]

theorem decodeStep_dumpStep {step : Step} (hstep : step.MeetsSchema) :
    decodeStep (dumpStep style step) = .ok step := by
  obtain ⟨id, description, guard, action⟩ := step
  have hnodup := @nodup_fields style id description guard action
  obtain ⟨entries, hentries, hwrites⟩ := style.exists_writes hnodup
  have hid := hwrites.required_eq_ok "id" [] rfl rfl (idText_text hstep.id)
  have hdescription := hwrites.optional_eq_ok "description" [] rfl
    (textOrNull_ofText? description) eq_none_of_isNull
  have hguard := hwrites.optional_eq_ok "when" [] rfl
    (textOrNull_ofText? guard) eq_none_of_isNull
  have htag : Value.lookup "type" entries = some (.text (dumpAction style action).1) := by
    rw [hwrites "type"]
    exact Option.filter_some_pos (by simp [Value.isNull])
  have haction := decodeAction_dumpAction hstep.action hwrites
  have hdump : dumpStep style ⟨id, description, guard, action⟩ = .map entries := hentries
  rw [hdump]
  simp [decodeStep, htag, Value.text?, haction, hid, hdescription, hguard]

/-- A script that meets the schema is read back from what is written of it, in every style. -/
theorem decode_dump {script : Script} (hscript : script.MeetsSchema) :
    decode (dump style script) = .ok script := by
  have hnodup : ([("name", Value.ofText? script.name), ("version", .ofText? script.version),
      ("start", .ofText? script.start),
      ("steps", .list (script.steps.map (dumpStep style)))].map Prod.fst).Nodup := by simp
  obtain ⟨entries, hentries, hwrites⟩ := style.exists_writes hnodup
  have hname := hwrites.optional_eq_ok "name" [] rfl
    (textOrNull_ofText? script.name) eq_none_of_isNull
  have hversion : Record.optional entries "version" [] none versionText = .ok script.version :=
    hwrites.optional_eq_ok "version" [] rfl (by cases script.version <;> rfl) eq_none_of_isNull
  have hstart : Record.optional entries "start" [] none (nullable idText) = .ok script.start := by
    refine hwrites.optional_eq_ok "start" [] rfl ?_ eq_none_of_isNull
    cases hstart : script.start with
    | none => rfl
    | some id => exact congrArg (Decoded.map some) (idText_text (hscript.start id hstart))
  have hsteps := hwrites.required_eq_ok "steps" [] rfl rfl
    (boundedList_eq_ok.2 ⟨list_map fun step hstep => decodeStep_dumpStep (hscript.step step hstep),
      hscript.steps⟩)
  rw [dump, hentries, decode]
  simp [hname, hversion, hstart, hsteps]

/-- What is written of a script that meets the schema is accepted if its steps are linked. -/
theorem ofInput_dump {script : Script} (hscript : script.MeetsSchema) (hlinked : script.Linked) :
    ofInput (dump style script) = .ok script := by
  change ofDecoded .document (decode (dump style script)) = .ok script
  rw [decode_dump hscript]
  exact checked_eq_ok_iff.2 ⟨rfl, hlinked⟩

/-- A script that was accepted, be it from a document or from JSON, is written as a mapping that is
    accepted as well, in every style, and that is the same script. -/
theorem dump_is_accepted {input : Value} {script : Script} (hinput : ofInput input = .ok script)
    (style : DumpStyle) :
    ∃ entries, dump style script = .map entries ∧ ofInput (.map entries) = .ok script := by
  obtain ⟨⟨v, hread⟩, hlinked⟩ := decode_of_ofInput hinput
  have hscript : script.MeetsSchema := meetsSchema_of_decode hread
  exact ⟨_, rfl, ofInput_dump hscript hlinked⟩

/-- A document of a script with a step of every kind. Its version is a number, its fields have
    either of their spellings, and one of them is nobody's. -/
def almanacDocument : Value :=
  .ofFields [("name", .text "Almanac"), ("version", .int 2), ("start", .text "ask"),
    ("colour", .text "blue"), ("steps", .list [
      .ofFields [("id", .text "ask"), ("type", .text "prompt"), ("message", .text "Name?"),
        ("variable", .text "name"), ("defaultValue", .text "bob"), ("when", .text "")],
      .ofFields [("id", .text "pick"), ("type", .text "choice"), ("message", .text "Where?"),
        ("options", .list [.ofFields [("id", .text "here"), ("label", .text "Here"),
          ("goto", .text "make")]])],
      .ofFields [("id", .text "make"), ("type", .text "command"), ("command", .text "make"),
        ("args", .list [.text "all"]), ("cwd", .null), ("on_error", .text "continue")],
      .ofFields [("id", .text "check"), ("type", .text "assert"),
        ("expression", .text "vars.name")],
      .ofFields [("id", .text "skip"), ("type", .text "goto"), ("target", .text "done"),
        ("description", .text "Go on")],
      .ofFields [("id", .text "done"), ("type", .text "end"), ("status", .text "cancel")]])]

def almanac : Script where
  name := some "Almanac"
  version := some "2"
  start := some "ask"
  steps := [
    ⟨"ask", none, some "", .prompt "Name?" "name" (some "bob")⟩,
    ⟨"pick", none, none, .choice "Where?" [⟨"here", "Here", "make"⟩]⟩,
    ⟨"make", none, none, .command "make" (some ["all"]) none .proceed⟩,
    ⟨"check", none, none, .require "vars.name" none⟩,
    ⟨"skip", some "Go on", none, .goto "done"⟩,
    ⟨"done", none, none, .finish .cancel none⟩]

theorem dump_is_accepted_almanac :
    ofInput almanacDocument = .ok almanac ∧
    ∀ style, ∃ entries,
      dump style almanac = .map entries ∧ ofInput (.map entries) = .ok almanac := by
  have hinput : ofInput almanacDocument = .ok almanac := by decide +kernel
  exact ⟨hinput, dump_is_accepted hinput⟩

end Stepwise.Script
