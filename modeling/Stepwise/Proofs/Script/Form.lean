import Stepwise.Script.Decode

namespace Stepwise.Script

/-- The input has the form of a script: it is a mapping that reads as one, or a text or bytes with
    the JSON of a value that does. -/
inductive Reads : Value → Script → Prop where
  | document {entries : List (Value × Value)} {script : Script}
    (hread : decode (.map entries) = .ok script) : Reads (.map entries) script
  | json {s : String} {v : Value} {script : Script} (hjson : Json.read? maxJsonDepth s = some v)
    (hread : decode v = .ok script) : Reads (.text s) script
  | bytes {bs : List UInt8} {s : String} {script : Script}
    (hbytes : String.fromUTF8? (ByteArray.mk bs.toArray) = some s) (hread : Reads (.text s) script) :
    Reads (.bytes bs) script

/-- What has the form of a script is judged as this script. -/
theorem ofInput_of_reads {input : Value} {script : Script} (hreads : Reads input script) :
    ofInput input = script.checked := by
  induction hreads with
  | document hread =>
    change ofDecoded .document (decode _) = _
    rw [hread, ofDecoded]
  | json hjson hread =>
    change ofJson _ = _
    rw [ofJson, hjson]
    change ofDecoded .json (decode _) = _
    rw [hread, ofDecoded]
  | bytes hbytes _ ih =>
    change ofJsonBytes _ = _
    rw [ofJsonBytes, hbytes]
    exact ih

theorem checked_ne_schema {script : Script} {origin : Record.Origin} {issues : List Record.Issue} :
    script.checked ≠ .error (.schema origin issues) := by
  unfold checked
  cases script.graphFault? <;> simp

/-- What does not have the form of a script is refused for that. -/
theorem exists_reads_or_schema (input : Value) :
    (∃ script, Reads input script) ∨
      ∃ origin issues, ofInput input = .error (.schema origin issues) := by
  have hdecoded : ∀ (origin : Record.Origin) (v : Value),
      (∃ script, decode v = .ok script) ∨
        ∃ issues, ofDecoded origin (decode v) = .error (.schema origin issues) := by
    intro origin v
    cases decode v with
    | ok script => exact .inl ⟨script, rfl⟩
    | bad issues => exact .inr ⟨issues, rfl⟩
  have hjson : ∀ s : String, (∃ script, Reads (.text s) script) ∨
      ∃ origin issues, ofJson s = .error (.schema origin issues) := by
    intro s
    unfold ofJson
    cases hread : Json.read? maxJsonDepth s with
    | none => exact .inr ⟨_, _, rfl⟩
    | some v =>
      exact (hdecoded .json v).imp (fun ⟨script, hok⟩ => ⟨script, .json hread hok⟩)
        fun hbad => ⟨.json, hbad⟩
  cases input with
  | text s => exact hjson s
  | bytes bs =>
    change _ ∨ ∃ origin issues, ofJsonBytes bs = .error (.schema origin issues)
    unfold ofJsonBytes
    cases hbytes : String.fromUTF8? (ByteArray.mk bs.toArray) with
    | none => exact .inr ⟨_, _, rfl⟩
    | some s => exact (hjson s).imp_left fun ⟨script, hreads⟩ => ⟨script, .bytes hbytes hreads⟩
  | map entries =>
    exact (hdecoded .document (.map entries)).imp (fun ⟨script, hok⟩ => ⟨script, .document hok⟩)
      fun hbad => ⟨.document, hbad⟩
  | _ => exact .inr ⟨.document, _, rfl⟩

/-- An input passes the schema exactly if it has the form of some script. -/
theorem exists_reads_iff {input : Value} :
    (∃ script, Reads input script) ↔
      ∀ origin issues, ofInput input ≠ .error (.schema origin issues) := by
  constructor
  · rintro ⟨script, hreads⟩ origin issues hinput
    rw [ofInput_of_reads hreads] at hinput
    exact checked_ne_schema hinput
  · intro hform
    refine (exists_reads_or_schema input).resolve_right ?_
    rintro ⟨origin, issues, hinput⟩
    exact hform origin issues hinput

/-- What has the form of a script reads as it. -/
theorem exists_decode_of_reads {input : Value} {script : Script} (hreads : Reads input script) :
    ∃ v, decode v = .ok script := by
  induction hreads with
  | document hread => exact ⟨_, hread⟩
  | json _ hread => exact ⟨_, hread⟩
  | bytes _ _ ih => exact ih

end Stepwise.Script
