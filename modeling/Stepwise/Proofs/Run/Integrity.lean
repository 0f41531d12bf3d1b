import Stepwise.Proofs.Run.Mirror
import Stepwise.Proofs.Table

namespace Stepwise

/-- All variables are texts. -/
def Context.Textual (c : Context) : Prop :=
  ∃ vars : Table String, c.vars = vars.map .text

/-- A host that leaves the options of the script as they are. -/
def Responder.KeepsScript {σ : Type} (host : Responder σ) : Prop :=
  ∀ s c q, (host s c q).2.1.Keeps

/-- A host that keeps variables texts, whatever else it does with them. -/
def Responder.KeepsTexts {σ : Type} (host : Responder σ) : Prop :=
  ∀ s (c : Context) q, c.Textual → (host s c q).1.Textual

/-- A host that replies with values from a list, and with null when there are none left. -/
def Responder.ofValues : Responder (List Value)
  | [], c, _ => (c, .value .null, [])
  | v :: rest, c, _ => (c, .value v, rest)

theorem Responder.keepsScript_ofValues : Responder.ofValues.KeepsScript := by
  intro s c q
  cases s <;> trivial

theorem Responder.keepsTexts_ofValues : Responder.ofValues.KeepsTexts := by
  intro s c q htextual
  cases s <;> exact htextual

/-- Both have the same context, whose variables are texts, and only the run itself raises faults. -/
def Accord.ofTextual (visited : String → Prop) : Accord where
  same := fun c c' => c = c' ∧ c.Textual
  visited := visited
  fault := Fault.IsOwn
  own := fun _ hown => hown
  insert := by
    rintro c _ name s ⟨rfl, vars, hvars⟩
    exact ⟨rfl, vars.insert name s, by rw [hvars, Table.map_insert]⟩
  visit := by
    rintro c _ id ⟨rfl, htextual⟩
    exact ⟨rfl, htextual⟩

theorem Dialogue.respects_ofTextual {σ : Type} {host : Responder σ} (hscript : host.KeepsScript)
    (htexts : host.KeepsTexts) (visited : String → Prop) :
    Dialogue.Respects host (.ofTextual visited) := by
  rintro s c _ q ⟨rfl, htextual⟩
  exact ⟨hscript s c q, ⟨rfl, htexts s c q htextual⟩, rfl⟩

namespace Run

open Dialogue Record

theorem texts_map_text (vars : Table String) : Position.texts (vars.map .text) = .ok vars := by
  have hentries : ∀ entries : List (String × String),
      (entries.map fun e => (e.1, Value.text e.2)).foldr (fun e rest =>
        (((text e.2).under (.name e.1)).map fun s => (e.1, s)).map List.cons |>.ap rest)
        (.ok []) = .ok entries := by
    intro entries
    induction entries with
    | nil => rfl
    | cons entry rest ih =>
      rw [List.map_cons, List.foldr_cons, ih]
      rfl
  calc Position.texts (vars.map .text) = (Decoded.ok vars.entries).map Table.ofList :=
        congrArg (Decoded.map Table.ofList) (hentries vars.entries)
    _ = .ok vars := congrArg Decoded.ok (Table.ofList_entries vars)

/-- A run whose variables are texts ends where its script does. -/
theorem conclude_of_textual {p : Position} {vars : Table String}
    (hvars : p.context.vars = vars.map .text) (status : Status) (message : Option String) :
    p.conclude status message = .done ⟨status, p.stepsRun, vars, message⟩ := by
  unfold Position.conclude
  rw [hvars, texts_map_text]
  rfl

variable {hooks : Hooks} {limit : Int} {script : Script}

/-- Ends of runs in equal contexts are equal. -/
theorem related_conclude {p p' : Position} (visited : String → Prop) (status : Status)
    (message : Option String) (hcontext : p.context = p'.context)
    (hcount : p'.stepsRun = p.stepsRun) :
    Related (.ofEq visited) Eq (p.conclude status message) (p'.conclude status message) := by
  unfold Position.conclude
  rw [← hcontext, hcount]
  split
  · exact .done rfl
  · exact .fail rfl (.inr ⟨_, rfl⟩)

/-- The run of a properly linked script visits steps of the script, and raises faults of its own
    only, unless its result cannot be made. -/
theorem related_self (hlinked : script.Linked) (vars : Table Value) :
    Related (.ofEq (· ∈ script.stepIds)) Eq (ofScript hooks limit script vars)
      (ofScript hooks limit script vars) :=
  related_ofScript hlinked.mirrors_self rfl hlinked.mem_stepIds_of_first (fun _ hid => hid)
    (fun _ _ status message hcontext => related_conclude _ status message hcontext) rfl

/-- Its result can be made as long as its variables are texts. -/
theorem related_textual (hlinked : script.Linked) (vars : Table String) :
    Related (.ofTextual (· ∈ script.stepIds)) Eq (ofScript hooks limit script (vars.map .text))
      (ofScript hooks limit script (vars.map .text)) := by
  refine related_ofScript hlinked.mirrors_self rfl hlinked.mem_stepIds_of_first (fun _ hid => hid)
    ?_ ⟨rfl, vars, rfl⟩
  intro p p' status message ⟨hcontext, texts, hvars⟩ hcount
  rw [conclude_of_textual hvars, conclude_of_textual (hcontext ▸ hvars), hcount]
  exact .done rfl

end Run

end Stepwise
