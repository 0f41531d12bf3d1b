import Stepwise.Proofs.Run.Integrity
import Stepwise.Run.Evaluator

namespace Stepwise

/-- The step is the same; the variables are texts, and in the second context they are laid over
    those that were final. -/
def Accord.ofReplay (final : Table String) : Accord where
  same := fun c c' => c'.step = c.step ∧
    ∃ vars : Table String, c.vars = vars.map .text ∧ c'.vars = (final.overlay vars).map .text
  visited := fun _ => True
  fault := fun _ => True
  own := fun _ _ => trivial
  insert := by
    rintro c c' name s ⟨hstep, vars, hvars, hvars'⟩
    refine ⟨hstep, vars.insert name s, by rw [hvars, Table.map_insert], ?_⟩
    rw [hvars', Table.overlay_insert, Table.map_insert]
  visit := by
    rintro c c' id ⟨_, hvars⟩
    exact ⟨rfl, hvars⟩

/-- The truth of an expression, if it can be read at all. -/
def Evaluator.truth? (e : Evaluator) (expression : String) (vars : Table Value) : Option Bool :=
  (e.lenient expression vars).toOption.map Prod.fst

/-- The expressions that a run decides, with the variables that it has then. -/
def Mark.decided? : Mark → Option (String × Table Value)
  | .call place (.evaluate expression) _ => some (expression, place.vars)
  | _ => none

namespace Run

open Dialogue

variable {hooks : Hooks} {limit : Int} {script : Script}

/-- A run from variables that are laid over the final ones of another goes the same way as long as
    it gets the same replies. Its variables stay laid over them. -/
theorem related_replay (hlinked : script.Linked) (final vars : Table String) :
    Related (.ofReplay final) (fun r r' => r' = { r with vars := final.overlay r.vars })
      (ofScript hooks limit script (vars.map .text))
      (ofScript hooks limit script ((final.overlay vars).map .text)) := by
  refine related_ofScript hlinked.mirrors_self rfl hlinked.mem_stepIds_of_first
    (fun _ _ => trivial) ?_ ⟨rfl, vars, rfl, rfl⟩
  intro p p' status message ⟨_, vars, hvars, hvars'⟩ hcount
  rw [conclude_of_textual hvars, conclude_of_textual hvars', hcount]
  exact .done rfl

end Run

end Stepwise
