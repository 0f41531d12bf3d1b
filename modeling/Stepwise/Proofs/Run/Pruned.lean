import Stepwise.Proofs.Run.Integrity
import Stepwise.Proofs.Script.Pruned

namespace Stepwise.Run

open Dialogue

variable {hooks : Hooks} {limit : Int} {script : Script}

/-- The runs of a script and of its pruned form go the same way, along steps that are reached. -/
theorem related_pruned (hlinked : script.Linked) (vars : Table Value) :
    Related (.ofEq script.Reaches) Eq (ofScript hooks limit script vars)
      (ofScript hooks limit script.pruned vars) :=
  related_ofScript hlinked.mirrors_pruned (Script.first?_pruned script) (fun h => .first h)
    (fun _ hreaches => hreaches)
    (fun _ _ status message hcontext => related_conclude _ status message hcontext) rfl

/-- The steps listed as unreachable are dead: no run visits them, and without them the script is
    still accepted, has nothing unreachable left, and runs just as before. -/
theorem unreachable_dead {input : Value} (hinput : Script.ofInput input = .ok script) :
    (∀ {σ : Type} (host : Responder σ) (s : σ) (hooks : Hooks) (limit : Int) (vars : Table Value),
      host.KeepsScript → ∀ place ∈ (ofScript hooks limit script vars).visits host s,
        ∀ id ∈ script.unreachable, place.step ≠ some id) ∧
    (∀ style, Script.ofInput (script.pruned.dump style) = .ok script.pruned) ∧
    script.pruned.unreachable = [] ∧
    ∀ {σ : Type} (host : Responder σ) (s : σ) (hooks : Hooks) (limit : Int) (vars : Table Value),
      host.KeepsScript →
        (ofScript hooks limit script.pruned vars).marks host s =
          (ofScript hooks limit script vars).marks host s ∧
        (ofScript hooks limit script.pruned vars).play host s =
          (ofScript hooks limit script vars).play host s := by
  have hlinked := Script.linked_of_ofInput hinput
  obtain ⟨⟨_, hread⟩, _⟩ := Script.decode_of_ofInput hinput
  refine ⟨?_, ?_, Script.unreachable_pruned script, ?_⟩
  · intro σ host s hooks limit vars hkeeps place hvisit id hdead hid
    obtain ⟨id', hid', hreaches⟩ := (related_pruned hlinked vars).visited_of_mem_marks
      (respects_ofEq hkeeps _) s (mem_visits.1 hvisit)
    obtain rfl : id' = id := Option.some.inj (hid'.symm.trans hid)
    exact Script.notMem_unreachable hreaches hdead
  · intro style
    exact Script.ofInput_dump ((Script.meetsSchema_of_decode hread).pruned hlinked) hlinked.pruned
  · intro σ host s hooks limit vars hkeeps
    obtain ⟨hmarks, hplay⟩ := (related_pruned hlinked vars).marks_eq_and_play_eq hkeeps s
    exact ⟨hmarks.symm, hplay.symm⟩

/-- The tour has one step that nothing leads to. -/
example : Script.tour.unreachable = ["stray"] := by cbv

theorem unreachable_dead_tour :
    Script.ofInput (Script.tour.dump .full) = .ok Script.tour ∧
    Responder.ofValues.KeepsScript ∧
    let replies : List Value :=
      [.bool true, .text "Ann", .text "yes", .bool false, .null, .text "?"]
    let run := ofScript .all 10 Script.tour ((Table.ofList [("ready", "1")]).map .text)
    let pruned := ofScript .all 10 Script.tour.pruned ((Table.ofList [("ready", "1")]).map .text)
    (∀ place ∈ run.visits Responder.ofValues replies,
      ∀ id ∈ Script.tour.unreachable, place.step ≠ some id) ∧
    Script.ofInput (Script.tour.pruned.dump .full) = .ok Script.tour.pruned ∧
    Script.tour.pruned.unreachable = [] ∧
    pruned.marks Responder.ofValues replies = run.marks Responder.ofValues replies ∧
    pruned.play Responder.ofValues replies = run.play Responder.ofValues replies := by
  obtain ⟨hvisits, hread, hnone, hsame⟩ := unreachable_dead Script.ofInput_tour
  exact ⟨Script.ofInput_tour, Responder.keepsScript_ofValues,
    hvisits _ _ _ _ _ Responder.keepsScript_ofValues, hread _, hnone,
    hsame _ _ _ _ _ Responder.keepsScript_ofValues⟩

end Stepwise.Run
