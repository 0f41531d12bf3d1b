import Stepwise.Script.Basic

namespace Stepwise

/-- The first thing that is wrong with how the steps of a script refer to each other. -/
inductive GraphFault where
  | duplicateId (id : String)
  | unknownTarget (target : String)
  | unknownStart (id : String)
deriving DecidableEq

def GraphFault.message : GraphFault → String
  | duplicateId id => "Duplicate step id: " ++ id
  | unknownTarget target => "Unknown step target: " ++ target
  | unknownStart id => "Start step '" ++ id ++ "' does not exist"

namespace Script

/-- The first id that occurred before; `seen` are the ids so far. -/
def firstRepeated? (seen : List String) : List String → Option String
  | [] => none
  | id :: rest => if id ∈ seen then some id else firstRepeated? (id :: seen) rest

/-- The targets of all steps, in the order of steps and then of options. -/
def targets (script : Script) : List String :=
  script.steps.flatMap fun step => step.action.targets

/-- Ids have to differ, every target has to be the id of a step, and so has the start. The first
    violation counts, of these three kinds in turn. -/
def graphFault? (script : Script) : Option GraphFault :=
  match firstRepeated? [] script.stepIds with
  | some id => some (.duplicateId id)
  | none => match script.targets.find? (· ∉ script.stepIds) with
    | some target => some (.unknownTarget target)
    | none => match script.start with
      | some id => if id ∈ script.stepIds then none else some (.unknownStart id)
      | none => none

/-- The steps that may come right after a step. A jump or an end that has a guard may be skipped,
    and then the step declared next follows. -/
def successors (script : Script) (step : Step) : List String :=
  let following := (script.next? step.id).toList
  match step.action with
  | .goto _ | .choice _ _ | .finish _ _ =>
    if step.guard?.isSome then step.action.targets ++ following else step.action.targets
  | _ => following

/-- Adds everything that can be reached from the pending ids to those already seen. -/
def explore (script : Script) (seen pending : List String) : List String :=
  match pending with
  | [] => seen
  | id :: rest =>
    if _hseen : id ∈ seen then explore script seen rest
    else match _hstep : script.step? id with
      | none => explore script seen rest
      | some step => explore script (id :: seen) (script.successors step ++ rest)
termination_by ((script.steps.filter (·.id ∉ seen)).length, pending.length)
decreasing_by
  · exact Prod.Lex.right _ (by simp)
  · exact Prod.Lex.right _ (by simp)
  · apply Prod.Lex.left
    have hmem := List.mem_of_find?_eq_some _hstep
    have hid : step.id = id := by simpa using List.find?_some _hstep
    have hsub : (script.steps.filter (·.id ∉ id :: seen)) =
        (script.steps.filter (·.id ∉ seen)).filter (·.id ≠ id) := by
      rw [List.filter_filter]
      apply List.filter_congr
      intro x _
      simp [not_or]
    rw [hsub]
    apply List.length_filter_lt_length_iff_exists.2
    exact ⟨step, by simp [hmem, hid, _hseen], by simp [hid]⟩

/-- The ids of the steps that no path from the first step reaches, in declared order. -/
def unreachable (script : Script) : List String :=
  let seen := explore script [] script.first?.toList
  script.stepIds.filter (· ∉ seen)

end Script

end Stepwise
