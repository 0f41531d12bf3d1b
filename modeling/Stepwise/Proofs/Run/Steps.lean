import Stepwise.Proofs.Run.Related
import Stepwise.Proofs.Script.Linked
import Stepwise.Run.Walk

namespace Stepwise

namespace Run

open Dialogue

variable {A : Accord} {α : Type} {c c' : Context} {hooks : Hooks}

/-- The same value, with contexts that agree. -/
def Alike (A : Accord) (x y : Context × α) : Prop :=
  A.same x.1 y.1 ∧ x.2 = y.2

theorem related_request (hsame : A.same c c') (q : Request) :
    Related A (Alike A) (Dialogue.request c q) (Dialogue.request c' q) :=
  .ask hsame (fun _ _ _ hc => .done ⟨hc, rfl⟩) (fun _ _ => rfl) (fun _ _ => rfl)

theorem related_holds (hsame : A.same c c') (expression : String) :
    Related A (Alike A) (holds hooks c expression) (holds hooks c' expression) := by
  unfold holds
  split
  · refine (related_request hsame _).bind fun x y hxy => .pure ⟨hxy.1, ?_⟩
    rw [hxy.2]
  · exact .fail hsame (A.own _ trivial)

theorem related_log (hsame : A.same c c') (message : String) :
    Related A A.same (log hooks c message) (log hooks c' message) := by
  unfold log
  split
  · exact (related_request hsame _).bind fun x y hxy => .pure hxy.1
  · exact .pure hsame

theorem mem_targets_of_chosen {options : List Choice} {answer : Value} {target : String}
    (hchosen : chosen? options answer = some target) : target ∈ options.map Choice.goto := by
  obtain ⟨s, _, hfind⟩ := Option.bind_eq_some_iff.1 hchosen
  obtain ⟨option, hoption, rfl⟩ := Option.map_eq_some_iff.1 hfind
  exact List.mem_map_of_mem (List.mem_of_find?_eq_some hoption)

theorem related_choose (hsame : A.same c c') (step message : String) (options : List Choice) :
    Related A (fun x y => Alike A x y ∧ x.2.1 = options ∧ x.2.2 ∈ options.map Choice.goto)
      (choose hooks c step message options) (choose hooks c' step message options) := by
  unfold choose
  split
  · refine .ask hsame (fun c c' v hc => ?_) (fun _ _ => rfl) (fun _ _ => rfl)
    change Related A _ (choose.pick step c options v) (choose.pick step c' options v)
    unfold choose.pick
    split
    · rename_i target hchosen
      exact .done ⟨⟨hc, rfl⟩, rfl, mem_targets_of_chosen hchosen⟩
    · exact .fail hc (A.own _ trivial)
  · exact .fail hsame (A.own _ trivial)

theorem related_prompt (hsame : A.same c c') (step message : String) (preset : Option String) :
    Related A (Alike A) (prompt hooks c step message preset)
      (prompt hooks c' step message preset) := by
  unfold prompt
  split
  · refine (related_request hsame _).bind fun x y hxy => .pure ⟨hxy.1, ?_⟩
    rw [hxy.2]
  · exact .fail hsame (A.own _ trivial)

theorem related_execute (hsame : A.same c c') (step command : String)
    (args : Option (List String)) (cwd : Option String) :
    Related A (Alike A) (execute hooks c step command args cwd)
      (execute hooks c' step command args cwd) := by
  unfold execute
  split
  · refine (related_request hsame _).bind fun x y hxy => ?_
    dsimp only
    rw [hxy.2]
    split
    · exact .pure ⟨hxy.1, rfl⟩
    · exact .fail hxy.1 (A.own _ trivial)
  · exact .fail hsame (A.own _ trivial)

/-- What a step may lead to from two positions: their contexts still agree, the scripts are as
    before, and the run goes on, if it does, to the same successor of the step. -/
structure Stepped (A : Accord) (p p' : Position) (step : Step) (x x' : Position × Move) : Prop where
  script : x.1.script = p.script
  script' : x'.1.script = p'.script
  stepsRun : x.1.stepsRun = p.stepsRun
  stepsRun' : x'.1.stepsRun = p'.stepsRun
  same : A.same x.1.context x'.1.context
  move : x'.2 = x.2
  successor : ∀ {id}, x.2 = .go (some id) → id ∈ p.script.successors step

/-- Two positions at which a step stands in the script, and is followed by the same one if it can
    fall through. -/
structure Level (A : Accord) (p p' : Position) (step : Step) : Prop where
  nodup : p.script.stepIds.Nodup
  nodup' : p'.script.stepIds.Nodup
  mem : step ∈ p.script.steps
  mem' : step ∈ p'.script.steps
  next : step.FallsThrough → p'.script.next? step.id = p.script.next? step.id
  same : A.same p.context p'.context

theorem Level.withContext {p p' : Position} {step : Step} (hlevel : Level A p p' step)
    (hsame : A.same c c') : Level A { p with context := c } { p' with context := c' } step :=
  { hlevel with same := hsame }

/-- A step that falls through goes on to the step declared next. -/
theorem Level.stepped_next {p p' : Position} {step : Step} (hlevel : Level A p p' step)
    (hfalls : step.FallsThrough) (hsame : A.same c c') :
    Stepped A p p' step ({ p with context := c }, .go (p.script.next? step.id))
      ({ p' with context := c' }, .go (p'.script.next? step.id)) where
  script := rfl
  script' := rfl
  stepsRun := rfl
  stepsRun' := rfl
  same := hsame
  move := by rw [hlevel.next hfalls]
  successor := by
    intro id hmove
    exact Script.mem_successors_of_next hfalls (Move.go.inj hmove)

theorem related_perform {p p' : Position} {step : Step} (hlevel : Level A p p' step) :
    Related A (Stepped A p p' step) (perform hooks p step) (perform hooks p' step) := by
  have hsame := hlevel.same
  unfold perform
  cases haction : step.action with
  | prompt message store preset =>
    have hfalls : step.FallsThrough := .inr (by simp [haction])
    refine (related_prompt hsame _ _ _).bind fun x y hxy => .pure ?_
    obtain ⟨hplace, htext⟩ := hxy
    rw [htext]
    exact hlevel.stepped_next hfalls (A.insert store _ hplace)
  | choice message options =>
    refine (related_choose hsame _ _ _).bind fun ⟨c, options', target⟩ ⟨c', _⟩ hxy => .pure ?_
    obtain ⟨⟨hplace, rfl⟩, rfl, htarget⟩ := hxy
    exact {
      script := Script.withOptions_self hlevel.nodup hlevel.mem haction
      script' := Script.withOptions_self hlevel.nodup' hlevel.mem' haction
      stepsRun := rfl
      stepsRun' := rfl
      same := hplace
      move := rfl
      successor := by
        rintro id ⟨⟩
        exact Script.mem_successors_of_target (by simpa [haction, Action.targets] using htarget) }
  | command command args cwd onError =>
    have hfalls : step.FallsThrough := .inr (by simp [haction])
    refine (related_execute hsame _ _ _ _).bind fun x y hxy => ?_
    obtain ⟨hplace, heq⟩ := hxy
    dsimp only
    rw [← heq]
    split
    · exact .pure (hlevel.stepped_next hfalls hplace)
    · cases onError with
      | fail =>
        exact .pure {
          script := rfl, script' := rfl, stepsRun := rfl, stepsRun' := rfl, same := hplace
          move := rfl
          successor := by simp }
      | proceed =>
        exact (related_log hplace _).bind fun c c' hc => .pure (hlevel.stepped_next hfalls hc)
  | require expression message =>
    have hfalls : step.FallsThrough := .inr (by simp [haction])
    refine (related_holds hsame _).bind fun x y hxy => ?_
    obtain ⟨hplace, heq⟩ := hxy
    dsimp only
    rw [← heq]
    split
    · exact .pure (hlevel.stepped_next hfalls hplace)
    · exact .fail hplace (A.own _ trivial)
  | goto target =>
    exact .pure {
      script := rfl, script' := rfl, stepsRun := rfl, stepsRun' := rfl, same := hsame
      move := rfl
      successor := by
        rintro id ⟨⟩
        exact Script.mem_successors_of_target (by simp [haction, Action.targets]) }
  | finish status message =>
    exact .pure {
      script := rfl, script' := rfl, stepsRun := rfl, stepsRun' := rfl, same := hsame
      move := rfl
      successor := by simp }

theorem related_dispatch {p p' : Position} {step : Step} (hlevel : Level A p p' step) :
    Related A (Stepped A p p' step) (dispatch hooks p step) (dispatch hooks p' step) := by
  unfold dispatch
  cases hguard : step.guard? with
  | none => exact related_perform hlevel
  | some guard =>
    refine (related_holds hlevel.same guard).bind fun x y hxy => ?_
    obtain ⟨hplace, heq⟩ := hxy
    dsimp only
    rw [← heq]
    split
    · exact (related_perform (hlevel.withContext hplace)).mono fun x y hxy => { hxy with }
    · exact (related_log hplace _).bind fun c c' hc =>
        .pure (hlevel.stepped_next (.inl (by simp [hguard])) hc)

end Run

end Stepwise
