import Stepwise.Proofs.Run.Integrity

namespace Stepwise

/-- A run has come to a step. -/
def Context.IsAtStep (c : Context) : Prop :=
  ∃ step, c.step = some step ∧ step ≠ ""

namespace Mark

/-- The step that was visited. -/
def step? : Mark → Option String
  | .visit place => place.step
  | .call _ _ _ => none

/-- The variable that a prompt of the input's script stores its reply in, with the text stored. -/
def stored? (input : Value) : Mark → Option (String × String)
  | .call place (.prompt _ _) (.value v) => do
    let script ← (Script.ofInput input).toOption
    match (← script.step? (← place.step)).action with
    | .prompt _ store _ => some (store, Run.answerText v)
    | _ => none
  | _ => none

end Mark

namespace Run

open Dialogue

/-- The answers that prompts stored on the way, in order. -/
def stored (input : Value) (ms : List Mark) : List (String × String) :=
  ms.filterMap (Mark.stored? input)

/-- The step visited last. -/
def lastVisit (ms : List Mark) : Option String :=
  (ms.filterMap Mark.step?).getLast?

/-- The request stores no reply. -/
def Request.StoresNothing : Request → Prop
  | .prompt _ _ => False
  | _ => True

/-- What a run reached on its way: the variables that it began with, overlaid by the answers that
    prompts stored. -/
def reached (input : Value) (vars : Table String) (ms : List Mark) : Table String :=
  vars.insertAll (stored input ms)

/-- The context of a run that began with these variables and left these marks. -/
structure Tracks (input : Value) (vars : Table String) (ms : List Mark) (place : Context) :
    Prop where
  begun : place.IsAtStep
  step : place.step = lastVisit ms
  vars : place.vars = (reached input vars ms).map .text

/-- A fault with which such a run may end, unless it is cancelled. A fault that is located is at a
    step; only a run that is out of budget is at one that it did not visit. -/
structure Fails (input : Value) (vars : Table String) (ms : List Mark) (place : Context)
    (fault : Fault) : Prop where
  located : fault.isLocated → place.IsAtStep
  rejected : ∀ f, fault = .invalidScript f → Script.ofInput input = .error f
  step : place.step = lastVisit ms ∨ ∃ limit, fault = .budgetExceeded limit
  vars : place.vars = (reached input vars ms).map .text
  notCancelled : fault ≠ .cancelled

/-- A run that began with these variables and left these marks goes on by this dialogue: wherever it
    comes, its context is what its marks say. A fault of the host ends it at once. -/
inductive Traced {α : Type} (input : Value) (vars : Table String) (R : List Mark → α → Prop) :
    List Mark → Dialogue α → Prop where
  | done {ms : List Mark} {a : α} (hresult : R ms a) : Traced input vars R ms (.done a)
  | fail {ms : List Mark} {place : Context} {fault : Fault}
      (hfails : Fails input vars ms place fault) : Traced input vars R ms (.fail place fault)
  | visit {ms : List Mark} {place : Context} {rest : Dialogue α}
      (hrest : Traced input vars R (ms ++ [.visit place]) rest) :
      Traced input vars R ms (.visit place rest)
  | ask {ms : List Mark} {place : Context} {q : Request} {next : Context → Reply → Dialogue α}
      (htracks : Tracks input vars ms place)
      (hvalue : ∀ v, Traced input vars R (ms ++ [.call place q (.value v)]) (next place (.value v)))
      (hfault : ∀ f, next place (.fault f) = .fail place f) :
      Traced input vars R ms (.ask place q next)

variable {α β : Type} {input : Value} {script : Script} {vars : Table String} {ms : List Mark}
  {place : Context} {hooks : Hooks} {limit : Int}

namespace Traced

theorem bind {R : List Mark → α → Prop} {S : List Mark → β → Prop} {d : Dialogue α}
    {f : α → Dialogue β} (h : Traced input vars R ms d)
    (hnext : ∀ ms a, R ms a → Traced input vars S ms (f a)) : Traced input vars S ms (d >>= f) := by
  induction h with
  | done hresult => exact hnext _ _ hresult
  | fail hfails => exact fail hfails
  | visit _ ih => exact visit ih
  | ask htracks _ hfault ih =>
    refine ask htracks ih fun f => ?_
    rw [hfault, Dialogue.bind]

theorem pure {R : List Mark → α → Prop} {a : α} (hresult : R ms a) :
    Traced input vars R ms (Pure.pure a) :=
  done hresult

end Traced

theorem lastVisit_concat_call (q : Request) (reply : Reply) :
    lastVisit (ms ++ [.call place q reply]) = lastVisit ms := by
  simp [lastVisit, Mark.step?]

theorem lastVisit_concat_visit (step : String) (hstep : place.step = some step) :
    lastVisit (ms ++ [.visit place]) = some step := by
  simp [lastVisit, Mark.step?, hstep]

theorem stored_concat (mark : Mark) :
    stored input (ms ++ [mark]) = stored input ms ++ (mark.stored? input).toList := by
  unfold stored
  rw [List.filterMap_append]
  cases hmark : mark.stored? input <;> simp [hmark]

theorem reached_concat_of_none {mark : Mark} (hnone : mark.stored? input = none) :
    reached input vars (ms ++ [mark]) = reached input vars ms := by
  simp [reached, stored_concat, hnone]

namespace Tracks

/-- A reply to anything but a prompt stores nothing. -/
theorem concat (h : Tracks input vars ms place) {q : Request}
    (hplain : Request.StoresNothing q) (reply : Reply) :
    Tracks input vars (ms ++ [.call place q reply]) place := by
  refine ⟨h.begun, (lastVisit_concat_call q reply).symm ▸ h.step, ?_⟩
  have hnone : Mark.stored? input (.call place q reply) = none := by
    cases q with
    | prompt => exact hplain.elim
    | choose | command | evaluate | log => rfl
  rw [reached_concat_of_none hnone]
  exact h.vars

/-- A fault stores nothing, whatever was asked. -/
theorem concat_fault (h : Tracks input vars ms place) (q : Request) (fault : Fault) :
    Tracks input vars (ms ++ [.call place q (.fault fault)]) place := by
  refine ⟨h.begun, (lastVisit_concat_call q _).symm ▸ h.step, ?_⟩
  have hnone : Mark.stored? input (.call place q (.fault fault)) = none := by
    cases q <;> rfl
  rw [reached_concat_of_none hnone]
  exact h.vars

theorem fails (h : Tracks input vars ms place) {fault : Fault} (hown : fault.IsOwn) :
    Fails input vars ms place fault where
  located _ := h.begun
  rejected := by
    rintro f rfl
    exact hown.elim
  step := .inl h.step
  vars := h.vars
  notCancelled := by
    rintro rfl
    exact hown

theorem fails_host (h : Tracks input vars ms place) (fault : HostFault) :
    Fails input vars ms place (.host fault) where
  located _ := h.begun
  rejected := by rintro f ⟨⟩
  step := .inl h.step
  vars := h.vars
  notCancelled := by rintro ⟨⟩

theorem visit (hvars : place.vars = (reached input vars ms).map .text) {step : String}
    (hstep : step ≠ "") : Tracks input vars (ms ++ [.visit { place with step := some step }])
      { place with step := some step } where
  begun := ⟨step, rfl, hstep⟩
  step := (lastVisit_concat_visit step rfl).symm
  vars := by
    rw [reached_concat_of_none rfl]
    exact hvars

/-- A prompt stores the text of its reply. -/
theorem store (h : Tracks input vars ms place) (hinput : Script.ofInput input = .ok script)
    {step : Step} (hstep : place.step = some step.id) (hfound : script.step? step.id = some step)
    {message store : String} {preset : Option String}
    (haction : step.action = .prompt message store preset) (v : Value) :
    Tracks input vars (ms ++ [.call place (.prompt message preset) (.value v)])
      { place with vars := place.vars.insert store (.text (answerText v)) } where
  begun := h.begun
  step := (lastVisit_concat_call _ _).symm ▸ h.step
  vars := by
    have hstored : Mark.stored? input (.call place (.prompt message preset) (.value v)) =
        some (store, answerText v) := by
      simp [Mark.stored?, hinput, hstep, hfound, haction, Except.toOption]
    simp only [reached, stored_concat, hstored, Option.toList_some, Table.insertAll,
      List.foldl_append, List.foldl_cons, List.foldl_nil, Table.map_insert]
    rw [h.vars]
    rfl

end Tracks

/-- The context is as before, and what the marks say. -/
def Kept (input : Value) (vars : Table String) (place : Context) (ms : List Mark)
    (x : Context × α) : Prop :=
  x.1 = place ∧ Tracks input vars ms place

theorem traced_request (htracks : Tracks input vars ms place) (q : Request)
    (hplain : Request.StoresNothing q) :
    Traced input vars (Kept input vars place) ms (Dialogue.request place q) :=
  .ask htracks (fun v => .done ⟨rfl, htracks.concat hplain (.value v)⟩) fun _ => rfl

theorem traced_holds (htracks : Tracks input vars ms place) (expression : String) :
    Traced input vars (Kept input vars place) ms (holds hooks place expression) := by
  unfold holds
  split
  · exact (traced_request htracks (.evaluate expression) trivial).bind fun ms x hx => .pure hx
  · exact .fail (htracks.fails trivial)

theorem traced_log (htracks : Tracks input vars ms place) (message : String) :
    Traced input vars (fun ms place' => place' = place ∧ Tracks input vars ms place) ms
      (log hooks place message) := by
  unfold log
  split
  · exact (traced_request htracks (.log message) trivial).bind fun ms x hx => .pure hx
  · exact .pure ⟨rfl, htracks⟩

theorem traced_choose (htracks : Tracks input vars ms place) (step message : String)
    (options : List Choice) :
    Traced input vars (fun ms x => Kept input vars place ms x ∧ x.2.1 = options) ms
      (choose hooks place step message options) := by
  unfold choose
  split
  · refine .ask htracks (fun v => ?_) fun _ => rfl
    have hkept := htracks.concat (q := .choose message options) trivial (.value v)
    change Traced input vars _ _ (choose.pick step place options v)
    unfold choose.pick
    split
    · exact .done ⟨⟨rfl, hkept⟩, rfl⟩
    · exact .fail (hkept.fails trivial)
  · exact .fail (htracks.fails trivial)

theorem traced_execute (htracks : Tracks input vars ms place) (step command : String)
    (args : Option (List String)) (cwd : Option String) :
    Traced input vars (Kept input vars place) ms (execute hooks place step command args cwd) := by
  unfold execute
  split
  · refine (traced_request htracks (.command command args cwd) trivial).bind fun ms x hx => ?_
    obtain ⟨place', v⟩ := x
    obtain ⟨rfl, hkept⟩ := hx
    dsimp only
    split
    · exact .pure ⟨rfl, hkept⟩
    · exact .fail (hkept.fails trivial)
  · exact .fail (htracks.fails trivial)

/-- The context of a prompt is as before, and the prompt's reply is the text that it leads to. -/
theorem traced_prompt (htracks : Tracks input vars ms place) (step message : String)
    (preset : Option String) :
    Traced input vars (fun ms' x => x.1 = place ∧ ∃ v, x.2 = answerText v ∧
        ms' = ms ++ [.call place (.prompt message preset) (.value v)]) ms
      (prompt hooks place step message preset) := by
  unfold prompt
  split
  · exact .ask htracks (fun v => .done ⟨rfl, v, rfl, rfl⟩) fun _ => rfl
  · exact .fail (htracks.fails trivial)

/-- A run on its way through a script, at a step that it visits. -/
structure AtStep (input : Value) (script : Script) (vars : Table String) (step : Step)
    (ms : List Mark) (p : Position) : Prop where
  accepted : Script.ofInput input = .ok script
  same : p.script = script
  found : script.step? step.id = some step
  visited : p.context.step = some step.id
  tracks : Tracks input vars ms p.context

/-- After a step the script is as before, and the context what the marks say. -/
def Left (input : Value) (script : Script) (vars : Table String) (ms : List Mark)
    (x : Position × Move) : Prop :=
  x.1.script = script ∧ Tracks input vars ms x.1.context

theorem traced_perform {p : Position} {step : Step} (h : AtStep input script vars step ms p) :
    Traced input vars (Left input script vars) ms (perform hooks p step) := by
  obtain ⟨hinput, rfl, hfound, hstep, htracks⟩ := h
  unfold perform
  cases haction : step.action with
  | prompt message store preset =>
    refine (traced_prompt htracks _ _ _).bind fun ms' x hx => .pure ?_
    obtain ⟨place, answer⟩ := x
    obtain ⟨rfl, v, rfl, rfl⟩ := hx
    exact ⟨rfl, htracks.store hinput hstep hfound haction v⟩
  | choice message options =>
    refine (traced_choose htracks _ _ _).bind fun ms' x hx => .pure ?_
    obtain ⟨place, options', target⟩ := x
    obtain ⟨⟨rfl, hkept⟩, rfl⟩ := hx
    exact ⟨Script.withOptions_self (Script.linked_of_ofInput hinput).nodup
      (Script.step?_eq_some hfound).1 haction, hkept⟩
  | command command args cwd onError =>
    refine (traced_execute htracks _ _ _ _).bind fun ms' x hx => ?_
    obtain ⟨place, outcome⟩ := x
    obtain ⟨rfl, hkept⟩ := hx
    dsimp only
    split
    · exact .pure ⟨rfl, hkept⟩
    · cases onError with
      | fail => exact .pure ⟨rfl, hkept⟩
      | proceed =>
        exact (traced_log hkept _).bind fun ms' place hplace =>
          .pure ⟨rfl, hplace.1.symm ▸ hplace.2⟩
  | require expression message =>
    refine (traced_holds htracks _).bind fun ms' x hx => ?_
    obtain ⟨place, truth⟩ := x
    obtain ⟨rfl, hkept⟩ := hx
    dsimp only
    split
    · exact .pure ⟨rfl, hkept⟩
    · exact .fail (hkept.fails trivial)
  | goto target => exact .pure ⟨rfl, htracks⟩
  | finish status message => exact .pure ⟨rfl, htracks⟩

theorem traced_dispatch {p : Position} {step : Step} (h : AtStep input script vars step ms p) :
    Traced input vars (Left input script vars) ms (dispatch hooks p step) := by
  unfold dispatch
  cases hguard : step.guard? with
  | none => exact traced_perform h
  | some guard =>
    refine (traced_holds h.tracks guard).bind fun ms' x hx => ?_
    obtain ⟨place, truth⟩ := x
    obtain ⟨rfl, hkept⟩ := hx
    dsimp only
    split
    · exact traced_perform { h with tracks := hkept }
    · exact (traced_log hkept _).bind fun ms' place hplace =>
          .pure ⟨h.same, hplace.1.symm ▸ hplace.2⟩

/-- The result of a run has the variables that it reached. -/
def Concluded (input : Value) (vars : Table String) (ms : List Mark) (r : Result) : Prop :=
  r.vars = reached input vars ms

theorem traced_conclude {p : Position}
    (hvars : p.context.vars = (reached input vars ms).map .text) (status : Status)
    (message : Option String) :
    Traced input vars (Concluded input vars) ms (p.conclude status message) := by
  rw [conclude_of_textual hvars]
  exact .done rfl

/-- A run between two steps, or before its first one, which is a step of its script. -/
structure Rests (input : Value) (script : Script) (vars : Table String) (ms : List Mark)
    (p : Position) : Prop where
  same : p.script = script
  step : p.context.step = lastVisit ms
  vars : p.context.vars = (reached input vars ms).map .text
  begun : p.context.IsAtStep ∨ ∀ id, p.target = some id → id ∈ script.stepIds

theorem Left.rests {p : Position} {move : Move} (h : Left input script vars ms (p, move))
    (target : Option String) : Rests input script vars ms { p with target } :=
  ⟨h.1, h.2.step, h.2.vars, .inl h.2.begun⟩

theorem rests_first (hinput : Script.ofInput input = .ok script) :
    Rests input script vars [] ⟨script, script.first?, 0, ⟨none, vars.map .text⟩⟩ :=
  ⟨rfl, rfl, rfl, .inr fun _ => (Script.linked_of_ofInput hinput).mem_stepIds_of_first⟩

theorem traced_walk (hinput : Script.ofInput input = .ok script) (budget : Nat) {p : Position}
    (hrests : Rests input script vars ms p) :
    Traced input vars (Concluded input vars) ms (walk hooks limit budget p) := by
  have hmissing : ∀ {ms p id}, Rests input script vars ms p → p.target = some id →
      p.script.step? id = none →
      Traced input vars (Concluded input vars) ms (.fail p.context (.stepNotFound id)) := by
    intro ms p id h htarget hnone
    refine .fail ⟨fun _ => h.begun.resolve_right fun hsteps => ?_, by rintro f ⟨⟩, .inl h.step,
      h.vars, by rintro ⟨⟩⟩
    obtain ⟨step, hstep⟩ := Script.exists_step?_of_mem (hsteps id htarget)
    rw [h.same, hstep] at hnone
    cases hnone
  induction budget generalizing ms p with
  | zero =>
    unfold walk
    split
    · exact traced_conclude hrests.vars _ _
    next id hid =>
      obtain ⟨htarget, hne⟩ := Option.filter_eq_some_iff.1 hid
      split
      next hnone => exact hmissing hrests htarget hnone
      next step hstep =>
        obtain ⟨_, rfl⟩ := Script.step?_eq_some hstep
        exact .fail ⟨fun _ => ⟨_, rfl, by simpa using hne⟩, by rintro f ⟨⟩, .inr ⟨limit, rfl⟩,
          hrests.vars, by rintro ⟨⟩⟩
  | succ budget ih =>
    unfold walk
    split
    · exact traced_conclude hrests.vars _ _
    next id hid =>
      obtain ⟨htarget, hne⟩ := Option.filter_eq_some_iff.1 hid
      split
      next hnone => exact hmissing hrests htarget hnone
      next step hstep =>
        obtain ⟨_, rfl⟩ := Script.step?_eq_some hstep
        refine .visit ?_
        have hat : AtStep input script vars step
            (ms ++ [.visit { p.context with step := some step.id }])
            { p with context := { p.context with step := some step.id }, stepsRun := p.stepsRun + 1 } :=
          ⟨hinput, hrests.same, hrests.same ▸ hstep, rfl, .visit hrests.vars (by simpa using hne)⟩
        refine (traced_dispatch hat).bind fun ms' x hx => ?_
        obtain ⟨q, move⟩ := x
        cases move with
        | go target => exact ih (Left.rests hx target)
        | stop status message => exact traced_conclude hx.2.vars _ _

/-- Wherever a run comes, the step it is at is the one that it visited last, unless it is out of
    budget, and its variables are those it began with, overlaid by the answers that prompts
    stored. -/
theorem traced_ofInput (input : Value) (vars : Table String) :
    Traced input vars (Concluded input vars) []
      (ofInput hooks limit input (vars.map .text)) := by
  unfold ofInput
  cases hinput : Script.ofInput input with
  | ok script => exact traced_walk hinput limit.toNat (rests_first hinput)
  | error fault =>
    refine .fail ⟨by rintro ⟨⟩, fun f heq => ?_, .inl rfl, rfl, by rintro ⟨⟩⟩
    cases heq
    exact hinput

end Run

end Stepwise
