import Stepwise.Proofs.Run.Leads

namespace Stepwise

/-- What a step may ask of its host. -/
def Step.Puts (step : Step) : Request → Prop
  | .prompt message preset => ∃ store, step.action = .prompt message store preset
  | .choose message options => step.action = .choice message options
  | .command command args cwd => ∃ onError, step.action = .command command args cwd onError
  | .evaluate expression => step.guard? = some expression ∨
      ∃ message, step.action = .require expression message
  | .log _ => True

/-- The request is one of the step at which it is put. -/
def Script.Puts (script : Script) (place : Context) (q : Request) : Prop :=
  ∃ step, place.step = some step.id ∧ script.step? step.id = some step ∧ step.Puts q

namespace Dialogue

/-- A dialogue puts requests of this kind only, and ends in such a way, as long as its host leaves it
    its context and its options. -/
inductive Poses {α : Type} (P : Context → Request → Prop) (R : α → Prop) : Dialogue α → Prop where
  | done {a : α} (hresult : R a) : Poses P R (.done a)
  | fail (place : Context) (fault : Fault) : Poses P R (.fail place fault)
  | visit (place : Context) {rest : Dialogue α} (hrest : Poses P R rest) :
      Poses P R (.visit place rest)
  | ask {place : Context} {q : Request} {next : Context → Reply → Dialogue α} (hput : P place q)
      (hnext : ∀ reply : Reply, reply.Keeps → Poses P R (next place reply)) :
      Poses P R (.ask place q next)

namespace Poses

variable {α β : Type} {P : Context → Request → Prop} {R : α → Prop} {S : β → Prop}
  {d d' : Dialogue α}

theorem pure {a : α} (hresult : R a) : Poses P R (Pure.pure a) :=
  done hresult

theorem bind {f : α → Dialogue β} (h : Poses P R d) (hnext : ∀ a, R a → Poses P S (f a)) :
    Poses P S (d >>= f) := by
  induction h with
  | done hresult => exact hnext _ hresult
  | fail place fault => exact fail place fault
  | visit place _ ih => exact visit place ih
  | ask hput _ ih => exact ask hput ih

/-- Every request on the way is of this kind. -/
theorem leads {ms : List Mark} (h : Leads d ms d') (hposes : Poses P R d) :
    ∀ place q reply, .call place q reply ∈ ms → P place q := by
  induction h with
  | nil => exact fun _ _ _ hmem => absurd hmem List.not_mem_nil
  | visit _ ih =>
    cases hposes with
    | visit _ hrest =>
      intro place q reply hmem
      rcases List.mem_cons.1 hmem with heq | hmem
      · cases heq
      · exact ih hrest place q reply hmem
  | call hkeeps _ ih =>
    cases hposes with
    | ask hput hnext =>
      intro place q reply hmem
      rcases List.mem_cons.1 hmem with heq | hmem
      · cases heq
        exact hput
      · exact ih (hnext _ hkeeps) place q reply hmem

end Poses

end Dialogue

namespace Run

open Dialogue

variable {P : Context → Request → Prop} {place : Context} {hooks : Hooks} {limit : Int}
  {script : Script} {step : Step} {p : Position}

theorem poses_request {q : Request} (hput : P place q) :
    Poses P (fun x => x.1 = place) (Dialogue.request place q) := by
  refine .ask hput fun reply hkeeps => ?_
  cases reply with
  | value v => exact .done rfl
  | edited => exact hkeeps.elim
  | fault f => exact .fail ..

theorem poses_holds {expression : String} (hput : P place (.evaluate expression)) :
    Poses P (fun x => x.1 = place) (holds hooks place expression) := by
  unfold holds
  split
  · exact (poses_request hput).bind fun _ hx => .pure hx
  · exact .fail ..

theorem poses_log {message : String} (hput : P place (.log message)) :
    Poses P (· = place) (log hooks place message) := by
  unfold log
  split
  · exact (poses_request hput).bind fun _ hx => .pure hx
  · exact .pure rfl

theorem poses_prompt {message : String} {preset : Option String}
    (hput : P place (.prompt message preset)) (step : String) :
    Poses P (fun x => x.1 = place) (prompt hooks place step message preset) := by
  unfold prompt
  split
  · exact (poses_request hput).bind fun _ hx => .pure hx
  · exact .fail ..

theorem poses_choose {message : String} {options : List Choice}
    (hput : P place (.choose message options)) (step : String) :
    Poses P (fun x => x.1 = place ∧ x.2.1 = options) (choose hooks place step message options) := by
  unfold choose
  split
  · refine .ask hput fun reply hkeeps => ?_
    cases reply with
    | value v =>
      change Poses P _ (choose.pick step place options v)
      unfold choose.pick
      split
      · exact .done ⟨rfl, rfl⟩
      · exact .fail ..
    | edited => exact hkeeps.elim
    | fault f => exact .fail ..
  · exact .fail ..

theorem poses_execute {command : String} {args : Option (List String)} {cwd : Option String}
    (hput : P place (.command command args cwd)) (step : String) :
    Poses P (fun x => x.1 = place) (execute hooks place step command args cwd) := by
  unfold execute
  split
  · refine (poses_request hput).bind fun x hx => ?_
    dsimp only
    split
    · exact .pure hx
    · exact .fail ..
  · exact .fail ..

/-- A run of the script has come to a step. -/
structure Reaches (script : Script) (step : Step) (p : Position) : Prop where
  same : p.script = script
  found : script.step? step.id = some step
  visited : p.context.step = some step.id

theorem Reaches.puts (h : Reaches script step p) {q : Request} (hq : step.Puts q) :
    script.Puts p.context q :=
  ⟨step, h.visited, h.found, hq⟩

theorem poses_perform (hlinked : script.Linked) (h : Reaches script step p) :
    Poses script.Puts (fun x => x.1.script = script) (perform hooks p step) := by
  unfold perform
  cases haction : step.action with
  | prompt message store preset =>
    exact (poses_prompt (h.puts ⟨store, haction⟩) step.id).bind fun x hx => .pure h.same
  | choice message options =>
    refine (poses_choose (h.puts haction) step.id).bind fun x hx => .pure ?_
    obtain ⟨place, options', target⟩ := x
    obtain ⟨rfl, rfl⟩ := hx
    dsimp only
    rw [h.same]
    exact Script.withOptions_self hlinked.nodup (Script.step?_eq_some h.found).1 haction
  | command command args cwd onError =>
    refine (poses_execute (h.puts ⟨onError, haction⟩) step.id).bind fun x hx => ?_
    obtain ⟨place, outcome⟩ := x
    obtain rfl : place = p.context := hx
    dsimp only
    split
    · exact .pure h.same
    · cases onError with
      | fail => exact .pure h.same
      | proceed => exact (poses_log (h.puts trivial)).bind fun _ _ => .pure h.same
  | require expression message =>
    refine (poses_holds (h.puts (.inr ⟨message, haction⟩))).bind fun x hx => ?_
    dsimp only
    split
    · exact .pure h.same
    · exact .fail ..
  | goto target => exact .pure h.same
  | finish status message => exact .pure h.same

theorem poses_dispatch (hlinked : script.Linked) (h : Reaches script step p) :
    Poses script.Puts (fun x => x.1.script = script) (dispatch hooks p step) := by
  unfold dispatch
  cases hguard : step.guard? with
  | none => exact poses_perform hlinked h
  | some guard =>
    refine (poses_holds (h.puts (.inl hguard))).bind fun x hx => ?_
    obtain ⟨place, truth⟩ := x
    obtain rfl : place = p.context := hx
    dsimp only
    split
    · exact poses_perform hlinked h
    · exact (poses_log (h.puts trivial)).bind fun _ _ => .pure h.same

theorem poses_conclude (p : Position) (status : Status) (message : Option String) :
    Poses P (fun _ => True) (p.conclude status message) := by
  unfold Position.conclude
  split
  · exact .done trivial
  · exact .fail ..

theorem poses_walk (hlinked : script.Linked) (budget : Nat) (hsame : p.script = script) :
    Poses script.Puts (fun _ => True) (walk hooks limit budget p) := by
  induction budget generalizing p with
  | zero =>
    unfold walk
    split
    · exact poses_conclude ..
    · split <;> exact .fail ..
  | succ budget ih =>
    unfold walk
    split
    · exact poses_conclude ..
    · split
      · exact .fail ..
      next id _ step hstep =>
        rw [hsame] at hstep
        obtain ⟨_, rfl⟩ := Script.step?_eq_some hstep
        refine .visit _ ?_
        have hreaches : Reaches script step { p with
            context := { p.context with step := some step.id }, stepsRun := p.stepsRun + 1 } :=
          ⟨hsame, hstep, rfl⟩
        refine (poses_dispatch hlinked hreaches).bind fun x hx => ?_
        obtain ⟨q, move⟩ := x
        cases move with
        | go target => exact ih hx
        | stop status message => exact poses_conclude ..

/-- The request is one of the step of the input's script at which it is put. -/
def Puts (input : Value) (place : Context) (q : Request) : Prop :=
  ∃ script, Script.ofInput input = .ok script ∧ script.Puts place q

/-- Whatever was asked is what the step at which it was asked puts. -/
def IsPosed (input : Value) (ms : List Mark) : Prop :=
  ∀ place q reply, .call place q reply ∈ ms → Puts input place q

theorem IsPosed.of_concat {input : Value} {ms : List Mark} {mark : Mark}
    (h : IsPosed input (ms ++ [mark])) : IsPosed input ms :=
  fun place q reply hmem => h place q reply (List.mem_append_left _ hmem)

theorem isPosed_of_leads {input : Value} {vars : Table Value} {ms : List Mark} {d : Dialogue Result}
    (hleads : Leads (ofInput hooks limit input vars) ms d) : IsPosed input ms := by
  intro place q reply hmem
  unfold ofInput at hleads
  cases hinput : Script.ofInput input with
  | ok script =>
    rw [hinput] at hleads
    exact ⟨script, hinput, (poses_walk (Script.linked_of_ofInput hinput) limit.toNat rfl).leads
      hleads place q reply hmem⟩
  | error fault =>
    rw [hinput] at hleads
    obtain ⟨rfl, _⟩ := hleads.of_fail
    cases hmem

end Run

end Stepwise
