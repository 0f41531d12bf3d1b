import Stepwise.Proofs.Run.Integrity
import Stepwise.Proofs.Script.Schema

namespace Stepwise

theorem Script.MeetsSchema.isEmpty_of_mem_stepIds {script : Script} (h : script.MeetsSchema)
    {id : String} (hid : id ∈ script.stepIds) : id.isEmpty = false := by
  obtain ⟨step, hstep, rfl⟩ := List.mem_map.1 hid
  obtain ⟨hlength, _⟩ := (h.step step hstep).id
  rw [Bool.eq_false_iff]
  intro hempty
  have hnil := String.isEmpty_iff.1 hempty
  simp [hnil] at hlength

namespace Run

/-- Where an option leads when it is chosen by its id, if no option before it has this id. One of
    those may have the id for its target, and then the answer is taken for that target. -/
def landing (earlier : List Choice) (o : Choice) : String :=
  if ∃ e ∈ earlier, e.goto = o.id then o.id else o.goto

theorem chosen?_text {earlier : List Choice} {o : Choice} (later : List Choice)
    (hfirst : ∀ e ∈ earlier, e.id ≠ o.id) :
    chosen? (earlier ++ o :: later) (.text o.id) = some (landing earlier o) := by
  change ((earlier ++ o :: later).find? fun c => c.id = o.id ∨ c.goto = o.id).map Choice.goto = _
  induction earlier with
  | nil => simp [landing]
  | cons e rest ih =>
    have hid : e.id ≠ o.id := hfirst e List.mem_cons_self
    by_cases hgoto : e.goto = o.id
    · simp [landing, hgoto]
    · have hrest := ih fun e he => hfirst e (List.mem_cons_of_mem _ he)
      simpa [landing, hid, hgoto] using hrest

end Run

open Run

namespace Dialogue

variable {α β σ : Type}

/-- Whenever the dialogue offers a choice, this is one of the script, and the id of an option takes
    it on as `T` says: by way of the step at which the option lands. It ends in such a way. -/
inductive Lands (script : Script) (T : Context → String → Dialogue α → Prop) (R : α → Prop) :
    Dialogue α → Prop where
  | done {a : α} (hresult : R a) : Lands script T R (.done a)
  | fail (place : Context) (fault : Fault) : Lands script T R (.fail place fault)
  | visit (place : Context) {rest : Dialogue α} (hrest : Lands script T R rest) :
      Lands script T R (.visit place rest)
  | ask (place : Context) {q : Request} {next : Context → Reply → Dialogue α}
      (hchoice : ∀ message options, q = .choose message options →
        (∃ step ∈ script.steps, step.action = .choice message options) ∧
        ∀ earlier o later, options = earlier ++ o :: later → (∀ e ∈ earlier, e.id ≠ o.id) →
          ∀ place, T place (landing earlier o) (next place (.value (.text o.id))))
      (hnext : ∀ place (reply : Reply), reply.Keeps → Lands script T R (next place reply)) :
      Lands script T R (.ask place q next)

namespace Lands

variable {script : Script} {T : Context → String → Dialogue α → Prop} {R : α → Prop}
  {d : Dialogue α}

theorem pure {a : α} (hresult : R a) : Lands script T R (Pure.pure a) :=
  done hresult

theorem bind {T' : Context → String → Dialogue β → Prop} {S : β → Prop} {f : α → Dialogue β}
    (h : Lands script T R d) (hT : ∀ place id d, T place id d → T' place id (d >>= f))
    (hnext : ∀ a, R a → Lands script T' S (f a)) : Lands script T' S (d >>= f) := by
  induction h with
  | done hresult => exact hnext _ hresult
  | fail place fault => exact fail place fault
  | visit place _ ih => exact visit place ih
  | ask place hchoice _ ih =>
    refine ask place (fun message options hq => ?_) ih
    obtain ⟨hstep, hlands⟩ := hchoice message options hq
    exact ⟨hstep, fun earlier o later hoptions hfirst place =>
      hT place _ _ (hlands earlier o later hoptions hfirst place)⟩

/-- A dialogue that offers no choice of itself, and what follows it. -/
theorem then_ {T' : Context → String → Dialogue β → Prop} {S : β → Prop} {f : α → Dialogue β}
    (h : Lands script (fun _ _ _ => False) (fun _ => True) d)
    (hnext : ∀ a, Lands script T' S (f a)) : Lands script T' S (d >>= f) :=
  h.bind (fun _ _ _ hfalse => hfalse.elim) fun a _ => hnext a

/-- What a host sees of a dialogue after it chose an option by its id. -/
theorem marks (h : Lands script T R d) {host : Responder σ} (hhost : host.KeepsScript) (s : σ)
    {before after : List Mark} {place : Context} {message : String}
    {earlier later : List Choice} {o : Choice} (hfirst : ∀ e ∈ earlier, e.id ≠ o.id)
    (hmarks : d.marks host s = before ++
      .call place (.choose message (earlier ++ o :: later)) (.value (.text o.id)) :: after) :
    (∃ step ∈ script.steps, step.action = .choice message (earlier ++ o :: later)) ∧
    ∃ place d' s', T place (landing earlier o) d' ∧ after = d'.marks host s' ∧
      d.play host s = d'.play host s' := by
  induction h generalizing s before with
  | done | fail => simp [Dialogue.marks] at hmarks
  | visit place _ ih =>
    rw [Dialogue.marks, List.cons_eq_append_iff] at hmarks
    rcases hmarks with ⟨_, hcall⟩ | ⟨before', _, hrest⟩
    · simp at hcall
    · exact ih s hrest
  | @ask place' q next hchoice _ ih =>
    have hkeeps := hhost s place' q
    obtain ⟨c, reply, s', hhere⟩ : ∃ c reply s', host s place' q = (c, reply, s') := ⟨_, _, _, rfl⟩
    rw [hhere] at hkeeps
    simp only [Dialogue.marks, Dialogue.play, hhere] at hmarks ⊢
    rcases List.cons_eq_append_iff.1 hmarks with ⟨_, hcall⟩ | ⟨before', _, hrest⟩
    · obtain ⟨hhead, rfl⟩ := List.cons.inj hcall
      obtain ⟨_, rfl, rfl⟩ := Mark.call.inj hhead
      obtain ⟨hstep, hlands⟩ := hchoice message _ rfl
      exact ⟨hstep, c, _, s', hlands earlier o later rfl hfirst c, rfl, rfl⟩
    · exact ih c reply hkeeps s' hrest

end Lands

end Dialogue

namespace Run

open Dialogue

variable {script : Script} {hooks : Hooks} {limit : Int} {p : Position}

section Others

variable (place : Context)

theorem lands_request {T : Context → String → Dialogue (Context × Value) → Prop} {q : Request}
    (hother : ∀ message options, q ≠ .choose message options) :
    Lands script T (fun _ => True) (Dialogue.request place q) := by
  refine .ask place (fun message options hq => absurd hq (hother message options)) ?_
  intro place reply hkeeps
  cases reply with
  | value v => exact .done trivial
  | edited => exact hkeeps.elim
  | fault f => exact .fail ..

theorem lands_holds {T : Context → String → Dialogue (Context × Bool) → Prop}
    (expression : String) : Lands script T (fun _ => True) (holds hooks place expression) := by
  unfold holds
  split
  · exact (lands_request place (by simp)).then_ fun _ => .pure trivial
  · exact .fail ..

theorem lands_log {T : Context → String → Dialogue Context → Prop} (message : String) :
    Lands script T (fun _ => True) (log hooks place message) := by
  unfold log
  split
  · exact (lands_request place (by simp)).then_ fun _ => .pure trivial
  · exact .pure trivial

theorem lands_prompt {T : Context → String → Dialogue (Context × String) → Prop}
    (step message : String) (preset : Option String) :
    Lands script T (fun _ => True) (prompt hooks place step message preset) := by
  unfold prompt
  split
  · exact (lands_request place (by simp)).then_ fun _ => .pure trivial
  · exact .fail ..

theorem lands_execute {T : Context → String → Dialogue (Context × Outcome) → Prop}
    (step command : String) (args : Option (List String)) (cwd : Option String) :
    Lands script T (fun _ => True) (execute hooks place step command args cwd) := by
  unfold execute
  split
  · refine (lands_request place (by simp)).then_ fun x => ?_
    dsimp only
    split
    · exact .pure trivial
    · exact .fail ..
  · exact .fail ..

end Others

/-- The step is over, and the step with this id comes next. -/
def Jumps (script : Script) (place : Context) (id : String) (d : Dialogue (Position × Move)) :
    Prop :=
  ∃ p, d = .done (p, .go (some id)) ∧ p.script = script ∧ p.context = place ∧
    id ∈ script.stepIds

/-- The run visits the step with this id next, if its budget allows it. -/
inductive GoesOn (limit : Int) (place : Context) (id : String) : Dialogue Result → Prop where
  | visit (rest : Dialogue Result) : GoesOn limit place id (.visit { place with step := some id } rest)
  | exceeded : GoesOn limit place id
      (.fail { place with step := some id } (.budgetExceeded limit))

/-- A choice takes the id of an option for the step at which the option lands. -/
theorem lands_choose {step : Step} (hstep : step ∈ script.steps) {message : String}
    {options : List Choice} (haction : step.action = .choice message options) (place : Context) :
    Lands script
      (fun place id d => d = .done (place, options, id) ∧ id ∈ options.map Choice.goto)
      (fun x => x.2.1 = options) (choose hooks place step.id message options) := by
  unfold choose
  split
  · refine .ask place (fun message' options' hq => ?_) fun place reply hkeeps => ?_
    · cases hq
      refine ⟨⟨step, hstep, haction⟩, fun earlier o later hoptions hfirst place => ?_⟩
      have hchosen := chosen?_text later hfirst
      rw [← hoptions] at hchosen
      refine ⟨?_, mem_targets_of_chosen hchosen⟩
      simp only [choose.pick, hchosen]
    · cases reply with
      | value v =>
        change Lands script _ _ (choose.pick step.id place options v)
        unfold choose.pick
        split
        · exact .done rfl
        · exact .fail ..
      | edited => exact hkeeps.elim
      | fault f => exact .fail ..
  · exact .fail ..

/-- A choice is the only step that offers options. -/
theorem lands_perform (hlinked : script.Linked) {step : Step} (hstep : step ∈ script.steps)
    (hsame : p.script = script) :
    Lands script (Jumps script) (fun x => x.1.script = script) (perform hooks p step) := by
  unfold perform
  cases haction : step.action with
  | prompt message store preset =>
    exact (lands_prompt ..).then_ fun _ => .pure hsame
  | command command args cwd onError =>
    refine (lands_execute ..).then_ fun x => ?_
    dsimp only
    split
    · exact .pure hsame
    · cases onError with
      | fail => exact .pure hsame
      | proceed => exact (lands_log ..).then_ fun _ => .pure hsame
  | require expression message =>
    refine (lands_holds ..).then_ fun x => ?_
    dsimp only
    split
    · exact .pure hsame
    · exact .fail ..
  | goto target => exact .pure hsame
  | finish status message => exact .pure hsame
  | choice message options =>
    have hkept : script.withOptions step.id options = script :=
      Script.withOptions_self hlinked.nodup hstep haction
    refine (lands_choose hstep haction p.context).bind ?_ fun x hx => .pure ?_
    · rintro place id _ ⟨rfl, hid⟩
      refine ⟨{ p with context := place, script := p.script.withOptions step.id options }, rfl,
        ?_, rfl, ?_⟩
      · rw [hsame, hkept]
      · refine hlinked.target id (List.mem_flatMap.2 ⟨step, hstep, ?_⟩)
        simpa [haction, Action.targets] using hid
    · obtain ⟨place, options', target⟩ := x
      obtain rfl : options' = options := hx
      rw [hsame, hkept]

theorem lands_dispatch (hlinked : script.Linked) {step : Step} (hstep : step ∈ script.steps)
    (hsame : p.script = script) :
    Lands script (Jumps script) (fun x => x.1.script = script) (dispatch hooks p step) := by
  unfold dispatch
  cases step.guard? with
  | none => exact lands_perform hlinked hstep hsame
  | some guard =>
    refine (lands_holds ..).then_ fun x => ?_
    dsimp only
    split
    · exact lands_perform hlinked hstep hsame
    · exact (lands_log ..).then_ fun _ => .pure hsame

theorem lands_conclude {T : Context → String → Dialogue Result → Prop} (p : Position)
    (status : Status) (message : Option String) :
    Lands script T (fun _ => True) (p.conclude status message) := by
  unfold Position.conclude
  split
  · exact .done trivial
  · exact .fail ..

/-- A run that is to go on at a step of its script does so. -/
theorem goesOn_walk (hschema : script.MeetsSchema) (budget : Nat) (hsame : p.script = script)
    {id : String} (hid : id ∈ script.stepIds) :
    GoesOn limit p.context id (walk hooks limit budget { p with target := some id }) := by
  obtain ⟨step, hstep⟩ := Script.exists_step?_of_mem hid
  obtain ⟨_, rfl⟩ := Script.step?_eq_some hstep
  have hnext : (some step.id).filter (!·.isEmpty) = some step.id := by
    simp [hschema.isEmpty_of_mem_stepIds hid]
  unfold walk
  simp only [hnext, hsame, hstep]
  cases budget with
  | zero => exact .exceeded
  | succ budget => exact .visit _

theorem lands_walk (hlinked : script.Linked) (hschema : script.MeetsSchema) (budget : Nat)
    (hsame : p.script = script) :
    Lands script (GoesOn limit) (fun _ => True) (walk hooks limit budget p) := by
  induction budget generalizing p with
  | zero =>
    unfold walk
    split
    · exact lands_conclude ..
    · split <;> exact .fail ..
  | succ budget ih =>
    unfold walk
    split
    · exact lands_conclude ..
    · split
      · exact .fail ..
      next id _ step hstep =>
        rw [hsame] at hstep
        obtain ⟨hmem, rfl⟩ := Script.step?_eq_some hstep
        refine .visit _ ?_
        have hdispatch : Lands script (Jumps script) (fun x => x.1.script = script)
            (dispatch hooks { p with
              context := { p.context with step := some step.id }, stepsRun := p.stepsRun + 1 }
              step) := lands_dispatch hlinked hmem hsame
        refine hdispatch.bind ?_ fun x hx => ?_
        · rintro place id _ ⟨q, rfl, hq, rfl, hid⟩
          exact goesOn_walk hschema budget hq hid
        · obtain ⟨q, move⟩ := x
          cases move with
          | go target => exact ih hx
          | stop status message => exact lands_conclude ..

/-- A run of an accepted script that is told to choose an option by its id visits the step next at
    which this option lands, unless its budget is used up there. That is the option's own target as
    long as no option before it has its id for a target. -/
theorem ofInput_lands {σ : Type} {input : Value} (hinput : Script.ofInput input = .ok script)
    (vars : Table Value) {host : Responder σ} (hscript : host.KeepsScript) (s : σ)
    {before after : List Mark} {place : Context} {message : String} {earlier later : List Choice}
    {o : Choice} (hfirst : ∀ e ∈ earlier, e.id ≠ o.id)
    (hmarks : (ofInput hooks limit input vars).marks host s = before ++
      .call place (.choose message (earlier ++ o :: later)) (.value (.text o.id)) :: after) :
    (∃ step ∈ script.steps, step.action = .choice message (earlier ++ o :: later)) ∧
    ((∃ c rest, after = .visit c :: rest ∧ c.step = some (landing earlier o)) ∨
      after = [] ∧ ∃ c, ((ofInput hooks limit input vars).play host s).1 =
        .error (c, .budgetExceeded limit) ∧ c.step = some (landing earlier o)) := by
  obtain ⟨⟨v, hdecode⟩, hlinked⟩ := Script.decode_of_ofInput hinput
  have hschema := Script.meetsSchema_of_decode hdecode
  have hlands : Lands script (GoesOn limit) (fun _ => True) (ofInput hooks limit input vars) := by
    simp only [ofInput, hinput]
    exact lands_walk hlinked hschema limit.toNat rfl
  obtain ⟨hstep, c, d, s', hgoes, hafter, hplay⟩ := hlands.marks hscript s hfirst hmarks
  refine ⟨hstep, ?_⟩
  cases hgoes with
  | visit rest => exact .inl ⟨_, _, hafter, rfl⟩
  | exceeded => exact .inr ⟨hafter, _, congrArg Prod.fst hplay, rfl⟩

/-- A script in which the id of an option is also the target of the option before it. -/
def fork : Script where
  name := none
  version := none
  start := none
  steps := [
    ⟨"ask", none, none, .choice "Ready?" [⟨"no", "No", "wait"⟩, ⟨"wait", "Hold on", "done"⟩]⟩,
    ⟨"wait", none, none, .finish .cancel none⟩,
    ⟨"done", none, none, .finish .success none⟩]

theorem ofInput_fork : Script.ofInput (fork.dump .full) = .ok fork := by rfl

theorem ofInput_lands_fork :
    let run := ofInput .all 10 (fork.dump .full) .empty
    let earlier : List Choice := [⟨"no", "No", "wait"⟩]
    let o : Choice := ⟨"wait", "Hold on", "done"⟩
    let ask : Context := ⟨some "ask", .empty⟩
    Script.ofInput (fork.dump .full) = .ok fork ∧ Responder.ofValues.KeepsScript ∧
    (∀ e ∈ earlier, e.id ≠ o.id) ∧
    (∃ after, run.marks Responder.ofValues [.text o.id] =
      [.visit ask] ++ .call ask (.choose "Ready?" (earlier ++ [o])) (.value (.text o.id)) :: after ∧
      ((∃ c rest, after = .visit c :: rest ∧ c.step = some (landing earlier o)) ∨
        after = [] ∧ ∃ c, (run.play Responder.ofValues [.text o.id]).1 =
          .error (c, .budgetExceeded 10) ∧ c.step = some (landing earlier o))) ∧
    landing earlier o = "wait" := by
  intro run earlier o ask
  have hfirst : ∀ e ∈ earlier, e.id ≠ o.id := by simp [earlier, o]
  refine ⟨ofInput_fork, Responder.keepsScript_ofValues, hfirst, ⟨_, rfl, ?_⟩, rfl⟩
  have hlands := @ofInput_lands fork .all 10 _ _ ofInput_fork .empty _
    Responder.keepsScript_ofValues [.text o.id] [.visit ask] _ ask "Ready?" earlier [] o hfirst rfl
  exact hlands.2

/-- The second option of the fork has "done" for a target, and choosing it leads to another step. -/
theorem fork_misleads :
    Script.ofInput (fork.dump .full) = .ok fork ∧
    (fork.step? "ask").map Step.action =
      some (.choice "Ready?" [⟨"no", "No", "wait"⟩, ⟨"wait", "Hold on", "done"⟩]) ∧
    ((ofInput .all 10 (fork.dump .full) .empty).visits Responder.ofValues
      [.text "wait"]).map Context.step = [some "ask", some "wait"] :=
  ⟨ofInput_fork, rfl, rfl⟩

end Run

end Stepwise
