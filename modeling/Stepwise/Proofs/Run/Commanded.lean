import Stepwise.Proofs.Run.Account
import Stepwise.Proofs.Run.Chosen
import Stepwise.Proofs.Run.Posed
import Stepwise.Proofs.Runner.Reported

namespace Stepwise

theorem Outcome.decode_dump (outcome : Outcome) : Outcome.decode outcome.dump = .ok outcome := by
  obtain ⟨code, stdout, stderr⟩ := outcome
  cases stdout <;> cases stderr <;> rfl

theorem Outcome.dump_injective : Function.Injective Outcome.dump := by
  intro o o' hdump
  have hdecode := o.decode_dump
  rw [hdump, o'.decode_dump] at hdecode
  exact (Record.Decoded.ok.inj hdecode).symm

def Request.isCommand : Request → Bool
  | .command _ _ _ => true
  | .prompt _ _ | .choose _ _ | .evaluate _ | .log _ => false

namespace Dialogue

variable {α β σ : Type}

/-- Whenever the dialogue has a command run, `K` says how it goes on from the reply. It ends in such
    a way, as long as its host leaves it its context and its options. -/
inductive Issues (K : Context → Request → (Reply → Dialogue α) → Prop) (R : α → Prop) :
    Dialogue α → Prop where
  | done {a : α} (hresult : R a) : Issues K R (.done a)
  | fail (place : Context) (fault : Fault) : Issues K R (.fail place fault)
  | visit (place : Context) {rest : Dialogue α} (hrest : Issues K R rest) :
      Issues K R (.visit place rest)
  | ask {place : Context} {q : Request} {next : Context → Reply → Dialogue α}
      (hcommand : q.isCommand = true → K place q (next place))
      (hnext : ∀ reply : Reply, reply.Keeps → Issues K R (next place reply)) :
      Issues K R (.ask place q next)

namespace Issues

variable {K : Context → Request → (Reply → Dialogue α) → Prop} {R : α → Prop} {d : Dialogue α}

theorem pure {a : α} (hresult : R a) : Issues K R (Pure.pure a) :=
  done hresult

theorem bind {K' : Context → Request → (Reply → Dialogue β) → Prop} {S : β → Prop}
    {f : α → Dialogue β} (h : Issues K R d)
    (hK : ∀ place q next, K place q next → K' place q fun reply => next reply >>= f)
    (hnext : ∀ a, R a → Issues K' S (f a)) : Issues K' S (d >>= f) := by
  induction h with
  | done hresult => exact hnext _ hresult
  | fail place fault => exact fail place fault
  | visit place _ ih => exact visit place ih
  | ask hcommand _ ih => exact ask (fun hq => hK _ _ _ (hcommand hq)) ih

/-- A dialogue that has no command run. -/
theorem of_poses (h : Poses (fun _ q => q.isCommand = false) R d) : Issues K R d := by
  induction h with
  | done hresult => exact done hresult
  | fail place fault => exact fail place fault
  | visit place _ ih => exact visit place ih
  | ask hput _ ih => exact ask (fun hq => absurd hq (by simp [hput])) ih

/-- A dialogue that has no command run, and what follows it. -/
theorem then_ {S : β → Prop} {K : Context → Request → (Reply → Dialogue β) → Prop}
    {f : α → Dialogue β} (h : Poses (fun _ q => q.isCommand = false) R d)
    (hnext : ∀ a, R a → Issues K S (f a)) : Issues K S (d >>= f) :=
  (of_poses (K := fun _ _ _ => False) h).bind (fun _ _ _ hfalse => hfalse.elim) hnext

/-- What a host sees of a dialogue from the reply to a command on. -/
theorem marks (h : Issues K R d) {host : Responder σ} (hscript : host.KeepsScript)
    (hcontext : host.KeepsContext) (s : σ) {before after : List Mark} {place : Context}
    {q : Request} {reply : Reply} (hq : q.isCommand = true)
    (hmarks : d.marks host s = before ++ .call place q reply :: after) :
    ∃ next t t', K place q next ∧ host t place q = (place, reply, t') ∧
      after = (next reply).marks host t' ∧ d.play host s = (next reply).play host t' := by
  induction h generalizing s before with
  | done | fail => simp [Dialogue.marks] at hmarks
  | visit place _ ih =>
    rcases List.cons_eq_append_iff.1 hmarks with ⟨_, hcall⟩ | ⟨before', _, hrest⟩
    · cases hcall
    · exact ih s hrest
  | @ask place' q' next hcommand _ ih =>
    obtain ⟨reply', s', hhere⟩ : ∃ reply' s', host s place' q' = (place', reply', s') :=
      ⟨_, _, Prod.ext (hcontext s place' q') rfl⟩
    have hkeeps := hscript s place' q'
    rw [hhere] at hkeeps
    rw [marks_ask hhere] at hmarks
    rcases List.cons_eq_append_iff.1 hmarks with ⟨_, hcall⟩ | ⟨before', _, hrest⟩
    · cases hcall
      exact ⟨next place, s, s', hcommand hq, hhere, rfl, play_ask hhere⟩
    · obtain ⟨next', t, t', hK, hthere, hafter, hplay⟩ := ih reply' hkeeps s' hrest
      exact ⟨next', t, t', hK, hthere, hafter, (play_ask hhere).trans hplay⟩

end Issues

end Dialogue

namespace Run

open Dialogue

variable {α β : Type} {script : Script} {hooks : Hooks} {limit : Int} {step : Step} {p : Position}

/-- What a run logs of a command that failed, before it goes on. -/
def continuing (step : String) (code : Int) : String :=
  s!"Command in step {step} exited with {code}; continuing"

/-- What becomes of a step when its command has this outcome: success leads onward, and so does a
    failure that does not matter, after a word in the log. -/
def Heeds (hooks : Hooks) (place : Context) (step : String) (onError : OnError) (outcome : Outcome)
    (Onward Halts : Dialogue α → Prop) (d : Dialogue α) : Prop :=
  if outcome.isOk then Onward d
  else match onError with
    | .fail => Halts d
    | .proceed =>
      if hooks.log then ∃ next, d = .ask place (.log (continuing step outcome.code)) next ∧
        ∀ v, Onward (next place (.value v))
      else Onward d

theorem Heeds.bind {place : Context} {id : String} {onError : OnError} {outcome : Outcome}
    {Onward Halts : Dialogue α → Prop} {Onward' Halts' : Dialogue β → Prop} {d : Dialogue α}
    {f : α → Dialogue β} (h : Heeds hooks place id onError outcome Onward Halts d)
    (honward : ∀ d, Onward d → Onward' (d >>= f)) (hhalts : ∀ d, Halts d → Halts' (d >>= f)) :
    Heeds hooks place id onError outcome Onward' Halts' (d >>= f) := by
  unfold Heeds at h ⊢
  split at h
  next hok =>
    rw [if_pos hok]
    exact honward _ h
  next hfailed =>
    rw [if_neg hfailed]
    cases onError with
    | fail => exact hhalts _ h
    | proceed =>
      dsimp only at h ⊢
      split at h
      next hlog =>
        rw [if_pos hlog]
        obtain ⟨next, rfl, hnext⟩ := h
        exact ⟨_, rfl, fun v => honward _ (hnext v)⟩
      next hlog =>
        rw [if_neg hlog]
        exact honward _ h

/-- A command is asked for at a step that has it. A fault for a reply ends the dialogue, and an
    outcome is heeded as the step has it. -/
inductive Carries (script : Script) (hooks : Hooks) (Onward : Context → String → Dialogue α → Prop)
    (Halts : Context → Option String → Dialogue α → Prop) (place : Context) :
    Request → (Reply → Dialogue α) → Prop where
  | intro {step : Step} {command : String} {args : Option (List String)} {cwd : Option String}
      {onError : OnError} {next : Reply → Dialogue α} (hstep : step ∈ script.steps)
      (hplace : place.step = some step.id) (htextual : place.Textual)
      (haction : step.action = .command command args cwd onError)
      (hfault : ∀ f, next (.fault f) = .fail place f)
      (houtcome : ∀ outcome : Outcome, Heeds hooks place step.id onError outcome
        (Onward place step.id) (Halts place outcome.output) (next (.value outcome.dump))) :
      Carries script hooks Onward Halts place (.command command args cwd) next

theorem Carries.bind {Onward : Context → String → Dialogue α → Prop}
    {Halts : Context → Option String → Dialogue α → Prop}
    {Onward' : Context → String → Dialogue β → Prop}
    {Halts' : Context → Option String → Dialogue β → Prop} {place : Context} {q : Request}
    {next : Reply → Dialogue α} {f : α → Dialogue β}
    (h : Carries script hooks Onward Halts place q next)
    (honward : place.Textual → ∀ id d, Onward place id d → Onward' place id (d >>= f))
    (hhalts : place.Textual → ∀ message d, Halts place message d → Halts' place message (d >>= f)) :
    Carries script hooks Onward' Halts' place q fun reply => next reply >>= f := by
  cases h with
  | intro hstep hplace htextual haction hfault houtcome =>
    refine .intro hstep hplace htextual haction (fun f => ?_) fun outcome =>
      (houtcome outcome).bind (honward htextual _) (hhalts htextual _)
    rw [hfault]
    rfl

/-- The step is over, and what is declared after it comes next. -/
def Passes (script : Script) (place : Context) (id : String) (d : Dialogue (Position × Move)) :
    Prop :=
  ∃ p, d = .done (p, .go (script.next? id)) ∧ p.script = script ∧ p.context = place

/-- The step is over, and the run with it, as a failure. -/
def Stops (place : Context) (message : Option String) (d : Dialogue (Position × Move)) : Prop :=
  ∃ p, d = .done (p, .stop .failure message) ∧ p.context = place

/-- A run of the script stands at a step, and its variables are texts. -/
structure Stands (script : Script) (step : Step) (p : Position) : Prop
    extends Reaches script step p where
  textual : p.context.Textual

/-- What a step leaves behind: the script, and variables that are texts. -/
def Leaves (script : Script) (x : Position × Move) : Prop :=
  x.1.script = script ∧ x.1.context.Textual

/-- The execution of a command is where the command is asked for, and it gives the outcome. -/
theorem issues_execute (place : Context) (step command : String) (args : Option (List String))
    (cwd : Option String) :
    Issues (fun place' q next => (place' = place ∧ q = .command command args cwd) ∧
        (∀ f, next (.fault f) = .fail place f) ∧
        ∀ outcome : Outcome, next (.value outcome.dump) = .done (place, outcome))
      (fun x => x.1 = place) (execute hooks place step command args cwd) := by
  unfold execute
  split
  · refine .ask (fun _ => ⟨⟨rfl, rfl⟩, fun f => rfl, fun outcome => ?_⟩) fun reply hkeeps => ?_
    · simp only [Dialogue.bind, outcome.decode_dump]
      rfl
    · cases reply with
      | value v =>
        dsimp only [Dialogue.bind]
        split
        · exact .pure rfl
        · exact .fail ..
      | edited => exact hkeeps.elim
      | fault f => exact .fail ..
  · exact .fail ..

/-- What a command step makes of an outcome. -/
theorem heeds_outcome (hsame : p.script = script) {id : String} {onError : OnError}
    {outcome : Outcome} :
    Heeds hooks p.context id onError outcome (Passes script p.context id)
      (Stops p.context outcome.output) (
        if outcome.isOk then pure (p, .go (p.script.next? id))
        else match onError with
          | .fail => pure (p, .stop .failure outcome.output)
          | .proceed => do
            let context ← log hooks p.context
              s!"Command in step {id} exited with {outcome.code}; continuing"
            pure ({ p with context }, .go (p.script.next? id))) := by
  have hpasses : Passes script p.context id (.done (p, .go (p.script.next? id))) :=
    ⟨p, by rw [hsame], hsame, rfl⟩
  unfold Heeds
  split
  · exact hpasses
  · cases onError with
    | fail => exact ⟨p, rfl, rfl⟩
    | proceed =>
      unfold log
      cases hooks.log with
      | true => exact ⟨_, rfl, fun v => hpasses⟩
      | false => exact hpasses

/-- Of all steps, only a command carries an outcome on. -/
theorem issues_perform (hlinked : script.Linked) (h : Stands script step p) :
    Issues (Carries script hooks (Passes script) Stops) (Leaves script) (perform hooks p step) := by
  obtain ⟨⟨hsame, hfound, hvisited⟩, htextual⟩ := h
  obtain ⟨hstep, _⟩ := Script.step?_eq_some hfound
  unfold perform
  cases haction : step.action with
  | prompt message store preset =>
    refine .then_ (poses_prompt (by rfl) step.id) fun x hx => .pure ⟨hsame, ?_⟩
    obtain ⟨place, answer⟩ := x
    obtain rfl : place = p.context := hx
    obtain ⟨vars, hvars⟩ := htextual
    exact ⟨vars.insert store answer, by simp only [hvars, Table.map_insert]⟩
  | choice message options =>
    refine .then_ (poses_choose (by rfl) step.id) fun x hx => .pure ?_
    obtain ⟨place, options', target⟩ := x
    obtain ⟨rfl, rfl⟩ := hx
    exact ⟨hsame.symm ▸ Script.withOptions_self hlinked.nodup hstep haction, htextual⟩
  | command command args cwd onError =>
    -- What follows an outcome is heeded, and what follows any other reply leaves the script as it is.
    refine (issues_execute p.context step.id command args cwd).bind ?_ fun x hx => ?_
    · rintro place q next ⟨⟨rfl, rfl⟩, hfault, houtcome⟩
      refine .intro hstep hvisited htextual haction (fun f => by rw [hfault]; rfl) fun outcome => ?_
      rw [houtcome]
      exact heeds_outcome hsame
    · obtain ⟨place, outcome⟩ := x
      obtain rfl : place = p.context := hx
      dsimp only
      split
      · exact .pure ⟨hsame, htextual⟩
      · cases onError with
        | fail => exact .pure ⟨hsame, htextual⟩
        | proceed =>
          refine .then_ (poses_log (by rfl)) fun place hplace => .pure ⟨hsame, ?_⟩
          exact hplace.symm ▸ htextual
  | require expression message =>
    refine .then_ (poses_holds (by rfl)) fun x hx => ?_
    obtain ⟨place, truth⟩ := x
    obtain rfl : place = p.context := hx
    dsimp only
    split
    · exact .pure ⟨hsame, htextual⟩
    · exact .fail ..
  | goto target => exact .pure ⟨hsame, htextual⟩
  | finish status message => exact .pure ⟨hsame, htextual⟩

theorem issues_dispatch (hlinked : script.Linked) (h : Stands script step p) :
    Issues (Carries script hooks (Passes script) Stops) (Leaves script) (dispatch hooks p step) := by
  unfold dispatch
  cases step.guard? with
  | none => exact issues_perform hlinked h
  | some guard =>
    refine .then_ (poses_holds (by rfl)) fun x hx => ?_
    obtain ⟨place, truth⟩ := x
    obtain rfl : place = p.context := hx
    dsimp only
    split
    · exact issues_perform hlinked h
    · refine .then_ (poses_log (by rfl)) fun place hplace => .pure ⟨h.same, ?_⟩
      exact hplace.symm ▸ h.textual

/-- The run goes on at the step declared after this one, and has succeeded if there is none. -/
def Advances (script : Script) (limit : Int) (place : Context) (id : String)
    (d : Dialogue Result) : Prop :=
  match script.next? id with
  | some next => GoesOn limit place next d
  | none => ∃ r, d = .done r ∧ r.status = .success ∧ r.message = none

/-- The run is over, as a failure. -/
def Halts (_ : Context) (message : Option String) (d : Dialogue Result) : Prop :=
  ∃ r, d = .done r ∧ r.status = .failure ∧ r.message = message

theorem advances_walk (hschema : script.MeetsSchema) (budget : Nat) (hsame : p.script = script)
    (htextual : p.context.Textual) (id : String) :
    Advances script limit p.context id
      (walk hooks limit budget { p with target := script.next? id }) := by
  unfold Advances
  cases hnext : script.next? id with
  | some next => exact goesOn_walk hschema budget hsame (Script.mem_stepIds_of_next hnext)
  | none =>
    obtain ⟨vars, hvars⟩ := htextual
    refine ⟨⟨.success, p.stepsRun, vars, none⟩, ?_, rfl, rfl⟩
    unfold walk
    exact conclude_of_textual hvars .success none

theorem halts_conclude (htextual : p.context.Textual) (message : Option String) :
    Halts p.context message (p.conclude .failure message) := by
  obtain ⟨vars, hvars⟩ := htextual
  exact ⟨_, conclude_of_textual hvars .failure message, rfl, rfl⟩

/-- By induction on the budget: a run carries the outcomes of its commands on as its steps do. -/
theorem issues_walk (hlinked : script.Linked) (hschema : script.MeetsSchema) (budget : Nat)
    (hsame : p.script = script) (htextual : p.context.Textual) :
    Issues (Carries script hooks (Advances script limit) Halts) (fun _ => True)
      (walk hooks limit budget p) := by
  induction budget generalizing p with
  | zero =>
    unfold walk
    split
    · exact .of_poses (poses_conclude ..)
    · split <;> exact .fail ..
  | succ budget ih =>
    unfold walk
    split
    · exact .of_poses (poses_conclude ..)
    · split
      · exact .fail ..
      next id _ step hstep =>
        rw [hsame] at hstep
        obtain ⟨_, rfl⟩ := Script.step?_eq_some hstep
        refine .visit _ ?_
        have hstands : Stands script step { p with
            context := { p.context with step := some step.id }, stepsRun := p.stepsRun + 1 } :=
          ⟨⟨hsame, hstep, rfl⟩, htextual⟩
        refine (issues_dispatch hlinked hstands).bind (fun place q next h => h.bind ?_ ?_)
          fun x hx => ?_
        · rintro htextual id _ ⟨q, rfl, hq, rfl⟩
          exact advances_walk hschema budget hq htextual id
        · rintro htextual message _ ⟨q, rfl, rfl⟩
          exact halts_conclude htextual message
        · obtain ⟨q, move⟩ := x
          obtain ⟨hq, htextual⟩ := hx
          cases move with
          | go target => exact ih hq htextual
          | stop status message => exact .of_poses (poses_conclude ..)

/-- What is seen of a run that goes on at the step declared after this one, as far as its budget
    allows, or has succeeded if there is none. -/
def Proceeds (script : Script) (limit : Int) (id : String) (after : List Mark)
    (ending : Except (Context × Fault) Result) : Prop :=
  match script.next? id with
  | some next => (∃ c rest, after = .visit c :: rest ∧ c.step = some next) ∨
      after = [] ∧ ∃ c, ending = .error (c, .budgetExceeded limit) ∧ c.step = some next
  | none => after = [] ∧ ∃ r, ending = .ok r ∧ r.status = .success ∧ r.message = none

/-- What is seen of a run from the outcome of a step's command on: it proceeds, unless the command
    failed and the step has it that this ends the run, as a failure. A failure that does not is
    logged. -/
def Heeded (script : Script) (limit : Int) (hooks : Hooks) (place : Context) (id : String)
    (onError : OnError) (outcome : Outcome) (after : List Mark)
    (ending : Except (Context × Fault) Result) : Prop :=
  if outcome.isOk then Proceeds script limit id after ending
  else match onError with
    | .fail => after = [] ∧
        ∃ r, ending = .ok r ∧ r.status = .failure ∧ r.message = outcome.output
    | .proceed =>
      if hooks.log then
        ∃ rest, after = .call place (.log (continuing id outcome.code)) (.value .null) :: rest ∧
          Proceeds script limit id rest ending
      else Proceeds script limit id after ending

variable {σ : Type} {host : Responder σ} {place : Context} {id : String} {d : Dialogue Result}

theorem Advances.proceeds (h : Advances script limit place id d) (s : σ) :
    Proceeds script limit id (d.marks host s) (d.play host s).1 := by
  unfold Advances at h
  unfold Proceeds
  cases hnext : script.next? id with
  | some next =>
    rw [hnext] at h
    cases h with
    | visit rest => exact .inl ⟨_, _, rfl, rfl⟩
    | exceeded => exact .inr ⟨rfl, _, rfl, rfl⟩
  | none =>
    rw [hnext] at h
    obtain ⟨r, rfl, hstatus, hmessage⟩ := h
    exact ⟨rfl, r, rfl, hstatus, hmessage⟩

theorem Heeds.heeded {onError : OnError} {outcome : Outcome}
    (h : Heeds hooks place id onError outcome (Advances script limit place id)
      (Halts place outcome.output) d)
    (hlog : ∀ s message, ∃ s', host s place (.log message) = (place, .value .null, s')) (s : σ) :
    Heeded script limit hooks place id onError outcome (d.marks host s) (d.play host s).1 := by
  unfold Heeds at h
  unfold Heeded
  split at h
  next hok =>
    rw [if_pos hok]
    exact h.proceeds s
  next hfailed =>
    rw [if_neg hfailed]
    cases onError with
    | fail =>
      obtain ⟨r, rfl, hstatus, hmessage⟩ := h
      exact ⟨rfl, r, rfl, hstatus, hmessage⟩
    | proceed =>
      dsimp only at h ⊢
      split at h
      next hlogs =>
        rw [if_pos hlogs]
        obtain ⟨next, rfl, hnext⟩ := h
        obtain ⟨s', hreply⟩ := hlog s (continuing id outcome.code)
        refine ⟨(next place (.value .null)).marks host s', marks_ask hreply, ?_⟩
        rw [play_ask hreply]
        exact (hnext .null).proceeds s'
      next hlogs =>
        rw [if_neg hlogs]
        exact h.proceeds s

end Run

namespace Runner

variable {σ : Type} (r : Runner σ) (display : String → σ → σ)
  (evaluate : String → Table Value → σ → Except Fault Value × σ)

theorem keepsContext_host : (r.host display evaluate).KeepsContext := by
  intro s c q
  cases q <;> rfl

theorem keepsScript_host : (r.host display evaluate).KeepsScript := by
  have hreply : ∀ {α : Type} (c : Context) (read : α → Except Fault Value) (given : α × σ),
      (host.reply c read given).2.1.Keeps := by
    intro α c read given
    unfold host.reply
    split <;> trivial
  intro s c q
  cases q with
  | log message => trivial
  | prompt | choose | command | evaluate => exact hreply ..

end Runner

namespace Workstation

open Run

variable {system : System} {script : Script} {hooks : Hooks} {limit : Int}

variable {evaluate : String → Table Value → Workstation → Except Fault Value × Workstation}

theorem host_command (w : Workstation) (place : Context) (command : String)
    (args : Option (List String)) (cwd : Option String) :
    (runnerOn system).host display evaluate w place (.command command args cwd) =
      Runner.host.reply place (fun outcome => (outcome.map Outcome.dump).mapError .host)
        (w.executeOn system (command :: args.getD []) cwd) := rfl

/-- A command is reported as what it came to, if its words can be handed over and what it writes is
    text. Otherwise there is a fault instead. -/
def Reports (system : System) (w : Workstation) (argv : List String) (cwd : Option String) : Prop :=
  let completion := (system w.machine argv cwd (w.limit.bind seconds?)).1
  ((Handable argv cwd ∧ completion.IsText) ∧ ∃ code out err,
    (w.executeOn system argv cwd).1 = .ok ⟨code, some out, some err⟩ ∧
    completion.Gives code out err) ∨
  ¬ (Handable argv cwd ∧ completion.IsText) ∧
    ∃ fault, (w.executeOn system argv cwd).1 = .error fault

/-- Whatever the system does with its commands: an outcome that is reported is heeded as its step
    has it, and a run ends by a fault of its host right after a command that has none. -/
theorem run_heeds_commands (hfits : system.Fits) {input : Value}
    (hinput : Script.ofInput input = .ok script) (vars : Table String)
    (evaluate : String → Table Value → Workstation → Except Fault Value × Workstation)
    (start : Workstation) :
    let host := (runnerOn system).host display evaluate
    let run := ofInput hooks limit input (vars.map .text)
    (∀ w argv cwd, Reports system w argv cwd) ∧
    ∀ before after place command args cwd reply,
      run.marks host start = before ++ .call place (.command command args cwd) reply :: after →
      ∃ step ∈ script.steps, ∃ onError, ∃ w : Workstation, place.step = some step.id ∧
        step.action = .command command args cwd onError ∧
        match (w.executeOn system (command :: args.getD []) cwd).1 with
        | .ok outcome => reply = .value outcome.dump ∧
          Heeded script limit hooks place step.id onError outcome after (run.play host start).1
        | .error fault => reply = .fault (.host fault) ∧ after = [] ∧
          (run.play host start).1 = .error (place, .host fault) := by
  intro host run
  refine ⟨fun w argv cwd => Completion.outcome_cases (hfits ..) _, ?_⟩
  intro before after place command args cwd reply hmarks
  obtain ⟨⟨v, hdecode⟩, hlinked⟩ := Script.decode_of_ofInput hinput
  have hschema := Script.meetsSchema_of_decode hdecode
  have hissues : Dialogue.Issues (Carries script hooks (Advances script limit) Halts)
      (fun _ => True) run := by
    simp only [run, ofInput, hinput]
    exact issues_walk hlinked hschema limit.toNat rfl ⟨vars, rfl⟩
  obtain ⟨next, w, w', hcarries, hreply, hafter, hplay⟩ := hissues.marks
    (Runner.keepsScript_host _ _ _) (Runner.keepsContext_host _ _ _) start rfl hmarks
  cases hcarries with
  | @intro step _ _ _ onError _ hstep hplace _ haction hfault houtcome =>
    refine ⟨step, hstep, onError, w, hplace, haction, ?_⟩
    rcases hexecute : w.executeOn system (command :: args.getD []) cwd with ⟨result, w''⟩
    rw [host_command, hexecute] at hreply
    cases result with
    | ok outcome =>
      cases hreply
      refine ⟨rfl, ?_⟩
      rw [hafter, hplay]
      exact (houtcome outcome).heeded (fun w message => ⟨_, rfl⟩) w''
    | error fault =>
      cases hreply
      dsimp only [Runner.host.reply, Except.mapError, Except.map] at hafter hplay
      rw [hfault] at hafter hplay
      exact ⟨rfl, hafter, congrArg Prod.fst hplay⟩

/-- A script that does not mind whether its commands fail. The second one prints a byte that is no
    text. -/
def carefree : Script where
  name := none
  version := none
  start := none
  steps := [
    ⟨"try", none, none, .command "false" none none .proceed⟩,
    ⟨"print", none, none, .command "printf" (some ["\\377"]) none .proceed⟩,
    ⟨"done", none, none, .finish .success none⟩]

theorem ofInput_carefree : Script.ofInput (carefree.dump .full) = .ok carefree := by rfl

/-- A workstation with an empty disk, at which nothing is typed. -/
def bare : Workstation := ⟨⟨[], ""⟩, ⟨⟨⟨"/", []⟩, []⟩, []⟩, false, none⟩

/-- The first command of the carefree script fails, and the run goes on. -/
theorem run_heeds_commands_carefree :
    let host := (runnerOn Machine.run).host display fun _ _ w => (.ok .null, w)
    let run := ofInput .all 10 (carefree.dump .full) (Table.empty.map .text)
    let place : Context := ⟨some "try", .empty⟩
    let outcome : Outcome := ⟨1, some "", some ""⟩
    System.Fits Machine.run ∧ Script.ofInput (carefree.dump .full) = .ok carefree ∧
    ∃ after, run.marks host bare = [.visit place] ++
        .call place (.command "false" none none) (.value outcome.dump) :: after ∧
      Heeded carefree 10 .all place "try" .proceed outcome after (run.play host bare).1 := by
  intro host run place outcome
  obtain ⟨_, hheeds⟩ := @run_heeds_commands Machine.run carefree .all 10 Machine.fits_run _
    ofInput_carefree .empty (fun _ _ w => (.ok .null, w)) bare
  refine ⟨Machine.fits_run, ofInput_carefree, _, rfl, ?_⟩
  obtain ⟨step, hstep, onError, w, hplace, haction, hheeds⟩ :=
    hheeds [.visit place] _ place "false" none none (.value outcome.dump) rfl
  simp only [carefree, List.mem_cons, List.not_mem_nil, or_false] at hstep
  obtain rfl | rfl | rfl := hstep
  · cases haction
    split at hheeds
    next outcome' _ =>
      obtain ⟨hdump, hheeded⟩ := hheeds
      obtain rfl : outcome' = outcome := Outcome.dump_injective (Reply.value.inj hdump).symm
      exact hheeded
    next => cases hheeds.1
  · simp [place] at hplace
  · cases haction

/-- A command whose output is no text ends a run that is not to mind what becomes of it. -/
theorem output_ends_run :
    let host := runner.host display fun _ _ w => (.ok .null, w)
    let run := ofInput .all 10 (carefree.dump .full) .empty
    let fault : HostFault := .undecodable ⟨0xff, 0, 1, "invalid start byte"⟩
    Script.ofInput (carefree.dump .full) = .ok carefree ∧
    carefree.next? "print" = some "done" ∧
    (carefree.step? "print").map Step.action =
      some (.command "printf" (some ["\\377"]) none .proceed) ∧
    (bare.execute ["printf", "\\377"] none).1 = .error fault ∧
    (run.visits host bare).map Context.step = [some "try", some "print"] ∧
    (run.play host bare).1 = .error (⟨some "print", .empty⟩, .host fault) := by
  intro host run fault
  exact ⟨ofInput_carefree, rfl, rfl, rfl, rfl, rfl⟩

end Workstation

end Stepwise
