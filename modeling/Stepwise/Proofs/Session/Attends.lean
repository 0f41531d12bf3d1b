import Stepwise.Proofs.Session.Cancelled
import Stepwise.Proofs.Session.Minds

namespace Stepwise

open Run Dialogue

/-- What is saved agrees with what a run of the input's script heard: a variable has the answer at the
    step where a prompt stored it last, and a choice has the answer that it was given last. -/
structure SavedRun.Agrees (kept : SavedRun) (input : Value) (ms : List Mark) : Prop where
  stored : ∀ x step, latest (Mark.storing? input x) ms = some step →
    ∃ a, kept.vars.get? x = some a ∧ kept.answers.get? step = some a
  chosen : ∀ step v, latest (Mark.chosen? step) ms = some v →
    ∃ a, v = .text a ∧ kept.answers.get? step = some a

/-- A run that comes to a result agrees with the answers that it heard last. -/
theorem SavedRun.agrees_of_leads {kept : SavedRun} {hooks : Hooks} {limit : Int} {input : Value}
    {vars : Table String} {ms : List Mark} {r : Result}
    (hleads : Leads (ofInput hooks limit input (vars.map .text)) ms (.done r))
    (hvars : kept.vars = r.vars) (hechoes : Echoes kept.answers ms) : kept.Agrees input ms := by
  have hposed : IsPosed input ms := isPosed_of_leads hleads
  have hreached : kept.vars = reached input vars ms := by
    rcases Traced.leads hleads (traced_ofInput input vars) with htraced | ⟨_, _, hfail⟩
    · cases htraced with
      | done hresult => exact hvars.trans hresult
    · cases hfail
  refine ⟨fun x step hlatest => ?_, fun step v hlatest => ?_⟩
  · obtain ⟨v, hanswer, hget⟩ := latest_answer_of_storing vars hposed hlatest
    obtain ⟨a, rfl, ha⟩ := hechoes step v hanswer
    exact ⟨a, hreached ▸ hget, ha⟩
  · exact hechoes step v (latest_answer_of_chosen hposed hlatest)

namespace Session

variable {σ : Type} {c : Setup σ} {s m : Session σ} {i : Nat} {ds : List (Deed σ)} {plan : Plan}
  {vars : Table String} {e : Event} {later : List Event} {task : Task}

/-- What a run of this plan does. -/
def Plan.dialogue (plan : Plan) (c : Setup σ) : Dialogue Result :=
  ofInput .all c.limit plan.entry.script plan.vars

/-- What a run asks, it asks at a step, and a fault ends it. -/
theorem Plan.isOrderly (plan : Plan) (hvars : plan.vars = vars.map .text) :
    (plan.dialogue c).IsOrderly := by
  unfold Plan.dialogue
  rw [hvars]
  exact isOrderly_ofInput plan.entry.script vars

/-- The script of a run came to a result, and the answers on the bridge are those that it heard
    last. -/
structure Results (c : Setup σ) (s : Session σ) (ds : List (Deed σ)) (plan : Plan) (r : Result) :
    Prop where
  resulted : .over plan (.ok r) ∈ ds
  textual : ∃ vars : Table String, plan.vars = vars.map .text
  leads : (plan.dialogue c).Leads (trail ds).marks (.done r)
  echoes : s.Echoes (trail ds).marks

/-- The run that did this returned a result. What it saved before it told last that it was over agrees
    with what it heard. -/
structure Returns (c : Setup σ) (ds : List (Deed σ)) (plan : Plan) (r : Result) (kept : SavedRun) :
    Prop where
  resulted : .over plan (.ok r) ∈ ds
  saved : ∃ told before after h, ds = told ++ [.call (.busy false) before after] ∧
    after.saved = some kept ∧ c.host.save (some kept) h = .ok after.host
  script : kept.scriptId = plan.entry.id
  vars : kept.vars = r.vars
  agrees : kept.Agrees plan.entry.script (trail ds).marks

/-- What is known of the answers of a run while its task is in this phase. -/
inductive Attends (c : Setup σ) (s : Session σ) (ds : List (Deed σ)) : Phase → Prop where
  | new (r : RunRequest) (vars : Table String) (hvars : r.vars = vars.map .text) (hnone : ds = []) :
      Attends c s ds (.new r)
  | refusing (e : Event) (later : List Event) : Attends c s ds (.posting e later .refuse)
  | opening (e : Event) (later : List Event) (plan : Plan) (vars : Table String)
      (hvars : plan.vars = vars.map .text) (htrail : trail ds = ⟨[], none⟩) :
      Attends c s ds (.posting e later (.prepare plan))
  | ready (e : Event) (later : List Event) (plan : Plan) (vars : Table String)
      (hvars : plan.vars = vars.map .text) (htrail : trail ds = ⟨[], none⟩) :
      Attends c s ds (.posting e later (.play plan))
  | playing (plan : Plan) (vars : Table String) (place : Context) (q : Request) (step : String)
      (next : Context → Reply → Dialogue Result) (wait : Wait) (hvars : plan.vars = vars.map .text)
      (hasked : (trail ds).asked = some (place, q))
      (hleads : (plan.dialogue c).Leads (trail ds).marks (.ask place q next))
      (hstep : place.step = some step) (hminds : s.Minds (trail ds).marks step wait.ticket?)
      (hsuits : wait.Suits step q) : Attends c s ds (.playing plan (next place) wait)
  | closing (e : Event) (later : List Event) (plan : Plan) (v : Verdict)
      (hresults : ∀ r, v.result = some r → v.vars = r.vars.map .text ∧ Results c s ds plan r) :
      Attends c s ds (.posting e later (.keep plan v))
  | ending (e : Event) (ending : Ending)
      (hreturns : ∀ r, ending = .result (some r) → ∃ plan kept, Returns c ds plan r kept) :
      Attends c s ds (.posting e [] (.finish ending))
  | ended (ending : Ending)
      (hreturns : ∀ r, ending = .result (some r) → ∃ plan kept, Returns c ds plan r kept) :
      Attends c s ds (.finished ending)

/-- A task that went on from `s` has come to `m`, with its answers kept in mind. -/
def Continues (c : Setup σ) (s : Session σ) (i : Nat) (ds : List (Deed σ)) (m : Session σ) : Prop :=
  ∃ phase, m.tasks[i]? = some ⟨phase, false⟩ ∧
    Attends c m (ds ++ phase.underway?.toList.map (.call · s m)) phase

theorem trail_concat_call (ds : List (Deed σ)) (e : Event) (before after : Session σ) :
    trail (ds ++ [.call e before after]) = trail ds :=
  trail_concat ..

theorem trail_append_calls (ds : List (Deed σ)) (es : List Event) (before after : Session σ) :
    trail (ds ++ es.map (.call · before after)) = trail ds := by
  induction es generalizing ds with
  | nil => rw [List.map_nil, List.append_nil]
  | cons e es ih =>
    rw [List.map_cons, ← List.singleton_append, ← List.append_assoc, ih]
    exact trail_concat_call ..

/-- Nothing that the surface is told changes what a run came to. -/
theorem Results.call {r : Result} (h : Results c s ds plan r) (e : Event) (before after : Session σ)
    (hechoes : m.Echoes (trail ds).marks) : Results c m (ds ++ [.call e before after]) plan r where
  resulted := List.mem_append_left _ h.resulted
  textual := h.textual
  leads := (trail_concat_call ds e before after).symm ▸ h.leads
  echoes := (trail_concat_call ds e before after).symm ▸ hechoes

/-- A run whose record is saved has returned its result. -/
theorem Results.returns {r : Result} (h : Results c s ds plan r) (v : Verdict) (before : Session σ)
    {after : Session σ} {host : σ} (hsaved : after.saved = some (plan.record c s.bridge r.vars v))
    (hsave : c.host.save (some (plan.record c s.bridge r.vars v)) host = .ok after.host) :
    Returns c (ds ++ [.call (.busy false) before after]) plan r (plan.record c s.bridge r.vars v) where
  resulted := List.mem_append_left _ h.resulted
  saved := ⟨ds, before, after, host, rfl, hsaved, hsave⟩
  script := rfl
  vars := rfl
  agrees := by
    obtain ⟨b, hb, hechoes⟩ := h.echoes
    obtain ⟨vars, hvars⟩ := h.textual
    have hleads := h.leads
    unfold Plan.dialogue at hleads
    rw [hvars] at hleads
    rw [trail_concat_call]
    refine SavedRun.agrees_of_leads hleads rfl ?_
    rw [Plan.record, hb]
    exact hechoes

/-- Only a run that came to a result has one in its verdict. -/
theorem result_of_verdict {isAbandoned : Bool} {ending : Except (Context × Fault) Result}
    {v : Verdict} {r : Result} (hverdict : plan.verdict isAbandoned ending = some (e, later, v))
    (hresult : v.result = some r) : ending = .ok r ∧ v.vars = r.vars.map .text := by
  unfold Plan.verdict at hverdict
  split at hverdict
  · cases hverdict
    cases hresult
    exact ⟨rfl, rfl⟩
  · split at hverdict
    · split at hverdict <;> cases hverdict
      cases hresult
    · cases hverdict
      cases hresult

theorem continues_tell (htask : m.tasks[i]? = some ⟨.active, false⟩) {goal : Goal}
    (hattends : Attends c (m.tell i e later goal) (ds ++ [.call e s (m.tell i e later goal)])
      (.posting e later goal)) : Continues c s i ds (m.tell i e later goal) :=
  ⟨.posting e later goal, getElem?_tell_self htask .., hattends⟩

/-- The rest of a run, whose answers on the bridge are those that it heard last unless it ends by a
    fault. -/
structure Pursues (c : Setup σ) (s : Session σ) (plan : Plan) (ms : List Mark)
    (d : Dialogue Result) : Prop where
  leads : (plan.dialogue c).Leads ms d
  echoes : (∃ place f, d = .fail place f) ∨ s.Echoes ms

theorem echoes_visit {ms : List Mark} (h : s.Echoes ms) (place : Context) :
    s.Echoes (ms ++ [.visit place]) := by
  obtain ⟨b, hb, hechoes⟩ := h
  refine ⟨b, hb, fun step v hlatest => ?_⟩
  rw [latest_concat_of_none rfl] at hlatest
  exact hechoes step v hlatest

namespace Pursues

variable {ms : List Mark} {place : Context} {q : Request} {next : Context → Reply → Dialogue Result}

/-- A run goes on with a fair reply. -/
theorem reply (hleads : (plan.dialogue c).Leads ms (.ask place q next))
    (hfault : ∀ f, next place (.fault f) = .fail place f) {step : String} {r : Reply}
    (hfair : IsFair m.isAbandoned r) (hminds : Served.Minds ms place q step (.reply r, m)) :
    Pursues c m plan (ms ++ [.call place q r]) (next place r) := by
  cases hfair with
  | value v => exact ⟨hleads.concat_call trivial, .inr (hminds v rfl)⟩
  | cancelled => exact ⟨hleads.concat_call trivial, .inl ⟨_, _, hfault _⟩⟩
  | host f => exact ⟨hleads.concat_call trivial, .inl ⟨_, _, hfault _⟩⟩

end Pursues

/-- A run that waits keeps its answers in mind. -/
theorem continues_wait (htask : m.tasks[i]? = some ⟨.active, false⟩)
    (hvars : plan.vars = vars.map .text) {place : Context} {q : Request} {step : String}
    {next : Context → Reply → Dialogue Result} {wait : Wait}
    (hasked : (trail ds).asked = some (place, q))
    (hleads : (plan.dialogue c).Leads (trail ds).marks (.ask place q next))
    (hstep : place.step = some step)
    (hminds : Served.Minds (trail ds).marks place q step (.wait wait, m)) :
    Continues c s i ds (m.setPhase i (.playing plan (next place) wait)) := by
  obtain ⟨hminds, hsuits⟩ := hminds
  refine ⟨.playing plan (next place) wait, getElem?_setPhase_self htask _, ?_⟩
  refine .playing plan vars place q step next wait hvars ?_ ?_ hstep ?_ hsuits
  · rwa [trail_append_calls]
  · rwa [trail_append_calls]
  · rw [trail_append_calls]
    exact hminds.of_eq rfl

section Deferring

variable (hdefers : c.defers)

include hdefers

theorem continues_prepare (htask : m.tasks[i]? = some ⟨.active, false⟩)
    (hvars : plan.vars = vars.map .text) (htrail : trail ds = ⟨[], none⟩) :
    Continues c s i ds (m.prepare c i plan) := by
  rw [prepare_eq hdefers]
  exact continues_tell (m := { m with bridge := some (.start plan.replays plan.answers) }) htask
    (.ready _ _ plan vars hvars ((trail_concat_call ..).trans htrail))

theorem continues_conclude (htask : m.tasks[i]? = some ⟨.active, false⟩) (ending : Ending)
    (hreturns : ∀ r, ending = .result (some r) → ∃ plan kept,
      Returns c (ds ++ [.call (.busy false) s (m.conclude c i ending)]) plan r kept) :
    Continues c s i ds (m.conclude c i ending) := by
  rw [conclude_eq hdefers] at hreturns ⊢
  exact continues_tell ((congrArg (·[i]?) (tasks_concluded m)).trans htask)
    (.ending _ ending hreturns)

/-- The script of a run is over, and the run says how. -/
theorem continues_judge (htask : m.tasks[i]? = some ⟨.active, false⟩)
    (ending : Except (Context × Fault) Result)
    (hresults : ∀ r, ending = .ok r → Results c m (ds ++ [.over plan ending]) plan r) :
    Continues c s i (ds ++ [.over plan ending]) (m.judge c i plan ending) := by
  rw [judge_eq hdefers]
  cases hverdict : plan.verdict m.isAbandoned ending with
  | none => exact continues_conclude hdefers htask .cancelled nofun
  | some x =>
    obtain ⟨e, later, v⟩ := x
    refine continues_tell (m := { m with diagnostics := plan.diagnosed c m.diagnostics ending }) htask
      (.closing e later plan v fun r hresult => ?_)
    obtain ⟨rfl, hvars⟩ := result_of_verdict hverdict hresult
    have hresults := hresults r rfl
    exact ⟨hvars, hresults.call _ _ _ (hresults.echoes.of_eq rfl)⟩

/-- What is to be kept of a run is saved, and the run says that it is over. -/
theorem continues_keep (htask : m.tasks[i]? = some ⟨.active, false⟩) {v : Verdict}
    (hresults : ∀ r, v.result = some r → v.vars = r.vars.map .text ∧ Results c m ds plan r) :
    Continues c s i ds (m.keep c i plan v) := by
  unfold keep
  split
  · exact continues_conclude hdefers htask _ nofun
  next kept hkept =>
    dsimp only
    split
    next host hsave =>
      refine continues_conclude hdefers ?_ _ fun r hresult => ?_
      · exact htask
      · obtain ⟨hvars, hresults⟩ := hresults r (Ending.result.inj hresult)
        obtain rfl : kept = r.vars := by
          rw [hvars, texts_map_text] at hkept
          cases hkept
          rfl
        obtain ⟨hsaved, hhost⟩ := Chronicle.saved_conclude hdefers { m with
          saved := some (plan.record c m.bridge r.vars v), host } i (.result v.result)
        exact ⟨plan, _, hresults.returns v s hsaved (hsave.trans (congrArg _ hhost.symm))⟩
    · refine continues_conclude hdefers ?_ _ nofun
      exact htask

/-- A run goes on until it waits or is over. -/
theorem continues_proceed (d : Dialogue Result) (hactive : m.tasks[i]? = some ⟨.active, false⟩)
    (hopen : m.footing.Open (some i) none) (hvars : plan.vars = vars.map .text)
    (hpursues : Pursues c m plan (trail ds).marks d) :
    Continues c s i (ds ++ playDeeds c i plan d m) (m.proceed c i plan d) := by
  induction d generalizing m ds with
  | done r =>
    refine continues_judge hdefers (m := { m with player := none }) hactive (.ok r) ?_
    rintro _ ⟨⟩
    refine ⟨List.mem_append_right _ List.mem_cons_self, ⟨vars, hvars⟩, ?_, ?_⟩
    · rw [trail_concat]
      exact hpursues.leads
    · rw [trail_concat]
      exact (hpursues.echoes.resolve_left nofun).of_eq rfl
  | fail place fault =>
    exact continues_judge hdefers (m := { m with player := none }) hactive (.error (place, fault)) nofun
  | visit place rest ih =>
    have hcontinues : Continues c s i (ds ++ [.visit place] ++ playDeeds c i plan rest m)
        (m.proceed c i plan rest) := by
      refine ih hactive hopen ?_
      rw [trail_concat]
      exact ⟨hpursues.leads.concat_visit,
        .inr (echoes_visit (hpursues.echoes.resolve_left nofun) place)⟩
    rwa [List.append_assoc] at hcontinues
  | ask place q next ih =>
    obtain ⟨⟨step, hstep, hne⟩, hfault⟩ := plan.isOrderly hvars _ place q next hpursues.leads
    have hechoes : m.Echoes (trail ds).marks := hpursues.echoes.resolve_left nofun
    have hminds := minds_serve hdefers (q := q) hopen hstep hne hechoes
    have hstands := stands_serve hdefers hopen place q
    have htasks := (serves_serve hdefers m i place q).tasks_eq
    rw [proceed_ask_eq]
    unfold playDeeds
    generalize m.serve c i place q = served at hminds hstands htasks ⊢
    obtain ⟨reply | wait, m'⟩ := served
    · obtain ⟨hopen', hfair⟩ := hstands
      have hcontinues : Continues c s i (ds ++ [.attempt place q m (.reply reply) m'] ++
          playDeeds c i plan (next place reply) m') (m'.proceed c i plan (next place reply)) := by
        refine ih place reply (htasks ▸ hactive) hopen' ?_
        rw [trail_concat]
        exact .reply hpursues.leads hfault hfair hminds
      rwa [List.append_assoc] at hcontinues
    · refine continues_wait (q := q) (htasks ▸ hactive) hvars ?_ ?_ hstep ?_
      · rw [trail_concat]
        rfl
      · rw [trail_concat]
        exact hpursues.leads
      · rw [trail_concat]
        exact hminds

/-- A run that waited goes on. -/
theorem continues_carryOn {served : Served × Session σ}
    (hactive : served.2.tasks[i]? = some ⟨.active, false⟩) (hvars : plan.vars = vars.map .text)
    {place : Context} {q : Request} {step : String} {next : Context → Reply → Dialogue Result}
    (hasked : (trail ds).asked = some (place, q))
    (hleads : (plan.dialogue c).Leads (trail ds).marks (.ask place q next))
    (hfault : ∀ f, next place (.fault f) = .fail place f) (hstep : place.step = some step)
    (hstands : Served.Stands i served) (hminds : Served.Minds (trail ds).marks place q step served) :
    Continues c s i (ds ++ replyDeeds c i plan (next place) served)
      (carryOn c i plan (next place) served) := by
  obtain ⟨reply | wait, m⟩ := served
  · obtain ⟨hopen, hfair⟩ := hstands
    have hcontinues : Continues c s i (ds ++ [.hear reply] ++ playDeeds c i plan (next place reply) m)
        (m.proceed c i plan (next place reply)) := by
      refine continues_proceed hdefers _ hactive hopen hvars ?_
      rw [trail_concat]
      simp only [Trail.add, hasked]
      exact .reply hleads hfault hfair hminds
    rwa [List.append_assoc] at hcontinues
  · unfold replyDeeds
    rw [List.append_nil]
    exact continues_wait hactive hvars hasked hleads hstep hminds

/-- A run that is asked for is refused, or begins. -/
theorem continues_consider (htask : m.tasks[i]? = some ⟨.active, false⟩) {r : RunRequest}
    (hvars : r.vars = vars.map .text) :
    Continues c s i (acceptDeeds r (m.consider c i r).tasks[i]?) (m.consider c i r) := by
  have htrail : trail (acceptDeeds (σ := σ) r (m.consider c i r).tasks[i]?) = ⟨[], none⟩ := by
    unfold acceptDeeds
    split <;> rfl
  have htextual : ∀ {plan m'}, m.Accepts c r plan m' →
      m'.tasks[i]? = some ⟨.active, false⟩ ∧ ∃ vars : Table String, plan.vars = vars.map .text := by
    intro plan m' haccepts
    obtain ⟨vars, hplan⟩ := textual_of plan.entry hvars (if r.resumes then m'.saved else none)
    refine ⟨?_, vars, haccepts.plan ▸ hplan⟩
    rw [haccepts.session]
    exact htask
  have hconsidered := considered hdefers i r m
  generalize m.consider c i r = m' at hconsidered htrail ⊢
  cases hconsidered with
  | refused | unknown => exact continues_tell htask (.refusing ..)
  | announced plan m' haccepts =>
    obtain ⟨htask', vars, hplan⟩ := htextual haccepts
    exact continues_tell htask' (.opening _ _ plan vars hplan ((trail_concat_call ..).trans htrail))
  | opened plan m' haccepts =>
    obtain ⟨htask', vars, hplan⟩ := htextual haccepts
    exact continues_prepare hdefers htask' hplan htrail
  | failed fault => exact continues_conclude hdefers (by exact htask) _ nofun

/-- A run that has begun says the next thing, or plays its script. -/
theorem continues_ready (hsteady : s.footing.Steady)
    (htask : s.tasks[i]? = some ⟨.posting e later (.play plan), false⟩)
    (hopen : s.footing.Open none none) (hvars : plan.vars = vars.map .text)
    (htrail : trail ds = ⟨[], none⟩) :
    Continues c s i (ds ++ s.deeds c i) (s.happen c (.wake i)) := by
  have hhand := getElem?_hand_self (c := c) hsteady htask e
  cases later with
  | cons e' later =>
    have hdeeds : s.deeds c i = [] := by simp only [deeds, htask]
    rw [hdeeds, List.append_nil, wake_posting_cons hdefers htask]
    exact continues_tell hhand (.ready e' later plan vars hvars ((trail_concat_call ..).trans htrail))
  | nil =>
    have hopen' := hopen.stir (stirs_hand hsteady c i e)
    obtain ⟨b, hb, _⟩ := hopen'.bridge
    rw [deeds_of_ready htask, wake_posting_nil htask]
    refine continues_proceed hdefers _ (m := { s.hand c i e with player := some i }) hhand
      ⟨hopen'.isRunning, hopen'.bridge, rfl⟩ hvars ?_
    rw [htrail]
    refine ⟨.nil _, .inr ⟨b, hb, ?_⟩⟩
    rintro step v ⟨⟩

/-- A run whose script is over says the next thing, or is saved. -/
theorem continues_closing (hsteady : s.footing.Steady) {v : Verdict}
    (htask : s.tasks[i]? = some ⟨.posting e later (.keep plan v), false⟩)
    (hopen : s.footing.Open none none)
    (hresults : ∀ r, v.result = some r → v.vars = r.vars.map .text ∧ Results c s ds plan r) :
    Continues c s i (ds ++ s.deeds c i) (s.happen c (.wake i)) := by
  have hhand := getElem?_hand_self (c := c) hsteady htask e
  have hechoes : ∀ r, Results c s ds plan r → (s.hand c i e).Echoes (trail ds).marks := by
    intro r hresults
    have hminds := hresults.echoes.minds ""
    exact hminds.heeds hopen (heeds_hand hsteady c i e)
  have hdeeds : s.deeds c i = [] := by simp only [deeds, htask]
  rw [hdeeds, List.append_nil]
  cases later with
  | nil =>
    rw [wake_posting_nil htask]
    refine continues_keep hdefers hhand fun r hresult => ?_
    obtain ⟨hvars, hresults⟩ := hresults r hresult
    exact ⟨hvars, { hresults with echoes := hechoes r hresults }⟩
  | cons e' later =>
    rw [wake_posting_cons hdefers htask]
    refine continues_tell hhand (.closing e' later plan v fun r hresult => ?_)
    obtain ⟨hvars, hresults⟩ := hresults r hresult
    exact ⟨hvars, hresults.call _ _ _ ((hechoes r hresults).of_eq rfl)⟩

/-- However a task goes on, it keeps its answers in mind, unless it was over before. -/
theorem continues_wake {run : Option Nat} (horder : Order s.footing s.tasks run)
    (htask : s.tasks[i]? = some task) (hattends : Attends c s ds task.phase) :
    (∃ ending, task.phase = .finished ending) ∨
      Continues c s i (ds ++ s.deeds c i) (s.happen c (.wake i)) := by
  have hhand : ∀ e, (s.hand c i e).tasks[i]? = some ⟨.active, false⟩ :=
    getElem?_hand_self horder.steady htask
  obtain ⟨phase, isFlagged⟩ := task
  dsimp only at hattends
  cases hattends with
  | ended ending => exact .inl ⟨ending, rfl⟩
  | new r vars hvars hnone =>
    obtain rfl : isFlagged = false := horder.isFlagged htask trivial
    subst hnone
    rw [deeds_of_new htask, wake_new htask, List.nil_append]
    exact .inr (continues_consider hdefers (m := s.seat i) (getElem?_seat_self htask) hvars)
  | refusing e later =>
    obtain rfl : isFlagged = false := horder.isFlagged htask trivial
    cases later with
    | nil =>
      rw [wake_posting_nil htask]
      exact .inr ⟨_, getElem?_setPhase_self (hhand e) _, .ended _ nofun⟩
    | cons e' later =>
      rw [wake_posting_cons hdefers htask]
      exact .inr (continues_tell (hhand e) (.refusing ..))
  | ending e ending hreturns =>
    obtain rfl : isFlagged = false := horder.isFlagged htask trivial
    have hdeeds : s.deeds c i = [] := by simp only [deeds, htask]
    rw [hdeeds, List.append_nil, wake_posting_nil htask]
    refine .inr ⟨_, getElem?_setPhase_self (hhand e) _, .ended ending ?_⟩
    exact (List.append_nil ds).symm ▸ hreturns
  | opening e later plan vars hvars htrail =>
    obtain ⟨rfl, hothers, hstands⟩ := horder.stands htask id
    have hdeeds : s.deeds c i = [] := by simp only [deeds, htask]
    cases hstands with
    | opening _ _ _ hearly =>
      rw [hdeeds, List.append_nil]
      cases later with
      | nil =>
        rw [wake_posting_nil htask]
        exact .inr (continues_prepare hdefers (hhand e) hvars htrail)
      | cons e' later =>
        rw [wake_posting_cons hdefers htask]
        exact .inr (continues_tell (hhand e)
          (.opening e' later plan vars hvars ((trail_concat_call ..).trans htrail)))
  | ready e later plan vars hvars htrail =>
    obtain ⟨rfl, hothers, hstands⟩ := horder.stands htask id
    cases hstands with
    | ready _ _ _ hopen => exact .inr (continues_ready hdefers horder.steady htask hopen hvars htrail)
  | playing plan vars place q step next wait hvars hasked hleads hstep hminds hsuits =>
    obtain ⟨rfl, hothers, hstands⟩ := horder.stands htask id
    cases hstands with
    | playing _ _ _ _ hopen htells hflag =>
      obtain ⟨hserved, htasks⟩ := stands_comes hdefers hopen htells hflag
      obtain ⟨_, hfault⟩ := plan.isOrderly hvars _ place q next hleads
      rw [deeds_of_playing htask, wake_playing htask]
      exact .inr (continues_carryOn hdefers (htasks ▸ getElem?_seat_self htask) hvars hasked hleads
        hfault hstep hserved (minds_comes hdefers hopen hstep hminds hsuits))
  | closing e later plan v hresults =>
    obtain ⟨rfl, hothers, hstands⟩ := horder.stands htask id
    cases hstands with
    | closing _ _ _ _ hopen =>
      exact .inr (continues_closing hdefers horder.steady htask hopen hresults)

/-- While a task does not go on, it keeps its answers in mind. -/
theorem Attends.stays {run : Option Nat} (horder : Order s.footing s.tasks run)
    (htask : s.tasks[i]? = some task) (hattends : Attends c s ds task.phase) {x : Happening}
    (hx : x ≠ .wake i) : Attends c (s.happen c x) ds task.phase := by
  obtain ⟨phase, isFlagged⟩ := task
  dsimp only at hattends ⊢
  cases hattends with
  | new r vars hvars hnone => exact .new r vars hvars hnone
  | refusing e later => exact .refusing e later
  | opening e later plan vars hvars htrail => exact .opening e later plan vars hvars htrail
  | ready e later plan vars hvars htrail => exact .ready e later plan vars hvars htrail
  | ending e ending hreturns => exact .ending e ending hreturns
  | ended ending hreturns => exact .ended ending hreturns
  | playing plan vars place q step next wait hvars hasked hleads hstep hminds hsuits =>
    obtain ⟨rfl, _, hstands⟩ := horder.stands htask id
    cases hstands with
    | playing _ _ _ _ hopen =>
      exact .playing plan vars place q step next wait hvars hasked hleads hstep
        (hminds.heeds hopen (heeds_happen hdefers horder hx)) hsuits
  | closing e later plan v hresults =>
    obtain ⟨rfl, _, hstands⟩ := horder.stands htask id
    cases hstands with
    | closing _ _ _ _ hopen =>
      refine .closing e later plan v fun r hresult => ?_
      obtain ⟨hvars, hresults⟩ := hresults r hresult
      have hminds := hresults.echoes.minds ""
      exact ⟨hvars, { hresults with
        echoes := hminds.heeds hopen (heeds_happen hdefers horder hx) }⟩

omit hdefers in
/-- A run that is cancelled has the same answers in mind. -/
theorem Attends.dropped (h : Attends c s ds task.phase) : Attends c s ds task.dropped.phase := by
  obtain ⟨phase, isFlagged⟩ := task
  cases h with
  | playing plan vars place q step next wait hvars hasked hleads hstep hminds hsuits =>
    rcases wait with _ | _ | ⟨argv, cwd, _ | _⟩ <;>
      exact .playing plan vars place q step next _ hvars hasked hleads hstep hminds hsuits
  | new r vars hvars hnone => exact .new r vars hvars hnone
  | refusing e later => exact .refusing e later
  | opening e later plan vars hvars htrail => exact .opening e later plan vars hvars htrail
  | ready e later plan vars hvars htrail => exact .ready e later plan vars hvars htrail
  | closing e later plan v hresults => exact .closing e later plan v hresults
  | ending e ending hreturns => exact .ending e ending hreturns
  | ended ending hreturns => exact .ended ending hreturns

omit hdefers in
/-- That a run is given up changes nothing of what it heard before. -/
theorem Attends.gaveUp (h : Attends c s ds task.phase) (htask : s.tasks[i]? = some task)
    (x : Happening) : Attends c s (ds ++ s.gaveUp c x i) task.phase := by
  unfold Session.gaveUp
  split
  next hgiven =>
    obtain ⟨other, hother, hopen⟩ := isOpen_of_givenUp hgiven
    obtain rfl : other = task := Option.some.inj (hother.symm.trans htask)
    have htrail : trail (ds ++ [.giveUp]) = trail ds := trail_concat ds .giveUp
    obtain ⟨phase, isFlagged⟩ := other
    dsimp only at h hopen ⊢
    cases h with
    | ready e later plan vars hvars hfresh =>
      exact .ready e later plan vars hvars (htrail.trans hfresh)
    | playing plan vars place q step next wait hvars hasked hleads hstep hminds hsuits =>
      exact .playing plan vars place q step next wait hvars (htrail.symm ▸ hasked)
        (htrail.symm ▸ hleads) hstep (htrail.symm ▸ hminds) hsuits
    | closing e later plan v hresults =>
      refine .closing e later plan v fun r hresult => ?_
      obtain ⟨hvars, hresults⟩ := hresults r hresult
      exact ⟨hvars, List.mem_append_left _ hresults.resulted, hresults.textual,
        htrail.symm ▸ hresults.leads, htrail.symm ▸ hresults.echoes⟩
    | new | refusing | opening | ending | ended => cases hopen
  next => rwa [List.append_nil]

end Deferring

end Session

end Stepwise
