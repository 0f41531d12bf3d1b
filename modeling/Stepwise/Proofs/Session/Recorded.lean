import Stepwise.Proofs.Session.Chronicle

namespace Stepwise

/-- A host whose store keeps what is saved, and which nothing but saving changes. -/
structure Host.Keeps {σ : Type} (host : Host σ) : Prop where
  save : ∀ saved s, ∃ s', host.save saved s = .ok s' ∧ host.load s' = .ok saved
  receive : ∀ e s, host.load (host.receive e s).2 = host.load s

namespace Session

open Run

/-- A session of one script, on a host that keeps what is saved and where no command fails. Its
    surface gives the active run up on some events. -/
def Setup.shelf (script : Script) (gives : Event → Bool) : Setup (Option SavedRun) where
  scripts := [⟨"sample", "Sample", none, none, none, script.steps.map (Script.dumpStep .full)⟩]
  workspace := none
  limit := 10
  defers := false
  now := 0
  moment := ⟨2024, 1, 1, none⟩
  host := ⟨.ok, fun saved _ => .ok saved, fun e s => (gives e, s), fun _ s => (false, s),
    fun _ _ s => (.ok ⟨0, none, none⟩, s)⟩

theorem keeps_shelf (script : Script) (gives : Event → Bool) :
    (Setup.shelf script gives).host.Keeps :=
  ⟨fun saved _ => ⟨saved, rfl, rfl⟩, fun _ _ => rfl⟩

/-- A script that asks for a name. -/
def greeting : Script where
  name := none
  version := none
  start := none
  steps := [⟨"ask", none, none, .prompt "Name?" "name" none⟩]

/-- A script that asks for a name, and then runs a command. -/
def errand : Script :=
  { greeting with steps := greeting.steps ++ [⟨"make", none, none, .command "make" none none .fail⟩] }

variable {σ : Type} {c : Setup σ} {s m : Session σ} {i : Nat} {ds : List (Deed σ)} {plan : Plan}
  {vars : Table String}

/-- What the surface is told when a run has begun. -/
def Plan.Opens (plan : Plan) (es : List Event) : Prop :=
  ∃ before, (∀ e ∈ before, e.IsLog) ∧ es = before ++ .busy true :: plan.overture

/-- What the surface is told while a run plays its script. -/
def Plan.Plays (plan : Plan) (es : List Event) : Prop :=
  ∃ opening during, plan.Opens opening ∧ (∀ e ∈ during, e.IsLog ∨ e.Asks) ∧ es = opening ++ during

/-- What the surface is told when it is clear how a run ended. -/
def Plan.Judged (plan : Plan) (status : Status) (es : List Event) : Prop :=
  ∃ playing text, plan.Plays playing ∧ es = playing ++ [.status status text]

/-- What the surface is told of a run, from its beginning to its end. -/
def Plan.Told (plan : Plan) (status : Status) (es : List Event) : Prop :=
  ∃ judged, plan.Judged status judged ∧ es = judged ++ [.busy false]

theorem Plan.Opens.plays {es : List Event} (h : plan.Opens es) : plan.Plays es :=
  ⟨es, [], h, nofun, (List.append_nil es).symm⟩

theorem Plan.Plays.concat {es : List Event} {e : Event} (h : plan.Plays es)
    (he : e.IsLog ∨ e.Asks) : plan.Plays (es ++ [e]) := by
  obtain ⟨opening, during, hopening, hduring, rfl⟩ := h
  refine ⟨opening, during ++ [e], hopening, fun e' he' => ?_, by simp⟩
  rcases List.mem_append.1 he' with hold | hnew
  · exact hduring e' hold
  · exact List.mem_singleton.1 hnew ▸ he

/-- A run was accepted with this plan, and its script is not over. -/
structure Begun (c : Setup σ) (ds : List (Deed σ)) (plan : Plan) (vars : Table String) : Prop where
  plans : ∃ r, plans ds = [(r, plan)] ∧ c.script? r.script = some plan.entry
  textual : plan.vars = vars.map .text
  endings : endings ds = []

/-- How the script of a run may be over, given its marks. -/
def Plan.Over (plan : Plan) (vars : Table String) (ms : List Mark) :
    Except (Context × Fault) Result → Prop
  | .ok r => r.vars = reached plan.entry.script vars ms
  | .error (place, fault) => fault = .cancelled ∧ Tracks plan.entry.script vars ms place ∨
      Fails plan.entry.script vars ms place fault

/-- The script of a run is over, and this is its verdict. -/
structure Judged (c : Setup σ) (ds : List (Deed σ)) (plan : Plan) (vars : Table String)
    (v : Verdict) : Prop where
  plans : ∃ r, Session.plans ds = [(r, plan)] ∧ c.script? r.script = some plan.entry
  textual : plan.vars = vars.map .text
  ending : ∃ ending, endings ds = [(plan, ending)] ∧ plan.Over vars (trail ds).marks ending ∧
    ∃ isAbandoned e later, plan.verdict isAbandoned ending = some (e, later, v)

/-- What holds as a run tells that it is over: the session is free, no question of the run waits
    for an answer, and what is saved is the run. -/
structure Closes (c : Setup σ) (plan : Plan) (v : Verdict) (before after : Session σ) : Prop where
  isRunning : after.isRunning = false
  bridge : after.bridge = none
  settled : ∃ b, before.bridge = some b ∧ ∀ t, ¬ b.isUnsettled t
  saved : ∃ vars answers, v.vars = vars.map .text ∧
    after.saved = some ⟨plan.entry.id, answers, vars, some v.status.name, v.message, c.now⟩ ∧
    c.host.load after.host = .ok after.saved

/-- What the record of a run says while its task is in this phase. -/
inductive Recorded (c : Setup σ) (ds : List (Deed σ)) : Phase → Prop where
  | new (r : RunRequest) (vars : Table String) (hvars : r.vars = vars.map .text) (hnone : ds = []) :
      Recorded c ds (.new r)
  | refusing (e : Event) (he : e.IsLog) (hall : ∃ before after, ds = [.call e before after]) :
      Recorded c ds (.posting e [] .refuse)
  | refused (e : Event) (he : e.IsLog) (hall : ∃ before after, ds = [.call e before after]) :
      Recorded c ds (.finished (.result none))
  | opening (plan : Plan) (vars : Table String) (e : Event) (hbegun : Begun c ds plan vars)
      (htrail : trail ds = ⟨[], none⟩) (he : e.IsLog) (hcalls : calls ds = [e]) :
      Recorded c ds (.posting e [] (.prepare plan))
  | ready (plan : Plan) (vars : Table String) (e : Event) (later : List Event)
      (hbegun : Begun c ds plan vars) (htrail : trail ds = ⟨[], none⟩)
      (hcalls : plan.Opens (calls ds ++ later)) : Recorded c ds (.posting e later (.play plan))
  | playing (plan : Plan) (vars : Table String) (next : Reply → Dialogue Result) (wait : Wait)
      (place : Context) (q : Request) (hbegun : Begun c ds plan vars)
      (hcalls : plan.Plays (calls ds)) (hasked : (trail ds).asked = some (place, q))
      (htracks : Tracks plan.entry.script vars (trail ds).marks place)
      (hvalue : ∀ v, Traced plan.entry.script vars (Concluded plan.entry.script vars)
        ((trail ds).marks ++ [.call place q (.value v)]) (next (.value v)))
      (hfault : ∀ f, next (.fault f) = .fail place f) : Recorded c ds (.playing plan next wait)
  | closing (plan : Plan) (vars : Table String) (e : Event) (later : List Event) (v : Verdict)
      (hjudged : Judged c ds plan vars v) (hcalls : plan.Judged v.status (calls ds ++ later)) :
      Recorded c ds (.posting e later (.keep plan v))
  | ending (plan : Plan) (vars : Table String) (v : Verdict) (hjudged : Judged c ds plan vars v)
      (hcalls : plan.Told v.status (calls ds))
      (hcloses : ∀ before after, .call (.busy false) before after ∈ ds →
        Closes c plan v before after) :
      Recorded c ds (.posting (.busy false) [] (.finish (.result v.result)))
  | ended (plan : Plan) (vars : Table String) (v : Verdict) (hjudged : Judged c ds plan vars v)
      (hcalls : plan.Told v.status (calls ds))
      (hcloses : ∀ before after, .call (.busy false) before after ∈ ds →
        Closes c plan v before after) :
      Recorded c ds (.finished (.result v.result))

/-- A call that tells whether the surface is busy tells that a run has its bridge now, or that it has
    it no longer. -/
def Toggles (before after : Option (Bridge String)) : Option Event → Prop
  | some (.busy b) => before.isSome = !b ∧ after.isSome = b
  | _ => after.isSome = before.isSome

/-- A task that went on from `s` has come to `m`, and its record says how. -/
def Arrives (c : Setup σ) (s : Session σ) (i : Nat) (ds : List (Deed σ)) (m : Session σ) : Prop :=
  ∃ phase, m.tasks[i]? = some ⟨phase, false⟩ ∧
    Recorded c (ds ++ phase.underway?.toList.map (.call · s m)) phase ∧
    Toggles s.bridge m.bridge phase.underway?

theorem toggles_news {before after : Option (Bridge String)} {e : Event} (he : e.IsNews)
    (hsame : after.isSome = before.isSome) : Toggles before after (some e) := by
  cases e <;> first | exact hsame | exact he.elim

section Appending

variable (ds : List (Deed σ)) (d : Deed σ)

theorem calls_concat_call (e : Event) (before after : Session σ) :
    calls (ds ++ [.call e before after]) = calls ds ++ [e] := by
  simp [calls]

theorem plans_concat_call (e : Event) (before after : Session σ) :
    plans (ds ++ [.call e before after]) = plans ds := by
  simp [plans]

theorem endings_concat_call (e : Event) (before after : Session σ) :
    endings (ds ++ [.call e before after]) = endings ds := by
  simp [endings]

theorem trail_concat : trail (ds ++ [d]) = (trail ds).add d := by
  simp [trail]

end Appending

theorem Begun.call (h : Begun c ds plan vars) (e : Event) (before after : Session σ) :
    Begun c (ds ++ [.call e before after]) plan vars := by
  obtain ⟨hplans, hvars, hendings⟩ := h
  exact ⟨by rwa [plans_concat_call], hvars, by rwa [endings_concat_call]⟩

theorem Judged.call {v : Verdict} (h : Judged c ds plan vars v) (e : Event)
    (before after : Session σ) : Judged c (ds ++ [.call e before after]) plan vars v := by
  obtain ⟨hplans, hvars, hending⟩ := h
  exact ⟨by rwa [plans_concat_call], hvars, by rwa [endings_concat_call, trail_concat]⟩

/-- A task tells an event. -/
theorem arrives_tell (htask : m.tasks[i]? = some ⟨.active, false⟩) {e : Event} {later : List Event}
    {goal : Goal} (hrecorded : Recorded c (ds ++ [.call e s (m.tell i e later goal)])
      (.posting e later goal)) (htoggles : Toggles s.bridge m.bridge (some e)) :
    Arrives c s i ds (m.tell i e later goal) :=
  ⟨.posting e later goal, getElem?_tell_self htask .., hrecorded, htoggles⟩

/-- A run gets its bridge. -/
theorem arrives_prepare (hdefers : c.defers) (htask : m.tasks[i]? = some ⟨.active, false⟩)
    (hbridge : s.bridge = none) (hbegun : Begun c ds plan vars) (htrail : trail ds = ⟨[], none⟩)
    (hcalls : ∀ e ∈ calls ds, e.IsLog) : Arrives c s i ds (m.prepare c i plan) := by
  rw [prepare_eq hdefers]
  refine arrives_tell (m := { m with bridge := some (.start plan.replays plan.answers) }) htask
    (.ready plan vars _ _ (hbegun.call _ _ _) ?_ ?_) ?_
  · rw [trail_concat, htrail]
    rfl
  · exact ⟨calls ds, hcalls, by simp [calls_concat_call]⟩
  · simp [Toggles, hbridge]

/-- The script of a run is over, and the run says how. -/
theorem arrives_judge (hdefers : c.defers) (htask : m.tasks[i]? = some ⟨.active, false⟩)
    (hbridge : m.bridge.isSome = s.bridge.isSome) (hbegun : Begun c ds plan vars)
    (hcalls : plan.Plays (calls ds)) (ending : Except (Context × Fault) Result)
    (hover : plan.Over vars (trail ds).marks ending)
    (hcancelled : ∀ place, ending = .error (place, .cancelled) → m.isAbandoned = true) :
    Arrives c s i (ds ++ [.over plan ending]) (m.judge c i plan ending) := by
  rw [judge_eq hdefers]
  cases hverdict : plan.verdict m.isAbandoned ending with
  | none =>
    exfalso
    unfold Plan.verdict at hverdict
    split at hverdict
    · cases hverdict
    next place fault =>
      split at hverdict
      next heq =>
        subst heq
        simp [hcancelled place rfl] at hverdict
      · cases hverdict
  | some x =>
    obtain ⟨e, later, v⟩ := x
    have hjudged : Judged c (ds ++ [.over plan ending]) plan vars v := by
      refine ⟨?_, hbegun.textual, ending, ?_, ?_, _, e, later, hverdict⟩
      · simpa [plans] using hbegun.plans
      · simpa [endings] using hbegun.endings
      · rw [trail_concat]
        exact hover
    have hover : calls (ds ++ [.over plan ending]) = calls ds := by
      simp [calls]
    dsimp only
    refine arrives_tell (m := { m with diagnostics := plan.diagnosed c m.diagnostics ending }) htask
      (.closing plan vars e later v (hjudged.call _ _ _) ?_) ?_
    · rw [calls_concat_call, hover]
      obtain ⟨text, ⟨rfl, rfl⟩ | ⟨he, rfl⟩⟩ := verdict_cases hverdict
      · exact ⟨calls ds, text, hcalls, by simp⟩
      · exact ⟨calls ds ++ [e], text, hcalls.concat (.inl he), rfl⟩
    · obtain ⟨text, ⟨rfl, rfl⟩ | ⟨he, rfl⟩⟩ := verdict_cases hverdict
      · exact hbridge
      · cases e <;> first | exact hbridge | exact he.elim

/-- The script of a run goes on by this dialogue. It is cancelled only if the run was given up. -/
inductive OnWay (plan : Plan) (vars : Table String) (ms : List Mark) (isAbandoned : Bool) :
    Dialogue Result → Prop where
  | traced (d : Dialogue Result)
      (htraced : Traced plan.entry.script vars (Concluded plan.entry.script vars) ms d) :
      OnWay plan vars ms isAbandoned d
  | cancelled (place : Context) (htracks : Tracks plan.entry.script vars ms place)
      (habandoned : isAbandoned = true) : OnWay plan vars ms isAbandoned (.fail place .cancelled)

theorem OnWay.over_done {ms : List Mark} {isAbandoned : Bool} {r : Result}
    (h : OnWay plan vars ms isAbandoned (.done r)) : plan.Over vars ms (.ok r) := by
  cases h with
  | traced _ htraced =>
    cases htraced with
    | done hresult => exact hresult

theorem OnWay.over_fail {ms : List Mark} {isAbandoned : Bool} {place : Context} {fault : Fault}
    (h : OnWay plan vars ms isAbandoned (.fail place fault)) :
    plan.Over vars ms (.error (place, fault)) ∧ (fault = .cancelled → isAbandoned = true) := by
  cases h with
  | traced _ htraced =>
    cases htraced with
    | fail hfails => exact ⟨.inr hfails, fun heq => absurd heq hfails.notCancelled⟩
  | cancelled _ htracks habandoned => exact ⟨.inl ⟨rfl, htracks⟩, fun _ => habandoned⟩

/-- The script of a run goes on with a reply. -/
theorem onWay_of_reply {ms : List Mark} {place : Context} {q : Request}
    {next : Reply → Dialogue Result} {isAbandoned : Bool}
    (htracks : Tracks plan.entry.script vars ms place)
    (hvalue : ∀ v, Traced plan.entry.script vars (Concluded plan.entry.script vars)
      (ms ++ [.call place q (.value v)]) (next (.value v)))
    (hfault : ∀ f, next (.fault f) = .fail place f) {reply : Reply} (hfair : IsFair isAbandoned reply) :
    OnWay plan vars (ms ++ [.call place q reply]) isAbandoned (next reply) := by
  cases hfair with
  | value v => exact .traced _ (hvalue v)
  | cancelled habandoned =>
    rw [hfault]
    exact .cancelled place (htracks.concat_fault q _) habandoned
  | host f =>
    rw [hfault]
    exact .traced _ (.fail ((htracks.concat_fault q _).fails_host f))

theorem Begun.append (h : Begun c ds plan vars) {d : Deed σ} (hplans : Session.plans [d] = [])
    (hendings : Session.endings [d] = []) : Begun c (ds ++ [d]) plan vars := by
  obtain ⟨hp, hvars, he⟩ := h
  unfold Session.plans at hp hplans
  unfold Session.endings at he hendings
  exact ⟨by simpa [Session.plans, hplans] using hp, hvars,
    by simp [Session.endings, he, hendings]⟩

theorem calls_append_of_nil {d : Deed σ} (hcalls : calls [d] = []) : calls (ds ++ [d]) = calls ds := by
  unfold calls at hcalls ⊢
  simp [hcalls]

/-- A run that waits for the reply to a request. -/
theorem arrives_wait (htask : m.tasks[i]? = some ⟨.active, false⟩)
    (hbridge : m.bridge.isSome = s.bridge.isSome) (hbegun : Begun c ds plan vars)
    (hcalls : plan.Plays (calls ds)) {next : Reply → Dialogue Result} {wait : Wait}
    (htells : wait.Tells) {place : Context} {q : Request}
    (hasked : (trail ds).asked = some (place, q))
    (htracks : Tracks plan.entry.script vars (trail ds).marks place)
    (hvalue : ∀ v, Traced plan.entry.script vars (Concluded plan.entry.script vars)
      ((trail ds).marks ++ [.call place q (.value v)]) (next (.value v)))
    (hfault : ∀ f, next (.fault f) = .fail place f) :
    Arrives c s i ds (m.setPhase i (.playing plan next wait)) := by
  refine ⟨.playing plan next wait, getElem?_setPhase_self htask _, ?_, ?_⟩
  · cases wait with
    | ticket t =>
      refine .playing plan vars next _ place q ?_ ?_ ?_ ?_ ?_ hfault <;>
        simpa [Phase.underway?]
    | command argv cwd isOver =>
      refine .playing plan vars next _ place q ?_ ?_ ?_ ?_ ?_ hfault <;>
        simpa [Phase.underway?]
    | delivery e later aim =>
      refine .playing plan vars next _ place q (hbegun.call _ _ _) ?_ ?_ ?_ ?_ hfault
      · exact (calls_concat_call ds e s _).symm ▸ hcalls.concat htells.1
      · exact (congrArg Trail.asked (trail_concat ..)).trans hasked
      · exact (congrArg Trail.marks (trail_concat ..)).symm ▸ htracks
      · exact (congrArg Trail.marks (trail_concat ..)).symm ▸ hvalue
  · cases wait with
    | ticket | command => exact hbridge
    | delivery e later aim =>
      rcases htells.1 with he | he <;> cases e <;> first | exact hbridge | exact he.elim

/-- A run goes on until it waits or is over. -/
theorem arrives_proceed (hdefers : c.defers) (d : Dialogue Result) (hwork : m.AtWork i)
    (hopen : m.footing.Open (some i) none) (hbridge : s.bridge.isSome)
    (hbegun : Begun c ds plan vars) (hcalls : plan.Plays (calls ds))
    (hway : OnWay plan vars (trail ds).marks m.isAbandoned d) :
    Arrives c s i (ds ++ playDeeds c i plan d m) (m.proceed c i plan d) := by
  have hisSome : ∀ {ticket} {m : Session σ}, m.footing.Open (some i) ticket →
      m.bridge.isSome = s.bridge.isSome := by
    intro ticket m hopen
    obtain ⟨b, hb, _⟩ := hopen.bridge
    rw [show m.bridge = some b from hb, hbridge]
    rfl
  induction d generalizing m ds with
  | done r =>
    exact arrives_judge hdefers (m := { m with player := none }) hwork.task
      (hisSome (m := m) hopen) hbegun hcalls (.ok r) hway.over_done (by rintro place ⟨⟩)
  | fail place fault =>
    obtain ⟨hover, hcancelled⟩ := hway.over_fail
    refine arrives_judge hdefers (m := { m with player := none }) hwork.task
      (hisSome (m := m) hopen) hbegun hcalls (.error (place, fault)) hover ?_
    rintro _ ⟨⟩
    exact hcancelled rfl
  | visit place rest ih =>
    cases hway with
    | traced _ htraced =>
      cases htraced with
      | visit hrest =>
        have harrives : Arrives c s i (ds ++ [.visit place] ++ playDeeds c i plan rest m)
            (m.proceed c i plan rest) :=
          ih hwork hopen (hbegun.append rfl rfl) (by rwa [calls_append_of_nil rfl])
            (.traced _ (by rwa [trail_concat]))
        rwa [List.append_assoc] at harrives
  | ask place q next ih =>
    cases hway with
    | traced _ htraced =>
      cases htraced with
      | ask htracks hvalue hfault =>
        have hstands := stands_serve hdefers hopen place q
        have htasks := (serves_serve hdefers m i place q).tasks_eq
        rw [proceed_ask_eq]
        unfold playDeeds
        generalize hserved : m.serve c i place q = served at hstands htasks ⊢
        obtain ⟨reply | wait, m'⟩ := served
        · obtain ⟨hopen', hfair⟩ := hstands
          have harrives : Arrives c s i (ds ++ [.attempt place q m (.reply reply) m'] ++
              playDeeds c i plan (next place reply) m') (m'.proceed c i plan (next place reply)) :=
            ih place reply (hwork.of_tasks htasks) hopen'
              (hbegun.append rfl rfl) (by rwa [calls_append_of_nil rfl]) (by
                rw [trail_concat]
                exact onWay_of_reply htracks hvalue hfault hfair)
          rwa [List.append_assoc] at harrives
        · obtain ⟨hopen', htells⟩ := hstands
          refine arrives_wait (htasks ▸ hwork.task) (hisSome hopen') (hbegun.append rfl rfl)
            (by rwa [calls_append_of_nil rfl]) htells (by rw [trail_concat]; rfl) ?_ ?_ hfault
          · rw [trail_concat]
            exact htracks
          · rw [trail_concat]
            exact hvalue

/-- A run that waited goes on. -/
theorem arrives_carryOn (hdefers : c.defers) {served : Served × Session σ}
    (hwork : served.2.AtWork i) (hstands : Served.Stands i served) (hbridge : s.bridge.isSome)
    (hbegun : Begun c ds plan vars) (hcalls : plan.Plays (calls ds))
    {next : Reply → Dialogue Result} {place : Context} {q : Request}
    (hasked : (trail ds).asked = some (place, q))
    (htracks : Tracks plan.entry.script vars (trail ds).marks place)
    (hvalue : ∀ v, Traced plan.entry.script vars (Concluded plan.entry.script vars)
      ((trail ds).marks ++ [.call place q (.value v)]) (next (.value v)))
    (hfault : ∀ f, next (.fault f) = .fail place f) :
    Arrives c s i (ds ++ replyDeeds c i plan next served) (carryOn c i plan next served) := by
  obtain ⟨reply | wait, m⟩ := served
  · obtain ⟨hopen, hfair⟩ := hstands
    have harrives : Arrives c s i (ds ++ [.hear reply] ++ playDeeds c i plan (next reply) m)
        (m.proceed c i plan (next reply)) :=
      arrives_proceed hdefers (next reply) hwork hopen hbridge (hbegun.append rfl rfl)
        (by rwa [calls_append_of_nil rfl]) (by
          rw [trail_concat]
          simp only [Trail.add, hasked]
          exact onWay_of_reply htracks hvalue hfault hfair)
    rwa [List.append_assoc] at harrives
  · obtain ⟨hopen, htells⟩ := hstands
    have hisSome : m.bridge.isSome = s.bridge.isSome := by
      obtain ⟨b, hb, _⟩ := hopen.bridge
      rw [show m.bridge = some b from hb, hbridge]
      rfl
    unfold replyDeeds
    rw [List.append_nil]
    exact arrives_wait hwork.task hisSome hbegun hcalls htells hasked htracks hvalue hfault

/-- A verdict is about texts, as its run is. -/
theorem textual_of_judged {v : Verdict} (h : Judged c ds plan vars v) :
    ∃ vars : Table String, v.vars = vars.map .text := by
  obtain ⟨ending, _, hover, isAbandoned, e, later, hverdict⟩ := h.ending
  rcases ending with ⟨place, fault⟩ | r
  · simp only [Plan.verdict] at hverdict
    have hvars : ∃ vars : Table String, place.vars = vars.map .text := by
      rcases hover with ⟨_, htracks⟩ | hfails
      · exact ⟨_, htracks.vars⟩
      · exact ⟨_, hfails.vars⟩
    split at hverdict
    · split at hverdict <;> cases hverdict
      exact hvars
    · cases hverdict
      dsimp only
      split
      · exact hvars
      · exact ⟨_, h.textual⟩
  · cases hverdict
    exact ⟨r.vars, rfl⟩

/-- No call of a run that is judged says that it is over. -/
theorem not_busy_of_judged {status : Status} {es : List Event} (h : plan.Judged status es) :
    .busy false ∉ es := by
  obtain ⟨playing, text, ⟨opening, during, ⟨before, hbefore, rfl⟩, hduring, rfl⟩, rfl⟩ := h
  intro hmem
  simp only [List.mem_append, List.mem_cons, Plan.overture, reduceCtorEq, List.not_mem_nil,
    Event.busy.injEq, Bool.false_eq_true, or_false] at hmem
  rcases hmem with hmem | hmem
  · exact hbefore _ hmem
  · exact (hduring _ hmem).elim id id

theorem mem_calls {e : Event} {before after : Session σ} (hmem : .call e before after ∈ ds) :
    e ∈ calls ds :=
  List.mem_filterMap.2 ⟨_, hmem, rfl⟩

/-- What is to be kept of a run is saved, and the run says that it is over. -/
theorem arrives_keep (hdefers : c.defers) (hhost : c.host.Keeps)
    (htask : m.tasks[i]? = some ⟨.active, false⟩) (hbridge : m.bridge.isSome)
    (hbefore : ∃ b, s.bridge = some b ∧ ∀ t, ¬ b.isUnsettled t) {v : Verdict}
    (hjudged : Judged c ds plan vars v) (hcalls : plan.Judged v.status (calls ds)) :
    Arrives c s i ds (m.keep c i plan v) := by
  obtain ⟨kept, hkept⟩ := textual_of_judged hjudged
  have htexts : Position.texts v.vars = .ok kept := by
    rw [hkept, texts_map_text]
  obtain ⟨host, hsave, hload⟩ := hhost.save (some (plan.record c m.bridge kept v)) m.host
  rw [keep_eq htexts hsave, conclude_eq hdefers]
  obtain ⟨b, hb⟩ := Option.isSome_iff_exists.1 hbridge
  have hconcluded : ∃ line, concluded { m with
      saved := some (plan.record c m.bridge kept v), host } = { m with
      saved := some (plan.record c m.bridge kept v), host, bridge := none, isRunning := false, line } := by
    simp only [concluded, hb, apply]
    exact ⟨_, rfl⟩
  obtain ⟨line, hconcluded⟩ := hconcluded
  rw [hconcluded]
  refine arrives_tell (m := { m with
    saved := some (plan.record c m.bridge kept v), host, bridge := none, isRunning := false, line })
    htask (.ending plan vars v (hjudged.call _ _ _) ?_ ?_) ?_
  · rw [calls_concat_call]
    exact ⟨_, hcalls, rfl⟩
  · intro before after hmem
    rcases List.mem_append.1 hmem with hold | hnew
    · exact absurd (mem_calls hold) (not_busy_of_judged hcalls)
    · cases List.mem_singleton.1 hnew
      exact ⟨rfl, rfl, hbefore, kept, _, hkept, rfl, hload⟩
  · obtain ⟨b, hb, _⟩ := hbefore
    simp [Toggles, hb]

/-- A plan is about texts, as what is saved is. -/
theorem textual_of (entry : Entry) {r : RunRequest} (hvars : r.vars = vars.map .text)
    (saved : Option SavedRun) : ∃ vars : Table String, (Plan.of entry r saved).vars = vars.map .text := by
  unfold Plan.of
  split
  next saved _ => exact ⟨saved.vars.overlay vars, by rw [Table.overlay_map, hvars]⟩
  next => exact ⟨vars, hvars⟩

/-- A run that is asked for is refused with one log, or begins. -/
theorem arrives_consider (hdefers : c.defers) (hhost : c.host.Keeps)
    (htask : m.tasks[i]? = some ⟨.active, false⟩) (hbridge : m.bridge = s.bridge)
    (hidle : m.isRunning = false → s.bridge = none) {r : RunRequest}
    (hvars : r.vars = vars.map .text) :
    Arrives c s i (acceptDeeds r (m.consider c i r).tasks[i]?) (m.consider c i r) := by
  have hrefuses : ∀ {e : Event}, e.IsLog →
      Arrives c s i (acceptDeeds r (m.tell i e [] .refuse).tasks[i]?) (m.tell i e [] .refuse) := by
    intro e he
    rw [getElem?_tell_self htask]
    refine arrives_tell htask (.refusing e he ⟨_, _, rfl⟩) ?_
    cases e <;> first | exact congrArg _ hbridge | exact he.elim
  have hbegun : ∀ {plan m'}, m.Accepts c r plan m' →
      ∃ vars, Begun c (σ := σ) [.accept r plan] plan vars := by
    intro plan m' haccepts
    obtain ⟨vars, hplan⟩ := textual_of plan.entry hvars (if r.resumes then m'.saved else none)
    exact ⟨vars, ⟨r, rfl, haccepts.entry⟩, haccepts.plan ▸ hplan, rfl⟩
  have hconsidered := considered hdefers i r m
  generalize m.consider c i r = m' at hconsidered ⊢
  cases hconsidered with
  | refused | unknown => exact hrefuses trivial
  | announced plan m' haccepts =>
    obtain ⟨vars, hbegun⟩ := hbegun haccepts
    have htask' : m'.tasks[i]? = some ⟨.active, false⟩ := by
      rw [haccepts.session]
      exact htask
    rw [getElem?_tell_self htask']
    refine arrives_tell htask' (.opening plan vars _ (hbegun.call _ _ _) rfl trivial rfl) ?_
    rw [haccepts.session]
    exact congrArg _ hbridge
  | opened plan m' haccepts =>
    obtain ⟨vars, hbegun⟩ := hbegun haccepts
    have htask' : m'.tasks[i]? = some ⟨.active, false⟩ := by
      rw [haccepts.session]
      exact htask
    have hphase : (m'.prepare c i plan).tasks[i]? =
        some ⟨.posting (.busy true) plan.overture (.play plan), false⟩ := by
      rw [prepare_eq hdefers]
      exact getElem?_tell_self (s := { m' with bridge := _ }) htask' ..
    rw [hphase]
    exact arrives_prepare hdefers htask' (hidle haccepts.isRunning) hbegun rfl nofun
  | failed fault hrunning hfault =>
    obtain ⟨s', hsave, _⟩ := hhost.save none m.host
    exact nomatch hfault.symm.trans hsave

section Waking

variable {run : Option Nat} {isFlagged : Bool} {e : Event} {later : List Event}
  (horder : Order s.footing s.tasks run)

include horder

theorem Order.bridge_eq_none (hfree : s.isRunning = false) : s.bridge = none := by
  cases horder with
  | idle h => exact h.bridge
  | active _ _ _ _ hstands => cases hfree.symm.trans hstands.isRunning

/-- A task that told its last word is over. -/
theorem arrives_finish {goal : Goal} {ending : Ending}
    (htask : s.tasks[i]? = some ⟨.posting e [] goal, isFlagged⟩)
    (haside : Phase.IsAside (.posting e [] goal))
    (hgoal : ∀ m : Session σ, m.reachGoal c i goal = m.setPhase i (.finished ending))
    (hended : Recorded c ds (.finished ending)) :
    Arrives c s i (ds ++ s.deeds c i) (s.happen c (.wake i)) := by
  obtain rfl : isFlagged = false := horder.isFlagged htask haside
  have hdeeds : s.deeds c i = [] := by
    unfold deeds
    rw [htask]
    cases goal <;> first | rfl | exact haside.elim
  rw [hdeeds, List.append_nil, wake_posting_nil htask, hgoal]
  exact ⟨.finished ending, getElem?_setPhase_self (getElem?_hand_self horder.steady htask e) _,
    by simpa [Phase.underway?] using hended, (stirs_hand horder.steady c i e).isSome_eq⟩

/-- A run that has begun says the next thing, or plays its script. -/
theorem arrives_ready (hdefers : c.defers)
    (htask : s.tasks[i]? = some ⟨.posting e later (.play plan), isFlagged⟩)
    (hbegun : Begun c ds plan vars) (htrail : trail ds = ⟨[], none⟩)
    (hcalls : plan.Opens (calls ds ++ later)) :
    Arrives c s i (ds ++ s.deeds c i) (s.happen c (.wake i)) := by
  obtain ⟨rfl, hothers, hstands⟩ := horder.stands htask id
  have hstirs := stirs_hand horder.steady c i e
  cases hstands with
  | ready _ _ _ hopen hnews =>
    cases later with
    | nil =>
      have hwork : (s.hand c i e).AtWork i := (AtWork.seat htask hothers).of_tasks
        (tasks_deliver_self (s := s.seat i) hopen.steady (.inl hopen.player) e)
      obtain ⟨b, hb, _⟩ := hopen.bridge
      have hopen' := hopen.stir hstirs
      rw [List.append_nil] at hcalls
      rw [deeds_of_ready htask, wake_posting_nil htask]
      refine arrives_proceed hdefers _ (m := { s.hand c i e with player := some i })
        ⟨hwork.task, hwork.others⟩ ⟨hopen'.isRunning, hopen'.bridge, rfl⟩
        (congrArg Option.isSome hb) hbegun hcalls.plays ?_
      rw [htrail, hbegun.textual]
      exact .traced _ (traced_ofInput ..)
    | cons e' later =>
      have hdeeds : s.deeds c i = [] := by simp only [deeds, htask]
      rw [hdeeds, List.append_nil, wake_posting_cons hdefers htask]
      refine arrives_tell (getElem?_hand_self horder.steady htask e)
        (.ready plan vars e' later (hbegun.call _ _ _) ?_ ?_) ?_
      · rw [trail_concat, htrail]
        rfl
      · rw [calls_concat_call, List.append_assoc]
        exact hcalls
      · exact toggles_news (hnews e' List.mem_cons_self) hstirs.isSome_eq

/-- A run whose script is over says the next thing, or is saved. -/
theorem arrives_closing (hdefers : c.defers) (hhost : c.host.Keeps) {v : Verdict}
    (htask : s.tasks[i]? = some ⟨.posting e later (.keep plan v), isFlagged⟩)
    (hjudged : Judged c ds plan vars v) (hcalls : plan.Judged v.status (calls ds ++ later)) :
    Arrives c s i (ds ++ s.deeds c i) (s.happen c (.wake i)) := by
  obtain ⟨rfl, hothers, hstands⟩ := horder.stands htask id
  have hhand := getElem?_hand_self (c := c) horder.steady htask e
  have hstirs := stirs_hand horder.steady c i e
  have hdeeds : s.deeds c i = [] := by simp only [deeds, htask]
  rw [hdeeds, List.append_nil]
  cases hstands with
  | closing _ _ _ _ hopen hnews =>
    obtain ⟨b, hb, _, hexpects⟩ := hopen.bridge
    cases later with
    | nil =>
      rw [List.append_nil] at hcalls
      rw [wake_posting_nil htask]
      refine arrives_keep hdefers hhost hhand ?_ ⟨b, hb, hexpects.settled⟩ hjudged hcalls
      exact hstirs.isSome_eq.trans (congrArg Option.isSome hb)
    | cons e' later =>
      rw [wake_posting_cons hdefers htask]
      refine arrives_tell hhand (.closing plan vars e' later v (hjudged.call _ _ _) ?_) ?_
      · rw [calls_concat_call, List.append_assoc]
        exact hcalls
      · exact toggles_news (hnews e' List.mem_cons_self) hstirs.isSome_eq

/-- However a task goes on, its record says how, unless the task was over before. -/
theorem arrives_wake (hdefers : c.defers) (hhost : c.host.Keeps) {task : Task}
    (htask : s.tasks[i]? = some task) (hrecorded : Recorded c ds task.phase) :
    (∃ ending, task.phase = .finished ending) ∨
      Arrives c s i (ds ++ s.deeds c i) (s.happen c (.wake i)) := by
  obtain ⟨phase, isFlagged⟩ := task
  dsimp only at hrecorded
  cases hrecorded with
  | refused | ended => exact .inl ⟨_, rfl⟩
  | refusing e he hall =>
    exact .inr (arrives_finish horder htask trivial (fun _ => rfl) (.refused e he hall))
  | ending plan vars v hjudged hcalls hcloses =>
    exact .inr (arrives_finish horder htask trivial (fun _ => rfl)
      (.ended plan vars v hjudged hcalls hcloses))
  | new r vars hvars hnone =>
    obtain rfl : isFlagged = false := horder.isFlagged htask trivial
    subst hnone
    rw [deeds_of_new htask, wake_new htask, List.nil_append]
    exact .inr (arrives_consider (s := s) (m := s.seat i) hdefers hhost (getElem?_seat_self htask)
      rfl horder.bridge_eq_none hvars)
  | opening plan vars e hbegun htrail he hcalls =>
    obtain ⟨rfl, hothers, hstands⟩ := horder.stands htask id
    have hdeeds : s.deeds c i = [] := by simp only [deeds, htask]
    cases hstands with
    | opening _ _ _ hearly =>
      rw [hdeeds, List.append_nil, wake_posting_nil htask]
      exact .inr (arrives_prepare hdefers (getElem?_hand_self horder.steady htask e) hearly.bridge
        hbegun htrail (by simpa [hcalls] using he))
  | ready plan vars e later hbegun htrail hcalls =>
    exact .inr (arrives_ready horder hdefers htask hbegun htrail hcalls)
  | playing plan vars next wait place q hbegun hcalls hasked htracks hvalue hfault =>
    obtain ⟨rfl, hothers, hstands⟩ := horder.stands htask id
    cases hstands with
    | playing _ _ _ _ hopen htells hflag =>
      obtain ⟨hserved, htasks⟩ := stands_comes hdefers hopen htells hflag
      have hwork := (AtWork.seat htask hothers).of_tasks htasks
      obtain ⟨b, hb, _⟩ := hopen.bridge
      rw [deeds_of_playing htask, wake_playing htask]
      exact .inr (arrives_carryOn hdefers hwork hserved (congrArg Option.isSome hb) hbegun hcalls
        hasked htracks hvalue hfault)
  | closing plan vars e later v hjudged hcalls =>
    exact .inr (arrives_closing horder hdefers hhost htask hjudged hcalls)

end Waking

end Session

end Stepwise
