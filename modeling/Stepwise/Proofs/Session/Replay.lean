import Stepwise.Proofs.Session.Retraced

namespace Stepwise.Session

variable {σ : Type} {c : Setup σ} {outcome : Outcomes} {s : Session σ}

/-- No run is active, and all that were asked for are over. -/
structure IsIdle (s : Session σ) : Prop where
  line : s.line = []
  bridge : s.bridge = none
  isRunning : s.isRunning = false
  finished : ∀ task ∈ s.tasks, ∃ ending, task.phase = .finished ending

/-- The result that a run came to. -/
def returned? (s : Session σ) (i : Nat) : Option Result :=
  match s.tasks[i]? with
  | some ⟨.finished (.result r), _⟩ => r
  | _ => none

/-- Asks for a fresh run. -/
def requestStart (id : Option String) (vars : Table String) (s : Session σ) : Session σ :=
  s.request ⟨id, false, false, vars.map .text⟩

/-- Asks for a run by the answers and variables of the last one. -/
def requestResume (id : Option String) (vars : Table String) (s : Session σ) : Session σ :=
  s.request ⟨id, true, false, vars.map .text⟩

/-- A fresh run of a script. -/
def Setup.fresh (c : Setup σ) (entry : Entry) (vars : Table String) : Dialogue Result :=
  Run.ofInput .all c.limit entry.script (vars.map .text)

/-- What is seen of a fresh run of a script, given the answers to its questions. -/
def Setup.transcript (c : Setup σ) (outcome : Outcomes) (entry : Entry) (vars : Table String)
    (given : List (String × String)) : List Mark :=
  (c.fresh entry vars).marks (c.responder outcome) (given.map Prod.snd)

/-- The scene of a run that is asked for now. -/
def IsIdle.scene (h : s.IsIdle) (allowed : Event → Prop) : Scene :=
  ⟨s.tasks, h.finished, s.events, allowed⟩

theorem IsIdle.at_request (h : s.IsIdle) (allowed : Event → Prop) (request : RunRequest) :
    (h.scene allowed).At ⟨.new request, [s.tasks.length], none, s.saved, false, s.isAbandoned⟩
      (s.request request) where
  tasks := rfl
  line := by simp [Session.request, enqueue, h.line]
  bridge := h.bridge
  saved := rfl
  isRunning := h.isRunning
  isAbandoned := rfl
  events := ⟨[], (List.append_nil _).symm, nofun⟩

theorem accepts_start {x : Scene} {id : Option String} {entry : Entry}
    (hentry : c.script? id = some entry) (vars : Table Value) (saved : Option SavedRun) :
    c.Accepts x ⟨id, false, false, vars⟩ saved ⟨entry, false, .empty, vars⟩ := by
  intro s isAbandoned h
  refine ⟨{ s with isRunning := true, isAbandoned := false },
    { h with isRunning := rfl, isAbandoned := rfl }, ?_⟩
  simp only [consider, h.isRunning, hentry, Bool.false_eq_true, if_false]

theorem accepts_resume {x : Scene} {id : Option String} {entry : Entry}
    (hentry : c.script? id = some entry) (vars : Table Value) {saved : Option SavedRun}
    {last : SavedRun} (hsaved : saved = some last) (hlast : last.scriptId = entry.id) :
    c.Accepts x ⟨id, true, false, vars⟩ saved
      ⟨entry, true, last.answers, (last.vars.map .text).overlay vars⟩ := by
  intro s isAbandoned h
  subst hsaved
  refine ⟨{ s with isRunning := true, isAbandoned := false },
    { h with isRunning := rfl, isAbandoned := rfl }, ?_⟩
  simp only [consider, h.isRunning, hentry, h.saved, hlast, Bool.false_eq_true, if_false, if_true]

namespace Stage

variable {x : Scene} {plan : Plan} {Q : List (String × String) → Dialogue Result → Prop}
  {request : RunRequest} {saved : Option SavedRun} {before : List (String × String)}

theorem over_of_finished (h : Stage c outcome x plan Q request saved before s) {ending : Ending}
    (hfinished : (s.tasks[x.self]?).map Task.phase = some (.finished ending)) :
    ∃ saved', x.At ⟨.finished ending, [], none, saved', false, false⟩ s ∧
      c.Ended plan Q before ending saved' := by
  cases h with
  | ended hview hended =>
    rw [hview.task] at hfinished
    cases hfinished
    exact ⟨_, hview, hended⟩
  | new hview | opening hview _ | due hview _ _ _ _ | asking hview _ _ _ _ _
  | closing hview _ _ _ | ending hview _ _ =>
    rw [hview.task] at hfinished
    cases hfinished

theorem events (h : Stage c outcome x plan Q request saved before s) :
    ∀ e ∈ s.events.drop x.told.length, x.allowed e := by
  have hview : ∃ v, x.At v s := by cases h <;> exact ⟨_, ‹_›⟩
  obtain ⟨v, hview⟩ := hview
  obtain ⟨new, hnew, hallowed⟩ := hview.events
  rw [hnew, List.drop_left]
  exact hallowed

end Stage

theorem finished_of_returned? {i : Nat} {r : Result} (hreturned : s.returned? i = some r) :
    (s.tasks[i]?).map Task.phase = some (.finished (.result (some r))) := by
  unfold returned? at hreturned
  split at hreturned
  next htask =>
    rw [htask, hreturned]
    rfl
  next => cases hreturned

theorem returned?_of_finished {i : Nat} {r : Result}
    (hfinished : (s.tasks[i]?).map Task.phase = some (.finished (.result (some r)))) :
    s.returned? i = some r := by
  unfold returned?
  obtain ⟨⟨phase, isCancelled⟩, htask, hphase⟩ := Option.map_eq_some_iff.1 hfinished
  obtain rfl : phase = _ := hphase
  rw [htask]

theorem rounds_eq_run (c : Setup σ) (n : Nat) (s : Session σ) :
    ∃ moves, s.rounds c n = s.run c moves := by
  induction n generalizing s with
  | zero => exact ⟨[], rfl⟩
  | succ n ih =>
    obtain ⟨moves, hmoves⟩ := ih (s.round c)
    exact ⟨.release :: .turn :: moves, hmoves⟩

theorem run_append (c : Setup σ) (s : Session σ) (moves later : List Move) :
    (s.run c moves).run c later = s.run c (moves ++ later) :=
  List.foldl_append.symm

/-- A fresh run that came to a result was played with the answers given, which are saved. -/
theorem played_of_start (hhost : c.host.Steady outcome) (hidle : s.IsIdle) {id : Option String}
    {entry : Entry} (hentry : c.script? id = some entry) {vars : Table String} {moves : List Move}
    {answers : List (String × String)} (hgiven : given c (s.requestStart id vars) moves = answers)
    {r : Result}
    (hstart : ((s.requestStart id vars).run c moves).returned? s.tasks.length = some r) :
    ((s.requestStart id vars).run c moves).IsIdle ∧
    ((s.requestStart id vars).run c moves).saved = some ⟨entry.id, .ofList answers, r.vars,
      some r.status.name, r.message, c.now⟩ ∧
    (c.fresh entry vars).play (c.responder outcome) (answers.map Prod.snd) = (.ok r, []) ∧
    (c.transcript outcome entry vars answers).filterMap c.answered? = answers := by
  have hcourse := @course_played σ c outcome (hidle.scene fun _ => True) (fun _ => trivial)
    ⟨entry, false, .empty, vars.map .text⟩ rfl
  have hstage := (Stage.new (hidle.at_request (fun _ => True) _)).run hhost hcourse
    (accepts_start hentry (vars.map .text) s.saved) moves
  obtain ⟨saved, hview, hended⟩ := hstage.over_of_finished (finished_of_returned? hstart)
  rw [List.nil_append] at hended
  rcases hended with ⟨r', hdone, hending, hsaved⟩ | ⟨_, hno⟩
  · cases hending
    obtain ⟨hplay, hanswers⟩ := hdone.of_done
    subst hgiven
    refine ⟨⟨hview.line, hview.bridge, hview.isRunning, ?_⟩, hview.saved.trans hsaved, hplay,
      hanswers⟩
    intro task htask
    rcases List.mem_append.1 (hview.tasks ▸ htask) with hbefore | hlast
    · exact hidle.finished task hbefore
    · obtain rfl := List.mem_singleton.1 hlast
      exact ⟨_, rfl⟩
  · exact absurd rfl (hno r)

/-- What a transcript shows can be seen again if no step has two answers, and if the final
    variables do not change the truth of what was decided. -/
theorem recalls_of_mem {answers : List (String × String)} {final : Table String} {log : List Mark}
    (hlog : log.filterMap c.answered? = answers)
    (hsame : ∀ e ∈ answers, ∀ e' ∈ answers, e.1 = e'.1 → e.2 = e'.2)
    (htruth : ∀ q ∈ log.filterMap Mark.decided?,
      Evaluator.standard.truth? q.1 ((final.map .text).overlay q.2) =
        Evaluator.standard.truth? q.1 q.2) {mark : Mark} (hmark : mark ∈ log) :
    c.Recalls (.ofList answers) final mark where
  answer step a hanswered := by
    have hmem : (step, a) ∈ answers := hlog ▸ List.mem_filterMap.2 ⟨mark, hmark, hanswered⟩
    exact Table.get?_ofList hmem fun b hb => hsame _ hb _ hmem rfl
  truth expression vars hdecided :=
    htruth (expression, vars) (List.mem_filterMap.2 ⟨mark, hmark, hdecided⟩)

/-- A run that retraces the last one asks nothing, whatever happens meanwhile. It comes to an end,
    and then to the same result. -/
theorem repeats_of_retraces (hhost : c.host.Steady outcome) (hidle : s.IsIdle) {id : Option String}
    {entry : Entry} (hentry : c.script? id = some entry) {vars : Table String} {last : SavedRun}
    (hsaved : s.saved = some last) (hlast : last.scriptId = entry.id) {r : Result}
    (hretraces : c.Retraces outcome last.answers r.vars r []
      (Run.ofInput .all c.limit entry.script ((last.vars.map .text).overlay (vars.map .text))))
    (moves : List Move) :
    (∀ e ∈ ((s.requestResume id vars).run c moves).events.drop s.events.length, ¬ e.Asks) ∧
      (∀ ending, (((s.requestResume id vars).run c moves).tasks[s.tasks.length]?).map Task.phase =
        some (.finished ending) → ending = .result (some r)) ∧
      ∃ n, (((s.requestResume id vars).run c moves).rounds c n).returned? s.tasks.length =
        some r := by
  have hcourse := @course_retraced σ c outcome r.vars (hidle.scene fun e => ¬ e.Asks) rfl
    ⟨entry, true, last.answers, (last.vars.map .text).overlay (vars.map .text)⟩ rfl r hretraces
  have haccepts : c.Accepts (hidle.scene fun e => ¬ e.Asks) ⟨id, true, false, vars.map .text⟩
      s.saved ⟨entry, true, last.answers, (last.vars.map .text).overlay (vars.map .text)⟩ :=
    accepts_resume hentry _ hsaved hlast
  have hstage := fun moves => (Stage.new (hidle.at_request (fun e => ¬ e.Asks) _)).run hhost hcourse
    haccepts moves
  have hending : ∀ moves ending,
      (((s.requestResume id vars).run c moves).tasks[s.tasks.length]?).map Task.phase =
        some (.finished ending) → ending = .result (some r) := by
    intro moves ending hfinished
    obtain ⟨saved', hview, hended⟩ := (hstage moves).over_of_finished hfinished
    rcases hended with ⟨r', hdone, rfl, _⟩ | ⟨⟨place, f, hfail⟩, _⟩
    · rw [hdone.result_eq]
    · exact absurd hfail Setup.Retraces.not_fail
  refine ⟨(hstage moves).events, hending moves, ?_⟩
  obtain ⟨n, ending, hfinished⟩ := (hstage moves).ends hhost hcourse (fun _ h => h) haccepts
  obtain ⟨more, hmore⟩ := rounds_eq_run c n ((s.requestResume id vars).run c moves)
  refine ⟨n, returned?_of_finished ?_⟩
  have hresult := hending (moves ++ more) ending
  rw [← run_append, ← hmore] at hresult
  rw [← hresult hfinished]
  exact hfinished

/-- A session of one script, on a host where nothing fails. -/
def Setup.sample (script : Script) : Setup Unit where
  scripts := [⟨"sample", "Sample", none, none, none, script.steps.map (Script.dumpStep .full)⟩]
  workspace := none
  limit := 10
  defers := false
  now := 0
  moment := ⟨2024, 1, 1, none⟩
  host := ⟨fun _ => .ok none, fun _ _ => .ok (), fun _ _ => (false, ()), fun _ _ => (false, ()),
    fun _ _ _ => (.ok ⟨0, none, none⟩, ())⟩

theorem steady_sample (script : Script) :
    (Setup.sample script).host.Steady fun _ _ => .ok ⟨0, none, none⟩ :=
  ⟨fun _ _ => rfl, fun _ _ => ⟨(), rfl⟩, fun _ _ _ => rfl⟩

/-- Answers to one question after the other, each given once the run waits for it. -/
def movesOf (answers : List (String × Response String)) : List Move :=
  .turn :: answers.flatMap fun (step, response) => [.answer step response, .turn]

/-- The session once a run is over that got these answers. -/
def Setup.after (c : Setup Unit) (answers : List (String × Response String)) : Session Unit :=
  ((Session.start c ()).requestStart none .empty).run c (movesOf answers)

/-- A script that asks for a name, and once more unless `x` is high. -/
def climb : Script where
  name := none
  version := none
  start := none
  steps := [
    ⟨"low", none, none, .prompt "x?" "x" none⟩,
    ⟨"ask", none, none, .prompt "Name?" "name" none⟩,
    ⟨"stop", none, some "vars.x == 'high'", .finish .success none⟩,
    ⟨"high", none, none, .prompt "x?" "x" none⟩,
    ⟨"back", none, none, .goto "ask"⟩]

def climbAnswers : List (String × Response String) := [("low", .prompt (some "low")),
  ("ask", .prompt (some "ann")), ("high", .prompt (some "high")), ("ask", .prompt (some "ann"))]

/-- A script that asks whether to go on, over and over. -/
def loop : Script where
  name := none
  version := none
  start := none
  steps := [
    ⟨"again", none, none, .choice "Again?" [⟨"yes", "Yes", "again"⟩, ⟨"no", "No", "done"⟩]⟩,
    ⟨"done", none, none, .finish .success none⟩]

/-- A script that is for whoever did not give their name before. -/
def once : Script where
  name := none
  version := none
  start := none
  steps := [
    ⟨"known", none, some "vars.name == 'ann'", .finish .cancel none⟩,
    ⟨"ask", none, none, .prompt "Name?" "name" none⟩]

end Stepwise.Session
