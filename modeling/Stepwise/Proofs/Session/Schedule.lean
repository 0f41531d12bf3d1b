import Stepwise.Proofs.Bridge.Calm
import Stepwise.Session.Life

namespace Stepwise.Session

variable {σ : Type}

/-- The same session with a surface that lets everything else go first, before it takes an event.
    This is the finest schedule: a surface that takes events at once is one before which the task
    that told it goes on at once. -/
def Setup.deferring (c : Setup σ) : Setup σ :=
  { c with defers := true }

namespace Setup

variable (c : Setup σ)

@[simp]
theorem deferring_host : c.deferring.host = c.host :=
  rfl

@[simp]
theorem deferring_now : c.deferring.now = c.now :=
  rfl

@[simp]
theorem deferring_script? (id : Option String) : c.deferring.script? id = c.script? id :=
  rfl

end Setup

/-- What can happen to a session. -/
inductive Happening where
  | request (script : Option String) (resumes clears : Bool) (vars : Table String)
  | message (v : Value)
  /-- The active run is given up, while the task `current` is at work. -/
  | abandon (current : Option Nat)
  /-- A task goes on, whoever is first in line. -/
  | wake (i : Nat)
  /-- Other tasks are in line, or the same ones in another order. -/
  | shuffle (line : List Nat)

def happen (c : Setup σ) (s : Session σ) : Happening → Session σ
  | .request script resumes clears vars => s.request ⟨script, resumes, clears, vars.map .text⟩
  | .message v => s.receive v
  | .abandon current => s.abandon current
  | .wake i => { s with line := s.line.erase i }.resume c i
  | .shuffle line => { s with line }

/-- A task is at work. -/
def seat (s : Session σ) (i : Nat) : Session σ :=
  { s with line := s.line.erase i, tasks := s.tasks.set i ⟨.active, false⟩ }

/-- A task is at work, and the surface takes the event that it told. -/
def hand (c : Setup σ) (s : Session σ) (i : Nat) (e : Event) : Session σ :=
  (s.seat i).deliver c (some i) e

/-- A task tells an event, and waits until it is taken. -/
def tell (s : Session σ) (i : Nat) (e : Event) (later : List Event) (goal : Goal) : Session σ :=
  (s.setPhase i (.posting e later goal)).enqueue i

theorem modify_set (tasks : List Task) (i : Nat) (task : Task) (f : Task → Task) :
    (tasks.set i task).modify i f = tasks.set i (f task) := by
  refine List.ext_getElem? fun j => ?_
  by_cases hj : i = j
  · subst hj
    rw [List.getElem?_modify_eq, List.getElem?_set_self', List.getElem?_set_self']
    cases tasks[i]? <;> rfl
  · rw [List.getElem?_modify_ne _ _ hj, List.getElem?_set_ne hj, List.getElem?_set_ne hj]

section Waking

variable {c : Setup σ} {s : Session σ} {i : Nat} {isFlagged : Bool}

theorem turn_eq_wake {rest : List Nat} (hline : s.line = i :: rest) :
    s.turn c = s.happen c (.wake i) := by
  simp only [turn, happen, hline, List.erase_cons_head]

/-- The tasks that take their turns go on, one after the other. -/
theorem turns_eq_wakes (c : Setup σ) (n : Nat) (s : Session σ) :
    ∃ line : List Nat, s.turns c n = (line.map Happening.wake).foldl (happen c) s := by
  induction n generalizing s with
  | zero => exact ⟨[], rfl⟩
  | succ n ih =>
    unfold turns
    cases hline : s.line with
    | nil => exact ⟨[], rfl⟩
    | cons i rest =>
      obtain ⟨line, hturns⟩ := ih (s.happen c (.wake i))
      refine ⟨i :: line, ?_⟩
      rw [turn_eq_wake hline]
      exact hturns

theorem wake_none (htask : s.tasks[i]? = none) :
    s.happen c (.wake i) = { s with line := s.line.erase i } := by
  simp only [happen, resume, htask]

/-- The task has nothing to do any more, or is at work. -/
def Phase.IsStill : Phase → Prop
  | .finished _ | .active => True
  | _ => False

theorem wake_still {phase : Phase} (htask : s.tasks[i]? = some ⟨phase, false⟩)
    (hstill : phase.IsStill) : s.happen c (.wake i) = { s with line := s.line.erase i } := by
  have htasks : (s.tasks.set i ⟨.active, false⟩).modify i (fun task => { task with phase }) =
      s.tasks := by
    obtain ⟨hlt, hget⟩ := List.getElem?_eq_some_iff.1 htask
    rw [modify_set, ← hget, List.set_getElem_self]
  cases phase with
  | finished ending => simp only [happen, resume, htask, setPhase, htasks]
  | active => simp only [happen, resume, htask, setPhase, htasks]
  | new | posting | playing => exact hstill.elim

theorem wake_new {r : RunRequest} (htask : s.tasks[i]? = some ⟨.new r, false⟩) :
    s.happen c (.wake i) = (s.seat i).consider c i r := by
  simp only [happen, resume, htask, seat, Bool.false_eq_true, if_false]

theorem wake_posting {e : Event} {later : List Event} {goal : Goal}
    (htask : s.tasks[i]? = some ⟨.posting e later goal, false⟩) :
    s.happen c (.wake i) = (s.hand c i e).post c i later goal (reachGoal c i goal) := by
  simp only [happen, resume, htask, seat, hand, Bool.false_eq_true, if_false]

/-- What a run that waits comes to as it goes on. -/
def comes (c : Setup σ) (s : Session σ) (i : Nat) (wait : Wait) (isFlagged : Bool) :
    Served × Session σ :=
  if isFlagged then (.cancelled, s.seat i) else (s.seat i).awaken c i wait

theorem wake_playing {plan : Plan} {next : Reply → Dialogue Result} {wait : Wait}
    (htask : s.tasks[i]? = some ⟨.playing plan next wait, isFlagged⟩) :
    s.happen c (.wake i) = carryOn c i plan next (s.comes c i wait isFlagged) := by
  simp only [happen, resume, htask, seat, comes]

end Waking

theorem proceed_ask_eq (c : Setup σ) (i : Nat) (plan : Plan) (place : Context) (q : Request)
    (next : Context → Reply → Dialogue Result) (s : Session σ) :
    s.proceed c i plan (.ask place q next) =
      carryOn c i plan (next place) (s.serve c i place q) := by
  unfold proceed carryOn advance
  obtain ⟨_ | _, _⟩ := s.serve c i place q <;> rfl

section Deferring

variable {c : Setup σ} {s : Session σ} {i : Nat} {plan : Plan}

variable (hdefers : c.defers)

include hdefers

theorem post_cons (s : Session σ) (e : Event) (later : List Event) (goal : Goal)
    (reached : Session σ → Session σ) : s.post c i (e :: later) goal reached = s.tell i e later goal := by
  simp only [post, hdefers, if_true, tell]

theorem wake_posting_cons {e e' : Event} {later : List Event} {goal : Goal}
    (htask : s.tasks[i]? = some ⟨.posting e (e' :: later) goal, false⟩) :
    s.happen c (.wake i) = (s.hand c i e).tell i e' later goal := by
  rw [wake_posting htask, post_cons hdefers]

omit hdefers in
theorem wake_posting_nil {e : Event} {goal : Goal}
    (htask : s.tasks[i]? = some ⟨.posting e [] goal, false⟩) :
    s.happen c (.wake i) = (s.hand c i e).reachGoal c i goal := by
  rw [wake_posting htask, post]

/-- The active run is over. -/
def concluded (s : Session σ) : Session σ :=
  { (match s.bridge with
    | some b => s.apply b.close
    | none => s) with
    bridge := none
    isRunning := false }

omit hdefers in
theorem tasks_concluded (s : Session σ) : s.concluded.tasks = s.tasks := by
  unfold concluded
  cases s.bridge <;> rfl

theorem conclude_eq (s : Session σ) (ending : Ending) :
    s.conclude c i ending = s.concluded.tell i (.busy false) [] (.finish ending) :=
  post_cons hdefers ..

/-- The name under which a script is announced. -/
def Plan.title (plan : Plan) : String :=
  if plan.entry.name.isEmpty then plan.entry.id else plan.entry.name

/-- What the surface is told before a script is played. -/
def Plan.overture (plan : Plan) : List Event :=
  [.reset, .log .info ("Running script: " ++ plan.title)]

theorem prepare_eq (s : Session σ) (plan : Plan) :
    s.prepare c i plan = { s with bridge := some (.start plan.replays plan.answers) }.tell i
      (.busy true) plan.overture (.play plan) :=
  post_cons hdefers ..

/-- What a run is told to have come to, and what is to be kept of it. A run that was cancelled
    without being given up leaves nothing. -/
def Plan.verdict (plan : Plan) (isAbandoned : Bool) :
    Except (Context × Fault) Result → Option (Event × List Event × Verdict)
  | .ok r =>
    let text := (r.message.filter (!·.isEmpty)).getD r.status.name
    some (.status r.status text, [], ⟨r.status, r.message, r.vars.map .text, some r⟩)
  | .error (place, fault) =>
    if fault = .cancelled then
      if isAbandoned then
        let text := "Run abandoned"
        some (.log .warn text, [.status .cancel text], ⟨.cancel, some text, place.vars, none⟩)
      else none
    else
      let text := if fault.message.isEmpty then "Unexpected error running script" else fault.message
      let vars := if fault.isLocated then place.vars else plan.vars
      some (.log .error text, [.status .failure text], ⟨.failure, some text, vars, none⟩)

/-- The failures on record after a run. -/
def Plan.diagnosed (plan : Plan) (c : Setup σ) (d : Diagnostics) :
    Except (Context × Fault) Result → Diagnostics
  | .ok _ => d
  | .error (place, fault) =>
    if fault = .cancelled then d
    else
      let text := if fault.message.isEmpty then "Unexpected error running script" else fault.message
      let step := if fault.isLocated then place.step else none
      d.record c.moment plan.entry.id step text [("error_type", .text fault.kind)]

omit hdefers in
/-- A run that is over says how it ended, and then saves what is to be kept of it. -/
theorem judge_post (s : Session σ) (ending : Except (Context × Fault) Result) :
    s.judge c i plan ending = match plan.verdict s.isAbandoned ending with
      | some (e, later, v) =>
        { s with diagnostics := plan.diagnosed c s.diagnostics ending }.post c i (e :: later)
          (.keep plan v) (keep c i plan v)
      | none => s.conclude c i .cancelled := by
  rcases ending with ⟨place, fault⟩ | r
  · by_cases hcancelled : fault = .cancelled
    · subst hcancelled
      simp only [judge, Plan.verdict, Plan.diagnosed, if_true]
      split <;> rfl
    · simp only [Plan.verdict, hcancelled, if_false]
      unfold judge
      split
      next heq => cases heq
      next heq =>
        cases heq
        exact absurd rfl hcancelled
      next heq =>
        cases heq
        cases hlocated : fault.isLocated <;> simp [Plan.diagnosed, hcancelled, hlocated]
  · rfl

theorem judge_eq (s : Session σ) (ending : Except (Context × Fault) Result) :
    s.judge c i plan ending = match plan.verdict s.isAbandoned ending with
      | some (e, later, v) =>
        { s with diagnostics := plan.diagnosed c s.diagnostics ending }.tell i e later (.keep plan v)
      | none => s.conclude c i .cancelled := by
  rw [judge_post]
  split
  · exact post_cons hdefers ..
  · rfl

/-- What is saved of a run. -/
def Plan.record (plan : Plan) (c : Setup σ) (bridge : Option (Bridge String)) (vars : Table String)
    (v : Verdict) : SavedRun :=
  ⟨plan.entry.id, (bridge.map Bridge.answers).getD .empty, vars, some v.status.name, v.message, c.now⟩

omit hdefers in
theorem keep_eq {vars : Table String} {v : Verdict} {host : σ}
    (hvars : Run.Position.texts v.vars = .ok vars)
    (hsave : c.host.save (some (plan.record c s.bridge vars v)) s.host = .ok host) :
    s.keep c i plan v =
      { s with saved := some (plan.record c s.bridge vars v), host }.conclude c i
        (.result v.result) := by
  simp only [Plan.record] at hsave
  simp only [keep, hvars, Record.Decoded.under, hsave, Plan.record]

omit hdefers in
theorem keep_failed {vars : Table String} {v : Verdict} {fault : StoreFault}
    (hvars : Run.Position.texts v.vars = .ok vars)
    (hsave : c.host.save (some (plan.record c s.bridge vars v)) s.host = .error fault) :
    s.keep c i plan v =
      { s with saved := some (plan.record c s.bridge vars v) }.conclude c i (.failed fault) := by
  simp only [Plan.record] at hsave
  simp only [keep, hvars, Record.Decoded.under, hsave, Plan.record]

/-- What is saved counts only for the script that it was saved for. -/
def Plan.of (entry : Entry) (r : RunRequest) (saved : Option SavedRun) : Plan :=
  match saved.filter (·.scriptId = entry.id) with
  | some saved => ⟨entry, r.resumes, saved.answers, (saved.vars.map .text).overlay r.vars⟩
  | none => ⟨entry, r.resumes, .empty, r.vars⟩

/-- The session once a run is accepted. What is saved is dropped if this is wanted. -/
structure Accepts (c : Setup σ) (s : Session σ) (r : RunRequest) (plan : Plan) (m : Session σ) :
    Prop where
  isRunning : s.isRunning = false
  entry : c.script? r.script = some plan.entry
  plan : plan = .of plan.entry r (if r.resumes then m.saved else none)
  saved : m.saved = if r.clears then none else s.saved
  store : if r.clears then c.host.save none s.host = .ok m.host else m.host = s.host
  session : m = { s with isRunning := true, isAbandoned := false, saved := m.saved, host := m.host }

/-- Opens a run that was accepted, with what is saved if that counts. -/
def welcome (c : Setup σ) (i : Nat) (r : RunRequest) (entry : Entry) (s : Session σ) : Session σ :=
  match if r.resumes then s.saved else none with
  | none => s.prepare c i ⟨entry, r.resumes, .empty, r.vars⟩
  | some saved =>
    if saved.scriptId = entry.id then
      s.prepare c i ⟨entry, r.resumes, saved.answers, (saved.vars.map .text).overlay r.vars⟩
    else
      let plan : Plan := ⟨entry, r.resumes, .empty, r.vars⟩
      s.post c i [.log .info s!"No saved run for {entry.id}; starting fresh"] (.prepare plan)
        (prepare c i plan)

/-- What becomes of a run that is asked for, whenever the surface takes what it is told. -/
inductive Weighed (c : Setup σ) (i : Nat) (r : RunRequest) (s : Session σ) : Session σ → Prop where
  | refused (hrunning : s.isRunning = true) :
      Weighed c i r s (s.post c i [.log .warn "A walkthrough run is already in progress."] .refuse
        (refuse i))
  | unknown (hrunning : s.isRunning = false) (hscript : c.script? r.script = none) :
      Weighed c i r s (s.post c i [.log .error "No walkthrough scripts available."] .refuse
        (refuse i))
  | announced (plan : Plan) (m : Session σ) (haccepts : s.Accepts c r plan m) :
      Weighed c i r s (m.post c i
        [.log .info s!"No saved run for {plan.entry.id}; starting fresh"] (.prepare plan)
        (prepare c i plan))
  | opened (plan : Plan) (m : Session σ) (haccepts : s.Accepts c r plan m) :
      Weighed c i r s (m.prepare c i plan)
  | failed (fault : StoreFault) (hrunning : s.isRunning = false)
      (hfault : c.host.save none s.host = .error fault) (hclears : r.clears = true) :
      Weighed c i r s
        ({ s with isRunning := true, isAbandoned := false, saved := none }.conclude c i
          (.failed fault))

omit hdefers in
theorem weighed (i : Nat) (r : RunRequest) (s : Session σ) :
    Weighed c i r s (s.consider c i r) := by
  have hbegin : ∀ {entry : Entry} (m : Session σ), (∀ plan, plan.entry = entry →
      plan = .of entry r (if r.resumes then m.saved else none) → s.Accepts c r plan m) →
      Weighed c i r s (m.welcome c i r entry) := by
    intro entry m haccepts
    unfold welcome
    generalize (if r.resumes then m.saved else none) = saved at haccepts
    cases saved with
    | none => exact .opened _ m (haccepts _ rfl rfl)
    | some saved =>
      dsimp only
      split
      next hsame => exact .opened _ m (haccepts _ rfl (by
        simp only [Plan.of, Option.filter_some, hsame, decide_true, if_true]))
      next hother =>
        exact .announced ⟨entry, r.resumes, .empty, r.vars⟩ m (haccepts _ rfl (by
          simp only [Plan.of, Option.filter_some, hother, decide_false, Bool.false_eq_true,
            if_false]))
  unfold consider
  split
  next hrunning => exact .refused hrunning
  next hrunning =>
    have hfree : s.isRunning = false := Bool.eq_false_iff.2 hrunning
    split
    next hscript => exact .unknown hfree hscript
    next entry hentry =>
      dsimp only
      split
      next hclears =>
        split
        next host hsave =>
          refine hbegin { s with isRunning := true, isAbandoned := false, saved := none, host }
            fun plan hplan heq => ⟨hfree, hplan ▸ hentry, hplan ▸ heq, ?_, ?_, rfl⟩
          · simp [hclears]
          · simpa [hclears] using hsave
        next fault hfault => exact .failed fault hfree hfault hclears
      next hkeeps =>
        refine hbegin { s with isRunning := true, isAbandoned := false }
          fun plan hplan heq => ⟨hfree, hplan ▸ hentry, hplan ▸ heq, ?_, ?_, rfl⟩ <;>
          simp [hkeeps]

/-- What becomes of a run that is asked for. -/
inductive Considered (c : Setup σ) (i : Nat) (r : RunRequest) (s : Session σ) : Session σ → Prop where
  | refused (hrunning : s.isRunning = true) :
      Considered c i r s (s.tell i (.log .warn "A walkthrough run is already in progress.") []
        .refuse)
  | unknown (hrunning : s.isRunning = false) (hscript : c.script? r.script = none) :
      Considered c i r s (s.tell i (.log .error "No walkthrough scripts available.") [] .refuse)
  | announced (plan : Plan) (m : Session σ) (haccepts : s.Accepts c r plan m) :
      Considered c i r s (m.tell i
        (.log .info s!"No saved run for {plan.entry.id}; starting fresh") [] (.prepare plan))
  | opened (plan : Plan) (m : Session σ) (haccepts : s.Accepts c r plan m) :
      Considered c i r s (m.prepare c i plan)
  | failed (fault : StoreFault) (hrunning : s.isRunning = false)
      (hfault : c.host.save none s.host = .error fault) :
      Considered c i r s
        ({ s with isRunning := true, isAbandoned := false, saved := none }.conclude c i
          (.failed fault))

theorem considered (i : Nat) (r : RunRequest) (s : Session σ) :
    Considered c i r s (s.consider c i r) := by
  have hweighed := weighed (c := c) i r s
  generalize s.consider c i r = s' at hweighed
  cases hweighed with
  | refused hrunning =>
    rw [post_cons hdefers]
    exact .refused hrunning
  | unknown hrunning hscript =>
    rw [post_cons hdefers]
    exact .unknown hrunning hscript
  | announced plan m haccepts =>
    rw [post_cons hdefers]
    exact .announced plan m haccepts
  | opened plan m haccepts => exact .opened plan m haccepts
  | failed fault hrunning hfault => exact .failed fault hrunning hfault

end Deferring

end Stepwise.Session
