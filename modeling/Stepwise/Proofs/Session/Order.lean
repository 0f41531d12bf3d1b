import Stepwise.Proofs.Bridge.Ledger
import Stepwise.Proofs.Session.Standing

namespace Stepwise

/-- A broken expression is only reported. One that cannot be read is a fault of the host. -/
theorem Evaluator.fault_of_lenient {e : Evaluator} {expression : String} {vars : Table Value}
    {fault : Fault} (hlenient : e.lenient expression vars = .error fault) :
    ∃ message, fault = .host (.badValue message) := by
  unfold lenient strict at hlenient
  cases hevaluate : e.evaluate expression vars with
  | ok b =>
    rw [hevaluate] at hlenient
    cases hlenient
  | error trouble =>
    rw [hevaluate] at hlenient
    cases trouble <;> cases hlenient
    exact ⟨_, rfl⟩

namespace Session

variable {σ : Type} {c : Setup σ} {s : Session σ} {f f' : Footing} {tasks tasks' : List Task}
  {run current : Option Nat} {i j : Nat} {task : Task}

namespace Order

theorem steady (h : Order f tasks run) : f.Steady := by
  cases h with
  | idle h => exact Footing.steady_of_none h.bridge
  | active i task htask hothers hstands => exact hstands.steady

theorem stir (h : Order f tasks run) (hstirs : f.Stirs f') : Order f' tasks run := by
  cases h with
  | idle h haside =>
    obtain rfl := hstirs.of_none h.bridge
    exact .idle h haside
  | active i task htask hothers hstands =>
    refine .active i task htask hothers ?_
    cases hstands with
    | opening e later plan h =>
      obtain rfl := hstirs.of_none h.bridge
      exact .opening e later plan h
    | ready e later plan h hnews => exact .ready e later plan (h.stir hstirs) hnews
    | playing plan next wait isFlagged h htells hflag =>
      exact .playing plan next wait isFlagged (h.stir hstirs) htells fun hflagged =>
        hstirs.isAbandoned (hflag hflagged)
    | closing e later plan v h hnews => exact .closing e later plan v (h.stir hstirs) hnews

/-- The task that plays is cancelled. -/
theorem drop (h : Order f tasks run) (habandoned : f.isAbandoned = true) (current : Option Nat) :
    Order f (dropPlayer f.player current tasks) run := by
  have hnone : f.player = none → Order f (dropPlayer f.player current tasks) run := by
    intro hplayer
    rw [hplayer]
    exact h
  cases h with
  | idle h haside => exact hnone h.player
  | active i task htask hothers hstands =>
    cases hstands with
    | opening _ _ _ h => exact hnone h.player
    | ready _ _ _ h | closing _ _ _ _ h => exact hnone h.player
    | playing plan next wait isFlagged h htells hflag =>
      by_cases hcurrent : current = some i
      · simp only [dropPlayer, h.player, hcurrent, if_true]
        exact .active i _ htask hothers (.playing plan next wait isFlagged h htells hflag)
      · simp only [dropPlayer, h.player, hcurrent, if_false]
        obtain ⟨wait', hwait, htells', hdropped⟩ : ∃ wait', wait'.ticket? = wait.ticket? ∧
            wait'.Tells ∧ (Task.mk (.playing plan next wait) isFlagged).dropped =
              ⟨.playing plan next wait', true⟩ := by
          cases wait with
          | delivery e later aim => exact ⟨_, rfl, htells, rfl⟩
          | ticket t => exact ⟨_, rfl, trivial, rfl⟩
          | command argv cwd isOver =>
            cases isOver <;> exact ⟨.command argv cwd true, rfl, trivial, rfl⟩
        refine .active i ⟨.playing plan next wait', true⟩ ?_ (fun j task hj hj' => ?_)
          (.playing plan next wait' true (hwait ▸ h) htells' fun _ => habandoned)
        · rw [List.getElem?_modify_eq, htask]
          exact congrArg some hdropped
        · rw [List.getElem?_modify_ne _ _ hj.symm] at hj'
          exact hothers j task hj hj'

/-- What others do to the active run keeps everything in order. -/
theorem stirred (h : Order f tasks run) (hstirs : f.Stirs f' ∧ (tasks' = tasks ∨
    f'.isAbandoned = true ∧ tasks' = dropPlayer f.player current tasks)) :
    Order f' tasks' run := by
  obtain ⟨hstirs, rfl | ⟨habandoned, rfl⟩⟩ := hstirs
  · exact h.stir hstirs
  · rw [← hstirs.player_eq]
    exact (h.stir hstirs).drop habandoned current

/-- A task aside goes on. -/
theorem replace (h : Order f tasks run) (hj : run ≠ some j)
    (hsame : ∀ k, k ≠ j → tasks'[k]? = tasks[k]?)
    (haside : ∀ task, tasks'[j]? = some task → task.IsAside) : Order f tasks' run := by
  cases h with
  | idle h hall =>
    refine .idle h fun task htask => ?_
    obtain ⟨k, hk⟩ := List.mem_iff_getElem?.1 htask
    by_cases hkj : k = j
    · exact haside task (hkj ▸ hk)
    · exact hall task (List.mem_iff_getElem?.2 ⟨k, (hsame k hkj).symm.trans hk⟩)
  | active i task htask hothers hstands =>
    have hij : i ≠ j := fun heq => hj (congrArg some heq)
    refine .active i task ((hsame i hij).trans htask) (fun k other hk hother => ?_) hstands
    by_cases hkj : k = j
    · exact haside other (hkj ▸ hother)
    · exact hothers k other hk ((hsame k hkj).symm.trans hother)

end Order

theorem getElem?_setPhase_self (hactive : s.tasks[i]? = some ⟨.active, false⟩) (phase : Phase) :
    (s.setPhase i phase).tasks[i]? = some ⟨phase, false⟩ :=
  (List.getElem?_modify_eq ..).trans (congrArg _ hactive)

theorem getElem?_tell_self (hactive : s.tasks[i]? = some ⟨.active, false⟩) (e : Event)
    (later : List Event) (goal : Goal) :
    (s.tell i e later goal).tasks[i]? = some ⟨.posting e later goal, false⟩ :=
  getElem?_setPhase_self hactive _

theorem getElem?_setPhase_ne (s : Session σ) (phase : Phase) (hne : j ≠ i) :
    (s.setPhase i phase).tasks[j]? = s.tasks[j]? :=
  List.getElem?_modify_ne _ _ hne.symm

theorem Order.aside (h : Order f tasks run) (hrun : run ≠ some i) (htask : tasks[i]? = some task) :
    task.IsAside := by
  cases h with
  | idle h hall => exact hall task (List.mem_iff_getElem?.2 ⟨i, htask⟩)
  | active j other hother hothers hstands =>
    exact hothers i task (fun heq => hrun (congrArg some heq.symm)) htask

/-- A task that is not aside is that of the active run. -/
theorem Order.stands (h : Order f tasks run) (htask : tasks[i]? = some task)
    (hphase : ¬ task.phase.IsAside) : run = some i ∧ Others tasks i ∧ Stands f i task := by
  by_cases hrun : run = some i
  · subst hrun
    cases h with
    | active _ other hother hothers hstands =>
      obtain rfl : other = task := Option.some.inj (hother.symm.trans htask)
      exact ⟨rfl, hothers, hstands⟩
  · exact absurd (h.aside hrun htask).phase hphase

theorem Order.isFlagged (h : Order f tasks run) (htask : tasks[i]? = some task)
    (hphase : task.phase.IsAside) : task.isFlagged = false := by
  by_cases hrun : run = some i
  · subst hrun
    cases h with
    | active _ other hother hothers hstands =>
      obtain rfl : other = task := Option.some.inj (hother.symm.trans htask)
      cases hstands <;> exact hphase.elim
  · exact (h.aside hrun htask).isFlagged

/-- A task that tells an event is not cancelled. -/
theorem Order.isFlagged_of_posting {e : Event} {later : List Event} {goal : Goal} {isFlagged : Bool}
    (h : Order f tasks run) (htask : tasks[i]? = some ⟨.posting e later goal, isFlagged⟩) :
    isFlagged = false := by
  cases goal with
  | refuse | finish => exact h.isFlagged htask trivial
  | prepare | play | keep =>
    obtain ⟨_, _, hstands⟩ := h.stands htask id
    cases hstands
    rfl

theorem getElem?_seat_self (htask : s.tasks[i]? = some task) :
    (s.seat i).tasks[i]? = some ⟨.active, false⟩ :=
  List.getElem?_set_self (List.getElem?_eq_some_iff.1 htask).1

theorem getElem?_hand_self (hsteady : s.footing.Steady) (htask : s.tasks[i]? = some task)
    (e : Event) : (s.hand c i e).tasks[i]? = some ⟨.active, false⟩ := by
  have hseat := getElem?_seat_self htask
  rcases (stirs_deliver (s := s.seat i) hsteady c (some i) e).2 with hsame | ⟨_, hdropped⟩
  · exact (congrArg (·[i]?) hsame).trans hseat
  · exact (congrArg (·[i]?) hdropped).trans ((getElem?_dropPlayer_self ..).trans hseat)

theorem getElem?_seat_ne (s : Session σ) (hne : j ≠ i) : (s.seat i).tasks[j]? = s.tasks[j]? :=
  List.getElem?_set_ne hne.symm

/-- Only a task that is not at work is cancelled. -/
theorem tasks_deliver_self (hsteady : s.footing.Steady)
    (hplayer : s.player = none ∨ s.player = some i) (e : Event) :
    (s.deliver c (some i) e).tasks = s.tasks := by
  rcases (stirs_deliver hsteady c (some i) e).2 with hsame | ⟨_, hdropped⟩
  · exact hsame
  · rw [hdropped]
    rcases hplayer with hplayer | hplayer <;> simp [dropPlayer, hplayer]

/-- What the tasks share after the task at work told an event. -/
theorem stirs_hand (hsteady : s.footing.Steady) (c : Setup σ) (i : Nat) (e : Event) :
    s.footing.Stirs (s.hand c i e).footing :=
  (stirs_deliver (s := s.seat i) hsteady c (some i) e).1

/-- The task of the active run is at work. -/
structure AtWork (s : Session σ) (i : Nat) : Prop where
  task : s.tasks[i]? = some ⟨.active, false⟩
  others : Others s.tasks i

namespace AtWork

theorem seat (htask : s.tasks[i]? = some task) (hothers : Others s.tasks i) :
    (s.seat i).AtWork i := by
  refine ⟨getElem?_seat_self htask, fun j other hj hother => ?_⟩
  rw [getElem?_seat_ne s hj] at hother
  exact hothers j other hj hother

/-- The task that takes over the tasks of one at work is at work. -/
theorem of_tasks (h : s.AtWork i) {m : Session σ} (htasks : m.tasks = s.tasks) : m.AtWork i :=
  ⟨htasks ▸ h.task, htasks ▸ h.others⟩

/-- The run waits, or tells an event. -/
theorem order_setPhase (h : s.AtWork i) {phase : Phase}
    (hstands : Stands s.footing i ⟨phase, false⟩) :
    Order (s.setPhase i phase).footing (s.setPhase i phase).tasks (some i) := by
  refine .active i ⟨phase, false⟩ (getElem?_setPhase_self h.task phase)
    (fun j other hj hother => ?_) hstands
  rw [getElem?_setPhase_ne s phase hj] at hother
  exact h.others j other hj hother

/-- The run is over. -/
theorem order_aside (h : s.AtWork i) (hidle : s.footing.Idle) {phase : Phase}
    (haside : phase.IsAside) :
    Order (s.setPhase i phase).footing (s.setPhase i phase).tasks none := by
  refine .idle hidle fun other hother => ?_
  obtain ⟨j, hj⟩ := List.mem_iff_getElem?.1 hother
  by_cases heq : j = i
  · subst heq
    rw [getElem?_setPhase_self h.task] at hj
    obtain rfl := Option.some.inj hj
    exact ⟨haside, rfl⟩
  · rw [getElem?_setPhase_ne s phase heq] at hj
    exact h.others j other heq hj

end AtWork

/-- The reply to a request is a value, unless the run was given up, or the host is at fault. -/
inductive IsFair (isAbandoned : Bool) : Reply → Prop where
  | value (v : Value) : IsFair isAbandoned (.value v)
  | cancelled (habandoned : isAbandoned = true) : IsFair isAbandoned (.fault .cancelled)
  | host (fault : HostFault) : IsFair isAbandoned (.fault (.host fault))

/-- A request is served so that the run can go on. -/
def Served.Stands (i : Nat) : Served × Session σ → Prop
  | (.reply r, s) => s.footing.Open (some i) none ∧ IsFair s.isAbandoned r
  | (.wait w, s) => s.footing.Open (some i) w.ticket? ∧ w.Tells

theorem isLog_of_mem_outcomeLog {o : Outcome} {e : Event} (he : e ∈ outcomeLog o) : e.IsLog := by
  rcases List.mem_append.1 he with hsaid | hsaid <;>
    obtain ⟨_, _, rfl⟩ := List.mem_map.1 hsaid <;> exact trivial

theorem stands_reach (aim : Aim) (hopen : s.footing.Open (some i) aim.ticket?) (hkeeps : aim.Keeps) :
    Served.Stands i (s.reach aim, s) := by
  obtain ⟨b, hb, hclosed, hexpects⟩ := hopen.bridge
  have hbridge : s.bridge = some b := hb
  cases aim with
  | reply r =>
    obtain ⟨v, rfl⟩ := hkeeps
    exact ⟨hopen, .value v⟩
  | retrieve step =>
    simp only [reach, hbridge, Option.bind_some]
    cases b.answers.get? step with
    | none => exact ⟨hopen, .host _⟩
    | some a => exact ⟨hopen, .value _⟩
  | await t =>
    cases hexpects with
    | asked hasks =>
      simp only [reach, hbridge, Option.bind_some, Bridge.isUnsettled_iff.1 hasks.unsettled]
      exact ⟨hopen, trivial⟩
    | answered a hcalm hticket =>
      simp only [reach, hbridge, Option.bind_some, hticket]
      exact ⟨⟨hopen.isRunning, ⟨b, hb, hclosed, hcalm⟩, hopen.player⟩, .value _⟩
    | cancelled hcalm hticket hisClosed =>
      simp only [reach, hbridge, Option.bind_some, hticket]
      exact ⟨⟨hopen.isRunning, ⟨b, hb, hclosed, hcalm⟩, hopen.player⟩,
        .cancelled (hclosed.symm.trans hisClosed)⟩

/-- A session has come to another, which differs in nothing but its bridge, its line and its host. -/
structure Serves (s m : Session σ) : Prop where
  eq : m = { s with bridge := m.bridge, line := m.line, host := m.host }

namespace Serves

variable {m n : Session σ}

theorem refl (s : Session σ) : Serves s s :=
  ⟨rfl⟩

theorem trans (h : Serves s m) (h' : Serves m n) : Serves s n := by
  refine ⟨?_⟩
  rw [h'.eq, h.eq]

theorem tasks_eq (h : Serves s m) : m.tasks = s.tasks := by
  rw [h.eq]

end Serves

section Deferring

variable (hdefers : c.defers)

include hdefers

theorem announce_cons (s : Session σ) (i : Nat) (e : Event) (later : List Event) (aim : Aim) :
    s.announce c i (e :: later) aim = (.wait (.delivery e later aim), s.enqueue i) := by
  simp only [announce, hdefers, if_true]

/-- Serving a request changes nothing but the bridge, the line and the host. -/
theorem serves_announce (s : Session σ) (i : Nat) (es : List Event) (aim : Aim) :
    Serves s (s.announce c i es aim).2 := by
  cases es with
  | nil => exact .refl s
  | cons e later =>
    rw [announce_cons hdefers]
    exact ⟨rfl⟩

theorem serves_collect (s : Session σ) (i : Nat) (argv : List String) (cwd : Option String) :
    Serves s (s.collect c i argv cwd).2 := by
  unfold collect
  generalize c.host.collect argv cwd s.host = result
  obtain ⟨_ | o, host⟩ := result
  · exact ⟨rfl⟩
  · exact .trans ⟨rfl⟩ (serves_announce hdefers { s with host } i _ _)

theorem serves_put (s : Session σ) (i : Nat) (step : String) (q : Question) :
    Serves s (s.put c i step q).2 := by
  unfold put
  split
  · exact .refl s
  · split
    · exact serves_announce hdefers s i _ _
    · split
      · exact .refl s
      next change _ => exact .trans ⟨rfl⟩ (serves_announce hdefers (s.apply change) i _ _)

theorem serves_serve (s : Session σ) (i : Nat) (place : Context) (q : Request) :
    Serves s (s.serve c i place q).2 := by
  cases q with
  | prompt message preset => exact serves_put hdefers s i _ _
  | choose message options => exact serves_put hdefers s i _ _
  | command command args cwd =>
    simp only [serve]
    split
    · exact .refl s
    · split
      · exact ⟨rfl⟩
      · exact .trans ⟨rfl⟩ (serves_collect hdefers { s with host := _ } i _ _)
  | evaluate expression =>
    simp only [serve]
    split
    · exact .refl s
    · split
      · exact serves_announce hdefers s i _ _
      · exact .refl s
  | log message =>
    simp only [serve]
    split
    · exact .refl s
    · exact serves_announce hdefers s i _ _

theorem serves_advance (d : Dialogue Result) (s : Session σ) (i : Nat) :
    Serves s (advance c i d s).2 := by
  induction d generalizing s with
  | done r => exact .refl s
  | fail place f => exact .refl s
  | visit place rest ih => exact ih s
  | ask place q next ih =>
    have hserves := serves_serve hdefers s i place q
    unfold advance
    generalize s.serve c i place q = served at hserves
    obtain ⟨r | w, s'⟩ := served
    · exact hserves.trans (ih place r s')
    · exact hserves

/-- The events of a request are on their way. -/
theorem stands_announce (aim : Aim) (hopen : s.footing.Open (some i) aim.ticket?)
    (hkeeps : aim.Keeps) {es : List Event} (hfirst : ∀ e ∈ es.head?, e.IsLog ∨ e.Asks)
    (hrest : ∀ e ∈ es.tail, e.IsLog) : Served.Stands i (s.announce c i es aim) := by
  cases es with
  | nil => exact stands_reach aim hopen hkeeps
  | cons e later =>
    rw [announce_cons hdefers]
    exact ⟨hopen, hfirst e rfl, hrest, hkeeps⟩

theorem stands_logs (aim : Aim) (hopen : s.footing.Open (some i) aim.ticket?)
    (hkeeps : aim.Keeps) {es : List Event} (hlogs : ∀ e ∈ es, e.IsLog) :
    Served.Stands i (s.announce c i es aim) :=
  stands_announce hdefers aim hopen hkeeps (fun e he => .inl (hlogs e (List.mem_of_mem_head? he)))
    fun e he => hlogs e (List.mem_of_mem_tail he)

theorem stands_collect (hopen : s.footing.Open (some i) none) (argv : List String)
    (cwd : Option String) : Served.Stands i (s.collect c i argv cwd) := by
  unfold collect
  generalize c.host.collect argv cwd s.host = result
  obtain ⟨_ | o, host⟩ := result
  · exact ⟨hopen, .host _⟩
  · exact stands_logs hdefers (s := { s with host }) (.reply (.value o.dump)) hopen ⟨_, rfl⟩
      fun e he => isLog_of_mem_outcomeLog he

/-- A question is put, or gets the answer that it has already. -/
theorem stands_put (hopen : s.footing.Open (some i) none) (step : String) (q : Question) :
    Served.Stands i (s.put c i step q) := by
  obtain ⟨b, hb, hclosed, hcalm⟩ := hopen.bridge
  have hbridge : s.bridge = some b := hb
  unfold put
  rw [hbridge]
  dsimp only
  split
  next =>
    refine stands_logs hdefers (.retrieve step) hopen trivial fun e he => ?_
    rw [List.mem_singleton.1 he]
    cases q <;> exact trivial
  next hreplay =>
    cases hisClosed : b.isClosed with
    | true =>
      rw [Bridge.register_of_isClosed hisClosed]
      exact ⟨hopen, .cancelled (hclosed.symm.trans hisClosed)⟩
    | false =>
      obtain ⟨b', hregister, hasks, _⟩ := Bridge.Calm.register_eq hcalm hisClosed step q.kind
      rw [hregister]
      refine stands_announce hdefers (s := s.apply ⟨b', []⟩) (.await b.tickets.length)
        ⟨hopen.isRunning, ⟨b', rfl, ?_, .asked hasks⟩, hopen.player⟩ trivial (fun e he => ?_)
        fun e he => absurd he List.not_mem_nil
      · exact hasks.isOpen.trans (hisClosed.symm.trans hclosed)
      · obtain rfl := Option.some.inj he
        cases q <;> exact .inr trivial

/-- A request is served so that the run can go on. -/
theorem stands_serve (hopen : s.footing.Open (some i) none) (place : Context) (q : Request) :
    Served.Stands i (s.serve c i place q) := by
  have hcancelled : s.isAbandoned = true → Served.Stands i (Served.cancelled, s) :=
    fun habandoned => ⟨hopen, .cancelled habandoned⟩
  cases q with
  | prompt message preset => exact stands_put hdefers hopen ..
  | choose message options => exact stands_put hdefers hopen ..
  | command command args cwd =>
    simp only [serve]
    split
    next habandoned => exact hcancelled habandoned
    · split
      · exact ⟨hopen, trivial⟩
      · exact stands_collect hdefers (s := { s with host := (c.host.begin command s.host).2 }) hopen ..
  | evaluate expression =>
    simp only [serve]
    split
    next habandoned => exact hcancelled habandoned
    · split
      next b report _ =>
        refine stands_logs hdefers (.reply (.ofTruth b)) hopen ⟨_, rfl⟩ fun e he => ?_
        obtain ⟨_, _, rfl⟩ := List.mem_map.1 he
        exact trivial
      next fault hlenient =>
        obtain ⟨message, rfl⟩ := Evaluator.fault_of_lenient hlenient
        exact ⟨hopen, .host _⟩
  | log message =>
    simp only [serve]
    split
    next habandoned => exact hcancelled habandoned
    · refine stands_logs hdefers (.reply (.value .null)) hopen ⟨_, rfl⟩ fun e he => ?_
      rw [List.mem_singleton.1 he]
      exact trivial

/-- A run that waits goes on. -/
theorem stands_comes {wait : Wait} {isFlagged : Bool} (hopen : s.footing.Open (some i) wait.ticket?)
    (htells : wait.Tells) (hflag : isFlagged = true → s.isAbandoned = true) :
    Served.Stands i (s.comes c i wait isFlagged) ∧
      (s.comes c i wait isFlagged).2.tasks = (s.seat i).tasks := by
  have hseated : (s.seat i).footing.Open (some i) wait.ticket? := hopen
  unfold comes
  split
  next hflagged =>
    exact ⟨⟨hseated.of_isAbandoned (hflag hflagged), .cancelled (hflag hflagged)⟩, rfl⟩
  next =>
    cases wait with
    | delivery e later aim =>
      have hstirs := stirs_hand hopen.steady c i e
      exact ⟨stands_logs hdefers aim (hopen.stir hstirs) htells.2.2 htells.2.1,
        (serves_announce hdefers _ i later aim).tasks_eq.trans
          (tasks_deliver_self (s := s.seat i) hseated.steady (.inr hseated.player) e)⟩
    | ticket t => exact ⟨stands_reach (.await t) hseated trivial, rfl⟩
    | command argv cwd isOver =>
      exact ⟨stands_collect hdefers hseated argv cwd, (serves_collect hdefers _ i argv cwd).tasks_eq⟩

/-- A run goes on until it waits or is over. -/
theorem stands_advance (d : Dialogue Result) (hopen : s.footing.Open (some i) none) :
    match advance c i d s with
    | (.suspended _ w, s') => s'.footing.Open (some i) w.ticket? ∧ w.Tells
    | (.ended _, s') => s'.footing.Open (some i) none := by
  induction d generalizing s with
  | done r => exact hopen
  | fail place f => exact hopen
  | visit place rest ih => exact ih hopen
  | ask place q next ih =>
    have hstands := stands_serve hdefers hopen place q
    unfold advance
    generalize s.serve c i place q = served at hstands
    obtain ⟨r | w, s'⟩ := served
    · exact ih place r hstands.1
    · exact hstands

omit hdefers in
theorem order_tell (hwork : s.AtWork i) {e : Event} {later : List Event} {goal : Goal}
    (hstands : Stands s.footing i ⟨.posting e later goal, false⟩) :
    Order (s.tell i e later goal).footing (s.tell i e later goal).tasks (some i) :=
  hwork.order_setPhase hstands

theorem order_conclude (hwork : s.AtWork i) (hplayer : s.player = none) (ending : Ending) :
    Order (s.conclude c i ending).footing (s.conclude c i ending).tasks none := by
  rw [conclude_eq hdefers]
  refine AtWork.order_aside (s := s.concluded) ?_ ⟨rfl, rfl, ?_⟩ trivial <;>
    unfold concluded <;> cases s.bridge
  · exact ⟨hwork.task, hwork.others⟩
  · exact ⟨hwork.task, hwork.others⟩
  · exact hplayer
  · exact hplayer

theorem order_prepare (hwork : s.AtWork i) (hearly : s.footing.Early) (plan : Plan) :
    Order (s.prepare c i plan).footing (s.prepare c i plan).tasks (some i) := by
  rw [prepare_eq hdefers]
  refine order_tell (s := { s with bridge := some (.start plan.replays plan.answers) })
    ⟨hwork.task, hwork.others⟩ (.ready _ _ plan ⟨hearly.isRunning, ⟨_, rfl, ?_, ?_⟩, hearly.player⟩ ?_)
  · exact hearly.isAbandoned.symm
  · exact Bridge.calm_start plan.replays plan.answers
  · simp [Plan.overture, Event.IsNews]

/-- How a run may come to be the active one, or to be over, as its task goes on. -/
inductive Shift (i : Nat) : Option Nat → Option Nat → Prop where
  | stay (run : Option Nat) : Shift i run run
  | accept : Shift i none (some i)
  | over : Shift i (some i) none

omit hdefers in
/-- A verdict is told as one status, with a log before it if something went wrong. -/
theorem verdict_cases {plan : Plan} {isAbandoned : Bool}
    {ending : Except (Context × Fault) Result} {e : Event} {later : List Event} {v : Verdict}
    (hverdict : plan.verdict isAbandoned ending = some (e, later, v)) :
    ∃ text, e = .status v.status text ∧ later = [] ∨ e.IsLog ∧ later = [.status v.status text] := by
  unfold Plan.verdict at hverdict
  split at hverdict
  · cases hverdict
    exact ⟨_, .inl ⟨rfl, rfl⟩⟩
  · split at hverdict
    · split at hverdict <;> cases hverdict
      exact ⟨_, .inr ⟨trivial, rfl⟩⟩
    · cases hverdict
      exact ⟨_, .inr ⟨trivial, rfl⟩⟩

theorem order_judge (hwork : s.AtWork i) (hopen : s.footing.Open none none) (plan : Plan)
    (ending : Except (Context × Fault) Result) :
    ∃ run, Order (s.judge c i plan ending).footing (s.judge c i plan ending).tasks run ∧
      Shift i (some i) run := by
  rw [judge_eq hdefers]
  cases hverdict : plan.verdict s.isAbandoned ending with
  | none => exact ⟨none, order_conclude hdefers hwork hopen.player _, .over⟩
  | some x =>
    obtain ⟨e, later, v⟩ := x
    have hnews : ∀ e' ∈ later, e'.IsNews := by
      obtain ⟨text, ⟨_, rfl⟩ | ⟨_, rfl⟩⟩ := verdict_cases hverdict <;> simp [Event.IsNews]
    exact ⟨some i, order_tell (s := { s with diagnostics := _ }) ⟨hwork.task, hwork.others⟩
      (.closing e later plan v hopen hnews), .stay _⟩

theorem order_proceed (hwork : s.AtWork i) (hopen : s.footing.Open (some i) none) (plan : Plan)
    (d : Dialogue Result) :
    ∃ run, Order (s.proceed c i plan d).footing (s.proceed c i plan d).tasks run ∧
      Shift i (some i) run := by
  have hstands := stands_advance hdefers d hopen
  have hwork' := hwork.of_tasks (serves_advance hdefers d s i).tasks_eq
  unfold proceed
  generalize advance c i d s = progress at hwork' hstands
  obtain ⟨⟨next, w⟩ | ending, s'⟩ := progress
  · obtain ⟨hopen', htells⟩ := hstands
    exact ⟨some i, hwork'.order_setPhase (.playing plan next w false hopen' htells nofun), .stay _⟩
  · exact order_judge hdefers (s := { s' with player := none }) ⟨hwork'.task, hwork'.others⟩
      ⟨hstands.isRunning, hstands.bridge, rfl⟩ plan ending

theorem order_carryOn {served : Served × Session σ} (hwork : served.2.AtWork i)
    (hstands : Served.Stands i served) (plan : Plan) (next : Reply → Dialogue Result) :
    ∃ run, Order (carryOn c i plan next served).footing (carryOn c i plan next served).tasks run ∧
      Shift i (some i) run := by
  obtain ⟨r | w, s'⟩ := served
  · exact order_proceed hdefers hwork hstands.1 plan (next r)
  · obtain ⟨hopen, htells⟩ := hstands
    exact ⟨some i, AtWork.order_setPhase hwork (.playing plan next w false hopen htells nofun),
      .stay _⟩

theorem order_keep (hwork : s.AtWork i) (hplayer : s.player = none) (plan : Plan) (v : Verdict) :
    Order (s.keep c i plan v).footing (s.keep c i plan v).tasks none := by
  unfold keep
  split
  · exact order_conclude hdefers hwork hplayer _
  · dsimp only
    split <;> refine order_conclude hdefers ⟨?_, ?_⟩ ?_ _
    · exact hwork.task
    · exact hwork.others
    · exact hplayer
    · exact hwork.task
    · exact hwork.others
    · exact hplayer

/-- A run is refused, or becomes the active one. -/
theorem order_consider (hwork : s.AtWork i) (hidle : s.footing.Idle) (r : RunRequest) :
    ∃ run, Order (s.consider c i r).footing (s.consider c i r).tasks run ∧ Shift i none run := by
  have haccepted : ∀ {plan m}, s.Accepts c r plan m → m.AtWork i ∧ m.footing.Early := by
    intro plan m haccepts
    rw [haccepts.session]
    exact ⟨⟨hwork.task, hwork.others⟩, rfl, hidle.bridge, rfl, hidle.player⟩
  have hconsidered := considered hdefers i r s
  generalize s.consider c i r = s' at hconsidered ⊢
  cases hconsidered with
  | refused hrunning => exact nomatch hrunning.symm.trans hidle.isRunning
  | unknown => exact ⟨none, hwork.order_aside hidle trivial, .stay _⟩
  | announced plan m haccepts =>
    obtain ⟨hm, hearly⟩ := haccepted haccepts
    exact ⟨some i, order_tell hm (.opening _ _ plan hearly), .accept⟩
  | opened plan m haccepts =>
    obtain ⟨hm, hearly⟩ := haccepted haccepts
    exact ⟨some i, order_prepare hdefers hm hearly plan, .accept⟩
  | failed fault =>
    exact ⟨none, order_conclude hdefers
      (s := { s with isRunning := true, isAbandoned := false, saved := none })
      ⟨hwork.task, hwork.others⟩ hidle.player _, .stay _⟩

/-- The active run goes on. -/
theorem order_wake_active (htask : s.tasks[i]? = some task) (hothers : Others s.tasks i)
    (hstands : Stands s.footing i task) :
    ∃ run, Order (s.happen c (.wake i)).footing (s.happen c (.wake i)).tasks run ∧
      Shift i (some i) run := by
  have hhand : ∀ e, (s.hand c i e).AtWork i ∧ s.footing.Stirs (s.hand c i e).footing := fun e =>
    ⟨(AtWork.seat htask hothers).of_tasks
      (tasks_deliver_self (s := s.seat i) hstands.steady hstands.player e),
      stirs_hand hstands.steady c i e⟩
  cases hstands with
  | opening e later plan h =>
    obtain ⟨hwork, hstirs⟩ := hhand e
    have hearly : (s.hand c i e).footing.Early := hstirs.of_none h.bridge ▸ h
    cases later with
    | nil =>
      rw [wake_posting_nil htask]
      exact ⟨some i, order_prepare hdefers hwork hearly plan, .stay _⟩
    | cons e' later =>
      rw [wake_posting_cons hdefers htask]
      exact ⟨some i, order_tell hwork (.opening e' later plan hearly), .stay _⟩
  | ready e later plan h hnews =>
    obtain ⟨hwork, hstirs⟩ := hhand e
    have hopen := h.stir hstirs
    cases later with
    | nil =>
      rw [wake_posting_nil htask]
      exact order_proceed hdefers (s := { s.hand c i e with player := some i })
        ⟨hwork.task, hwork.others⟩ ⟨hopen.isRunning, hopen.bridge, rfl⟩ plan _
    | cons e' later =>
      rw [wake_posting_cons hdefers htask]
      exact ⟨some i, order_tell hwork (.ready e' later plan hopen
        fun e he => hnews e (List.mem_cons_of_mem _ he)), .stay _⟩
  | playing plan next wait isFlagged h htells hflag =>
    rw [wake_playing htask]
    obtain ⟨hserved, htasks⟩ := stands_comes hdefers h htells hflag
    exact order_carryOn hdefers ((AtWork.seat htask hothers).of_tasks htasks) hserved plan next
  | closing e later plan v h hnews =>
    obtain ⟨hwork, hstirs⟩ := hhand e
    have hopen := h.stir hstirs
    cases later with
    | nil =>
      rw [wake_posting_nil htask]
      exact ⟨none, order_keep hdefers hwork hopen.player plan v, .over⟩
    | cons e' later =>
      rw [wake_posting_cons hdefers htask]
      exact ⟨some i, order_tell hwork (.closing e' later plan v hopen
        fun e he => hnews e (List.mem_cons_of_mem _ he)), .stay _⟩

omit hdefers in
/-- A task aside is at work. -/
theorem Order.seat (h : Order s.footing s.tasks run) (hrun : run ≠ some i)
    (htask : s.tasks[i]? = some task) : Order (s.seat i).footing (s.seat i).tasks run := by
  refine h.replace hrun (fun k hk => getElem?_seat_ne s hk) fun other hother => ?_
  rw [getElem?_seat_self htask] at hother
  obtain rfl := Option.some.inj hother
  exact ⟨trivial, rfl⟩

omit hdefers in
/-- A task that was at work aside stays aside. -/
theorem Order.setPhase (h : Order s.footing s.tasks run) (hrun : run ≠ some i)
    (hactive : s.tasks[i]? = some ⟨.active, false⟩) {phase : Phase} (haside : phase.IsAside) :
    Order (s.setPhase i phase).footing (s.setPhase i phase).tasks run := by
  refine Order.replace h hrun (fun k hk => getElem?_setPhase_ne s phase hk) fun other hother => ?_
  rw [getElem?_setPhase_self hactive] at hother
  obtain rfl := Option.some.inj hother
  exact ⟨haside, rfl⟩

/-- A task aside tells the next event, or is over. -/
theorem order_wake_posting (h : Order s.footing s.tasks run) (hrun : run ≠ some i) {e : Event}
    {later : List Event} {goal : Goal}
    (htask : s.tasks[i]? = some ⟨.posting e later goal, false⟩)
    (haside : ∀ e later, Phase.IsAside (.posting e later goal))
    (hgoal : ∀ m : Session σ, ∃ ending, m.reachGoal c i goal = m.setPhase i (.finished ending)) :
    Order (s.happen c (.wake i)).footing (s.happen c (.wake i)).tasks run := by
  have hseat := h.seat hrun htask
  have hactive := getElem?_hand_self (c := c) h.steady htask e
  have hhand : Order (s.hand c i e).footing (s.hand c i e).tasks run :=
    hseat.stirred (stirs_deliver hseat.steady c (some i) e)
  cases later with
  | nil =>
    obtain ⟨ending, hending⟩ := hgoal (s.hand c i e)
    rw [wake_posting_nil htask, hending]
    exact hhand.setPhase hrun hactive trivial
  | cons e' later =>
    rw [wake_posting_cons hdefers htask]
    exact hhand.setPhase hrun hactive (haside e' later)

/-- A task aside goes on, and may become the active run if there is none. -/
theorem order_wake_aside (h : Order s.footing s.tasks run) (hrun : run ≠ some i) :
    ∃ run', Order (s.happen c (.wake i)).footing (s.happen c (.wake i)).tasks run' ∧
      Shift i run run' := by
  have hline : Order ({ s with line := s.line.erase i } : Session σ).footing s.tasks run := h
  cases htask : s.tasks[i]? with
  | none =>
    rw [wake_none htask]
    exact ⟨run, hline, .stay _⟩
  | some task =>
    obtain ⟨phase, isFlagged⟩ := task
    obtain ⟨haside, rfl⟩ : phase.IsAside ∧ isFlagged = false := by
      have haside := h.aside hrun htask
      exact ⟨haside.phase, haside.isFlagged⟩
    cases phase with
    | finished _ | active =>
      rw [wake_still htask trivial]
      exact ⟨run, hline, .stay _⟩
    | playing => exact haside.elim
    | new r =>
      rw [wake_new htask]
      have hactive := getElem?_seat_self htask
      have hseat := h.seat hrun htask
      cases h with
      | idle hidle hall =>
        refine order_consider hdefers ⟨hactive, fun j other hj hother => ?_⟩ hidle r
        rw [getElem?_seat_ne s hj] at hother
        exact hall other (List.mem_iff_getElem?.2 ⟨j, hother⟩)
      | active j other hother hothers hstands =>
        have hrunning : (s.seat i).isRunning = true := hstands.isRunning
        have hconsidered := considered hdefers i r (s.seat i)
        generalize (s.seat i).consider c i r = s' at hconsidered ⊢
        cases hconsidered with
        | refused => exact ⟨some j, hseat.setPhase hrun hactive trivial, .stay _⟩
        | unknown hfree | failed _ hfree => exact nomatch hrunning.symm.trans hfree
        | announced _ _ haccepts | opened _ _ haccepts =>
          exact nomatch hrunning.symm.trans haccepts.isRunning
    | posting e later goal =>
      cases goal with
      | refuse | finish =>
        exact ⟨run, order_wake_posting hdefers h hrun htask (fun _ _ => trivial) fun _ => ⟨_, rfl⟩,
          .stay _⟩
      | prepare | play | keep => exact haside.elim

/-- However a task goes on, everything stays in order. -/
theorem order_wake (h : Order s.footing s.tasks run) (i : Nat) :
    ∃ run', Order (s.happen c (.wake i)).footing (s.happen c (.wake i)).tasks run' ∧
      Shift i run run' := by
  by_cases hrun : run = some i
  · subst hrun
    cases h with
    | active _ task htask hothers hstands => exact order_wake_active hdefers htask hothers hstands
  · exact order_wake_aside hdefers h hrun

omit hdefers in
theorem order_request (h : Order s.footing s.tasks run) (r : RunRequest) :
    Order (s.request r).footing (s.request r).tasks run := by
  have hnew : ∀ {j : Nat} {other : Task}, (s.tasks ++ [Task.mk (.new r) false])[j]? = some other →
      s.tasks[j]? = some other ∨ other.IsAside := by
    intro j other hother
    rcases Ledger.getElem?_concat_iff.1 hother with hold | ⟨_, rfl⟩
    · exact .inl hold
    · exact .inr ⟨trivial, rfl⟩
  change Order s.footing (s.tasks ++ [Task.mk (.new r) false]) run
  cases h with
  | idle hidle hall =>
    refine .idle hidle fun other hother => ?_
    obtain ⟨j, hj⟩ := List.mem_iff_getElem?.1 hother
    exact (hnew hj).elim (fun hold => hall other (List.mem_iff_getElem?.2 ⟨j, hold⟩)) id
  | active i task htask hothers hstands =>
    refine .active i task (Ledger.getElem?_concat_iff.2 (.inl htask)) (fun j other hj hother => ?_)
      hstands
    exact (hnew hother).elim (hothers j other hj) id

omit hdefers in
theorem order_receive (h : Order s.footing s.tasks run) (v : Value) :
    Order (s.receive v).footing (s.receive v).tasks run := by
  unfold receive
  split
  · exact order_request h _
  next step r _ =>
    obtain ⟨hstirs, htasks⟩ := stirs_answer h.steady step r
    rw [htasks]
    exact h.stir hstirs
  · exact h

/-- How a run may come to be the active one, or to be over, in whatever happens. -/
def Happening.Shifts : Happening → Option Nat → Option Nat → Prop
  | .wake i => Shift i
  | _ => Eq

/-- Whatever happens, everything stays in order. -/
theorem order_happen (h : Order s.footing s.tasks run) (x : Happening) :
    ∃ run', Order (s.happen c x).footing (s.happen c x).tasks run' ∧ x.Shifts run run' := by
  cases x with
  | request script resumes clears vars => exact ⟨run, order_request h _, rfl⟩
  | message v => exact ⟨run, order_receive h v, rfl⟩
  | abandon current => exact ⟨run, h.stirred (stirs_abandon h.steady current), rfl⟩
  | wake i => exact order_wake hdefers h i
  | shuffle line => exact ⟨run, h, rfl⟩

end Deferring

end Session

end Stepwise
