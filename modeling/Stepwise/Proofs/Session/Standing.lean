import Stepwise.Proofs.Run.Related
import Stepwise.Proofs.Session.Serve
import Stepwise.Proofs.Session.Schedule

namespace Stepwise

/-- The event says something. -/
def Event.IsLog : Event → Prop
  | .log _ _ => True
  | _ => False

theorem Event.IsLog.not_asks {e : Event} (he : e.IsLog) : ¬ e.Asks := by
  cases e <;> first | exact id | exact he.elim

/-- The event says how a run goes. It asks nothing, and the surface is as busy as before. -/
def Event.IsNews : Event → Prop
  | .reset | .log _ _ | .status _ _ => True
  | _ => False

theorem Event.IsNews.not_asks {e : Event} (he : e.IsNews) : ¬ e.Asks := by
  cases e <;> first | exact id | exact he.elim

namespace Session

variable {σ : Type} {c : Setup σ} {s s' : Session σ} {b : Bridge String} {current : Option Nat}
  {i j : Nat} {task : Task} {tasks : List Task}

/-- A task that someone wants cancelled; a command that it waits for is waited for no longer. -/
def Task.dropped : Task → Task
  | ⟨.playing plan next (.command argv cwd false), _⟩ =>
    ⟨.playing plan next (.command argv cwd true), true⟩
  | ⟨.finished ending, isFlagged⟩ => ⟨.finished ending, isFlagged⟩
  | ⟨phase, _⟩ => ⟨phase, true⟩

/-- Tasks after the active run was given up: the one that plays is cancelled, unless it is at
    work. -/
def dropPlayer (player current : Option Nat) (tasks : List Task) : List Task :=
  match player with
  | some i => if current = some i then tasks else tasks.modify i Task.dropped
  | none => tasks

theorem modify_eq_self {α : Type} {xs : List α} {i : Nat} {a : α} {f : α → α}
    (hget : xs[i]? = some a) (hfixed : f a = a) : xs.modify i f = xs := by
  refine List.ext_getElem? fun j => ?_
  by_cases hj : i = j
  · subst hj
    rw [List.getElem?_modify_eq, hget]
    exact congrArg some hfixed
  · rw [List.getElem?_modify_ne _ _ hj]

theorem modify_congr {α : Type} {xs : List α} {i : Nat} {a : α} {f g : α → α}
    (hget : xs[i]? = some a) (hsame : f a = g a) : xs.modify i f = xs.modify i g := by
  refine List.ext_getElem? fun j => ?_
  by_cases hj : i = j
  · subst hj
    rw [List.getElem?_modify_eq, List.getElem?_modify_eq, hget]
    exact congrArg some hsame
  · rw [List.getElem?_modify_ne _ _ hj, List.getElem?_modify_ne _ _ hj]

/-- A task that is cancelled once no question is open goes on as soon as it can. -/
theorem cancel_eq (hbridge : s.bridge = some b) (hcalm : b.Calm) (i : Nat) :
    ∃ line, s.cancel i = { s with line, tasks := s.tasks.modify i Task.dropped } := by
  have hflag : ∀ {task : Task}, s.tasks[i]? = some task →
      { task with isFlagged := true } = task.dropped →
      s.setFlag i true = { s with line := s.line, tasks := s.tasks.modify i Task.dropped } := by
    intro task htask hdropped
    simp only [setFlag]
    rw [modify_congr htask hdropped]
  unfold cancel
  cases htask : s.tasks[i]? with
  | none => exact ⟨s.line, by simp [List.modify_eq_self (List.getElem?_eq_none_iff.1 htask)]⟩
  | some task =>
    obtain ⟨phase, isFlagged⟩ := task
    cases phase with
    | finished ending => exact ⟨s.line, by simp [modify_eq_self (f := Task.dropped) htask rfl]⟩
    | new r => exact ⟨_, hflag htask rfl⟩
    | posting e later goal => exact ⟨_, hflag htask rfl⟩
    | active => exact ⟨_, hflag htask rfl⟩
    | playing plan next wait =>
      cases wait with
      | delivery e later aim => exact ⟨_, hflag htask rfl⟩
      | ticket t =>
        refine ⟨s.line, ?_⟩
        rw [← hflag htask rfl]
        simp [hbridge, hcalm.settled t]
      | command argv cwd isOver =>
        cases isOver with
        | true => exact ⟨_, hflag htask rfl⟩
        | false =>
          refine ⟨s.line ++ [i], ?_⟩
          simp only [setFlag, setPhase, enqueue, List.modify_modify_eq]
          rw [modify_congr htask (by rfl : _ = Task.dropped _)]

/-- The active run is given up. -/
theorem abandon_eq (hbridge : s.bridge = some b) (hsteady : b.Steady) (current : Option Nat) :
    ∃ line, s.abandon current = { s with
      isAbandoned := true
      bridge := some b.close.bridge
      line
      tasks := dropPlayer s.player current s.tasks } := by
  unfold abandon dropPlayer
  rw [hbridge]
  dsimp only [apply]
  generalize s.player = player
  cases player with
  | none => exact ⟨_, rfl⟩
  | some i =>
    by_cases hcurrent : current = some i
    · simp only [hcurrent, if_true]
      exact ⟨_, rfl⟩
    · simp only [hcurrent, if_false]
      exact cancel_eq rfl hsteady.calm_close i


/-- What the tasks of a session share. -/
structure Footing where
  isRunning : Bool
  bridge : Option (Bridge String)
  isAbandoned : Bool
  player : Option Nat

def footing (s : Session σ) : Footing :=
  ⟨s.isRunning, s.bridge, s.isAbandoned, s.player⟩

namespace Footing

/-- Whoever is at work, others see to it that no question is open but one at which a run stands. -/
def Steady (f : Footing) : Prop :=
  ∀ b, f.bridge = some b → b.Steady

/-- What may happen to the active run while it does not go on: answers come, and it is given up. -/
inductive Stirs (f : Footing) : Footing → Prop where
  | answered (b' : Bridge String) {b : Bridge String} (hbridge : f.bridge = some b)
      (hfollows : b.Follows b') (hclosed : b'.isClosed = b.isClosed) :
      Stirs f { f with bridge := some b' }
  | abandoned (b' : Bridge String) {b : Bridge String} (hbridge : f.bridge = some b)
      (hfollows : b.Follows b') (hclosed : b'.isClosed) :
      Stirs f { f with bridge := some b', isAbandoned := true }
  | same : Stirs f f

/-- No run is active. -/
structure Idle (f : Footing) : Prop where
  isRunning : f.isRunning = false
  bridge : f.bridge = none
  player : f.player = none

/-- A run is accepted. -/
structure Early (f : Footing) : Prop where
  isRunning : f.isRunning = true
  bridge : f.bridge = none
  isAbandoned : f.isAbandoned = false
  player : f.player = none

/-- A run has its bridge, which is closed just if it was given up. -/
structure Open (f : Footing) (player ticket : Option Nat) : Prop where
  isRunning : f.isRunning = true
  bridge : ∃ b, f.bridge = some b ∧ b.isClosed = f.isAbandoned ∧ b.Expects ticket
  player : f.player = player

variable {f f' : Footing} {player ticket : Option Nat}

theorem Open.steady (h : f.Open player ticket) : f.Steady := by
  intro b hb
  obtain ⟨b', hb', _, hexpects⟩ := h.bridge
  obtain rfl : b' = b := Option.some.inj (hb'.symm.trans hb)
  exact hexpects.steady

/-- A run that was given up asks nothing. -/
theorem Open.of_isAbandoned (h : f.Open player ticket) (habandoned : f.isAbandoned = true) :
    f.Open player none := by
  obtain ⟨b, hb, hclosed, hexpects⟩ := h.bridge
  exact ⟨h.isRunning, ⟨b, hb, hclosed, hexpects.calm (hclosed.trans habandoned)⟩, h.player⟩

theorem steady_of_none (hbridge : f.bridge = none) : f.Steady :=
  fun _ hb => nomatch hbridge.symm.trans hb

theorem Stirs.of_none (hstirs : f.Stirs f') (hbridge : f.bridge = none) : f' = f := by
  cases hstirs with
  | answered b' hb | abandoned b' hb => exact nomatch hbridge.symm.trans hb
  | same => rfl

theorem Stirs.player_eq (hstirs : f.Stirs f') : f'.player = f.player := by
  cases hstirs <;> rfl

theorem Stirs.isSome_eq (hstirs : f.Stirs f') : f'.bridge.isSome = f.bridge.isSome := by
  cases hstirs with
  | answered b' hb | abandoned b' hb => rw [hb]; rfl
  | same => rfl

theorem Stirs.isAbandoned (hstirs : f.Stirs f') (h : f.isAbandoned = true) :
    f'.isAbandoned = true := by
  cases hstirs with
  | abandoned => rfl
  | answered | same => exact h

theorem Open.stir (h : f.Open player ticket) (hstirs : f.Stirs f') : f'.Open player ticket := by
  obtain ⟨b, hb, hclosed, hexpects⟩ := h.bridge
  cases hstirs with
  | answered b' hbridge hfollows hsame =>
    obtain rfl := Option.some.inj (hb.symm.trans hbridge)
    exact ⟨h.isRunning, ⟨b', rfl, hsame.trans hclosed, hfollows.expects hexpects⟩, h.player⟩
  | abandoned b' hbridge hfollows hclosed' =>
    obtain rfl := Option.some.inj (hb.symm.trans hbridge)
    exact ⟨h.isRunning, ⟨b', rfl, hclosed', hfollows.expects hexpects⟩, h.player⟩
  | same => exact h

end Footing

/-- What an abandonment does to what the tasks share. -/
theorem stirs_abandon (hsteady : s.footing.Steady) (current : Option Nat) :
    s.footing.Stirs (s.abandon current).footing ∧ ((s.abandon current).tasks = s.tasks ∨
      (s.abandon current).footing.isAbandoned = true ∧
        (s.abandon current).tasks = dropPlayer s.player current s.tasks) := by
  cases hbridge : s.bridge with
  | none =>
    have hsame : s.abandon current = s := by simp [abandon, hbridge]
    rw [hsame]
    exact ⟨.same, .inl rfl⟩
  | some b =>
    obtain ⟨line, heq⟩ := abandon_eq hbridge (hsteady b hbridge) current
    rw [heq]
    exact ⟨.abandoned _ hbridge b.follows_close rfl, .inr ⟨rfl, rfl⟩⟩

theorem stirs_deliver (hsteady : s.footing.Steady) (c : Setup σ) (current : Option Nat) (e : Event) :
    s.footing.Stirs (s.deliver c current e).footing ∧ ((s.deliver c current e).tasks = s.tasks ∨
      (s.deliver c current e).footing.isAbandoned = true ∧
        (s.deliver c current e).tasks = dropPlayer s.player current s.tasks) := by
  unfold deliver
  dsimp only
  split
  · exact stirs_abandon (s := { s with events := s.events ++ [e], host := (c.host.receive e s.host).2 })
      hsteady current
  · exact ⟨.same, .inl rfl⟩

theorem stirs_answer (hsteady : s.footing.Steady) (step : String) (r : Response String) :
    s.footing.Stirs (s.answer step r).footing ∧ (s.answer step r).tasks = s.tasks := by
  unfold answer
  cases hbridge : s.bridge with
  | none => exact ⟨.same, rfl⟩
  | some b =>
    exact ⟨.answered _ hbridge (Bridge.follows_answer (hsteady b hbridge) ..)
      (b.replays_answer ..).2, rfl⟩

/-- The task at work is not cancelled. -/
theorem getElem?_dropPlayer_self (player : Option Nat) (tasks : List Task) (i : Nat) :
    (dropPlayer player (some i) tasks)[i]? = tasks[i]? := by
  unfold dropPlayer
  cases player with
  | none => rfl
  | some j =>
    by_cases hj : i = j
    · simp [hj]
    · simp [hj, List.getElem?_modify_ne _ _ (Ne.symm hj)]

/-- The active run has nothing to do with a task in this phase. -/
def Phase.IsAside : Phase → Prop
  | .new _ | .active | .finished _ | .posting _ _ .refuse | .posting _ _ (.finish _) => True
  | _ => False

structure Task.IsAside (task : Task) : Prop where
  phase : task.phase.IsAside
  isFlagged : task.isFlagged = false

def Aim.ticket? : Aim → Option Nat
  | .await t => some t
  | _ => none

/-- The ticket whose question may be open while a run waits. -/
def Wait.ticket? : Wait → Option Nat
  | .delivery _ _ aim => aim.ticket?
  | .ticket t => some t
  | .command _ _ _ => none

/-- A reply that is known before it is due is a value. -/
def Aim.Keeps : Aim → Prop
  | .reply r => ∃ v, r = .value v
  | _ => True

/-- What a run tells while it waits: one event of any kind that it may tell, and then logs. -/
def Wait.Tells : Wait → Prop
  | .delivery e later aim => (e.IsLog ∨ e.Asks) ∧ (∀ e' ∈ later, e'.IsLog) ∧ aim.Keeps
  | _ => True

/-- The task of the active run, on this footing. -/
inductive Stands (f : Footing) (i : Nat) : Task → Prop where
  | opening (e : Event) (later : List Event) (plan : Plan) (h : f.Early) :
      Stands f i ⟨.posting e later (.prepare plan), false⟩
  | ready (e : Event) (later : List Event) (plan : Plan) (h : f.Open none none)
      (hnews : ∀ e' ∈ later, e'.IsNews) : Stands f i ⟨.posting e later (.play plan), false⟩
  | playing (plan : Plan) (next : Reply → Dialogue Result) (wait : Wait) (isFlagged : Bool)
      (h : f.Open (some i) wait.ticket?) (htells : wait.Tells)
      (hflag : isFlagged = true → f.isAbandoned = true) :
      Stands f i ⟨.playing plan next wait, isFlagged⟩
  | closing (e : Event) (later : List Event) (plan : Plan) (v : Verdict) (h : f.Open none none)
      (hnews : ∀ e' ∈ later, e'.IsNews) : Stands f i ⟨.posting e later (.keep plan v), false⟩

/-- All tasks but one are aside. -/
def Others (tasks : List Task) (i : Nat) : Prop :=
  ∀ j task, j ≠ i → tasks[j]? = some task → task.IsAside

/-- One run is active at most, and what the tasks share fits where it stands. -/
inductive Order (f : Footing) (tasks : List Task) : Option Nat → Prop where
  | idle (h : f.Idle) (haside : ∀ task ∈ tasks, task.IsAside) : Order f tasks none
  | active (i : Nat) (task : Task) (htask : tasks[i]? = some task) (hothers : Others tasks i)
      (hstands : Stands f i task) : Order f tasks (some i)

variable {f : Footing}

theorem Stands.player (h : Stands f i task) : f.player = none ∨ f.player = some i := by
  cases h with
  | opening _ _ _ h => exact .inl h.player
  | ready _ _ _ h | closing _ _ _ _ h => exact .inl h.player
  | playing _ _ _ _ h => exact .inr h.player

theorem Stands.isRunning (h : Stands f i task) : f.isRunning = true := by
  cases h with
  | opening _ _ _ h => exact h.isRunning
  | ready _ _ _ h | closing _ _ _ _ h | playing _ _ _ _ h => exact h.isRunning

theorem Stands.steady (h : Stands f i task) : f.Steady := by
  cases h with
  | opening _ _ _ h => exact Footing.steady_of_none h.bridge
  | ready _ _ _ h | closing _ _ _ _ h | playing _ _ _ _ h => exact h.steady

end Session

end Stepwise
