import Stepwise.Session.Life

namespace Stepwise

/-- The event asks something of the surface. -/
def Event.Asks : Event → Prop
  | .prompt _ _ _ | .choice _ _ _ => True
  | _ => False

/-- How a command comes out, given its words and its directory. -/
abbrev Outcomes := List String → Option String → Except HostFault Outcome

/-- A host whose surface gives no run up, whose store takes what is saved, and whose commands come
    out as they do whatever happened before. -/
structure Host.Steady {σ : Type} (host : Host σ) (outcome : Outcomes) : Prop where
  receive : ∀ e s, (host.receive e s).1 = false
  save : ∀ saved s, ∃ s', host.save saved s = .ok s'
  collect : ∀ argv cwd s, (host.collect argv cwd s).1 = outcome argv cwd

namespace Session

variable {σ : Type}

/-- What a run finds: tasks that are all over, and events that were told. -/
structure Scene where
  done : List Task
  finished : ∀ task ∈ done, ∃ ending, task.phase = .finished ending
  told : List Event
  /-- The events that the run may add to them. -/
  allowed : Event → Prop

/-- The number of the task of the run. -/
def Scene.self (x : Scene) : Nat := x.done.length

theorem modify_last {α : Type} (xs : List α) (a : α) (f : α → α) :
    (xs ++ [a]).modify xs.length f = xs ++ [f a] := by
  induction xs with
  | nil => rfl
  | cons x rest ih => simp [ih]

theorem filterMap_waiting {done : List Task} (hover : ∀ task ∈ done, ∃ e, task.phase = .finished e)
    (phase : Phase) (ticket : Nat) :
    ((done ++ [Task.mk phase false]).zipIdx.filterMap fun (task, i) =>
      if task.isWaitingFor ticket then some i else none) =
      if (Task.mk phase false).isWaitingFor ticket then [done.length] else [] := by
  have hdone : ∀ k, (done.zipIdx k).filterMap (fun (task, i) =>
      if Task.isWaitingFor ticket task then some i else none) = [] := by
    induction done with
    | nil => exact fun _ => rfl
    | cons task rest ih =>
      intro k
      obtain ⟨e, he⟩ := hover task List.mem_cons_self
      have hnot : task.isWaitingFor ticket = false := by
        obtain ⟨_, _⟩ := task
        obtain rfl := he
        rfl
      rw [List.zipIdx_cons, List.filterMap_cons]
      simp only [hnot, Bool.false_eq_true, if_false]
      exact ih (fun task htask => hover task (List.mem_cons_of_mem _ htask)) (k + 1)
  rw [List.zipIdx_append, List.filterMap_append, hdone]
  cases hwaiting : (Task.mk phase false).isWaitingFor ticket <;> simp [hwaiting]

/-- What matters of a session while its last task runs. -/
structure View where
  phase : Phase
  line : List Nat
  bridge : Option (Bridge String)
  saved : Option SavedRun
  isRunning : Bool
  isAbandoned : Bool

theorem foldl_zipIdx_of_fixed {α β : Type} {f : β → α × Nat → β} {b : β} {xs : List α}
    (hfixed : ∀ a ∈ xs, ∀ i, f b (a, i) = b) (k : Nat) : (xs.zipIdx k).foldl f b = b := by
  induction xs generalizing k with
  | nil => rfl
  | cons a rest ih =>
    rw [List.zipIdx_cons, List.foldl_cons, hfixed a List.mem_cons_self]
    exact ih (fun a ha => hfixed a (List.mem_cons_of_mem _ ha)) (k + 1)

/-- The session is where the view says, and has told nothing but what is allowed. -/
structure Scene.At (x : Scene) (v : View) (s : Session σ) : Prop where
  tasks : s.tasks = x.done ++ [⟨v.phase, false⟩]
  line : s.line = v.line
  bridge : s.bridge = v.bridge
  saved : s.saved = v.saved
  isRunning : s.isRunning = v.isRunning
  isAbandoned : s.isAbandoned = v.isAbandoned
  events : ∃ new, s.events = x.told ++ new ∧ ∀ e ∈ new, x.allowed e

namespace Scene.At

variable {c : Setup σ} {outcome : Outcomes} {x : Scene} {v : View} {s : Session σ}

theorem task (h : x.At v s) : s.tasks[x.self]? = some ⟨v.phase, false⟩ := by
  rw [h.tasks, self, List.getElem?_concat_length]

theorem setPhase (h : x.At v s) (phase : Phase) :
    x.At { v with phase } (s.setPhase x.self phase) :=
  { h with
    tasks := by
      simp only [Session.setPhase, h.tasks]
      exact modify_last _ _ _ }

theorem enqueue (h : x.At v s) : x.At { v with line := v.line ++ [x.self] } (s.enqueue x.self) :=
  { h with line := by simp only [Session.enqueue, h.line] }

theorem deliver (h : x.At v s) (hhost : c.host.Steady outcome) {e : Event}
    (hallowed : x.allowed e) (current : Option Nat) : x.At v (s.deliver c current e) := by
  obtain ⟨new, hnew, hall⟩ := h.events
  simp only [Session.deliver, hhost.receive, Bool.false_eq_true, if_false]
  refine { h with events := ⟨new ++ [e], by simp [hnew], ?_⟩ }
  intro e' he'
  rcases List.mem_append.1 he' with hold | hlast
  · exact hall e' hold
  · exact List.mem_singleton.1 hlast ▸ hallowed

theorem deliverAll (h : x.At v s) (hhost : c.host.Steady outcome) {es : List Event}
    (hallowed : ∀ e ∈ es, x.allowed e) (current : Option Nat) :
    x.At v (s.deliverAll c current es) := by
  induction es generalizing s with
  | nil => exact h
  | cons e rest ih =>
    exact ih (h.deliver hhost (hallowed e List.mem_cons_self) current)
      fun e' he' => hallowed e' (List.mem_cons_of_mem _ he')

/-- Whoever waits for a ticket that is settled now can go on. -/
theorem apply (h : x.At v s) (b : Bridge String) (settled : List Nat) :
    x.At { v with
      bridge := some b
      line := v.line ++ settled.flatMap fun ticket =>
        if (Task.mk v.phase false).isWaitingFor ticket then [x.self] else [] }
      (s.apply ⟨b, settled⟩) :=
  { h with
    line := by
      simp only [Session.apply, h.line, h.tasks, filterMap_waiting x.finished]
      rfl
    bridge := rfl }

/-- The first in line is the run itself. -/
theorem turn (h : x.At v s) (hline : v.line = [x.self]) :
    ∃ s', x.At { v with phase := .active, line := [] } s' ∧
      s.turn c = match v.phase with
        | .finished _ | .active => s'.setPhase x.self v.phase
        | .new request => s'.consider c x.self request
        | .posting e later goal =>
          (s'.deliver c (some x.self) e).post c x.self later goal (reachGoal c x.self goal)
        | .playing plan next wait => carryOn c x.self plan next (s'.awaken c x.self wait) := by
  refine ⟨{ s with line := [], tasks := s.tasks.set x.self ⟨.active, false⟩ }, ?_, ?_⟩
  · refine { h with
      tasks := ?_
      line := rfl }
    simp [h.tasks, self]
  · simp only [Session.turn, h.line, hline, resume, h.task]
    cases v.phase <;> rfl

/-- Nothing happens while no task is in line. -/
theorem turn_of_nil (h : x.At v s) (hline : v.line = []) : s.turn c = s := by
  simp only [Session.turn, h.line, hline]

/-- The command that a run waits for is over. -/
theorem release (h : x.At v s) :
    x.At (match v.phase with
      | .playing plan next (.command argv cwd false) => { v with
        phase := .playing plan next (.command argv cwd true)
        line := v.line ++ [x.self] }
      | _ => v) s.release := by
  have hrelease : s.release = match v.phase with
      | .playing plan next (.command argv cwd false) =>
        (s.setPhase x.self (.playing plan next (.command argv cwd true))).enqueue x.self
      | _ => s := by
    unfold Session.release
    rw [h.tasks, List.zipIdx_append, List.foldl_append, foldl_zipIdx_of_fixed (b := s), Nat.zero_add]
    · rfl
    · intro task htask i
      obtain ⟨e, he⟩ := x.finished task htask
      simp only [he]
  rw [hrelease]
  split
  · exact (h.setPhase _).enqueue
  · exact h

end Scene.At

end Session

end Stepwise
