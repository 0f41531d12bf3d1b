import Stepwise.Cli.Commands
import Stepwise.Proofs.Bridge.Ledger
import Stepwise.Proofs.Bridge.Tidy
import Stepwise.Proofs.Surface.Acts

namespace Stepwise

variable {σ : Type}

/-- A runner that reads nothing but texts, if the options can be told apart by texts. -/
structure Runner.GivesTexts (r : Runner σ) : Prop where
  input : ∀ prompt preset base v, (r.input prompt preset base).1 = .ok v → ∃ text, v = .text text
  choose : ∀ message options base v, (Question.choice message options).IsClear →
    (r.choose message options base).1 = .ok v → ∃ text, v = .text text

namespace Surface

/-- How far the surface is with a question. -/
inductive Stage where
  | reading
  /-- The reply is read, and is about to be posted. -/
  | read (message : Value)
  | posted
  /-- The read ended in an error, and nothing will be posted. -/
  | broken (fault : HostFault)

def Stage.ofReply : Except HostFault Value → Stage
  | .ok message => .read message
  | .error fault => .broken fault

/-- A task of the surface, which answers a question. -/
structure Answering where
  event : Value
  stage : Stage

/-- A session at a surface, with the tasks of the surface in the order in which they began. -/
structure Attendance (σ : Type) where
  session : Session (State σ)
  tasks : List Answering

/-- The tasks for the questions that the surface was told and has not turned to. -/
def unread (s : Session (State σ)) : List Answering :=
  s.host.asked.map (⟨·, .reading⟩)

namespace Attendance

def start (c : Session.Setup (State σ)) (base : σ) : Attendance σ :=
  ⟨.start c ⟨base, [], []⟩, []⟩

/-- All tasks of the surface, one for each question that it was told. -/
def answering (a : Attendance σ) : List Answering :=
  a.tasks ++ unread a.session

/-- The surface turns to the next question that it was told. -/
def take (a : Attendance σ) : Attendance σ :=
  match a.session.host.asked with
  | [] => a
  | event :: asked =>
    ⟨{ a.session with host := { a.session.host with asked } }, a.tasks ++ [⟨event, .reading⟩]⟩

/-- A task reads the reply to its question. -/
def read (p : Parts σ) (a : Attendance σ) (k : Nat) : Attendance σ :=
  match a.tasks[k]? with
  | some ⟨event, .reading⟩ =>
    let (reply, base) := ask p.runner event a.session.host.base
    ⟨{ a.session with host := { a.session.host with base } },
      a.tasks.set k ⟨event, .ofReply reply⟩⟩
  | _ => a

/-- A task posts the reply that it has read. -/
def post (a : Attendance σ) (k : Nat) : Attendance σ :=
  match a.tasks[k]? with
  | some ⟨event, .read message⟩ => ⟨a.session.receive message, a.tasks.set k ⟨event, .posted⟩⟩
  | _ => a

end Attendance

/-- What can happen to a session at a surface. -/
inductive Move where
  | offer
  | happen (x : Session.Happening)
  | take
  | read (k : Nat)
  | post (k : Nat)

namespace Attendance

def move (p : Parts σ) (c : Session.Setup (State σ)) (a : Attendance σ) : Move → Attendance σ
  | .offer => match a.session.offer (c.at p) with
    | .ok session => { a with session }
    | .error _ => a
  | .happen x => { a with session := a.session.happen (c.at p) x }
  | .take => a.take
  | .read k => a.read p k
  | .post k => a.post k

def run (p : Parts σ) (c : Session.Setup (State σ)) (a : Attendance σ) (moves : List Move) :
    Attendance σ :=
  moves.foldl (move p c) a

end Attendance

/-- The event puts a question of this kind at this step. -/
def Poses (step : String) (kind : Question.Kind) (event : Value) : Prop :=
  ∃ q : Question, q.kind = kind ∧ q.IsClear ∧ event = (q.event step).dump

theorem Poses.step_eq {step step' : String} {kind kind' : Question.Kind} {event : Value}
    (h : Poses step kind event) (h' : Poses step' kind' event) : step = step' := by
  have hstep : ∀ {step kind}, Poses step kind event →
      event.field? "stepId" = some (.text step) := by
    rintro step kind ⟨q, _, _, rfl⟩
    cases q <;> rfl
  simpa [hstep h] using hstep h'

/-- The reply to a question is a message that answers it. -/
theorem decode?_ask {r : Runner σ} (htexts : r.GivesTexts) {step : String} {kind : Question.Kind}
    {event message : Value} (hposes : Poses step kind event) {base : σ}
    (hask : (ask r event base).1 = .ok message) :
    ∃ response : Response String, Message.decode? message = some (.answer step response) ∧
      response.kind = kind := by
  obtain ⟨q, rfl, hclear, rfl⟩ := hposes
  cases q with
  | prompt text preset =>
    generalize hevent : ((Question.prompt text preset).event step).dump = event at hask
    have hreply : ∃ preset, (ask r event base).1 = (r.input text preset base).1.map fun value =>
        .ofFields [("type", .text "promptResponse"), ("stepId", .text step), ("value", value)] := by
      subst hevent
      exact ⟨_, rfl⟩
    obtain ⟨preset, hreply⟩ := hreply
    obtain ⟨v, hinput, rfl⟩ := exists_of_map_eq_ok (hreply.symm.trans hask)
    obtain ⟨answer, rfl⟩ := htexts.input _ _ _ _ hinput
    exact ⟨.prompt (some answer), rfl, rfl⟩
  | choice text options =>
    have hreply : (ask r ((Question.choice text options).event step).dump base).1 =
        (r.choose text options base).1.map fun value => .ofFields
          [("type", .text "choiceResponse"), ("stepId", .text step), ("choiceId", value)] :=
      rfl
    obtain ⟨v, hchoose, rfl⟩ := exists_of_map_eq_ok (hreply.symm.trans hask)
    obtain ⟨answer, rfl⟩ := htexts.choose _ _ _ _ hclear hchoose
    exact ⟨.choice answer, rfl, rfl⟩

/-- The task reads the reply to its question, or is about to post it. -/
inductive Stage.Attends (step : String) (kind : Question.Kind) : Stage → Prop where
  | reading : Attends step kind .reading
  | read {message : Value} {response : Response String}
      (hmessage : Message.decode? message = some (.answer step response))
      (hkind : response.kind = kind) : Attends step kind (.read message)

/-- The task is the last one for a question of this step and kind. -/
structure IsLatest (tasks : List Answering) (step : String) (kind : Question.Kind) (k : Nat)
    (task : Answering) : Prop where
  found : tasks[k]? = some task
  poses : Poses step kind task.event
  last : ∀ j later, tasks[j]? = some later → Poses step kind later.event → j ≤ k

/-- The last question of this step and kind is attended, or reading its reply ended in an error. -/
def IsServed (tasks : List Answering) (step : String) (kind : Question.Kind) : Prop :=
  ∃ k task, IsLatest tasks step kind k task ∧
    (task.stage.Attends step kind ∨ ∃ fault, task.stage = .broken fault)

section Served

variable {tasks : List Answering} {step step' : String} {kind kind' : Question.Kind}

theorem isServed_concat_self {event : Value} (hposes : Poses step kind event) :
    IsServed (tasks ++ [⟨event, .reading⟩]) step kind := by
  refine ⟨tasks.length, _, ⟨List.getElem?_concat_length, hposes, fun j later hlater _ => ?_⟩,
    .inl .reading⟩
  have hlt := (List.getElem?_eq_some_iff.1 hlater).1
  rw [List.length_append, List.length_singleton] at hlt
  exact Nat.le_of_lt_succ hlt

theorem IsServed.concat_ne (h : IsServed tasks step kind) {event : Value}
    (hposes : Poses step' kind' event) (hne : step ≠ step') :
    IsServed (tasks ++ [⟨event, .reading⟩]) step kind := by
  obtain ⟨k, task, hlatest, hstage⟩ := h
  refine ⟨k, task, ⟨?_, hlatest.poses, fun j later hlater hlast => ?_⟩, hstage⟩
  · exact Ledger.getElem?_concat_iff.2 (.inl hlatest.found)
  · rcases Ledger.getElem?_concat_iff.1 hlater with hold | ⟨_, rfl⟩
    · exact hlatest.last j later hold hlast
    · exact absurd (hlast.step_eq hposes) hne

/-- Whatever task goes on, the last one for a question is the same. -/
theorem IsLatest.set {k i : Nat} {task old : Answering} (h : IsLatest tasks step kind k task)
    (hold : tasks[i]? = some old) (stage : Stage) :
    IsLatest (tasks.set i ⟨old.event, stage⟩) step kind k
      (if i = k then ⟨old.event, stage⟩ else task) := by
  have hevents : ∀ (j : Nat) (later : Answering),
      (tasks.set i ⟨old.event, stage⟩)[j]? = some later →
      ∃ before : Answering, tasks[j]? = some before ∧ before.event = later.event := by
    intro j later hlater
    by_cases heq : i = j
    · subst heq
      rw [List.getElem?_set_self (List.getElem?_eq_some_iff.1 hold).1] at hlater
      obtain rfl := Option.some.inj hlater
      exact ⟨old, hold, rfl⟩
    · rw [List.getElem?_set_ne heq] at hlater
      exact ⟨later, hlater, rfl⟩
  have hlast : ∀ j later, (tasks.set i ⟨old.event, stage⟩)[j]? = some later →
      Poses step kind later.event → j ≤ k := by
    intro j later hlater hposes
    obtain ⟨before, hbefore, hevent⟩ := hevents j later hlater
    exact h.last j before hbefore (hevent ▸ hposes)
  by_cases heq : i = k
  · subst heq
    obtain rfl := Option.some.inj (hold.symm.trans h.found)
    rw [if_pos rfl]
    exact ⟨List.getElem?_set_self (List.getElem?_eq_some_iff.1 hold).1, h.poses, hlast⟩
  · rw [if_neg heq]
    exact ⟨(List.getElem?_set_ne heq).trans h.found, h.poses, hlast⟩

theorem IsServed.set (h : IsServed tasks step kind) {i : Nat} {old : Answering}
    (hold : tasks[i]? = some old) {stage : Stage}
    (hstage : Poses step kind old.event →
      (old.stage.Attends step kind ∨ ∃ fault, old.stage = .broken fault) →
      (stage.Attends step kind ∨ ∃ fault, stage = .broken fault)) :
    IsServed (tasks.set i ⟨old.event, stage⟩) step kind := by
  obtain ⟨k, task, hlatest, hserved⟩ := h
  refine ⟨k, _, hlatest.set hold stage, ?_⟩
  split
  next heq =>
    subst heq
    obtain rfl := Option.some.inj (hold.symm.trans hlatest.found)
    exact hstage hlatest.poses hserved
  next => exact hserved

end Served

/-- The bridge is tidy, and every question that can be answered is served. -/
structure Serves (tasks : List Answering) (b : Bridge String) : Prop where
  tidy : b.Tidy
  served : ∀ p ∈ b.pending, IsServed tasks p.step p.kind

theorem Serves.retract {tasks : List Answering} {b b' : Bridge String} (h : Serves tasks b)
    (hretracts : b.Retracts b') : Serves tasks b' :=
  ⟨h.tidy.retract hretracts, fun p hp => h.served p (hretracts.pending p hp)⟩

theorem Serves.answer {tasks : List Answering} {b : Bridge String} (h : Serves tasks b)
    (step : String) (kind : Question.Kind) (a : String) :
    Serves tasks (b.answer step kind a).2.bridge := by
  obtain ⟨htidy, hpending⟩ := h.tidy.answer step kind a
  exact ⟨htidy, fun p hp => h.served p (hpending p hp).1⟩

/-- A question that is put is told to the surface, which begins a task for it. -/
theorem Serves.register {tasks : List Answering} {b : Bridge String} (h : Serves tasks b)
    {step : String} {q : Question} (hclear : q.IsClear) {t : Nat} {change : Bridge.Change String}
    (hregister : b.register step q.kind = some (t, change)) :
    Serves (tasks ++ [⟨(q.event step).dump, .reading⟩]) change.bridge := by
  have hposes : Poses step q.kind (q.event step).dump := ⟨q, rfl, hclear, rfl⟩
  obtain ⟨b', hretracts, hnone, rfl, hchange⟩ := Bridge.register_eq_some
    (fun p hp p' hp' hstep => congrArg Pending.ticket (h.tidy.single p hp p' hp' hstep)) hregister
  have hbefore := h.retract hretracts
  rw [hchange]
  refine ⟨hbefore.tidy.put hnone q.kind, fun p hp => ?_⟩
  rcases List.mem_append.1 hp with hold | hnew
  · exact (hbefore.served p hold).concat_ne hposes (hnone p hold)
  · rw [List.mem_singleton.1 hnew]
    exact isServed_concat_self hposes

theorem asked_receive (p : Parts σ) {e : Event} (hquiet : ¬ e.Asks) (s : State σ) :
    (receive p e.dump s).asked = s.asked := by
  cases e with
  | prompt | choice => exact absurd trivial hquiet
  | init | busy | reset | log | status => rfl

theorem asked_receive_event (p : Parts σ) (step : String) (q : Question) (s : State σ) :
    (receive p (q.event step).dump s).asked = s.asked ++ [(q.event step).dump] := by
  cases q <;> rfl

/-- One thing that a session does leaves every question served. -/
theorem serves_act {p : Parts σ} {s m : Session (State σ)} (hact : s.Act p m)
    {tasks : List Answering} (h : ∀ b, s.bridge = some b → Serves (tasks ++ unread s) b) :
    ∀ b, m.bridge = some b → Serves (tasks ++ unread m) b := by
  intro b hopen'
  cases hact with
  | aside hbridge hhost =>
    rw [unread, hhost]
    exact h b (hbridge ▸ hopen')
  | tell e hquiet hbridge hhost =>
    rw [unread, hhost, asked_receive p hquiet]
    exact h b (hbridge ▸ hopen')
  | ask b₀ step q hclear t change hopen hregister hbridge hhost =>
    obtain rfl := Option.some.inj (hbridge.symm.trans hopen')
    rw [unread, hhost, asked_receive_event, List.map_append, ← List.append_assoc]
    exact (h b₀ hopen).register hclear hregister
  | answer b₀ step kind a hopen hbridge hhost =>
    obtain rfl := Option.some.inj (hbridge.symm.trans hopen')
    rw [unread, hhost]
    exact (h b₀ hopen).answer step kind a
  | retract b₀ b' hopen hretracts hbridge hhost =>
    obtain rfl := Option.some.inj (hbridge.symm.trans hopen')
    rw [unread, hhost]
    exact (h b₀ hopen).retract hretracts
  | start replays answers hbridge hhost =>
    obtain rfl := Option.some.inj (hbridge.symm.trans hopen')
    exact ⟨Bridge.tidy_start replays answers, nofun⟩
  | stop hbridge => exact nomatch hbridge.symm.trans hopen'
  | work base hbridge hhost =>
    rw [unread, hhost]
    exact h b (hbridge ▸ hopen')

/-- A read that ends leaves its question attended, unless it ends in an error. -/
theorem Serves.read {p : Parts σ} (htexts : p.runner.GivesTexts) {tasks : List Answering}
    {b : Bridge String} (h : Serves tasks b) {k : Nat} {event : Value}
    (hold : tasks[k]? = some ⟨event, .reading⟩) (base : σ) :
    Serves (tasks.set k ⟨event, .ofReply (ask p.runner event base).1⟩) b := by
  refine ⟨h.tidy, fun q hq => (h.served q hq).set hold fun hposes _ => ?_⟩
  cases hask : (ask p.runner event base).1 with
  | error fault => exact .inr ⟨fault, rfl⟩
  | ok message =>
    obtain ⟨response, hmessage, hkind⟩ := decode?_ask htexts hposes hask
    exact .inl (.read hmessage hkind)

/-- A reply that is posted settles the question that its task attended. -/
theorem serves_receive {tasks : List Answering} {s : Session (State σ)}
    (h : ∀ b, s.bridge = some b → Serves tasks b) {k : Nat} {event message : Value}
    (hold : tasks[k]? = some ⟨event, .read message⟩) :
    ∀ b, (s.receive message).bridge = some b → Serves (tasks.set k ⟨event, .posted⟩) b := by
  have hkeeps : ∀ b, Serves tasks b → ∀ q ∈ b.pending,
      (∀ response, Message.decode? message = some (.answer q.step response) →
        response.kind ≠ q.kind) →
      IsServed (tasks.set k ⟨event, .posted⟩) q.step q.kind := by
    intro b hb q hq hother
    refine (hb.served q hq).set hold fun _ hstage => ?_
    rcases hstage with hattends | ⟨fault, hbroken⟩
    · cases hattends with
      | read hmessage hkind => exact absurd hkind (hother _ hmessage)
    · cases hbroken
  intro b hopen
  unfold Session.receive at hopen
  split at hopen
  next hmessage =>
    have hb := h b hopen
    exact ⟨hb.tidy, fun q hq => hkeeps b hb q hq fun _ h => nomatch hmessage.symm.trans h⟩
  next step r hmessage =>
    unfold Session.answer at hopen
    split at hopen
    next hnone => exact nomatch hnone.symm.trans hopen
    next b₀ hbefore =>
      obtain rfl := Option.some.inj hopen
      have hb := h b₀ hbefore
      obtain ⟨htidy, hpending⟩ := hb.tidy.answer step r.kind (r.value "")
      refine ⟨htidy, fun q hq => hkeeps b₀ hb q (hpending q hq).1
        fun response hmessage' hkind => ?_⟩
      cases hmessage.symm.trans hmessage'
      exact (hpending q hq).2 ⟨rfl, hkind.symm⟩
  next hmessage =>
    have hb := h b hopen
    exact ⟨hb.tidy, fun q hq => hkeeps b hb q hq fun _ h => nomatch hmessage.symm.trans h⟩

namespace Attendance

variable {p : Parts σ} {c : Session.Setup (State σ)} {a : Attendance σ}

/-- The surface serves the questions that can be answered. -/
structure Sound (a : Attendance σ) : Prop where
  direct : a.session.IsDirect
  serves : ∀ b, a.session.bridge = some b → Serves a.answering b

theorem sound_start (c : Session.Setup (State σ)) (base : σ) : (start c base).Sound where
  direct _ htask := absurd htask List.not_mem_nil
  serves b hopen := absurd hopen.symm (Option.some_ne_none b)

/-- Whatever a session does, the surface serves its questions. -/
theorem Sound.acts (h : a.Sound) {s : Session (State σ)} (hacts : Session.Acts p a.session s) :
    Sound { a with session := s } := by
  obtain ⟨hacts, hdirect⟩ := hacts
  refine ⟨hdirect h.direct, ?_⟩
  change ∀ b, s.bridge = some b → Serves (a.tasks ++ unread s) b
  clear hdirect
  induction hacts with
  | refl => exact h.serves
  | tail _ hact ih => exact serves_act hact ih

theorem answering_take (a : Attendance σ) : a.take.answering = a.answering := by
  unfold take answering unread
  split
  next => rfl
  next event asked hasked => simp [hasked]

theorem bridge_take (a : Attendance σ) : a.take.session.bridge = a.session.bridge := by
  unfold take
  split <;> rfl

theorem tasks_take (a : Attendance σ) : a.take.session.tasks = a.session.tasks := by
  unfold take
  split <;> rfl

/-- A task that has begun goes on. -/
theorem set_answering {k : Nat} {old : Answering} (hold : a.tasks[k]? = some old)
    (new : Answering) :
    a.answering[k]? = some old ∧ a.answering.set k new = a.tasks.set k new ++ unread a.session := by
  have hlt := (List.getElem?_eq_some_iff.1 hold).1
  exact ⟨(List.getElem?_append_left hlt).trans hold, List.set_append_left _ _ hlt⟩

theorem Sound.move (h : a.Sound) (htexts : p.runner.GivesTexts) (x : Move) :
    (a.move p c x).Sound := by
  cases x with
  | offer =>
    simp only [Attendance.move]
    split
    next s hoffer => exact h.acts (Session.acts_offer hoffer)
    next => exact h
  | happen x => exact h.acts (Session.acts_happen h.direct x)
  | take =>
    refine ⟨?_, fun b hopen => ?_⟩
    · change ∀ task ∈ a.take.session.tasks, _
      rw [tasks_take]
      exact h.direct
    · change Serves a.take.answering b
      rw [answering_take]
      exact h.serves b ((bridge_take a).symm.trans hopen)
  | read k =>
    simp only [Attendance.move, Attendance.read]
    split
    next event hold =>
      obtain ⟨hold', hset⟩ :=
        set_answering hold ⟨event, .ofReply (ask p.runner event a.session.host.base).1⟩
      refine ⟨h.direct, fun b hopen => ?_⟩
      have hserves := (h.serves b hopen).read htexts hold' a.session.host.base
      rw [hset] at hserves
      exact hserves
    next => exact h
  | post k =>
    simp only [Attendance.move, Attendance.post]
    split
    next event message hold =>
      obtain ⟨hold', hset⟩ := set_answering hold ⟨event, .posted⟩
      have hacts := Session.acts_receive (p := p) a.session message
      refine ⟨hacts.2 h.direct, fun b hopen => ?_⟩
      have hserves := serves_receive h.serves hold' b hopen
      rw [hset] at hserves
      simpa only [answering, unread, Session.host_receive] using hserves
    next => exact h

theorem Sound.run (h : a.Sound) (htexts : p.runner.GivesTexts) (moves : List Move) :
    (a.run p c moves).Sound := by
  induction moves generalizing a with
  | nil => exact h
  | cons x later ih => exact ih (h.move htexts x)

theorem run_append (p : Parts σ) (c : Session.Setup (State σ)) (a : Attendance σ)
    (moves later : List Move) : a.run p c (moves ++ later) = (a.run p c moves).run p c later :=
  List.foldl_append

theorem run_happen (p : Parts σ) (c : Session.Setup (State σ)) (a : Attendance σ)
    (xs : List Session.Happening) :
    a.run p c (xs.map .happen) =
      { a with session := xs.foldl (Session.happen (c.at p)) a.session } := by
  induction xs generalizing a with
  | nil => rfl
  | cons x xs ih => exact ih (a.move p c (.happen x))

theorem set_concat_length (tasks : List Answering) (old new : Answering) :
    (tasks ++ [old]).set tasks.length new = tasks ++ [new] := by
  rw [List.set_append_right _ _ (Nat.le_refl _), Nat.sub_self]
  rfl

/-- A task that begins and reads asks the question that comes next. -/
theorem read_take {event : Value} {asked : List Value}
    (hasked : a.session.host.asked = event :: asked) :
    a.take.read p a.tasks.length =
      ⟨{ a.session with host := (askNext p.runner a.session.host).2 },
        a.tasks ++ [⟨event, .ofReply (askNext p.runner a.session.host).1⟩]⟩ := by
  have htake : a.take = ⟨{ a.session with host := { a.session.host with asked } },
      a.tasks ++ [⟨event, .reading⟩]⟩ := by
    simp only [take, hasked]
  simp only [htake, read, List.getElem?_concat_length, askNext, hasked, set_concat_length]

/-- A surface that answers one question after the other keeps to one of the schedules. -/
theorem converse_eq_run (p : Parts σ) (c : Session.Setup (State σ)) (fuel : Nat)
    (a : Attendance σ) :
    ∃ moves, converse p (c.at p) fuel a.session = (a.run p c moves).session := by
  induction fuel generalizing a with
  | zero => exact ⟨[], rfl⟩
  | succ fuel ih =>
    have hsettle : ∃ wakes, a.run p c wakes = { a with session := a.session.settle (c.at p) } := by
      obtain ⟨line, hturns⟩ := Session.turns_eq_wakes (c.at p)
        (a.session.tasks.length * (5 * (c.at p).limit.toNat + 10)) a.session
      refine ⟨(line.map .wake).map .happen, ?_⟩
      rw [run_happen, ← hturns]
      rfl
    obtain ⟨wakes, hwakes⟩ := hsettle
    unfold converse
    generalize a.session.settle (c.at p) = s at hwakes
    dsimp only
    cases hasked : s.host.asked with
    | nil => exact ⟨wakes, by rw [hwakes]; rfl⟩
    | cons event asked =>
      have hread := read_take (p := p) (a := { a with session := s }) hasked
      dsimp only at hread
      generalize askNext p.runner s.host = asks at hread
      obtain ⟨fault | message, host⟩ := asks
      · obtain ⟨later, hlater⟩ := ih ⟨{ s with host }, a.tasks ++ [⟨event, .broken fault⟩]⟩
        refine ⟨wakes ++ .take :: .read a.tasks.length :: later, hlater.trans ?_⟩
        rw [run_append, hwakes]
        exact congrArg (fun b => (run p c b later).session) hread.symm
      · have hpost : (read p (take { a with session := s }) a.tasks.length).post a.tasks.length =
            ⟨{ s with host }.receive message, a.tasks ++ [⟨event, .posted⟩]⟩ := by
          rw [hread]
          simp only [post, Stage.ofReply, List.getElem?_concat_length, set_concat_length]
        obtain ⟨later, hlater⟩ :=
          ih ⟨{ s with host }.receive message, a.tasks ++ [⟨event, .posted⟩]⟩
        refine ⟨wakes ++ .take :: .read a.tasks.length :: .post a.tasks.length :: later,
          hlater.trans ?_⟩
        rw [run_append, hwakes]
        exact congrArg (fun b => (run p c b later).session) hpost.symm

/-- A run that is offered and asked for, and goes on until nothing is left to do, does so too. -/
theorem exists_moves_of_run {r : RunRequest} {vars : Table String} (hvars : r.vars = vars.map .text)
    {base : σ} {s : Session (State σ)}
    (hrun : Surface.run p (c.at p) r (Session.start (c.at p) ⟨base, [], []⟩) = .ok s) :
    ∃ moves, s = ((start c base).run p c moves).session := by
  unfold Surface.run at hrun
  cases hoffer : (Session.start (c.at p) ⟨base, [], []⟩).offer (c.at p) with
  | error fault =>
    rw [hoffer] at hrun
    cases hrun
  | ok m =>
    rw [hoffer] at hrun
    obtain rfl := Except.ok.inj hrun
    obtain ⟨later, hlater⟩ := converse_eq_run p c ((c.at p).limit.toNat + 2) ⟨m.request r, []⟩
    refine ⟨.offer :: .happen (.request r.script r.resumes r.clears vars) :: later, hlater.trans ?_⟩
    have hoffered : (start c base).move p c .offer = ⟨m, []⟩ := by
      have hstart : (start c base).session = Session.start (c.at p) ⟨base, [], []⟩ := rfl
      simp only [move, hstart, hoffer]
      rfl
    have hbegins : (start c base).run p c
        [.offer, .happen (.request r.script r.resumes r.clears vars)] = ⟨m.request r, []⟩ := by
      simp only [run, List.foldl_cons, List.foldl_nil, hoffered]
      simp only [move, Session.happen, ← hvars]
    exact congrArg (fun b => (run p c b later).session) hbegins.symm

/-- While a question waits for an answer, a task of the surface reads the reply to it or is about to
    post it, unless the reading ended in an error. -/
theorem run_attended (htexts : p.runner.GivesTexts) (c : Session.Setup (State σ)) (base : σ)
    (moves : List Move) {b : Bridge String}
    (hopen : ((start c base).run p c moves).session.bridge = some b) {t : Nat}
    (hwaits : b.isUnsettled t) :
    ∃ q ∈ b.pending, q.ticket = t ∧
      ∃ k task, IsLatest ((start c base).run p c moves).answering q.step q.kind k task ∧
        (task.stage.Attends q.step q.kind ∨ ∃ fault, task.stage = .broken fault) := by
  have hsound : ((start c base).run p c moves).Sound := (sound_start c base).run htexts moves
  have hserves := hsound.serves b hopen
  obtain ⟨q, hq, hticket⟩ := hserves.tidy.listed t hwaits
  exact ⟨q, hq, hticket, hserves.served q hq⟩

end Attendance

end Surface

namespace Terminal

/-- A reply picks one of the options, or names one. -/
theorem text_of_pick {ids : List Value} (hids : ∀ id ∈ ids, ∃ text, id = .text text)
    {reply : String} {id : Value} (hpick : pick ids reply = .ok (some id)) :
    ∃ text, id = .text text := by
  obtain ⟨number, _, hfound⟩ := exists_of_map_eq_ok hpick
  split at hfound
  next hfound' =>
    obtain rfl := Option.some.inj hfound
    obtain ⟨n, _, hn⟩ := Option.bind_eq_some_iff.1 hfound'
    split at hn
    · exact hids _ (List.mem_of_getElem? hn)
    · cases hn
  next =>
    split at hfound
    · exact ⟨reply, (Option.some.inj hfound).symm⟩
    · cases hfound

theorem text_of_choose {ids : List Value} (hids : ∀ id ∈ ids, ∃ text, id = .text text)
    {message : String} {labels : List String} {typed : List String} {shown : String} {id : Value}
    (hchoose : (choose.go message ids labels typed shown).1 = .ok id) :
    ∃ text, id = .text text := by
  induction typed generalizing shown with
  | nil => cases hchoose
  | cons line rest ih =>
    simp only [choose.go] at hchoose
    split at hchoose
    · cases hchoose
    next hpick =>
      obtain rfl := Except.ok.inj hchoose
      exact text_of_pick hids hpick
    next => exact ih hchoose

end Terminal

/-- A terminal gives nothing but texts. -/
theorem Workstation.givesTexts_runner : Workstation.runner.GivesTexts where
  input prompt preset base v hinput := by
    obtain ⟨text, _, htext⟩ := exists_of_map_eq_ok hinput
    exact ⟨text, htext.symm⟩
  choose message options base v hclear hchoose := by
    refine Terminal.text_of_choose (fun id hid => ?_) hchoose
    obtain ⟨o, ho, rfl⟩ := List.mem_map.1 hid
    obtain ⟨text, htext⟩ := hclear o ho
    exact ⟨text, by rw [optionField, htext, Option.getD_some]⟩

namespace Surface.Attendance

/-- A script that asks whether to go on. -/
def poll : Entry where
  id := "poll"
  name := "Poll"
  description := none
  version := none
  start := none
  steps := [⟨"ask", none, none, .choice "Ready?" [⟨"yes", "Yes", "end"⟩, ⟨"no", "No", "end"⟩]⟩,
    ⟨"end", none, none, .finish .success none⟩].map (Script.dumpStep .full)

/-- The poll at a terminal, where its state would be saved to a file. -/
def pollParts : Parts Workstation :=
  Cli.parts ⟨⟨"/", ["state.yaml"]⟩⟩ 0 "poll"

def pollSetup : Session.Setup (State Workstation) :=
  ⟨[poll], none, 10, false, 0, ⟨2024, 1, 1, none⟩, host pollParts⟩

def pollStation (typed : List String) : Workstation :=
  ⟨⟨typed, ""⟩, ⟨⟨⟨"/", []⟩, []⟩, []⟩, false, none⟩

/-- The poll is asked for, and the first question of it is read. -/
def pollMoves : List Move :=
  [.happen (.request none false false .empty), .happen (.wake 0), .take, .read 0]

theorem run_attended_poll :
    let a := (start pollSetup (pollStation ["maybe", "1"])).run pollParts pollSetup pollMoves
    ∃ b, a.session.bridge = some b ∧ b.isUnsettled 0 ∧
      ∃ q ∈ b.pending, q.ticket = 0 ∧
        ∃ k task, IsLatest a.answering q.step q.kind k task ∧
          (task.stage.Attends q.step q.kind ∨ ∃ fault, task.stage = .broken fault) := by
  intro a
  have hwaits : (a.session.bridge.any fun b => b.isUnsettled 0) = true := by decide +kernel
  obtain ⟨b, hopen, hunsettled⟩ := (Option.any_eq_true _ _).1 hwaits
  exact ⟨b, hopen, hunsettled, run_attended Workstation.givesTexts_runner pollSetup
    (pollStation ["maybe", "1"]) pollMoves hopen hunsettled⟩

/-- A reply of digits that are not decimal breaks the only task off, and the poll waits on. -/
theorem poll_unattended :
    let a := (start pollSetup (pollStation ["²", "1"])).run pollParts pollSetup pollMoves
    ∃ b, a.session.bridge = some b ∧ b.isUnsettled 0 ∧
      ∀ task ∈ a.answering, ∀ step kind, ¬ task.stage.Attends step kind := by
  intro a
  have hwaits : (a.session.bridge.any fun b => b.isUnsettled 0) = true := by decide +kernel
  have hbroken : (a.answering.all fun task => task.stage matches .broken _) = true := by
    decide +kernel
  obtain ⟨b, hopen, hunsettled⟩ := (Option.any_eq_true _ _).1 hwaits
  refine ⟨b, hopen, hunsettled, fun task htask step kind hattends => ?_⟩
  have hstage := List.all_eq_true.1 hbroken task htask
  generalize task.stage = stage at hattends hstage
  cases hattends <;> cases hstage

end Surface.Attendance

end Stepwise
