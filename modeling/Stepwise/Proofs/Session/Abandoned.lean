import Stepwise.Proofs.Session.Coherent
import Stepwise.Proofs.Session.Deferral

namespace Stepwise

open Run

/-- The request puts a question. -/
def Request.IsQuestion : Request → Prop
  | .prompt _ _ | .choose _ _ => True
  | _ => False

namespace Session

variable {σ : Type} {c : Setup σ} {s m : Session σ} {i j : Nat} {plan : Plan} {task : Task}
  {run : Option Nat}

/-- A question gets the answer that it has already: this is only said. -/
structure Replays (q : Request) (before : Session σ) (served : Served) (after : Session σ) : Prop where
  question : q.IsQuestion
  answer : ∃ b step a e, before.bridge = some b ∧ b.replay? step = some a ∧ e.IsLog ∧
    served = .wait (.delivery e [] (.retrieve step))
  session : after = { before with line := after.line }

/-- A run that was given up may visit steps, hear of what it began before, go by the answers that it
    has already, and say that it is over. No command is begun for it, no expression decided, and no
    question put. -/
def Deed.Idles : Deed σ → Prop
  | .call e _ _ => ¬ e.Asks
  | .attempt _ q before served after =>
    served = .cancelled ∧ after = before ∨ Replays q before served after
  | _ => True

/-- A request that has to wait waits for something that asks nothing to be taken. -/
def Served.Quiet : Served → Prop
  | .reply _ => True
  | .wait (.delivery e _ _) => ¬ e.Asks
  | .wait _ => False

/-- The run is over, but for its last word. -/
def Phase.IsOver : Phase → Prop
  | .posting _ [] (.finish _) | .finished _ => True
  | _ => False

/-- A run that was given up has not gone on yet, or is over. -/
def Spent (s : Session σ) (i : Nat) : Prop :=
  ∃ task, s.tasks[i]? = some task ∧
    (task.phase.isOpen = true ∧ s.isAbandoned = true ∨ task.phase.IsOver)

/-- A run that was given up has gone on, and told nothing that asks. -/
structure Quits (s : Session σ) (i : Nat) : Prop where
  spent : s.Spent i
  quiet : ∀ task e, s.tasks[i]? = some task → task.phase.underway? = some e → ¬ e.Asks

theorem quits_of_task {phase : Phase} (htask : m.tasks[i]? = some ⟨phase, false⟩)
    (hspent : phase.isOpen = true ∧ m.isAbandoned = true ∨ phase.IsOver)
    (hquiet : ∀ e, phase.underway? = some e → ¬ e.Asks) : m.Quits i := by
  refine ⟨⟨_, htask, hspent⟩, fun other e hother he => ?_⟩
  obtain rfl := Option.some.inj (htask.symm.trans hother)
  exact hquiet e he

section Deferring

variable (hdefers : c.defers)

include hdefers

theorem idles_put (hopen : s.footing.Open (some i) none) (habandoned : s.isAbandoned = true)
    {q : Request} (hq : q.IsQuestion) (place : Context) (step : String) (question : Question) :
    Deed.Idles (.attempt place q s (s.put c i step question).1 (s.put c i step question).2) ∧
      (s.put c i step question).1.Quiet ∧ (s.put c i step question).2.footing = s.footing := by
  obtain ⟨b, hb, hclosed, _⟩ := hopen.bridge
  have hbridge : s.bridge = some b := hb
  unfold put
  rw [hbridge]
  dsimp only
  cases hreplay : b.replay? step with
  | some a =>
    dsimp only
    rw [announce_cons hdefers]
    have hlog : (question.replayNotice step).IsLog := by
      cases question <;> exact trivial
    have hquiet : ¬ (question.replayNotice step).Asks := hlog.not_asks
    exact ⟨.inr ⟨hq, ⟨b, step, a, _, hbridge, hreplay, hlog, rfl⟩, rfl⟩, hquiet, rfl⟩
  | none =>
    rw [Bridge.register_of_isClosed (hclosed.trans habandoned)]
    exact ⟨.inl ⟨rfl, rfl⟩, trivial, rfl⟩

/-- No request of a run that was given up is served, but for questions that have their answers. -/
theorem idles_serve (hopen : s.footing.Open (some i) none) (habandoned : s.isAbandoned = true)
    (place : Context) (q : Request) :
    Deed.Idles (.attempt place q s (s.serve c i place q).1 (s.serve c i place q).2) ∧
      (s.serve c i place q).1.Quiet ∧ (s.serve c i place q).2.footing = s.footing := by
  have hcancelled : s.serve c i place q = (.cancelled, s) →
      Deed.Idles (.attempt place q s (s.serve c i place q).1 (s.serve c i place q).2) ∧
        (s.serve c i place q).1.Quiet ∧ (s.serve c i place q).2.footing = s.footing := by
    intro hserve
    rw [hserve]
    exact ⟨.inl ⟨rfl, rfl⟩, trivial, rfl⟩
  cases q with
  | prompt message preset =>
    exact idles_put hdefers hopen habandoned (q := .prompt message preset) trivial place ..
  | choose message options =>
    exact idles_put hdefers hopen habandoned (q := .choose message options) trivial place ..
  | command => exact hcancelled (by simp only [serve, habandoned, if_true])
  | evaluate => exact hcancelled (by simp only [serve, habandoned, if_true])
  | log => exact hcancelled (by simp only [serve, habandoned, if_true])

theorem quits_conclude (hactive : m.tasks[i]? = some ⟨.active, false⟩) (ending : Ending) :
    (m.conclude c i ending).Quits i := by
  rw [conclude_eq hdefers]
  have hconcluded : m.concluded.tasks[i]? = some ⟨.active, false⟩ := by
    rw [tasks_concluded]
    exact hactive
  refine quits_of_task (getElem?_tell_self hconcluded ..) (.inr trivial) ?_
  rintro e ⟨⟩
  exact id

omit hdefers in
theorem quits_tell (hactive : m.tasks[i]? = some ⟨.active, false⟩) (habandoned : m.isAbandoned = true)
    {e : Event} (he : ¬ e.Asks) (later : List Event) {goal : Goal}
    (hopen : Phase.isOpen (.posting e later goal) = true) : (m.tell i e later goal).Quits i := by
  refine quits_of_task (getElem?_tell_self hactive e later goal) (.inl ⟨hopen, habandoned⟩) ?_
  rintro e' ⟨⟩
  exact he

theorem quits_judge (hactive : m.tasks[i]? = some ⟨.active, false⟩)
    (habandoned : m.isAbandoned = true) (plan : Plan) (ending : Except (Context × Fault) Result) :
    (m.judge c i plan ending).Quits i := by
  rw [judge_eq hdefers]
  split
  next e later v hverdict =>
    have he : ¬ e.Asks := by
      obtain ⟨text, ⟨rfl, _⟩ | ⟨he, _⟩⟩ := verdict_cases hverdict
      · exact id
      · exact he.not_asks
    have hopen : Phase.isOpen (.posting e later (.keep plan v)) = true := rfl
    exact quits_tell (m := { m with diagnostics := plan.diagnosed c m.diagnostics ending }) hactive
      habandoned he later hopen
  next => exact quits_conclude hdefers hactive _

omit hdefers in
theorem quits_wait (hactive : m.tasks[i]? = some ⟨.active, false⟩) (habandoned : m.isAbandoned = true)
    {next : Reply → Dialogue Result} {wait : Wait} (hquiet : (Served.wait wait).Quiet) :
    (m.setPhase i (.playing plan next wait)).Quits i := by
  refine quits_of_task (getElem?_setPhase_self hactive _) (.inl ⟨rfl, habandoned⟩) ?_
  cases wait with
  | delivery e later aim =>
    rintro e' ⟨⟩
    exact hquiet
  | ticket | command => exact hquiet.elim

/-- A run that was given up does nothing any more as it plays. -/
theorem idles_proceed (hactive : m.tasks[i]? = some ⟨.active, false⟩)
    (hopen : m.footing.Open (some i) none) (habandoned : m.isAbandoned = true) (plan : Plan)
    (d : Dialogue Result) :
    (∀ deed ∈ playDeeds c i plan d m, deed.Idles) ∧ (m.proceed c i plan d).Quits i := by
  induction d generalizing m with
  | done r =>
    refine ⟨?_, quits_judge hdefers (m := { m with player := none }) hactive habandoned plan (.ok r)⟩
    simp [playDeeds, Deed.Idles]
  | fail place fault =>
    refine ⟨?_, quits_judge hdefers (m := { m with player := none }) hactive habandoned plan
      (.error (place, fault))⟩
    simp [playDeeds, Deed.Idles]
  | visit place rest ih =>
    obtain ⟨hidles, hquits⟩ := ih hactive hopen habandoned
    refine ⟨fun deed hdeed => ?_, hquits⟩
    rcases List.mem_cons.1 hdeed with rfl | hdeed
    · exact trivial
    · exact hidles deed hdeed
  | ask place q next ih =>
    obtain ⟨hidles, hquiet, hfooting⟩ := idles_serve hdefers hopen habandoned place q
    have htasks := (serves_serve hdefers m i place q).tasks_eq
    rw [proceed_ask_eq]
    unfold playDeeds
    generalize m.serve c i place q = served at hidles hquiet hfooting htasks ⊢
    obtain ⟨reply | wait, m'⟩ := served
    · dsimp only at hfooting htasks
      obtain ⟨hrest, hquits⟩ := ih place reply (m := m') (by rw [htasks, hactive])
        (hfooting ▸ hopen) ((congrArg Footing.isAbandoned hfooting).trans habandoned)
      refine ⟨fun deed hdeed => ?_, hquits⟩
      rcases List.mem_cons.1 hdeed with rfl | hdeed
      · exact hidles
      · exact hrest deed hdeed
    · dsimp only at hfooting htasks
      exact ⟨fun deed hdeed => List.mem_singleton.1 hdeed ▸ hidles,
        quits_wait (by rw [htasks, hactive])
          ((congrArg Footing.isAbandoned hfooting).trans habandoned) hquiet⟩

omit hdefers in
theorem isAbandoned_deliver {e : Event} {current : Option Nat} (hsteady : s.footing.Steady)
    (hbridge : s.bridge.isSome) (hgives : (c.host.receive e s.host).1 = true) :
    (s.deliver c current e).isAbandoned = true := by
  obtain ⟨b, hb⟩ := Option.isSome_iff_exists.1 hbridge
  unfold deliver
  dsimp only
  rw [if_pos hgives]
  generalize (c.host.receive e s.host).2 = host
  obtain ⟨line, heq⟩ := abandon_eq (s := { s with events := s.events ++ [e], host }) hb
    (hsteady b hb) current
  rw [heq]

omit hdefers in
/-- A run is given up as a task goes on if the surface does so. -/
theorem gives_of_givenUp (hgiven : s.givenUp? c (.wake j) = some i) :
    ∃ e, s.taken? j = some e ∧ (c.host.receive e s.host).1 = true ∧ s.bridge.isSome := by
  unfold givenUp? at hgiven
  split at hgiven
  next hgives =>
    rw [Bool.and_eq_true, givesUp, Option.any_eq_true] at hgives
    obtain ⟨⟨e, htaken, hreceive⟩, hbridge⟩ := hgives
    exact ⟨e, htaken, hreceive, hbridge⟩
  next => cases hgiven

omit hdefers in
/-- Once a task has told its event, a run that was given up before or is given up now is. -/
theorem isAbandoned_hand (hsteady : s.footing.Steady) {e : Event} (htaken : s.taken? j = some e)
    (hgiven : s.isAbandoned = true ∨ s.givenUp? c (.wake j) = some i) :
    (s.hand c j e).isAbandoned = true := by
  rcases hgiven with habandoned | hgiven
  · exact (stirs_hand hsteady c j e).isAbandoned habandoned
  · obtain ⟨e', htaken', hgives, hbridge⟩ := gives_of_givenUp hgiven
    obtain rfl : e' = e := Option.some.inj (htaken'.symm.trans htaken)
    exact isAbandoned_deliver (s := s.seat j) hsteady hbridge hgives

omit hdefers in
theorem isAbandoned_of_idle (htaken : s.taken? j = none)
    (hgiven : s.isAbandoned = true ∨ s.givenUp? c (.wake j) = some i) : s.isAbandoned = true := by
  rcases hgiven with habandoned | hgiven
  · exact habandoned
  · obtain ⟨e, htaken', _⟩ := gives_of_givenUp hgiven
    exact nomatch htaken.symm.trans htaken'

omit hdefers in
/-- No question of a run that was given up waits for its answer. -/
theorem quiet_reach (aim : Aim) (hopen : s.footing.Open (some i) none) : (s.reach aim).Quiet := by
  obtain ⟨b, hb, _, hcalm⟩ := hopen.bridge
  have hbridge : s.bridge = some b := hb
  unfold reach
  split
  · exact trivial
  · split <;> exact trivial
  next t =>
    rw [hbridge, Option.bind_some]
    split
    next hticket => exact absurd hticket (Bridge.Calm.notServesUnsettled hcalm t)
    · exact trivial
    · exact trivial
    · exact trivial

theorem quiet_announce {es : List Event} (hlogs : ∀ e ∈ es, e.IsLog) (aim : Aim)
    (hopen : s.footing.Open (some i) none) : (s.announce c i es aim).1.Quiet := by
  cases es with
  | nil => exact quiet_reach aim hopen
  | cons e later =>
    rw [announce_cons hdefers]
    exact (hlogs e List.mem_cons_self).not_asks

theorem quiet_comes {wait : Wait} {isFlagged : Bool} {next : Reply → Dialogue Result}
    (htask : s.tasks[i]? = some ⟨.playing plan next wait, isFlagged⟩)
    (hopen : s.footing.Open (some i) wait.ticket?) (htells : wait.Tells)
    (hgiven : s.isAbandoned = true ∨ s.givenUp? c (.wake i) = some i) :
    (s.comes c i wait isFlagged).1.Quiet ∧ (s.comes c i wait isFlagged).2.isAbandoned = true := by
  have hidle : s.taken? i = none → s.isAbandoned = true ∧ (s.seat i).footing.Open (some i) none :=
    fun htaken => ⟨isAbandoned_of_idle htaken hgiven,
      hopen.of_isAbandoned (isAbandoned_of_idle htaken hgiven)⟩
  unfold comes
  split
  next hflagged =>
    exact ⟨trivial, (hidle (by simp [taken?, htask, hflagged])).1⟩
  next hflagged =>
    have hflag : isFlagged = false := Bool.eq_false_iff.2 hflagged
    cases wait with
    | delivery e later aim =>
      have habandoned : (s.hand c i e).isAbandoned = true :=
        isAbandoned_hand hopen.steady (by simp [taken?, htask, hflag, Phase.underway?]) hgiven
      have hopen' := (hopen.stir (stirs_hand hopen.steady c i e)).of_isAbandoned habandoned
      have hserves := serves_announce hdefers (s.hand c i e) i later aim
      refine ⟨quiet_announce hdefers htells.2.1 aim hopen', ?_⟩
      exact (congrArg Session.isAbandoned hserves.eq).trans habandoned
    | ticket t =>
      obtain ⟨habandoned, hopen'⟩ := hidle (by simp [taken?, htask, Phase.underway?])
      exact ⟨quiet_reach (.await t) hopen', habandoned⟩
    | command argv cwd isOver =>
      obtain ⟨habandoned, hopen'⟩ := hidle (by simp [taken?, htask, Phase.underway?])
      have hserves := serves_collect hdefers (s.seat i) i argv cwd
      refine ⟨?_, (congrArg Session.isAbandoned hserves.eq).trans habandoned⟩
      simp only [awaken, collect]
      split
      next o _ =>
        exact quiet_announce hdefers (s := { s.seat i with host := _ })
          (fun e he => isLog_of_mem_outcomeLog he) _ hopen'
      next => exact trivial

theorem quits_keep (hactive : m.tasks[i]? = some ⟨.active, false⟩) (plan : Plan) (v : Verdict) :
    (m.keep c i plan v).Quits i := by
  unfold keep
  split
  · exact quits_conclude hdefers hactive _
  · dsimp only
    split <;> exact quits_conclude hdefers (by exact hactive) _

omit hdefers in
theorem not_isAside_of_isOpen {phase : Phase} (hopen : phase.isOpen = true) : ¬ phase.IsAside := by
  intro haside
  unfold Phase.isOpen at hopen
  split at hopen <;> simp_all [Phase.IsAside]

/-- A run that was given up does nothing any more as it goes on. -/
theorem idles_wake (horder : Order s.footing s.tasks run) (htask : s.tasks[i]? = some task)
    (hopen : task.phase.isOpen = true)
    (hgiven : s.isAbandoned = true ∨ s.givenUp? c (.wake i) = some i) :
    (∀ deed ∈ s.deeds c i, deed.Idles) ∧ (s.happen c (.wake i)).Quits i := by
  obtain ⟨rfl, hothers, hstands⟩ := horder.stands htask (not_isAside_of_isOpen hopen)
  have hactive : ∀ e, (s.hand c i e).tasks[i]? = some ⟨.active, false⟩ :=
    getElem?_hand_self horder.steady htask
  have hnone : s.deeds c i = [] → ∀ deed ∈ s.deeds c i, deed.Idles := by
    intro hdeeds deed hdeed
    rw [hdeeds] at hdeed
    cases hdeed
  cases hstands with
  | opening e later plan h => cases hopen
  | ready e later plan h hnews =>
    have habandoned : (s.hand c i e).isAbandoned = true :=
      isAbandoned_hand horder.steady (by simp [taken?, htask, Phase.underway?]) hgiven
    cases later with
    | nil =>
      have hopen' := h.stir (stirs_hand horder.steady c i e)
      rw [deeds_of_ready htask, wake_posting_nil htask]
      exact idles_proceed hdefers (m := { s.hand c i e with player := some i }) (hactive e)
        ⟨hopen'.isRunning, hopen'.bridge, rfl⟩ habandoned plan _
    | cons e' later =>
      rw [wake_posting_cons hdefers htask]
      exact ⟨hnone (by simp only [deeds, htask]),
        quits_tell (hactive e) habandoned (hnews e' List.mem_cons_self).not_asks later rfl⟩
  | playing plan next wait isFlagged h htells hflag =>
    obtain ⟨hquiet, habandoned⟩ := quiet_comes hdefers htask h htells hgiven
    obtain ⟨hserved, htasks⟩ := stands_comes hdefers h htells hflag
    have hseat := getElem?_seat_self htask
    rw [deeds_of_playing htask, wake_playing htask]
    generalize s.comes c i wait isFlagged = served at hquiet habandoned hserved htasks
    obtain ⟨reply | w, m⟩ := served
    · obtain ⟨hidles, hquits⟩ := idles_proceed hdefers (m := m) (by rw [htasks, hseat]) hserved.1
        habandoned plan (next reply)
      refine ⟨fun deed hdeed => ?_, hquits⟩
      rcases List.mem_cons.1 hdeed with rfl | hdeed
      · exact trivial
      · exact hidles deed hdeed
    · exact ⟨List.forall_mem_nil _, quits_wait (by rw [htasks, hseat]) habandoned hquiet⟩
  | closing e later plan v h hnews =>
    have habandoned : (s.hand c i e).isAbandoned = true :=
      isAbandoned_hand horder.steady (by simp [taken?, htask, Phase.underway?]) hgiven
    refine ⟨hnone (by simp only [deeds, htask]), ?_⟩
    cases later with
    | nil =>
      rw [wake_posting_nil htask]
      exact quits_keep hdefers (hactive e) plan v
    | cons e' later =>
      rw [wake_posting_cons hdefers htask]
      exact quits_tell (hactive e) habandoned (hnews e' List.mem_cons_self).not_asks later rfl

/-- A task aside goes on: but for the event that is taken, nothing happens that the active run would
    notice. -/
theorem footing_wake_aside (horder : Order s.footing s.tasks (some i)) (hj : j ≠ i) :
    (s.happen c (.wake j)).footing = match s.taken? j with
      | some e => (s.hand c j e).footing
      | none => s.footing := by
  cases htask : s.tasks[j]? with
  | none =>
    rw [wake_none htask]
    simp only [taken?, htask, Option.bind_none]
    rfl
  | some task =>
    have haside := horder.aside (fun heq => hj (Option.some.inj heq).symm) htask
    obtain ⟨phase, isFlagged⟩ := task
    obtain ⟨hphase, rfl⟩ : phase.IsAside ∧ isFlagged = false := ⟨haside.phase, haside.isFlagged⟩
    cases phase with
    | playing => exact hphase.elim
    | finished | active =>
      rw [wake_still htask trivial]
      simp only [taken?, htask, Option.bind_some, Phase.underway?]
      rfl
    | new r =>
      have hrunning : (s.seat j).isRunning = true := by
        cases horder with
        | active _ _ _ _ hstands => exact hstands.isRunning
      rw [wake_new htask, consider, if_pos hrunning, post_cons hdefers]
      simp only [taken?, htask, Option.bind_some, Phase.underway?]
      rfl
    | posting e later goal =>
      have htaken : s.taken? j = some e := by simp [taken?, htask, Phase.underway?]
      rw [htaken]
      cases later with
      | nil =>
        rw [wake_posting_nil htask]
        cases goal with
        | refuse | finish => rfl
        | prepare | play | keep => exact hphase.elim
      | cons e' later =>
        rw [wake_posting_cons hdefers htask]
        rfl

/-- While the active run does not go on, it is only answered or given up. -/
theorem stirs_happen (horder : Order s.footing s.tasks (some i)) {x : Happening}
    (hx : x ≠ .wake i) : s.footing.Stirs (s.happen c x).footing := by
  cases x with
  | request | shuffle => exact .same
  | message v =>
    simp only [happen, receive]
    split
    · exact .same
    next step r _ => exact (stirs_answer horder.steady step r).1
    · exact .same
  | abandon current => exact (stirs_abandon horder.steady current).1
  | wake j =>
    rw [footing_wake_aside hdefers horder fun heq => hx (heq ▸ rfl)]
    split
    next e _ => exact stirs_hand horder.steady c j e
    next => exact .same

/-- A run that was given up before, or is given up now, is. -/
theorem isAbandoned_happen (horder : Order s.footing s.tasks (some i)) {x : Happening}
    (hx : x ≠ .wake i) (hgiven : s.isAbandoned = true ∨ s.givenUp? c x = some i) :
    (s.happen c x).isAbandoned = true := by
  rcases hgiven with habandoned | hgiven
  · exact (stirs_happen hdefers horder hx).isAbandoned habandoned
  · cases x with
    | request | message | shuffle => cases hgiven
    | abandon current =>
      simp only [givenUp?, givesUp, Bool.true_and] at hgiven
      split at hgiven
      next hbridge =>
        obtain ⟨b, hb⟩ := Option.isSome_iff_exists.1 hbridge
        obtain ⟨line, heq⟩ := abandon_eq hb (horder.steady b hb) current
        rw [happen, heq]
      next => cases hgiven
    | wake j =>
      have hfooting := footing_wake_aside (c := c) hdefers horder (j := j) fun heq => hx (heq ▸ rfl)
      obtain ⟨e, htaken, _⟩ := gives_of_givenUp hgiven
      rw [htaken] at hfooting
      exact (congrArg Footing.isAbandoned hfooting).trans
        (isAbandoned_hand horder.steady htaken (.inr hgiven))

omit hdefers in
theorem dropped_stays (task : Task) : task.dropped.phase.isOpen = task.phase.isOpen ∧
    (task.phase.IsOver → task.dropped.phase.IsOver) := by
  rcases task with ⟨_ | ⟨_, _ | _, _⟩ | ⟨_, _, _ | _ | ⟨_, _, _ | _⟩⟩ | _ | _, _⟩ <;> exact ⟨rfl, id⟩

omit hdefers in
/-- A run that is over is over after its last word. -/
theorem idles_of_isOver (horder : Order s.footing s.tasks run) (htask : s.tasks[i]? = some task)
    (hover : task.phase.IsOver) :
    (∀ deed ∈ s.deeds c i, deed.Idles) ∧ (s.happen c (.wake i)).Quits i := by
  obtain ⟨phase, isFlagged⟩ := task
  have haside : phase.IsAside := by
    unfold Phase.IsOver at hover
    split at hover <;> simp_all [Phase.IsAside]
  obtain rfl : isFlagged = false := horder.isFlagged htask haside
  have hfinished : ∀ {m : Session σ} {ending}, m.tasks[i]? = some ⟨.finished ending, false⟩ →
      m.Quits i := fun hget => quits_of_task hget (.inr trivial) (by rintro e ⟨⟩)
  cases phase with
  | new | playing | active => exact hover.elim
  | finished ending =>
    rw [wake_still htask trivial]
    refine ⟨?_, hfinished htask⟩
    simp [deeds, htask]
  | posting e later goal =>
    cases later with
    | cons => exact hover.elim
    | nil =>
      cases goal with
      | refuse | prepare | play | keep => exact hover.elim
      | finish ending =>
        have hactive : (s.hand c i e).tasks[i]? = some ⟨.active, false⟩ :=
          getElem?_hand_self horder.steady htask e
        rw [wake_posting_nil htask]
        refine ⟨?_, hfinished (getElem?_setPhase_self hactive _)⟩
        simp [deeds, htask]

/-- A run that was given up, or is given up now, starts nothing and asks nothing. -/
theorem spent_happen (horder : Order s.footing s.tasks run) (x : Happening)
    (hgiven : s.Spent i ∨ s.givenUp? c x = some i) : (s.happen c x).Spent i ∧
      (x = .wake i → ∀ deed ∈ s.deeds c i ++ s.callDeeds c i, deed.Idles) := by
  obtain ⟨task, htask, hphase⟩ : ∃ task, s.tasks[i]? = some task ∧
      (task.phase.isOpen = true ∧ (s.isAbandoned = true ∨ s.givenUp? c x = some i) ∨
        task.phase.IsOver) := by
    rcases hgiven with ⟨task, htask, ⟨hopen, habandoned⟩ | hover⟩ | hgiven
    · exact ⟨task, htask, .inl ⟨hopen, .inl habandoned⟩⟩
    · exact ⟨task, htask, .inr hover⟩
    · obtain ⟨task, htask, hopen⟩ := isOpen_of_givenUp hgiven
      exact ⟨task, htask, .inl ⟨hopen, .inr hgiven⟩⟩
  by_cases hx : x = .wake i
  · subst hx
    obtain ⟨hidles, hquits⟩ : (∀ deed ∈ s.deeds c i, deed.Idles) ∧
        (s.happen c (.wake i)).Quits i := by
      rcases hphase with ⟨hopen, hgiven⟩ | hover
      · exact idles_wake hdefers horder htask hopen hgiven
      · exact idles_of_isOver horder htask hover
    refine ⟨hquits.spent, fun _ deed hdeed => ?_⟩
    rcases List.mem_append.1 hdeed with hdeed | hdeed
    · exact hidles deed hdeed
    · obtain ⟨e, he, rfl⟩ := List.mem_map.1 hdeed
      obtain ⟨task', htask', he⟩ := Option.bind_eq_some_iff.1 (Option.mem_toList.1 he)
      exact hquits.quiet task' e htask' he
  · refine ⟨?_, fun heq => absurd heq hx⟩
    have hstays : ∃ task', (s.happen c x).tasks[i]? = some task' ∧
        task'.phase.isOpen = task.phase.isOpen ∧ (task.phase.IsOver → task'.phase.IsOver) := by
      rcases others_happen hdefers horder.steady hx htask with hsame | hdropped
      · exact ⟨task, hsame, rfl, id⟩
      · exact ⟨task.dropped, hdropped, dropped_stays task⟩
    obtain ⟨task', htask', hisOpen, hisOver⟩ := hstays
    rcases hphase with ⟨hopen, hgiven⟩ | hover
    · obtain ⟨rfl, _⟩ := horder.stands htask (not_isAside_of_isOpen hopen)
      exact ⟨task', htask', .inl ⟨hisOpen.trans hopen, isAbandoned_happen hdefers horder hx hgiven⟩⟩
    · exact ⟨task', htask', .inr (hisOver hover)⟩

end Deferring

/-- Once a run was given up, it starts nothing and asks nothing. -/
def Quiet (ds : List (Deed σ)) : Prop :=
  ∀ before after, ds = before ++ .giveUp :: after → ∀ deed ∈ after, deed.Idles

theorem Quiet.append {ds es : List (Deed σ)} (h : Quiet ds) (hlast : Quiet es)
    (hidles : .giveUp ∈ ds → ∀ deed ∈ es, deed.Idles) : Quiet (ds ++ es) := by
  intro before after heq deed hdeed
  rcases List.append_eq_append_iff.1 heq with ⟨rest, rfl, hrest⟩ | ⟨rest, rfl, hrest⟩
  · exact hlast rest after hrest deed hdeed
  · cases rest with
    | nil => exact hlast [] after hrest.symm deed hdeed
    | cons first rest =>
      obtain ⟨rfl, rfl⟩ := List.cons_eq_cons.1 hrest
      rcases List.mem_append.1 hdeed with hdeed | hdeed
      · exact h before rest rfl deed hdeed
      · exact hidles (List.mem_append_right _ List.mem_cons_self) deed hdeed

theorem quiet_of_not_mem {ds : List (Deed σ)} (hnot : .giveUp ∉ ds) : Quiet ds := by
  rintro before after rfl
  exact absurd (List.mem_append_right _ List.mem_cons_self) hnot

/-- That a run is given up is no deed that it would have to leave. -/
theorem Quiet.gaveUp {ds : List (Deed σ)} (h : Quiet ds) (c : Setup σ) (s : Session σ)
    (x : Happening) (i : Nat) : Quiet (ds ++ s.gaveUp c x i) := by
  unfold Session.gaveUp
  split
  · refine h.append (fun before after heq deed hdeed => ?_) fun _ deed hdeed => ?_
    · rcases List.append_eq_singleton_iff.1 heq.symm with ⟨rfl, hcons⟩ | ⟨_, hnil⟩
      · cases hcons
        cases hdeed
      · cases hnil
    · obtain rfl := List.mem_singleton.1 hdeed
      exact trivial
  · rwa [List.append_nil]

theorem not_mem_playDeeds (c : Setup σ) (i : Nat) (plan : Plan) (d : Dialogue Result)
    (s : Session σ) : .giveUp ∉ playDeeds c i plan d s := by
  induction d generalizing s with
  | done r => simp [playDeeds]
  | fail place fault => simp [playDeeds]
  | visit place rest ih => simpa [playDeeds] using ih s
  | ask place q next ih =>
    unfold playDeeds
    obtain ⟨reply | wait, s'⟩ := s.serve c i place q
    · simpa using ih place reply s'
    · simp

/-- What a task does as it goes on does not give it up. -/
theorem not_mem_deeds (c : Setup σ) (s : Session σ) (i : Nat) :
    .giveUp ∉ s.deeds c i ++ s.callDeeds c i := by
  refine fun hmem => (List.mem_append.1 hmem).elim (fun hmem => ?_) fun hmem => ?_
  · unfold deeds at hmem
    split at hmem
    · unfold acceptDeeds at hmem
      split at hmem <;> simp at hmem
    · exact not_mem_playDeeds _ _ _ _ _ hmem
    · unfold replyDeeds at hmem
      split at hmem
      · rcases List.mem_cons.1 hmem with heq | hmem
        · cases heq
        · exact not_mem_playDeeds _ _ _ _ _ hmem
      · cases hmem
    · cases hmem
  · obtain ⟨e, _, heq⟩ := List.mem_map.1 hmem
    cases heq

end Session

open Session

namespace Chronicle

variable {σ : Type} {c : Setup σ} {ch : Chronicle σ} {i : Nat}

/-- No run does anything once it was given up. -/
structure Still (c : Setup σ) (ch : Chronicle σ) : Prop where
  order : ∃ run, Order ch.session.footing ch.session.tasks run
  quiet : ∀ i, Quiet (ch.of i)
  spent : ∀ i, .giveUp ∈ ch.of i → ch.session.Spent i

theorem Still.note (h : Still c ch) (hdefers : c.defers) (x : Happening) : Still c (ch.note c x) := by
  obtain ⟨run, horder⟩ := h.order
  obtain ⟨run', horder', _⟩ := order_happen hdefers horder x
  have hgaveUp : ∀ {i}, .giveUp ∈ ch.of i ++ ch.session.gaveUp c x i →
      ch.session.Spent i ∨ ch.session.givenUp? c x = some i := by
    intro i hmem
    rcases List.mem_append.1 hmem with hold | hnew
    · exact .inl (h.spent i hold)
    · unfold gaveUp at hnew
      split at hnew
      next hgiven => exact .inr hgiven
      next => cases hnew
  refine ⟨⟨run', horder'⟩, fun i => ?_, fun i hmem => ?_⟩
  · rw [of_note]
    rcases own_entries_cases c ch.session x i with heq | ⟨rfl, heq⟩
    · rw [heq]
      exact (h.quiet i).gaveUp c ch.session x i
    · rw [heq, ← List.append_assoc]
      refine ((h.quiet i).gaveUp c ch.session _ i).append
        (quiet_of_not_mem (not_mem_deeds _ _ _)) fun hmem => ?_
      exact (spent_happen hdefers horder _ (hgaveUp hmem)).2 rfl
  · rw [of_note] at hmem
    refine (spent_happen hdefers horder x (hgaveUp ?_)).1
    rcases own_entries_cases c ch.session x i with heq | ⟨rfl, heq⟩
    · rwa [heq] at hmem
    · rw [heq, ← List.append_assoc] at hmem
      exact (List.mem_append.1 hmem).resolve_right (not_mem_deeds _ _ _)

theorem Still.run (h : Still c ch) (hdefers : c.defers) (xs : List Happening) :
    Still c (ch.run c xs) := by
  induction xs generalizing ch with
  | nil => exact h
  | cons x xs ih => exact ih (h.note hdefers x)

theorem still_start (c : Setup σ) (saved : Option SavedRun) (host : σ) :
    Still c (start c saved host) where
  order := (coherent_start c saved host).order
  quiet _ := quiet_of_not_mem List.not_mem_nil
  spent _ hmem := absurd hmem List.not_mem_nil

/-- The record of a run only grows. -/
theorem exists_of_run (c : Setup σ) (ch : Chronicle σ) (xs : List Happening) (i : Nat) :
    ∃ more, (ch.run c xs).of i = ch.of i ++ more := by
  induction xs generalizing ch with
  | nil => exact ⟨[], (List.append_nil _).symm⟩
  | cons x xs ih =>
    obtain ⟨more, hmore⟩ := ih (ch.note c x)
    exact ⟨own (ch.session.entries c x) i ++ more, hmore.trans (by rw [of_note, List.append_assoc])⟩

/-- Whoever gives up gives up the run that has its bridge. -/
theorem Still.givenUp (h : Still c ch) {task : Task} (htask : ch.session.tasks[i]? = some task)
    (hopen : task.phase.isOpen = true) {x : Happening} (hgives : ch.session.givesUp c x = true) :
    ch.session.givenUp? c x = some i := by
  obtain ⟨run, horder⟩ := h.order
  obtain ⟨rfl, hothers, hstands⟩ := horder.stands htask (not_isAside_of_isOpen hopen)
  have hbridge : ch.session.bridge.isSome = true := by
    cases hstands with
    | opening => cases hopen
    | ready _ _ _ h | playing _ _ _ _ h | closing _ _ _ _ h =>
      obtain ⟨b, hb, _⟩ := h.bridge
      exact congrArg Option.isSome hb
  unfold givenUp?
  rw [if_pos (by rw [hgives, hbridge]; rfl)]
  obtain ⟨hlt, hget⟩ := List.getElem?_eq_some_iff.1 htask
  refine List.findIdx?_eq_some_iff_getElem.2 ⟨hlt, hget ▸ hopen, fun j hj => ?_⟩
  rw [Bool.not_eq_true]
  refine Bool.eq_false_iff.2 fun hother => not_isAside_of_isOpen hother ?_
  exact (hothers j _ hj.ne (List.getElem?_eq_getElem _)).phase

/-- Whatever happens, and in whatever order: once the run that has its bridge is given up, by whomever
    and wherever it stands, no command is begun for it, no expression decided and no question put. It
    is enough to say so of a surface that lets everything else go first before it takes an event: what
    comes of a session with one that takes events at once, its host included, comes of this one. -/
theorem idles_after_giveUp (c : Setup σ) (saved : Option SavedRun) (host : σ)
    (xs : List Happening) (x : Happening) (ys : List Happening) {i : Nat} {task : Task}
    (hch : (start c.deferring saved host).run c.deferring xs = ch)
    (htask : ch.session.tasks[i]? = some task) (hopen : task.phase.isOpen = true)
    (hgives : ch.session.givesUp c.deferring x = true) :
    (∃ after, ((ch.note c.deferring x).run c.deferring ys).of i = ch.of i ++ .giveUp :: after ∧
      ∀ deed ∈ after, deed.Idles) ∧
    ∀ zs, ∃ ws, (start c saved host).session.happens c zs =
      ((start c.deferring saved host).run c.deferring ws).session := by
  refine ⟨?_, exists_deferring c saved host⟩
  subst hch
  have hstill := (still_start c.deferring saved host).run rfl xs
  have hgiven := hstill.givenUp htask hopen hgives
  obtain ⟨more, hmore⟩ := exists_of_run c.deferring
    (((start c.deferring saved host).run c.deferring xs).note c.deferring x) ys i
  have hquiet := ((hstill.note rfl x).run rfl ys).quiet i
  generalize (start c.deferring saved host).run c.deferring xs = ch at *
  have hafter : ∃ after, own (ch.session.entries c.deferring x) i = .giveUp :: after := by
    have hgave : ch.session.gaveUp c.deferring x i = [.giveUp] := if_pos hgiven
    by_cases hx : x = .wake i
    · subst hx
      rw [own_entries_self, hgave]
      exact ⟨_, rfl⟩
    · rw [own_entries_ne _ _ hx, hgave]
      exact ⟨[], rfl⟩
  obtain ⟨after, hafter⟩ := hafter
  rw [of_note, hafter] at hmore
  refine ⟨after ++ more, hmore.trans (by simp), fun deed hdeed => ?_⟩
  exact hquiet (ch.of i) (after ++ more) (hmore.trans (by simp)) deed hdeed

/-- A run that is asked for again is given up while the surface is told that the name is known. -/
theorem idles_after_giveUp_errand :
    let c := (Setup.shelf errand fun e => e matches .log _ "Replaying saved answer for ask").deferring
    let saved : SavedRun := ⟨"sample", .ofList [("ask", "ann")], .empty, none, none, 0⟩
    let ch := (start c (some saved) none).run c
      [.request none true false .empty, .wake 0, .wake 0, .wake 0, .wake 0]
    ch.session.givesUp c (.wake 0) = true ∧
      ∃ after, ((ch.note c (.wake 0)).run c [.wake 0, .wake 0]).of 0 = ch.of 0 ++ .giveUp :: after ∧
        ∀ deed ∈ after, deed.Idles := by
  intro c saved ch
  have hgives : ch.session.givesUp c (.wake 0) = true := by decide +kernel
  have hplays : (ch.session.tasks[0]?).any (fun task => task.phase.isOpen) = true := by
    decide +kernel
  obtain ⟨task, htask, hopen⟩ := (Option.any_eq_true _ _).1 hplays
  exact ⟨hgives, (idles_after_giveUp _ (some saved) none _ (.wake 0) [.wake 0, .wake 0] rfl htask
    hopen hgives).1⟩

end Chronicle

end Stepwise
