import Stepwise.Proofs.Session.Chronicle

namespace Stepwise

namespace Session

variable {σ : Type} {c : Setup σ} {s m : Session σ} {i j : Nat}

def happens (c : Setup σ) (s : Session σ) (xs : List Happening) : Session σ :=
  xs.foldl (happen c) s

/-- A session can come to another. -/
def Comes (c : Setup σ) (s m : Session σ) : Prop :=
  ∃ xs, s.happens c xs = m

theorem Comes.refl (s : Session σ) : Comes c s s :=
  ⟨[], rfl⟩

theorem Comes.trans {n : Session σ} (h : Comes c s m) (h' : Comes c m n) : Comes c s n := by
  obtain ⟨xs, rfl⟩ := h
  obtain ⟨ys, rfl⟩ := h'
  exact ⟨xs ++ ys, List.foldl_append ..⟩

theorem comes_happen (s : Session σ) (x : Happening) : Comes c s (s.happen c x) :=
  ⟨[x], rfl⟩

theorem getElem?_cancel_ne (s : Session σ) (hne : i ≠ j) : (s.cancel j).tasks[i]? = s.tasks[i]? := by
  have hmodify : ∀ (f : Task → Task) (tasks : List Task), (tasks.modify j f)[i]? = tasks[i]? :=
    fun f tasks => List.getElem?_modify_ne _ _ hne.symm
  unfold cancel
  split
  · rfl
  · rfl
  · split
    · split
      · rfl
      · exact hmodify ..
    · exact hmodify ..
  · exact (hmodify ..).trans (hmodify ..)
  · exact hmodify ..

/-- The task at work goes on working, whatever it tells. -/
theorem getElem?_deliver_self (s : Session σ) (c : Setup σ) (i : Nat) (e : Event) :
    (s.deliver c (some i) e).tasks[i]? = s.tasks[i]? := by
  unfold deliver
  dsimp only
  split
  · unfold abandon
    cases s.bridge with
    | none => rfl
    | some b =>
      dsimp only
      split
      next k _ =>
        split
        · rfl
        next hne => exact getElem?_cancel_ne _ fun heq => hne (congrArg some heq)
      · rfl
  · rfl

/-- A task that waits for an event to be taken is at work again, as it was. -/
theorem seat_setPhase {phase : Phase} (hactive : m.tasks[i]? = some ⟨.active, false⟩) :
    ({ m.setPhase i phase with line := i :: m.line } : Session σ).seat i = m := by
  have htasks : (m.tasks.modify i fun task => { task with phase }).set i ⟨.active, false⟩ =
      m.tasks := by
    refine List.ext_getElem? fun j => ?_
    by_cases hj : i = j
    · subst hj
      rw [List.getElem?_set_self', List.getElem?_modify_eq, hactive]
      rfl
    · rw [List.getElem?_set_ne hj, List.getElem?_modify_ne _ _ hj]
  simp only [seat, setPhase, htasks, List.erase_cons_head]

/-- Where a command runs. -/
def Setup.directory (c : Setup σ) (cwd : Option String) : Option String :=
  cwd.filter (fun cwd : String => !cwd.isEmpty) <|> c.workspace

theorem serve_command_eq (s : Session σ) (c : Setup σ) (i : Nat) (place : Context)
    (command : String) (args : Option (List String)) (cwd : Option String) :
    s.serve c i place (.command command args cwd) =
      if s.isAbandoned then (.cancelled, s)
      else if (c.host.begin command s.host).1 then
        (.wait (.command (command :: args.getD []) (c.directory cwd) false),
          { s with host := (c.host.begin command s.host).2 })
      else
        ({ s with host := (c.host.begin command s.host).2 } : Session σ).collect c i
          (command :: args.getD []) (c.directory cwd) :=
  rfl

section Immediate

variable (himmediate : c.defers = false)

include himmediate

/-- Events that are taken at once are taken one by one. -/
theorem post_cons_of_immediate (m : Session σ) (e : Event) (later : List Event) (goal : Goal)
    (reached : Session σ → Session σ) :
    m.post c i (e :: later) goal reached = (m.deliver c (some i) e).post c i later goal reached := by
  cases later <;> simp [post, himmediate, deliverAll]

theorem announce_cons_of_immediate (m : Session σ) (e : Event) (later : List Event) (aim : Aim) :
    m.announce c i (e :: later) aim = (m.deliver c (some i) e).announce c i later aim := by
  cases later <;> simp [announce, himmediate, deliverAll]

theorem comes_post (es : List Event) {goal : Goal}
    (hactive : m.tasks[i]? = some ⟨.active, false⟩)
    (hgoal : ∀ m : Session σ, m.tasks[i]? = some ⟨.active, false⟩ →
      Comes c.deferring (m.reachGoal c.deferring i goal) (m.reachGoal c i goal)) :
    Comes c.deferring (m.post c.deferring i es goal (reachGoal c.deferring i goal))
      (m.post c i es goal (reachGoal c i goal)) := by
  induction es generalizing m with
  | nil => exact hgoal m hactive
  | cons e later ih =>
    rw [post_cons_of_immediate himmediate, post_cons rfl]
    have hwaiting : ({ m.setPhase i (.posting e later goal) with line := i :: m.line } :
        Session σ).tasks[i]? = some ⟨.posting e later goal, false⟩ :=
      getElem?_setPhase_self hactive _
    have hwake := wake_posting (c := c.deferring) hwaiting
    rw [hand, seat_setPhase hactive] at hwake
    refine ((comes_happen _ (.shuffle (i :: m.line))).trans (comes_happen _ (.wake i))).trans ?_
    have heq : happen c.deferring (happen c.deferring (m.tell i e later goal)
        (.shuffle (i :: m.line))) (.wake i) = _ := hwake
    rw [heq]
    exact ih ((getElem?_deliver_self m c i e).trans hactive)

theorem comes_conclude (ending : Ending) (hactive : m.tasks[i]? = some ⟨.active, false⟩) :
    Comes c.deferring (m.conclude c.deferring i ending) (m.conclude c i ending) := by
  have hpost : ∀ {m : Session σ}, m.tasks[i]? = some ⟨.active, false⟩ →
      Comes c.deferring
        (m.post c.deferring i [.busy false] (.finish ending) (reachGoal c.deferring i (.finish ending)))
        (m.post c i [.busy false] (.finish ending) (reachGoal c i (.finish ending))) :=
    fun hactive => comes_post himmediate _ hactive fun m _ => .refl _
  unfold conclude
  cases m.bridge with
  | none => exact hpost (m := { m with bridge := none, isRunning := false }) hactive
  | some b => exact hpost (m := { m.apply b.close with bridge := none, isRunning := false }) hactive

theorem comes_keep (plan : Plan) (v : Verdict) (hactive : m.tasks[i]? = some ⟨.active, false⟩) :
    Comes c.deferring (m.keep c.deferring i plan v) (m.keep c i plan v) := by
  unfold keep
  split
  · exact comes_conclude himmediate _ hactive
  next vars _ =>
    simp only [Setup.deferring_now, Setup.deferring_host]
    generalize some (SavedRun.mk plan.entry.id ((m.bridge.map Bridge.answers).getD .empty) vars
      (some v.status.name) v.message c.now) = saved
    cases c.host.save saved m.host with
    | ok host => exact comes_conclude himmediate (m := { m with saved, host }) _ hactive
    | error fault => exact comes_conclude himmediate (m := { m with saved }) _ hactive

theorem comes_judge (plan : Plan) (ending : Except (Context × Fault) Result)
    (hactive : m.tasks[i]? = some ⟨.active, false⟩) :
    Comes c.deferring (m.judge c.deferring i plan ending) (m.judge c i plan ending) := by
  have hpost : ∀ {m : Session σ} (es : List Event) (v : Verdict),
      m.tasks[i]? = some ⟨.active, false⟩ → Comes c.deferring
        (m.post c.deferring i es (.keep plan v) (reachGoal c.deferring i (.keep plan v)))
        (m.post c i es (.keep plan v) (reachGoal c i (.keep plan v))) :=
    fun es v hactive => comes_post himmediate es hactive fun m hm => comes_keep himmediate plan v hm
  unfold judge
  split
  · exact hpost _ _ hactive
  · split
    · exact hpost _ _ hactive
    · exact comes_conclude himmediate _ hactive
  · exact hpost (m := { m with diagnostics := _ }) _ _ hactive

section Serving

variable {plan : Plan} {next : Reply → Dialogue Result}
  (hnext : ∀ (r : Reply) (m : Session σ), m.tasks[i]? = some ⟨.active, false⟩ →
    Comes c.deferring (m.proceed c.deferring i plan (next r)) (m.proceed c i plan (next r)))

include hnext

omit himmediate in
theorem comes_reply (served : Served) (hactive : m.tasks[i]? = some ⟨.active, false⟩) :
    Comes c.deferring (carryOn c.deferring i plan next (served, m)) (carryOn c i plan next (served, m)) := by
  cases served with
  | reply r => exact hnext r m hactive
  | wait w => exact .refl _

theorem comes_announce (es : List Event) (aim : Aim)
    (hactive : m.tasks[i]? = some ⟨.active, false⟩) :
    Comes c.deferring (carryOn c.deferring i plan next (m.announce c.deferring i es aim))
      (carryOn c i plan next (m.announce c i es aim)) := by
  induction es generalizing m with
  | nil => exact comes_reply hnext _ hactive
  | cons e later ih =>
    rw [announce_cons_of_immediate himmediate, announce_cons rfl]
    have hwaiting : ({ m.setPhase i (.playing plan next (.delivery e later aim)) with
        line := i :: m.line } : Session σ).tasks[i]? =
        some ⟨.playing plan next (.delivery e later aim), false⟩ :=
      getElem?_setPhase_self hactive _
    have hwake := wake_playing (c := c.deferring) hwaiting
    simp only [comes, seat_setPhase hactive, Bool.false_eq_true, if_false, awaken] at hwake
    refine ((comes_happen _ (.shuffle (i :: m.line))).trans (comes_happen _ (.wake i))).trans ?_
    have heq : happen c.deferring (happen c.deferring
        (carryOn c.deferring i plan next (.wait (.delivery e later aim), m.enqueue i))
        (.shuffle (i :: m.line))) (.wake i) = _ := hwake
    rw [heq]
    exact ih ((getElem?_deliver_self m c i e).trans hactive)

theorem comes_collect (argv : List String) (cwd : Option String)
    (hactive : m.tasks[i]? = some ⟨.active, false⟩) :
    Comes c.deferring (carryOn c.deferring i plan next (m.collect c.deferring i argv cwd))
      (carryOn c i plan next (m.collect c i argv cwd)) := by
  unfold collect
  rw [Setup.deferring_host]
  generalize c.host.collect argv cwd m.host = result
  obtain ⟨_ | o, host⟩ := result
  · exact comes_reply hnext (m := { m with host }) _ hactive
  · exact comes_announce himmediate hnext (m := { m with host }) _ _ hactive

theorem comes_put (step : String) (q : Question) (hactive : m.tasks[i]? = some ⟨.active, false⟩) :
    Comes c.deferring (carryOn c.deferring i plan next (m.put c.deferring i step q))
      (carryOn c i plan next (m.put c i step q)) := by
  unfold put
  split
  · exact comes_reply hnext _ hactive
  · split
    · exact comes_announce himmediate hnext _ _ hactive
    · split
      · exact comes_reply hnext _ hactive
      next change _ => exact comes_announce himmediate hnext (m := m.apply change) _ _ hactive

theorem comes_serve (place : Context) (q : Request) (hactive : m.tasks[i]? = some ⟨.active, false⟩) :
    Comes c.deferring (carryOn c.deferring i plan next (m.serve c.deferring i place q))
      (carryOn c i plan next (m.serve c i place q)) := by
  cases q with
  | prompt message preset => exact comes_put himmediate hnext _ _ hactive
  | choose message options => exact comes_put himmediate hnext _ _ hactive
  | command command args cwd =>
    rw [serve_command_eq, serve_command_eq, Setup.deferring_host]
    split
    · exact comes_reply hnext _ hactive
    · cases (c.host.begin command m.host).1 with
      | true => exact .refl _
      | false => exact comes_collect himmediate hnext (m := { m with host := _ }) _ _ hactive
  | evaluate expression =>
    simp only [serve]
    split
    · exact comes_reply hnext _ hactive
    · split
      · exact comes_announce himmediate hnext _ _ hactive
      · exact comes_reply hnext _ hactive
  | log message =>
    simp only [serve]
    split
    · exact comes_reply hnext _ hactive
    · exact comes_announce himmediate hnext _ _ hactive

theorem comes_awaken (wait : Wait) (hactive : m.tasks[i]? = some ⟨.active, false⟩) :
    Comes c.deferring (carryOn c.deferring i plan next (m.awaken c.deferring i wait))
      (carryOn c i plan next (m.awaken c i wait)) := by
  cases wait with
  | delivery e later aim =>
    exact comes_announce himmediate hnext (m := m.deliver c (some i) e) _ _
      ((getElem?_deliver_self m c i e).trans hactive)
  | ticket t => exact comes_reply hnext _ hactive
  | command argv cwd isOver => exact comes_collect himmediate hnext _ _ hactive

end Serving

theorem comes_proceed (plan : Plan) (d : Dialogue Result)
    (hactive : m.tasks[i]? = some ⟨.active, false⟩) :
    Comes c.deferring (m.proceed c.deferring i plan d) (m.proceed c i plan d) := by
  induction d generalizing m with
  | done r => exact comes_judge himmediate (m := { m with player := none }) plan (.ok r) hactive
  | fail place fault =>
    exact comes_judge himmediate (m := { m with player := none }) plan (.error (place, fault)) hactive
  | visit place rest ih => exact ih hactive
  | ask place q next ih =>
    rw [proceed_ask_eq, proceed_ask_eq]
    exact comes_serve himmediate (fun r m hactive => ih place r hactive) place q hactive

theorem comes_prepare (plan : Plan) (hactive : m.tasks[i]? = some ⟨.active, false⟩) :
    Comes c.deferring (m.prepare c.deferring i plan) (m.prepare c i plan) := by
  have hplay : ∀ m : Session σ, m.tasks[i]? = some ⟨.active, false⟩ → Comes c.deferring
      (m.reachGoal c.deferring i (.play plan)) (m.reachGoal c i (.play plan)) := fun m hm =>
    comes_proceed himmediate (m := { m with player := some i }) plan _ hm
  unfold prepare
  exact comes_post himmediate (m := { m with bridge := some (.start plan.replays plan.answers) })
    _ hactive hplay

theorem comes_reachGoal (goal : Goal) (hactive : m.tasks[i]? = some ⟨.active, false⟩) :
    Comes c.deferring (m.reachGoal c.deferring i goal) (m.reachGoal c i goal) := by
  cases goal with
  | refuse | finish _ => exact .refl _
  | prepare plan => exact comes_prepare himmediate plan hactive
  | play plan => exact comes_proceed himmediate (m := { m with player := some i }) plan _ hactive
  | keep plan v => exact comes_keep himmediate plan v hactive

theorem comes_consider (r : RunRequest) (hactive : m.tasks[i]? = some ⟨.active, false⟩) :
    Comes c.deferring (m.consider c.deferring i r) (m.consider c i r) := by
  have hrefuse : ∀ es, Comes c.deferring
      (m.post c.deferring i es .refuse (reachGoal c.deferring i .refuse))
      (m.post c i es .refuse (reachGoal c i .refuse)) :=
    fun es => comes_post himmediate es hactive fun m _ => .refl _
  have hprepare : ∀ {m : Session σ} (plan : Plan) (es : List Event),
      m.tasks[i]? = some ⟨.active, false⟩ → Comes c.deferring
        (m.post c.deferring i es (.prepare plan) (reachGoal c.deferring i (.prepare plan)))
        (m.post c i es (.prepare plan) (reachGoal c i (.prepare plan))) :=
    fun plan es hactive => comes_post himmediate es hactive fun m hm =>
      comes_prepare himmediate plan hm
  have hbegin : ∀ {m : Session σ} (entry : Entry), m.tasks[i]? = some ⟨.active, false⟩ →
      Comes c.deferring (m.welcome c.deferring i r entry) (m.welcome c i r entry) := by
    intro m entry hactive
    unfold welcome
    split
    · exact comes_prepare himmediate _ hactive
    · split
      · exact comes_prepare himmediate _ hactive
      · exact hprepare _ _ hactive
  unfold consider
  split
  · exact hrefuse _
  · rw [Setup.deferring_script?]
    split
    · exact hrefuse _
    next entry _ =>
      dsimp only
      split
      · rw [Setup.deferring_host]
        cases c.host.save none m.host with
        | ok host =>
          exact hbegin (m := { m with isRunning := true, isAbandoned := false, saved := none, host })
            entry hactive
        | error fault =>
          exact comes_conclude himmediate
            (m := { m with isRunning := true, isAbandoned := false, saved := none }) _ hactive
      · exact hbegin (m := { m with isRunning := true, isAbandoned := false }) entry hactive

theorem comes_wake (s : Session σ) (i : Nat) :
    Comes c.deferring (s.happen c.deferring (.wake i)) (s.happen c (.wake i)) := by
  cases htask : s.tasks[i]? with
  | none =>
    rw [wake_none htask, wake_none htask]
    exact .refl _
  | some task =>
    obtain ⟨phase, isFlagged⟩ := task
    have hactive := getElem?_seat_self htask
    have hnext : ∀ {plan : Plan} {next : Reply → Dialogue Result} (r : Reply) (m : Session σ),
        m.tasks[i]? = some ⟨.active, false⟩ →
        Comes c.deferring (m.proceed c.deferring i plan (next r)) (m.proceed c i plan (next r)) :=
      fun r m hm => comes_proceed himmediate _ _ hm
    simp only [happen, resume, htask]
    cases phase with
    | finished ending => exact .refl _
    | active => exact .refl _
    | new r =>
      cases isFlagged with
      | true => exact .refl _
      | false => exact comes_consider himmediate (m := s.seat i) r hactive
    | posting e later goal =>
      cases isFlagged with
      | true =>
        cases goal with
        | refuse | finish => exact .refl _
        | prepare | play | keep => exact comes_conclude himmediate (m := s.seat i) _ hactive
      | false =>
        exact comes_post himmediate (m := s.hand c i e) later
          ((getElem?_deliver_self (s.seat i) c i e).trans hactive)
          fun m hm => comes_reachGoal himmediate goal hm
    | playing plan next wait =>
      cases isFlagged with
      | true => exact comes_reply (m := s.seat i) hnext _ hactive
      | false => exact comes_awaken himmediate (m := s.seat i) hnext wait hactive

end Immediate

/-- Whatever happens in a session whose surface takes events as they are told, happens in one whose
    surface lets everything else go first. -/
theorem comes_deferring (c : Setup σ) (s : Session σ) (xs : List Happening) :
    Comes c.deferring s (s.happens c xs) := by
  cases hdefers : c.defers with
  | true =>
    have hsame : c.deferring = c := by
      obtain ⟨scripts, workspace, limit, defers, now, moment, host⟩ := c
      subst hdefers
      rfl
    rw [hsame]
    exact ⟨xs, rfl⟩
  | false =>
    induction xs generalizing s with
    | nil => exact .refl s
    | cons x xs ih =>
      refine Comes.trans ?_ (ih (s.happen c x))
      cases x with
      | wake i => exact (comes_happen s (.wake i)).trans (comes_wake hdefers s i)
      | request script resumes clears vars => exact comes_happen s (.request script resumes clears vars)
      | message v => exact comes_happen s (.message v)
      | abandon current => exact comes_happen s (.abandon current)
      | shuffle line => exact comes_happen s (.shuffle line)

end Session

open Session

namespace Chronicle

variable {σ : Type}

theorem session_run (c : Setup σ) (ch : Chronicle σ) (xs : List Happening) :
    (ch.run c xs).session = ch.session.happens c xs := by
  induction xs generalizing ch with
  | nil => rfl
  | cons x xs ih => exact ih (ch.note c x)

/-- Whatever comes of a session, comes of one with such a surface. -/
theorem exists_deferring (c : Setup σ) (saved : Option SavedRun) (host : σ) (xs : List Happening) :
    ∃ ys, (start c saved host).session.happens c xs =
      ((start c.deferring saved host).run c.deferring ys).session := by
  obtain ⟨ys, hys⟩ := comes_deferring c (start c saved host).session xs
  exact ⟨ys, hys.symm.trans (session_run c.deferring (start c.deferring saved host) ys).symm⟩

end Chronicle

end Stepwise
