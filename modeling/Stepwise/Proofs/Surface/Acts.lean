import Mathlib.Logic.Relation
import Stepwise.Proofs.Bridge.Retract
import Stepwise.Proofs.Session.Order
import Stepwise.Proofs.Session.Serve
import Stepwise.Surface

namespace Stepwise

theorem exists_of_map_eq_ok {ε α β : Type} {f : α → β} {x : Except ε α} {b : β}
    (h : x.map f = .ok b) : ∃ a, x = .ok a ∧ f a = b := by
  cases x with
  | error e => cases h
  | ok a => exact ⟨a, rfl, Except.ok.inj h⟩

theorem eq_error_of_map {ε α β : Type} {f : α → β} {x : Except ε α} {e : ε}
    (h : x.map f = .error e) : x = .error e := by
  cases x with
  | error e' => rw [Except.error.inj h]
  | ok a => cases h

/-- The options of the question can be told apart by texts. -/
def Question.IsClear : Question → Prop
  | .prompt _ _ => True
  | .choice _ options => ∀ o ∈ options, ∃ id, o.field? "id" = some (.text id)

namespace Session

variable {σ : Type}

/-- The same session at a surface, which takes every event as it is told. -/
def Setup.at (c : Setup (Surface.State σ)) (p : Surface.Parts σ) : Setup (Surface.State σ) :=
  { c with defers := false, host := Surface.host p }

/-- The task is not in the middle of telling something. -/
def Phase.IsDirect : Phase → Prop
  | .posting _ _ _ | .playing _ _ (.delivery _ _ _) => False
  | _ => True

def IsDirect (s : Session σ) : Prop :=
  ∀ task ∈ s.tasks, task.phase.IsDirect

/-- One thing that a session does with its bridge and its surface. -/
inductive Act (p : Surface.Parts σ) (s m : Session (Surface.State σ)) : Prop where
  | aside (hbridge : m.bridge = s.bridge) (hhost : m.host = s.host)
  /-- It tells the surface something that asks nothing. -/
  | tell (e : Event) (hquiet : ¬ e.Asks) (hbridge : m.bridge = s.bridge)
      (hhost : m.host = Surface.receive p e.dump s.host)
  /-- It puts a question and tells it to the surface. -/
  | ask (b : Bridge String) (step : String) (q : Question) (hclear : q.IsClear) (ticket : Nat)
      (change : Bridge.Change String) (hopen : s.bridge = some b)
      (hregister : b.register step q.kind = some (ticket, change))
      (hbridge : m.bridge = some change.bridge)
      (hhost : m.host = Surface.receive p (q.event step).dump s.host)
  | answer (b : Bridge String) (step : String) (kind : Question.Kind) (a : String)
      (hopen : s.bridge = some b) (hbridge : m.bridge = some (b.answer step kind a).2.bridge)
      (hhost : m.host = s.host)
  | retract (b b' : Bridge String) (hopen : s.bridge = some b) (hretracts : b.Retracts b')
      (hbridge : m.bridge = some b') (hhost : m.host = s.host)
  /-- It begins a run. -/
  | start (replays : Bool) (answers : Table String)
      (hbridge : m.bridge = some (.start replays answers)) (hhost : m.host = s.host)
  | stop (hbridge : m.bridge = none) (hhost : m.host = s.host)
  /-- It has a command run, or something saved. -/
  | work (base : σ) (hbridge : m.bridge = s.bridge) (hhost : m.host = { s.host with base })

/-- A session goes on by acts, and no task of it is left telling something. -/
def Acts (p : Surface.Parts σ) (s m : Session (Surface.State σ)) : Prop :=
  Relation.ReflTransGen (Act p) s m ∧ (s.IsDirect → m.IsDirect)

namespace Acts

variable {p : Surface.Parts σ} {s m n : Session (Surface.State σ)} {i : Nat}

theorem refl (s : Session (Surface.State σ)) : Acts p s s :=
  ⟨.refl, id⟩

theorem trans (h : Acts p s m) (h' : Acts p m n) : Acts p s n :=
  ⟨h.1.trans h'.1, h'.2 ∘ h.2⟩

/-- An act that leaves the tasks as they are. -/
theorem of_act (hact : Act p s m) (htasks : m.tasks = s.tasks) : Acts p s m :=
  ⟨.single hact, fun hdirect => by simpa only [IsDirect, htasks] using hdirect⟩

theorem setPhase (s : Session (Surface.State σ)) (i : Nat) {phase : Phase}
    (hphase : phase.IsDirect) : Acts p s (s.setPhase i phase) := by
  refine ⟨.single (.aside rfl rfl), fun hdirect task htask => ?_⟩
  obtain ⟨j, hj⟩ := List.mem_iff_getElem?.1 htask
  by_cases heq : i = j
  · subst heq
    rw [Session.setPhase, List.getElem?_modify_eq] at hj
    obtain ⟨_, _, rfl⟩ := Option.map_eq_some_iff.1 hj
    exact hphase
  · rw [Session.setPhase, List.getElem?_modify_ne _ _ heq] at hj
    exact hdirect task (List.mem_of_getElem? hj)

end Acts

/-- A session goes on by acts for a run, and nothing changes but its bridge, its line and what its
    surface was told. -/
structure Tells (p : Surface.Parts σ) (s m : Session (Surface.State σ)) : Prop where
  acts : Relation.ReflTransGen (Act p) s m
  rest : m = { s with bridge := m.bridge, line := m.line, events := m.events, host := m.host }

namespace Tells

variable {p : Surface.Parts σ} {s m n : Session (Surface.State σ)}

theorem refl (s : Session (Surface.State σ)) : Tells p s s :=
  ⟨.refl, rfl⟩

theorem trans (h : Tells p s m) (h' : Tells p m n) : Tells p s n := by
  refine ⟨h.acts.trans h'.acts, ?_⟩
  rw [h'.rest, h.rest]

theorem tasks_eq (h : Tells p s m) : m.tasks = s.tasks := by
  rw [h.rest]

theorem toActs (h : Tells p s m) : Acts p s m :=
  ⟨h.acts, fun hdirect => by simpa only [IsDirect, h.tasks_eq] using hdirect⟩

end Tells

section Surface

variable {p : Surface.Parts σ} {c : Setup (Surface.State σ)} {s m : Session (Surface.State σ)}
  {i : Nat} {plan : Plan}

theorem post_at (s : Session (Surface.State σ)) (es : List Event) (goal : Goal)
    (reached : Session (Surface.State σ) → Session (Surface.State σ)) :
    s.post (c.at p) i es goal reached = reached (s.deliverAll (c.at p) (some i) es) := by
  cases es <;> rfl

theorem announce_at (s : Session (Surface.State σ)) (es : List Event) (aim : Aim) :
    s.announce (c.at p) i es aim =
      ((s.deliverAll (c.at p) (some i) es).reach aim, s.deliverAll (c.at p) (some i) es) := by
  cases es <;> rfl

theorem tells_deliver (s : Session (Surface.State σ)) (current : Option Nat) {e : Event}
    (hquiet : ¬ e.Asks) : Tells p s (s.deliver (c.at p) current e) :=
  ⟨.single (.tell e hquiet rfl rfl), rfl⟩

theorem tells_deliverAll (s : Session (Surface.State σ)) (current : Option Nat) {es : List Event}
    (hquiet : ∀ e ∈ es, ¬ e.Asks) : Tells p s (s.deliverAll (c.at p) current es) := by
  induction es generalizing s with
  | nil => exact .refl s
  | cons e later ih =>
    obtain ⟨hfirst, hlater⟩ := List.forall_mem_cons.1 hquiet
    exact (tells_deliver s current hfirst).trans (ih _ hlater)

theorem acts_post (s : Session (Surface.State σ)) {es : List Event} (goal : Goal)
    {reached : Session (Surface.State σ) → Session (Surface.State σ)}
    (hquiet : ∀ e ∈ es, ¬ e.Asks) (hreached : ∀ m, Acts p m (reached m)) :
    Acts p s (s.post (c.at p) i es goal reached) := by
  rw [post_at]
  exact (tells_deliverAll s (some i) hquiet).toActs.trans (hreached _)

theorem acts_finish (s : Session (Surface.State σ)) (i : Nat) (ending : Ending) :
    Acts p s (s.finish i ending) :=
  .setPhase s i trivial

theorem acts_conclude (s : Session (Surface.State σ)) (ending : Ending) :
    Acts p s (s.conclude (c.at p) i ending) := by
  have hhost : s.concluded.host = s.host := by
    unfold concluded
    cases s.bridge <;> rfl
  have hstop : Acts p s s.concluded := .of_act (.stop rfl hhost) (tasks_concluded s)
  have hpost : Acts p s.concluded
      (s.concluded.post (c.at p) i [.busy false] (.finish ending) (finish i ending)) :=
    acts_post _ _ (by simp [Event.Asks]) fun m => acts_finish m i ending
  exact hstop.trans hpost

theorem acts_keep (s : Session (Surface.State σ)) (plan : Plan) (v : Verdict) :
    Acts p s (s.keep (c.at p) i plan v) := by
  unfold keep
  split
  · exact acts_conclude s _
  next vars _ =>
    dsimp only
    generalize some (SavedRun.mk plan.entry.id ((s.bridge.map Bridge.answers).getD .empty) vars
      (some v.status.name) v.message (c.at p).now) = saved
    have hsave : (c.at p).host.save saved s.host =
        (p.save saved s.host.base).map fun base => { s.host with base } := rfl
    rw [hsave]
    cases p.save saved s.host.base with
    | ok base =>
      have hwork : Acts p s { s with saved, host := { s.host with base } } :=
        .of_act (.work base rfl rfl) rfl
      exact hwork.trans (acts_conclude _ _)
    | error fault =>
      have haside : Acts p s { s with saved } := .of_act (.aside rfl rfl) rfl
      exact haside.trans (acts_conclude _ _)

theorem acts_judge (s : Session (Surface.State σ)) (plan : Plan)
    (ending : Except (Context × Fault) Result) : Acts p s (s.judge (c.at p) i plan ending) := by
  rw [judge_post]
  split
  next e later v hverdict =>
    have haside : Acts p s { s with diagnostics := plan.diagnosed (c.at p) s.diagnostics ending } :=
      .of_act (.aside rfl rfl) rfl
    refine haside.trans (acts_post _ _ ?_ fun m => acts_keep m plan v)
    obtain ⟨text, ⟨rfl, rfl⟩ | ⟨hlog, rfl⟩⟩ := verdict_cases hverdict
    · simp [Event.Asks]
    · simpa [Event.Asks] using hlog.not_asks
  next => exact acts_conclude s _

theorem tells_announce (s : Session (Surface.State σ)) {es : List Event} (aim : Aim)
    (hquiet : ∀ e ∈ es, ¬ e.Asks) : Tells p s (s.announce (c.at p) i es aim).2 := by
  rw [announce_at]
  exact tells_deliverAll s (some i) hquiet

theorem tells_collect (s : Session (Surface.State σ)) (argv : List String) (cwd : Option String) :
    Tells p s (s.collect (c.at p) i argv cwd).2 := by
  have hcollect : (c.at p).host.collect argv cwd s.host =
      ((p.runner.execute argv cwd s.host.base).1,
        { s.host with base := (p.runner.execute argv cwd s.host.base).2 }) := rfl
  simp only [collect, hcollect]
  generalize p.runner.execute argv cwd s.host.base = result
  obtain ⟨outcome, base⟩ := result
  have hwork : Tells p s { s with host := { s.host with base } } :=
    ⟨.single (.work base rfl rfl), rfl⟩
  cases outcome with
  | error fault => exact hwork
  | ok o => exact hwork.trans (tells_announce _ _ fun e he => not_asks_of_mem_outcomeLog he)

/-- A question is put and told in one act. -/
theorem tells_put (s : Session (Surface.State σ)) (step : String) {q : Question}
    (hclear : q.IsClear) : Tells p s (s.put (c.at p) i step q).2 := by
  unfold put
  split
  · exact .refl s
  next b hbridge =>
    split
    · refine tells_announce s _ ?_
      cases q <;> simp [Question.replayNotice, Event.Asks]
    · split
      · exact .refl s
      next t change hregister =>
        rw [announce_at]
        exact ⟨.single (.ask b step q hclear t change hbridge hregister rfl rfl), rfl⟩

theorem serve_command_at (s : Session (Surface.State σ)) (place : Context) (command : String)
    (args : Option (List String)) (cwd : Option String) :
    s.serve (c.at p) i place (.command command args cwd) =
      if s.isAbandoned then (.cancelled, s)
      else s.collect (c.at p) i (command :: args.getD [])
        (cwd.filter (!·.isEmpty) <|> c.workspace) :=
  rfl

theorem tells_serve (s : Session (Surface.State σ)) (place : Context) (q : Request) :
    Tells p s (s.serve (c.at p) i place q).2 := by
  cases q with
  | prompt message preset => exact tells_put s _ trivial
  | choose message options =>
    refine tells_put s _ fun o ho => ?_
    obtain ⟨choice, _, rfl⟩ := List.mem_map.1 ho
    exact ⟨choice.id, rfl⟩
  | command command args cwd =>
    rw [serve_command_at]
    split
    · exact .refl s
    · exact tells_collect s _ _
  | evaluate expression =>
    simp only [serve]
    split
    · exact .refl s
    · split
      next b report _ =>
        refine tells_announce s _ fun e he => ?_
        obtain ⟨_, _, rfl⟩ := List.mem_map.1 he
        exact id
      next => exact .refl s
  | log message =>
    simp only [serve]
    split
    · exact .refl s
    · exact tells_announce s _ (by simp [Event.Asks])

/-- What a run is replied leaves its script as it is, and what it has to wait for is an answer or a
    command. -/
def Served.Fits : Served → Prop
  | .reply r => r.Keeps
  | .wait (.delivery _ _ _) => False
  | .wait _ => True

theorem fits_reach (s : Session (Surface.State σ)) {aim : Aim} (hkeeps : aim.Keeps) :
    (s.reach aim).Fits := by
  unfold reach
  split
  · obtain ⟨v, rfl⟩ := hkeeps
    trivial
  · split <;> trivial
  · split <;> trivial

theorem fits_announce (s : Session (Surface.State σ)) (es : List Event) {aim : Aim}
    (hkeeps : aim.Keeps) : (s.announce (c.at p) i es aim).1.Fits := by
  rw [announce_at]
  exact fits_reach _ hkeeps

theorem fits_collect (s : Session (Surface.State σ)) (argv : List String)
    (cwd : Option String) : (s.collect (c.at p) i argv cwd).1.Fits := by
  unfold collect
  dsimp only
  split
  · exact fits_announce _ _ ⟨_, rfl⟩
  · trivial

theorem fits_put (s : Session (Surface.State σ)) (step : String) (q : Question) :
    (s.put (c.at p) i step q).1.Fits := by
  unfold put
  split
  · trivial
  · split
    · exact fits_announce _ _ (by trivial)
    · split
      · trivial
      · exact fits_announce _ _ (by trivial)

theorem fits_serve (s : Session (Surface.State σ)) (place : Context) (q : Request) :
    (s.serve (c.at p) i place q).1.Fits := by
  cases q with
  | prompt | choose => exact fits_put ..
  | command command args cwd =>
    rw [serve_command_at]
    split
    · trivial
    · exact fits_collect ..
  | evaluate expression =>
    simp only [serve]
    split
    · trivial
    · split
      · exact fits_announce _ _ ⟨_, rfl⟩
      · trivial
  | log message =>
    simp only [serve]
    split
    · trivial
    · exact fits_announce _ _ ⟨_, rfl⟩

/-- A run that waits for an answer or a command goes on from it. -/
theorem tells_comes {wait : Wait} (hfits : (Served.wait wait).Fits) (isFlagged : Bool) :
    Tells p (s.seat i) (s.comes (c.at p) i wait isFlagged).2 ∧
      (s.comes (c.at p) i wait isFlagged).1.Fits := by
  unfold comes
  split
  · exact ⟨.refl _, trivial⟩
  · cases wait with
    | delivery => exact hfits.elim
    | ticket t =>
      have hkeeps : (Aim.await t).Keeps := trivial
      exact ⟨.refl _, fits_reach _ hkeeps⟩
    | command argv cwd isOver => exact ⟨tells_collect _ _ _, fits_collect ..⟩

theorem acts_wait (s : Session (Surface.State σ)) (i : Nat) (plan : Plan)
    (next : Reply → Dialogue Result) {w : Wait} (hfits : (Served.wait w).Fits) :
    Acts p s (s.setPhase i (.playing plan next w)) := by
  refine .setPhase s i ?_
  cases w with
  | delivery => exact hfits
  | ticket | command => trivial

/-- A run goes on until it waits for an answer or a command, or is over. -/
theorem acts_proceed (s : Session (Surface.State σ)) (plan : Plan) (d : Dialogue Result) :
    Acts p s (s.proceed (c.at p) i plan d) := by
  have hover : Acts p s { s with player := none } := .of_act (.aside rfl rfl) rfl
  induction d generalizing s with
  | done r => exact hover.trans (acts_judge (c := c) (i := i) _ plan (.ok r))
  | fail place fault =>
    exact hover.trans (acts_judge (c := c) (i := i) _ plan (.error (place, fault)))
  | visit place rest ih => exact ih s hover
  | ask place q next ih =>
    have hserve : Acts p s (s.serve (c.at p) i place q).2 := (tells_serve s place q).toActs
    have hfits := fits_serve (p := p) (c := c) (i := i) s place q
    rw [proceed_ask_eq]
    generalize s.serve (c.at p) i place q = served at hserve hfits
    obtain ⟨r | w, m⟩ := served
    · exact hserve.trans (ih place r m (.of_act (.aside rfl rfl) rfl))
    · exact hserve.trans (acts_wait m i plan (next place) hfits)

theorem acts_carryOn (plan : Plan) (next : Reply → Dialogue Result)
    {served : Served × Session (Surface.State σ)} (hserved : Acts p s served.2)
    (hfits : served.1.Fits) : Acts p s (carryOn (c.at p) i plan next served) := by
  obtain ⟨r | w, m⟩ := served
  · exact hserved.trans (acts_proceed m plan (next r))
  · exact hserved.trans (acts_wait m i plan next hfits)

theorem acts_prepare (s : Session (Surface.State σ)) (plan : Plan) :
    Acts p s (s.prepare (c.at p) i plan) := by
  have hstart : Acts p s { s with bridge := some (.start plan.replays plan.answers) } :=
    .of_act (.start plan.replays plan.answers rfl rfl) rfl
  have hplay : ∀ m, Acts p m (play (c.at p) i plan m) := by
    intro m
    have hplayer : Acts p m { m with player := some i } := .of_act (.aside rfl rfl) rfl
    exact hplayer.trans (acts_proceed (c := c) (i := i) _ plan _)
  have hquiet : ∀ e ∈ Event.busy true :: plan.overture, ¬ e.Asks := by
    simp [Plan.overture, Event.Asks]
  have hpost : Acts p { s with bridge := some (.start plan.replays plan.answers) }
      (s.prepare (c.at p) i plan) := acts_post _ (.play plan) hquiet hplay
  exact hstart.trans hpost

theorem acts_consider (s : Session (Surface.State σ)) (r : RunRequest) :
    Acts p s (s.consider (c.at p) i r) := by
  have haccepts : ∀ {plan m}, s.Accepts (c.at p) r plan m → Acts p s m := by
    intro plan m haccepts
    have hbridge : m.bridge = s.bridge := by rw [haccepts.session]
    have htasks : m.tasks = s.tasks := by rw [haccepts.session]
    have hstore := haccepts.store
    split at hstore
    · obtain ⟨base, _, hbase⟩ := exists_of_map_eq_ok hstore
      exact .of_act (.work base hbridge hbase.symm) htasks
    · exact .of_act (.aside hbridge hstore) htasks
  have hweighed := weighed (c := c.at p) i r s
  generalize s.consider (c.at p) i r = s' at hweighed ⊢
  cases hweighed with
  | refused | unknown =>
    exact acts_post s _ (by simp [Event.Asks]) fun m => acts_finish m i _
  | announced plan m h =>
    exact (haccepts h).trans (acts_post m _ (by simp [Event.Asks]) fun m => acts_prepare m plan)
  | opened plan m h => exact (haccepts h).trans (acts_prepare m plan)
  | failed fault =>
    have haside : Acts p s { s with isRunning := true, isAbandoned := false, saved := none } :=
      .of_act (.aside rfl rfl) rfl
    exact haside.trans (acts_conclude _ _)

/-- A task that goes on is not in the middle of telling something, and so it acts. -/
theorem acts_wake (hdirect : s.IsDirect) (i : Nat) :
    Acts p s (s.happen (c.at p) (.wake i)) := by
  have hseat : Acts p s (s.seat i) := by
    refine ⟨.single (.aside rfl rfl), fun hdirect task htask => ?_⟩
    rcases List.mem_or_eq_of_mem_set htask with hold | rfl
    · exact hdirect task hold
    · trivial
  cases htask : s.tasks[i]? with
  | none =>
    rw [wake_none htask]
    exact .of_act (.aside rfl rfl) rfl
  | some task =>
    obtain ⟨phase, isFlagged⟩ := task
    have hphase : phase.IsDirect := hdirect _ (List.mem_of_getElem? htask)
    simp only [happen, resume, htask]
    cases phase with
    | finished ending => exact hseat.trans (.setPhase _ i hphase)
    | active => exact hseat.trans (.setPhase _ i hphase)
    | posting => exact hphase.elim
    | new r =>
      cases isFlagged with
      | true => exact hseat.trans (acts_finish _ i .cancelled)
      | false => exact hseat.trans (acts_consider (s.seat i) r)
    | playing plan next wait =>
      have hfits : (Served.wait wait).Fits := by
        cases wait with
        | delivery => exact hphase.elim
        | ticket | command => trivial
      obtain ⟨htells, hfits⟩ := tells_comes (c := c) hfits isFlagged
      have hserved := hseat.trans htells.toActs
      exact acts_carryOn plan next hserved hfits

theorem acts_receive (s : Session (Surface.State σ)) (v : Value) : Acts p s (s.receive v) := by
  unfold receive
  split
  · refine ⟨.single (.aside rfl rfl), fun hdirect task htask => ?_⟩
    rcases List.mem_append.1 htask with hold | hnew
    · exact hdirect task hold
    · exact List.mem_singleton.1 hnew ▸ trivial
  next step r _ =>
    unfold answer
    cases hbridge : s.bridge with
    | none => exact .refl s
    | some b => exact .of_act (.answer b step r.kind (r.value "") hbridge rfl rfl) rfl
  · exact .refl s

theorem host_receive (s : Session σ) (v : Value) : (s.receive v).host = s.host := by
  unfold receive
  split
  · rfl
  · unfold answer
    split <;> rfl
  · rfl

theorem acts_cancel (s : Session (Surface.State σ)) (i : Nat) : Acts p s (s.cancel i) := by
  have hflag : ∀ s : Session (Surface.State σ), Acts p s (s.setFlag i true) := by
    refine fun s => ⟨.single (.aside rfl rfl), fun hdirect task htask => ?_⟩
    obtain ⟨j, hj⟩ := List.mem_iff_getElem?.1 htask
    by_cases heq : i = j
    · subst heq
      rw [setFlag, List.getElem?_modify_eq] at hj
      obtain ⟨old, hold, rfl⟩ := Option.map_eq_some_iff.1 hj
      exact hdirect old (List.mem_of_getElem? hold)
    · rw [setFlag, List.getElem?_modify_ne _ _ heq] at hj
      exact hdirect task (List.mem_of_getElem? hj)
  unfold cancel
  split
  · exact .refl s
  · exact .refl s
  · split
    next b hbridge =>
      split
      · exact .of_act (.retract b _ hbridge (b.retracts_cancel _) rfl rfl) rfl
      · exact hflag s
    next => exact hflag s
  next plan next argv cwd isFlagged _ =>
    have hphase : (Phase.playing plan next (.command argv cwd true)).IsDirect := trivial
    exact ((hflag s).trans (.setPhase _ i hphase)).trans (.of_act (.aside rfl rfl) rfl)
  · exact hflag s

theorem acts_abandon (s : Session (Surface.State σ)) (current : Option Nat) :
    Acts p s (s.abandon current) := by
  unfold abandon
  split
  · exact .refl s
  next b hbridge =>
    have hclose : Acts p s ({ s with isAbandoned := true }.apply b.close) :=
      .of_act (.retract b _ hbridge b.retracts_close rfl rfl) rfl
    dsimp only
    split
    · split
      · exact hclose
      · exact hclose.trans (acts_cancel _ _)
    · exact hclose

theorem acts_offer (hoffer : s.offer (c.at p) = .ok m) : Acts p s m := by
  unfold offer at hoffer
  cases hload : (c.at p).host.load s.host with
  | error fault =>
    rw [hload] at hoffer
    cases hoffer
  | ok saved =>
    rw [hload] at hoffer
    obtain rfl := Except.ok.inj hoffer
    have haside : Acts p s { s with saved } := .of_act (.aside rfl rfl) rfl
    exact haside.trans (tells_deliver (c := c) _ none id).toActs

/-- Whatever happens to a session at a surface is made up of acts. -/
theorem acts_happen (hdirect : s.IsDirect) (x : Happening) :
    Acts p s (s.happen (c.at p) x) := by
  cases x with
  | request script resumes clears vars =>
    refine ⟨.single (.aside rfl rfl), fun hdirect task htask => ?_⟩
    rcases List.mem_append.1 htask with hold | hnew
    · exact hdirect task hold
    · exact List.mem_singleton.1 hnew ▸ trivial
  | message v => exact acts_receive s v
  | abandon current => exact acts_abandon s current
  | wake i => exact acts_wake hdirect i
  | shuffle line => exact .of_act (.aside rfl rfl) rfl

end Surface

end Session

end Stepwise
