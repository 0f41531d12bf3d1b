import Stepwise.Cli.Commands
import Stepwise.Proofs.Session.Attends
import Stepwise.Proofs.Surface.Acts

namespace Stepwise

open Run

namespace Dialogue

variable {α : Type}

/-- Wherever the dialogue ends in a fault, all variables are texts. -/
inductive Textual : Dialogue α → Prop where
  | done (a : α) : Textual (.done a)
  | fail {place : Context} {fault : Fault} (htexts : place.Textual) : Textual (.fail place fault)
  | visit {place : Context} {rest : Dialogue α} (hrest : Textual rest) : Textual (.visit place rest)
  | ask {place : Context} {q : Request} {next : Context → Reply → Dialogue α}
      (hnext : ∀ reply : Reply, reply.Keeps → Textual (next place reply)) :
      Textual (.ask place q next)

theorem textual_of_traced {input : Value} {vars : Table String} {R : List Mark → α → Prop}
    {ms : List Mark} {d : Dialogue α} (h : Traced input vars R ms d) : d.Textual := by
  induction h with
  | done _ => exact .done _
  | fail hfails => exact .fail ⟨_, hfails.vars⟩
  | visit _ ih => exact .visit ih
  | ask htracks _ hfault ih =>
    refine .ask fun reply hkeeps => ?_
    cases reply with
    | value v => exact ih v
    | edited => exact hkeeps.elim
    | fault f =>
      rw [hfault]
      exact .fail ⟨_, htracks.vars⟩

/-- What a dialogue comes to in the end, as its host replies. -/
inductive Ends (d : Dialogue α) : Except (Context × Fault) α → Prop where
  | result (ms : List Mark) (a : α) (hleads : d.Leads ms (.done a)) : Ends d (.ok a)
  | fault (ms : List Mark) (place : Context) (fault : Fault)
      (hleads : d.Leads ms (.fail place fault)) : Ends d (.error (place, fault))

end Dialogue

namespace Session

variable {σ : Type}

theorem concluded_eq (s : Session σ) :
    ∃ line, s.concluded = { s with bridge := none, isRunning := false, line } := by
  unfold concluded
  cases s.bridge <;> exact ⟨_, rfl⟩

/-- The same session at a terminal, with a store in a file. -/
abbrev Setup.home (c : Setup (Surface.State Workstation)) (store : FileStore) (now : Int)
    (key : String) : Setup (Surface.State Workstation) :=
  c.at (Cli.parts store now key)

/-- A run that is asked for begins by this plan, with texts as its variables. -/
structure Plan.Begins (plan : Plan) (c : Setup σ) (r : RunRequest) : Prop where
  script : c.script? r.script = some plan.entry
  textual : ∃ vars : Table String, plan.vars = vars.map .text

/-- A script came to its end, and just an end by a fault is on record. -/
structure Ended (c : Setup σ) (r : RunRequest) (failures : Diagnostics) (plan : Plan)
    (ending : Except (Context × Fault) Result) : Prop where
  begins : plan.Begins c r
  ends : (plan.dialogue c).Ends ending
  recorded : failures.hasFailures = ending.toOption.isNone

/-- How a run that is over leaves the disk, and the failures on record. -/
inductive Leaves (c : Setup σ) (store : FileStore) (key : String) (r : RunRequest) (disk : Disk)
    (failures : Diagnostics) : Ending → Prop where
  /-- What was saved last says how the script ended. -/
  | saved (plan : Plan) (ending : Except (Context × Fault) Result) (before : Disk) (run : SavedRun)
      (hended : Ended c r failures plan ending)
      (hsave : store.update before key (some run) = .ok disk)
      (hstatus : run.lastStatus = some ((ending.toOption.map Result.status).getD .failure).name) :
      Leaves c store key r disk failures (.result ending.toOption)
  /-- The script ended, but the store did not take what was to be saved. -/
  | unsaved (plan : Plan) (ending : Except (Context × Fault) Result) (run : SavedRun)
      (fault : StoreFault) (hended : Ended c r failures plan ending)
      (hsave : store.update disk key (some run) = .error fault) :
      Leaves c store key r disk failures (.failed fault)
  /-- The script did not begin, for the store did not drop what was saved. -/
  | uncleared (fault : StoreFault) (hclears : r.clears = true)
      (hsave : store.update disk key none = .error fault) (hclear : failures.hasFailures = false) :
      Leaves c store key r disk failures (.failed fault)
  | cancelled : Leaves c store key r disk failures .cancelled

/-- The one run of a session at a terminal: it was asked for, or waits in its script, or is over. -/
inductive Alone (c : Setup σ) (store : FileStore) (key : String) (r : RunRequest)
    (s : Session (Surface.State Workstation)) : Prop where
  | new (htasks : s.tasks = [⟨.new r, false⟩]) (hidle : s.isRunning = false)
      (hclear : s.diagnostics.hasFailures = false)
  | playing (plan : Plan) (place : Context) (q : Request) (next : Context → Reply → Dialogue Result)
      (wait : Wait) (ms : List Mark) (htasks : s.tasks = [⟨.playing plan (next place) wait, false⟩])
      (hbegins : plan.Begins c r) (hleads : (plan.dialogue c).Leads ms (.ask place q next))
      (hnext : ∀ reply : Reply, reply.Keeps → (next place reply).Textual)
      (hfits : (Served.wait wait).Fits) (hkept : s.isAbandoned = false)
      (hclear : s.diagnostics.hasFailures = false)
  | finished (ending : Ending) (htasks : s.tasks = [⟨.finished ending, false⟩])
      (hleaves : Leaves c store key r s.host.base.machine.disk s.diagnostics ending)

/-- What a session was told, and what its run waits for, does not matter here. -/
theorem Alone.of_same {c : Setup σ} {store : FileStore} {key : String} {r : RunRequest}
    {s m : Session (Surface.State Workstation)} (h : Alone c store key r s)
    (htasks : m.tasks = s.tasks)
    (hrunning : m.isRunning = s.isRunning) (hkept : m.isAbandoned = s.isAbandoned)
    (hfailures : m.diagnostics = s.diagnostics)
    (hmachine : m.host.base.machine = s.host.base.machine) : Alone c store key r m := by
  cases h with
  | new hnew hidle hclear =>
    exact .new (htasks.trans hnew) (hrunning.trans hidle) (hfailures ▸ hclear)
  | playing plan place q next wait ms hplaying hbegins hleads hnext hfits hkept' hclear =>
    exact .playing plan place q next wait ms (htasks.trans hplaying) hbegins hleads hnext hfits
      (hkept.trans hkept') (hfailures ▸ hclear)
  | finished ending hover hleaves =>
    refine .finished ending (htasks.trans hover) ?_
    rw [hmachine, hfailures]
    exact hleaves

/-- The one run of the session is at work, was not given up, and has failed in nothing. -/
structure Works (s : Session σ) : Prop where
  tasks : s.tasks = [⟨.active, false⟩]
  kept : s.isAbandoned = false
  clear : s.diagnostics.hasFailures = false

theorem Works.playerless {s : Session σ} (h : s.Works) : Works { s with player := none } :=
  ⟨h.tasks, h.kept, h.clear⟩

section Home

variable {store : FileStore} {now : Int} {key : String} {r : RunRequest}
  {c : Setup (Surface.State Workstation)} {s m : Session (Surface.State Workstation)} {plan : Plan}
  {vars : Table String}

theorem machine_receive (store : FileStore) (now : Int) (key : String) (event : Value)
    (s : Surface.State Workstation) :
    (Surface.receive (Cli.parts store now key) event s).base.machine = s.base.machine := by
  unfold Surface.receive
  dsimp only
  cases Surface.line? event <;> rfl

/-- The surface is told, and nothing else changes, least of all the disk. -/
theorem deliverAll_home (c : Setup (Surface.State Workstation)) (store : FileStore) (now : Int)
    (key : String) (s : Session (Surface.State Workstation)) (current : Option Nat)
    (es : List Event) : ∃ events host, s.deliverAll (c.home store now key) current es =
      { s with events, host } ∧ host.base.machine = s.host.base.machine := by
  induction es generalizing s with
  | nil => exact ⟨_, _, rfl, rfl⟩
  | cons e later ih =>
    obtain ⟨events, host, heq, hmachine⟩ := ih (s.deliver (c.home store now key) current e)
    exact ⟨events, host, heq, hmachine.trans (machine_receive ..)⟩

/-- A run that is over tells that nothing goes on. -/
theorem alone_conclude (c : Setup (Surface.State Workstation)) (now : Int)
    (s : Session (Surface.State Workstation)) (htasks : s.tasks = [⟨.active, false⟩])
    {ending : Ending}
    (hleaves : Leaves c store key r s.host.base.machine.disk s.diagnostics ending) :
    Alone c store key r (s.conclude (c.home store now key) 0 ending) := by
  obtain ⟨line, hconcluded⟩ := s.concluded_eq
  have heq : s.conclude (c.home store now key) 0 ending =
      finish 0 ending (s.concluded.deliver (c.home store now key) (some 0) (.busy false)) := rfl
  rw [heq, hconcluded]
  refine .finished ending ?_ ?_
  · change s.tasks.modify 0 _ = _
    rw [htasks]
    rfl
  · change Leaves c store key r (Surface.receive (Cli.parts store now key) (Event.busy false).dump
      s.host).base.machine.disk s.diagnostics ending
    rw [machine_receive]
    exact hleaves

/-- What is to be kept of a run is saved, unless the store does not take it. -/
theorem alone_keep (c : Setup (Surface.State Workstation)) (now : Int)
    (htasks : s.tasks = [⟨.active, false⟩]) (hbegins : plan.Begins c r)
    {ending : Except (Context × Fault) Result} (hends : (plan.dialogue c).Ends ending) {v : Verdict}
    (hvars : v.vars = vars.map .text) (hresult : v.result = ending.toOption)
    (hstatus : v.status = (v.result.map Result.status).getD .failure)
    (hfailures : s.diagnostics.hasFailures = v.result.isNone) :
    Alone c store key r (s.keep (c.home store now key) 0 plan v) := by
  have htexts : Position.texts v.vars = .ok vars := by
    rw [hvars, texts_map_text]
  have hended : Ended c r s.diagnostics plan ending := ⟨hbegins, hends, hresult ▸ hfailures⟩
  have hsaved : (plan.record (c.home store now key) s.bridge vars v).lastStatus =
      some ((ending.toOption.map Result.status).getD .failure).name := by
    rw [← hresult, ← hstatus]
    rfl
  have hsave : ∀ run, (c.home store now key).host.save (some run) s.host =
      ((store.update s.host.base.machine.disk key (some run)).map fun disk =>
        { s.host.base with machine := { s.host.base.machine with disk } }).map fun base =>
          { s.host with base } := fun run => rfl
  cases hupdate : store.update s.host.base.machine.disk key
      (some (plan.record (c.home store now key) s.bridge vars v)) with
  | ok disk =>
    rw [keep_eq htexts ((hsave _).trans (by rw [hupdate]; rfl)), hresult]
    generalize plan.record (c.home store now key) s.bridge vars v = run at hupdate hsaved ⊢
    exact alone_conclude c now { s with
      saved := some run
      host := { s.host with
        base := { s.host.base with machine := { s.host.base.machine with disk } } } }
      htasks (.saved plan ending _ run hended hupdate hsaved)
  | error fault =>
    rw [keep_failed htexts ((hsave _).trans (by rw [hupdate]; rfl))]
    generalize plan.record (c.home store now key) s.bridge vars v = run at hupdate ⊢
    exact alone_conclude c now { s with saved := some run } htasks
      (.unsaved plan ending _ fault hended hupdate)

/-- A run that was not given up is judged by its result, or else as a failure that is on record. -/
theorem verdict_of_kept {c : Setup σ} {ending : Except (Context × Fault) Result} {e : Event}
    {later : List Event} {v : Verdict} {failures : Diagnostics}
    (htextual : ∃ vars : Table String, plan.vars = vars.map .text)
    (htexts : ∀ place fault, ending = .error (place, fault) → place.Textual)
    (hclear : failures.hasFailures = false)
    (hverdict : plan.verdict false ending = some (e, later, v)) :
    (∃ vars : Table String, v.vars = vars.map .text) ∧ v.result = ending.toOption ∧
      v.status = (v.result.map Result.status).getD .failure ∧
      (plan.diagnosed c failures ending).hasFailures = v.result.isNone := by
  rcases ending with ⟨place, fault⟩ | result
  · simp only [Plan.verdict] at hverdict
    split at hverdict
    · cases hverdict
    next hfault =>
      cases hverdict
      refine ⟨?_, rfl, rfl, ?_⟩
      · dsimp only
        split
        · exact htexts place fault rfl
        · exact htextual
      · simp [Plan.diagnosed, hfault, Diagnostics.record, Diagnostics.hasFailures]
  · cases hverdict
    exact ⟨⟨result.vars, rfl⟩, rfl, rfl, hclear⟩

theorem alone_judge (c : Setup (Surface.State Workstation)) (now : Int) (hworks : s.Works)
    (hbegins : plan.Begins c r) {ending : Except (Context × Fault) Result}
    (hends : (plan.dialogue c).Ends ending)
    (htexts : ∀ place fault, ending = .error (place, fault) → place.Textual) :
    Alone c store key r (s.judge (c.home store now key) 0 plan ending) := by
  rw [judge_post]
  split
  next e later v hverdict =>
    rw [hworks.kept] at hverdict
    obtain ⟨⟨vars, hvars⟩, hresult, hstatus, hfailures⟩ :=
      verdict_of_kept (c := c.home store now key) hbegins.textual htexts hworks.clear hverdict
    obtain ⟨events, host, heq, _⟩ := deliverAll_home c store now key
      { s with diagnostics := plan.diagnosed (c.home store now key) s.diagnostics ending }
      (some 0) (e :: later)
    rw [post_at, heq]
    generalize plan.diagnosed (c.home store now key) s.diagnostics ending = diagnostics at hfailures
    exact alone_keep c now (s := { s with diagnostics, events, host }) hworks.tasks hbegins hends
      hvars hresult hstatus hfailures
  next => exact alone_conclude c now s hworks.tasks .cancelled

theorem Works.tells {p : Surface.Parts Workstation} (h : s.Works) (htells : Tells p s m) :
    m.Works := by
  rw [htells.rest]
  exact ⟨h.tasks, h.kept, h.clear⟩

theorem Works.waits (h : s.Works) (hbegins : plan.Begins c r) {ms : List Mark} {place : Context}
    {q : Request} {next : Context → Reply → Dialogue Result}
    (hleads : (plan.dialogue c).Leads ms (.ask place q next))
    (hnext : ∀ reply : Reply, reply.Keeps → (next place reply).Textual) {wait : Wait}
    (hfits : (Served.wait wait).Fits) :
    Alone c store key r (s.setPhase 0 (.playing plan (next place) wait)) := by
  refine .playing plan place q next wait ms ?_ hbegins hleads hnext hfits h.kept h.clear
  change s.tasks.modify 0 _ = _
  rw [h.tasks]
  rfl

/-- A run goes on until it waits for an answer or a command, or is over. -/
theorem alone_proceed (c : Setup (Surface.State Workstation)) (now : Int)
    (hbegins : plan.Begins c r) {ms : List Mark} {d : Dialogue Result}
    (hleads : (plan.dialogue c).Leads ms d) (htextual : d.Textual) (hworks : s.Works) :
    Alone c store key r (s.proceed (c.home store now key) 0 plan d) := by
  induction htextual generalizing s ms with
  | done result =>
    change Alone c store key r
      (judge (c.home store now key) 0 plan (.ok result) { s with player := none })
    exact alone_judge c now hworks.playerless hbegins (.result ms result hleads)
      fun _ _ heq => nomatch heq
  | @fail place fault htexts =>
    change Alone c store key r
      (judge (c.home store now key) 0 plan (.error (place, fault)) { s with player := none })
    refine alone_judge c now hworks.playerless hbegins (.fault ms place fault hleads) ?_
    rintro _ _ ⟨⟩
    exact htexts
  | visit _ ih => exact ih hleads.concat_visit hworks
  | @ask place q next hnext ih =>
    have htells : Tells (Cli.parts store now key) s (s.serve (c.home store now key) 0 place q).2 :=
      tells_serve s place q
    have hfits := fits_serve (p := Cli.parts store now key) (c := c) (i := 0) s place q
    rw [proceed_ask_eq]
    generalize s.serve (c.home store now key) 0 place q = served at htells hfits
    obtain ⟨reply | wait, m⟩ := served
    · exact ih reply hfits (hleads.concat_call hfits) (hworks.tells htells)
    · exact (hworks.tells htells).waits hbegins hleads hnext hfits

theorem alone_carryOn (c : Setup (Surface.State Workstation)) (now : Int)
    (hbegins : plan.Begins c r) {ms : List Mark} {place : Context} {q : Request}
    {next : Context → Reply → Dialogue Result}
    (hleads : (plan.dialogue c).Leads ms (.ask place q next))
    (hnext : ∀ reply : Reply, reply.Keeps → (next place reply).Textual)
    {served : Served × Session (Surface.State Workstation)} (hworks : served.2.Works)
    (hfits : served.1.Fits) :
    Alone c store key r (carryOn (c.home store now key) 0 plan (next place) served) := by
  obtain ⟨reply | wait, m⟩ := served
  · exact alone_proceed c now hbegins (hleads.concat_call hfits) (hnext reply hfits) hworks
  · exact hworks.waits hbegins hleads hnext hfits

theorem alone_prepare (c : Setup (Surface.State Workstation)) (now : Int) (hworks : s.Works)
    (hbegins : plan.Begins c r) :
    Alone c store key r (s.prepare (c.home store now key) 0 plan) := by
  obtain ⟨events, host, heq, _⟩ := deliverAll_home c store now key
    { s with bridge := some (.start plan.replays plan.answers) } (some 0)
    (.busy true :: plan.overture)
  have hprepare : s.prepare (c.home store now key) 0 plan =
      play (c.home store now key) 0 plan ({ s with
        bridge := some (.start plan.replays plan.answers) }.deliverAll (c.home store now key) (some 0)
          (.busy true :: plan.overture)) := rfl
  have htextual : (plan.dialogue c).Textual := by
    obtain ⟨vars, hvars⟩ := hbegins.textual
    unfold Plan.dialogue
    rw [hvars]
    exact Dialogue.textual_of_traced (traced_ofInput plan.entry.script vars)
  rw [hprepare, heq]
  exact alone_proceed c now (s := { s with
    bridge := some (.start plan.replays plan.answers), events, host, player := some 0 }) hbegins
    (.nil _) htextual ⟨hworks.tasks, hworks.kept, hworks.clear⟩

/-- A run that is asked for while none is active begins, unless what is saved cannot be dropped. -/
theorem alone_consider (c : Setup (Surface.State Workstation)) (now : Int)
    (htasks : s.tasks = [⟨.active, false⟩]) (hidle : s.isRunning = false)
    (hclear : s.diagnostics.hasFailures = false) (hscripts : c.scripts ≠ [])
    (hvars : r.vars = vars.map .text) :
    Alone c store key r (s.consider (c.home store now key) 0 r) := by
  have hbegun : ∀ {plan m}, s.Accepts (c.home store now key) r plan m →
      m.Works ∧ plan.Begins c r := by
    intro plan m haccepts
    refine ⟨?_, haccepts.entry, haccepts.plan ▸ textual_of plan.entry hvars _⟩
    rw [haccepts.session]
    exact ⟨htasks, rfl, hclear⟩
  have hweighed := weighed (c := c.home store now key) 0 r s
  generalize s.consider (c.home store now key) 0 r = s' at hweighed ⊢
  cases hweighed with
  | refused hrunning => exact nomatch hidle.symm.trans hrunning
  | unknown _ hscript =>
    obtain ⟨entry, later, hentries⟩ := List.exists_cons_of_ne_nil hscripts
    have hentries' : (c.home store now key).scripts = entry :: later := hentries
    simp [Setup.script?, hentries'] at hscript
  | announced plan m haccepts =>
    obtain ⟨hworks, hbegins⟩ := hbegun haccepts
    obtain ⟨events, host, heq, _⟩ := deliverAll_home c store now key m (some 0)
      [.log .info s!"No saved run for {plan.entry.id}; starting fresh"]
    rw [post_at, heq]
    exact alone_prepare c now (s := { m with events, host })
      ⟨hworks.tasks, hworks.kept, hworks.clear⟩ hbegins
  | opened plan m haccepts =>
    obtain ⟨hworks, hbegins⟩ := hbegun haccepts
    exact alone_prepare c now hworks hbegins
  | failed fault _ hfault hclears =>
    have hupdate : store.update s.host.base.machine.disk key none = .error fault :=
      eq_error_of_map (eq_error_of_map hfault)
    exact alone_conclude c now
      { s with isRunning := true, isAbandoned := false, saved := none } htasks
      (.uncleared fault hclears hupdate hclear)

/-- The one run goes on, or was over before. -/
theorem Alone.wake (h : Alone c store key r s) (now : Int)
    (hscripts : c.scripts ≠ []) (hvars : r.vars = vars.map .text) (i : Nat) :
    Alone c store key r (s.happen (c.home store now key) (.wake i)) := by
  cases i with
  | succ i =>
    have hnone : s.tasks[i + 1]? = none := by
      cases h with
      | new htasks | playing _ _ _ _ _ _ htasks | finished _ htasks =>
        rw [htasks]
        rfl
    rw [wake_none hnone]
    exact h.of_same rfl rfl rfl rfl rfl
  | zero =>
    cases h with
    | new htasks hidle hclear =>
      have htask : s.tasks[0]? = some ⟨.new r, false⟩ := by rw [htasks]; rfl
      rw [wake_new htask]
      refine alone_consider c now ?_ hidle hclear hscripts hvars
      rw [seat, htasks]
      rfl
    | playing plan place q next wait ms htasks hbegins hleads hnext hfits hkept hclear =>
      have htask : s.tasks[0]? = some ⟨.playing plan (next place) wait, false⟩ := by
        rw [htasks]
        rfl
      have hworks : (s.seat 0).Works := by
        refine ⟨?_, hkept, hclear⟩
        rw [seat, htasks]
        rfl
      obtain ⟨htells, hfits'⟩ := tells_comes (p := Cli.parts store now key) (c := c) (s := s)
        (i := 0) hfits false
      rw [wake_playing htask]
      exact alone_carryOn c now hbegins hleads hnext (hworks.tells htells) hfits'
    | finished ending htasks hleaves =>
      have htask : s.tasks[0]? = some ⟨.finished ending, false⟩ := by rw [htasks]; rfl
      rw [wake_still htask trivial]
      exact .finished ending htasks hleaves

theorem Alone.settle (h : Alone c store key r s) (now : Int)
    (hscripts : c.scripts ≠ []) (hvars : r.vars = vars.map .text) :
    Alone c store key r (s.settle (c.home store now key)) := by
  obtain ⟨line, hturns⟩ := turns_eq_wakes (c.home store now key) _ s
  rw [Session.settle, hturns]
  clear hturns
  induction line generalizing s with
  | nil => exact h
  | cons i line ih => exact ih (h.wake now hscripts hvars i)

/-- Whatever is asked at the terminal leaves the disk as it is. -/
theorem machine_ask (event : Value) (w : Workstation) :
    (Surface.ask Workstation.runner event w).2.machine = w.machine := by
  unfold Surface.ask
  split
  · rfl
  · split <;> rfl

/-- What is read to answer a question never asks for a run. -/
theorem ne_run_of_ask {runner : Runner σ} {event message : Value} {base : σ}
    (hask : (Surface.ask runner event base).1 = .ok message) (r : RunRequest) :
    Message.decode? message ≠ some (.run r) := by
  unfold Surface.ask at hask
  split at hask
  · cases hask
  · split at hask
    · obtain ⟨value, _, rfl⟩ := exists_of_map_eq_ok hask
      exact ne_run_of_fields nofun
    · obtain ⟨value, _, rfl⟩ := exists_of_map_eq_ok hask
      exact ne_run_of_fields nofun

theorem Alone.receive (h : Alone c store key r s) {message : Value}
    (hmessage : ∀ r, Message.decode? message ≠ some (.run r)) :
    Alone c store key r (s.receive message) := by
  have heq : ∃ bridge line, s.receive message = { s with bridge, line } := by
    unfold Session.receive
    split
    next hrun => exact absurd hrun (hmessage _)
    · unfold Session.answer
      split <;> exact ⟨_, _, rfl⟩
    · exact ⟨_, _, rfl⟩
  obtain ⟨bridge, line, heq⟩ := heq
  rw [heq]
  exact h.of_same rfl rfl rfl rfl rfl

/-- The run goes on, and its questions are answered, until there are none. -/
theorem Alone.converse (h : Alone c store key r s) (now : Int)
    (hscripts : c.scripts ≠ []) (hvars : r.vars = vars.map .text) (fuel : Nat) :
    Alone c store key r
      (Surface.converse (Cli.parts store now key) (c.home store now key) fuel s) := by
  induction fuel generalizing s with
  | zero => exact h
  | succ fuel ih =>
    have hsettled := h.settle now hscripts hvars
    unfold Surface.converse
    generalize s.settle (c.home store now key) = s' at hsettled
    dsimp only
    split
    · exact hsettled
    next hasked =>
      obtain ⟨event, later, hevent⟩ := List.exists_cons_of_ne_nil (by simpa using hasked)
      have hread : Alone c store key r { s' with host := { s'.host with
          base := (Surface.ask Workstation.runner event s'.host.base).2, asked := later } } :=
        hsettled.of_same rfl rfl rfl rfl (machine_ask ..)
      have hnext : Surface.askNext (Cli.parts store now key).runner s'.host =
          ((Surface.ask Workstation.runner event s'.host.base).1, { s'.host with
            base := (Surface.ask Workstation.runner event s'.host.base).2, asked := later }) := by
        simp only [Surface.askNext, hevent]
        rfl
      rw [hnext]
      dsimp only
      split
      next message hask => exact ih (hread.receive (ne_run_of_ask hask))
      next => exact ih hread

/-- A run that is asked for when a session begins goes on until nothing is left to do. -/
theorem alone_run {c : Setup (Surface.State Workstation)} (hscripts : c.scripts ≠ [])
    (hvars : r.vars = vars.map .text) {base : Workstation}
    (hrun : Surface.run (Cli.parts store now key) (c.home store now key) r
      (start (c.home store now key) ⟨base, [], []⟩) = .ok s) : Alone c store key r s := by
  unfold Surface.run at hrun
  cases hoffer : (start (c.home store now key) ⟨base, [], []⟩).offer (c.home store now key) with
  | error fault =>
    rw [hoffer] at hrun
    cases hrun
  | ok m =>
    rw [hoffer] at hrun
    obtain rfl := Except.ok.inj hrun
    refine Alone.converse ?_ now hscripts hvars _
    have hload : ∃ saved events host, m =
        { start (c.home store now key) ⟨base, [], []⟩ with saved, events, host } := by
      unfold offer at hoffer
      cases hload : (c.home store now key).host.load
          (start (c.home store now key) ⟨base, [], []⟩).host with
      | error fault =>
        rw [hload] at hoffer
        cases hoffer
      | ok saved =>
        rw [hload] at hoffer
        obtain rfl := Except.ok.inj hoffer
        exact ⟨_, _, _, rfl⟩
    obtain ⟨saved, events, host, rfl⟩ := hload
    exact .new rfl rfl rfl

end Home

end Session

end Stepwise
