import Stepwise.Proofs.Store.Refinement
import Stepwise.Proofs.Surface.Verdict

namespace Stepwise.Cli

namespace Act

variable {α β : Type}

theorem run_bind (x : Act α) (f : α → Act β) (w : Workstation) :
    (x >>= f).run.run w = match x.run.run w with
      | (.ok a, w) => (f a).run.run w
      | (.error exit, w) => (.error exit, w) := by
  rw [ExceptT.run_bind, StateT.run_bind]
  obtain ⟨_ | a, w'⟩ := x.run.run w <;> rfl

theorem run_get (w : Workstation) : (get : Act Workstation).run.run w = (.ok w, w) := rfl

/-- A line is shown, and nothing else changes, or it cannot be styled. -/
theorem run_print (line : String) (w : Workstation) :
    ∃ outcome terminal, (print line).run.run w = (outcome, { w with terminal }) ∧
      ∀ exit, outcome = .error exit → exit.status = 1 := by
  unfold print
  split
  · exact ⟨_, _, rfl, nofun⟩
  · refine ⟨_, w.terminal, rfl, ?_⟩
    rintro exit ⟨⟩
    rfl

/-- A program that goes on has changed nothing. -/
def OnlyReads (act : Act α) : Prop :=
  ∀ w a w', act.run.run w = (.ok a, w') → w' = w

theorem OnlyReads.run_eq {act : Act α} (h : act.OnlyReads) {w : Workstation} {a : α}
    (hok : (act.run.run w).1 = .ok a) : act.run.run w = (.ok a, w) := by
  cases hrun : act.run.run w with
  | mk outcome w' =>
    rw [hrun] at hok
    dsimp only at hok
    subst hok
    rw [h w a w' hrun]

theorem onlyReads_refuse (message : String) : (refuse message : Act α).OnlyReads := by
  intro w a w' hrun
  obtain ⟨outcome, terminal, hprint, _⟩ := run_print message w
  rw [refuse, run_bind, hprint] at hrun
  cases outcome <;> cases hrun

end Act

theorem onlyReads_configured (level : Settings → String) : (configured level).OnlyReads := by
  intro w settings w' hrun
  unfold configured at hrun
  rw [Act.run_bind, Act.run_get] at hrun
  dsimp only at hrun
  split at hrun
  · exact Act.onlyReads_refuse _ _ _ _ hrun
  · split at hrun <;> cases hrun
    rfl

theorem onlyReads_expected {α : Type} (r : Except LoadFault α) : (expected r).OnlyReads := by
  intro w a w' hrun
  unfold expected at hrun
  split at hrun
  · cases hrun
    rfl
  · split at hrun
    · exact Act.onlyReads_refuse _ _ _ _ hrun
    · cases hrun

theorem onlyReads_loadScripts (p : Path) : (loadScripts p).OnlyReads := by
  intro w entries w' hrun
  unfold loadScripts at hrun
  rw [Act.run_bind] at hrun
  exact onlyReads_expected _ _ _ _ hrun

/-- The failures of a run are shown, if there are any, and written nowhere. -/
theorem run_reportFailures (clock : Clock) (d : Diagnostics) (w : Workstation) :
    ∃ outcome terminal, (reportFailures clock d none).run.run w = (outcome, { w with terminal }) ∧
      ∀ exit, outcome = .error exit → d.hasFailures = true ∧ exit.status = 1 := by
  unfold reportFailures
  split
  next hfailures =>
    obtain ⟨outcome, terminal, hprint, herror⟩ := Act.run_print d.summary w
    refine ⟨outcome, terminal, ?_, fun exit hexit => ⟨hfailures, herror exit hexit⟩⟩
    rw [Act.run_bind, hprint]
    cases outcome <;> rfl
  next => exact ⟨_, w.terminal, rfl, nofun⟩

/-- What a command line for a run comes to, before the run: settings, variables and scripts. -/
structure Opening where
  settings : Settings
  vars : Table String
  scripts : List Entry

namespace Opening

/-- The opening that a command line comes to, if all of it can be read. -/
def read? (options : RunOptions) (w : Workstation) : Option Opening :=
  match ((configured fun s => if options.isVerbose then "DEBUG" else s.logLevel).run.run w).1,
    readVars? options.vars with
  | .ok settings, some vars =>
    match ((loadScripts (options.scripts.getD settings.scripts)).run.run w).1 with
    | .ok scripts => some ⟨settings, vars, scripts⟩
    | .error _ => none
  | _, _ => none

def store (o : Opening) (options : RunOptions) : FileStore :=
  ⟨options.stateFile.getD o.settings.stateFile⟩

/-- The key under which the state of the workspace is saved. -/
def key (w : Workstation) : String :=
  stateKey (some w.machine.disk.cwd.toString)

def parts (o : Opening) (clock : Clock) (options : RunOptions) (w : Workstation) :
    Surface.Parts Workstation :=
  Cli.parts (o.store options) clock.now (key w)

def setup (o : Opening) (clock : Clock) (options : RunOptions) (w : Workstation) :
    Session.Setup (Surface.State Workstation) where
  scripts := o.scripts
  workspace := some w.machine.disk.cwd.toString
  limit := options.maxSteps.getD o.settings.maxSteps
  defers := false
  now := clock.now
  moment := clock.moment
  host := Surface.host (o.parts clock options w)

def request (o : Opening) (options : RunOptions) : RunRequest :=
  ⟨options.script, options.resumes, options.restarts, o.vars.map .text⟩

/-- The terminal at which the run is played. -/
def station (o : Opening) (options : RunOptions) (w : Workstation) : Workstation :=
  { w with
    isVerbose := options.isVerbose || o.settings.verbose ||
      ((w.machine.env.lookup "WALKTHROUGH_VERBOSE").map (!·.isEmpty)).getD false
    limit := o.settings.commandTimeout.map Value.float }

/-- The session after the run. -/
def played (o : Opening) (clock : Clock) (options : RunOptions) (w : Workstation) :
    Except StoreFault (Session (Surface.State Workstation)) :=
  Surface.run (o.parts clock options w) (o.setup clock options w) (o.request options)
    (Session.start (o.setup clock options w) ⟨o.station options w, [], []⟩)

end Opening

/-- How the program ends once the run has ended. -/
def conclude (clock : Clock) (options : RunOptions) (s : Session (Surface.State Workstation)) :
    Act Unit := do
  set s.host.base
  match Surface.ending? s with
  | none | some .cancelled => throw .stuck
  | some (.failed fault) => throw (.crash fault.kind)
  | some (.result result) =>
    reportFailures clock s.diagnostics options.diagnosticsDirectory
    throw (.code (codeOf ((result.map Result.status).getD .failure)))

theorem run_of_opening {o : Opening} {clock : Clock} {options : RunOptions} {w : Workstation}
    (hread : Opening.read? options w = some o) {s : Session (Surface.State Workstation)}
    (hplayed : o.played clock options w = .ok s) :
    (run clock options).run.run w = (conclude clock options s).run.run w := by
  unfold Opening.read? at hread
  split at hread
  next settings vars hsettings hvars =>
    split at hread
    next scripts hscripts =>
      obtain rfl := Option.some.inj hread
      unfold run
      rw [Act.run_bind, (onlyReads_configured _).run_eq hsettings]
      dsimp only
      rw [hvars]
      dsimp only
      rw [Act.run_bind, (onlyReads_loadScripts _).run_eq hscripts]
      dsimp only
      rw [Act.run_bind, Act.run_get]
      dsimp only
      split
      next fault hfault => cases hplayed.symm.trans hfault
      next s' hs' =>
        obtain rfl := Except.ok.inj (hplayed.symm.trans hs')
        rfl
    next => cases hread
  next => cases hread

section Conclude

variable {clock : Clock} {options : RunOptions} {s : Session (Surface.State Workstation)}
  {w : Workstation}

theorem run_conclude_failed {fault : StoreFault}
    (hending : Surface.ending? s = some (.failed fault)) :
    (conclude clock options s).run.run w = (.error (.crash fault.kind), s.host.base) := by
  unfold conclude
  rw [hending]
  rfl

variable (clock w) in
/-- A failure that cannot be shown is a failure still. -/
theorem run_conclude_result (hdirectory : options.diagnosticsDirectory = none)
    {result : Option Result} (hending : Surface.ending? s = some (.result result))
    (hfailures : s.diagnostics.hasFailures = result.isNone) :
    ∃ exit terminal, (conclude clock options s).run.run w =
        (.error exit, { s.host.base with terminal }) ∧
      exit.status = codeOf ((result.map Result.status).getD .failure) := by
  obtain ⟨outcome, terminal, hreport, herror⟩ :=
    run_reportFailures clock s.diagnostics s.host.base
  have hconclude : (conclude clock options s).run.run w =
      (reportFailures clock s.diagnostics none >>= fun _ =>
        (throw (Exit.code (codeOf ((result.map Result.status).getD .failure))) : Act Unit)).run.run
          s.host.base := by
    unfold conclude
    rw [hending, hdirectory]
    rfl
  rw [hconclude, Act.run_bind, hreport]
  cases outcome with
  | ok => exact ⟨_, terminal, rfl, rfl⟩
  | error exit =>
    obtain ⟨hfailed, hstatus⟩ := herror exit rfl
    obtain rfl : result = none := Option.isNone_iff_eq_none.1 (hfailures.symm.trans hfailed)
    exact ⟨exit, terminal, rfl, hstatus⟩

end Conclude

/-- What a run that has ended leaves on the disk, on record and as the exit of the program. -/
inductive Opening.Leaves (o : Opening) (clock : Clock) (options : RunOptions) (w : Workstation)
    (s : Session (Surface.State Workstation)) (exit : Exit) (disk : Disk) : Prop where
  /-- The exit and what is saved tell the same of the script that ended. -/
  | saved (plan : Session.Plan) (ending : Except (Context × Fault) Result) (before : Disk)
      (run : SavedRun)
      (hended : Session.Ended (o.setup clock options w) (o.request options) s.diagnostics plan
        ending)
      (hreturns : Surface.ending? s = some (.result ending.toOption))
      (hsave : (o.store options).update before (key w) (some run) = .ok disk)
      (hstatus : ∀ status, exit.status = codeOf status ↔ run.lastStatus = some status.name)
      (hfound : ∀ entries now, (o.store options).entries before = .ok entries →
        Yaml.Keeps (SavedRun.put (key w) (some run) entries) →
        ∃ found, (o.store options).get disk now (key w) = .ok (some found) ∧
          ∀ status, exit.status = codeOf status ↔ found.lastStatus = some status.name)
  /-- The script ended, but the store could not be written and is as it was. -/
  | unsaved (plan : Session.Plan) (ending : Except (Context × Fault) Result) (run : SavedRun)
      (fault : StoreFault)
      (hended : Session.Ended (o.setup clock options w) (o.request options) s.diagnostics plan
        ending)
      (hsave : (o.store options).update disk (key w) (some run) = .error fault)
      (hexit : exit = .crash fault.kind)
  /-- The script did not begin, for what is saved could not be dropped and is as it was. -/
  | uncleared (fault : StoreFault) (hrestarts : options.restarts = true)
      (hsave : (o.store options).update disk (key w) none = .error fault)
      (hclear : s.diagnostics.hasFailures = false) (hexit : exit = .crash fault.kind)

theorem codeOf_eq_iff (status other : Status) :
    codeOf status = codeOf other ↔ some status.name = some other.name := by
  cases status <;> cases other <;> decide

/-- A workspace with a bundle of one script, which ends at once. -/
def homestead : Workstation where
  terminal := ⟨[], ""⟩
  machine := ⟨⟨⟨"/", ["home"]⟩, [(["home"], .directory), (["home", "b.json"], .file (Text.toBytes
    "[\x7b\"id\": \"s\", \"steps\": [\x7b\"id\": \"e\", \"type\": \"end\"\x7d]\x7d]"))]⟩, []⟩
  isVerbose := false
  limit := none

/-- A run of the bundle, with its state in this file. -/
def plainRun (stateFile : String) : RunOptions :=
  ⟨none, some (.ofString "b.json"), false, false, [], some (.ofString stateFile), none, false, none⟩

def plainClock : Clock := ⟨0, ⟨2024, 1, 1, none⟩⟩

def hasReturned (s : Session (Surface.State Workstation)) : Bool :=
  match Surface.ending? s with
  | some (.result _) => true
  | _ => false

/-- How the run of the bundle opens, what it comes to, and how the program ends with it. -/
def plainEnd? (stateFile : String) :
    Option (Opening × Session (Surface.State Workstation) × Exit × Workstation) := do
  let o ← Opening.read? (plainRun stateFile) homestead
  let s ← (o.played plainClock (plainRun stateFile) homestead).toOption
  match (run plainClock (plainRun stateFile)).run.run homestead with
  | (.ok (), _) => none
  | (.error exit, w') => some (o, s, exit, w')

theorem exists_of_plainEnd (stateFile : String)
    (check : Opening → Session (Surface.State Workstation) → Exit → Workstation → Bool)
    (h : (plainEnd? stateFile).any (fun (o, s, exit, w') => check o s exit w') = true) :
    ∃ o s exit w', Opening.read? (plainRun stateFile) homestead = some o ∧
      o.played plainClock (plainRun stateFile) homestead = .ok s ∧
      (run plainClock (plainRun stateFile)).run.run homestead = (.error exit, w') ∧
      check o s exit w' = true := by
  unfold plainEnd? at h
  cases hread : Opening.read? (plainRun stateFile) homestead with
  | none => simp [hread] at h
  | some o =>
    cases hplayed : o.played plainClock (plainRun stateFile) homestead with
    | error => simp [hread, hplayed, Except.toOption] at h
    | ok s =>
      cases hrun : (run plainClock (plainRun stateFile)).run.run homestead with
      | mk outcome w' =>
        cases outcome with
        | ok => simp [hread, hrun, Except.toOption] at h
        | error exit =>
          refine ⟨o, s, exit, w', rfl, hplayed, rfl, ?_⟩
          simpa [hread, hplayed, hrun, Except.toOption] using h

end Stepwise.Cli
