import Stepwise.Proofs.Session.Coherent

namespace Stepwise

/-- What is said of a fault. -/
def Fault.notice (fault : Fault) : String :=
  if fault.message.isEmpty then "Unexpected error running script" else fault.message

namespace Session

open Run

variable {σ : Type} {c : Setup σ} {s m n : Session σ} {i : Nat} {plan : Plan} {ds ds' : List (Deed σ)}
  {vars : Table String} {place : Context} {fault : Fault}

/-- The failure on record of a run that was at this place. -/
def Plan.failure (plan : Plan) (c : Setup σ) (place : Context) (fault : Fault) : Failure where
  script := plan.entry.id
  step := ((if fault.isLocated then place.step else none).filter (!·.isEmpty)).getD
    Diagnostics.beforeSteps
  error := fault.notice
  context := [("error_type", .text fault.kind)]
  time := c.moment

/-- The failure that a deed leaves on record. A run that is cancelled leaves none. -/
def Deed.failure? (c : Setup σ) : Deed σ → Option Failure
  | .over plan (.error (place, fault)) =>
    if fault = .cancelled then none else some (plan.failure c place fault)
  | _ => none

theorem failure?_eq_some {deed : Deed σ} {f : Failure} (h : deed.failure? c = some f) :
    ∃ plan place fault, deed = .over plan (.error (place, fault)) ∧ fault ≠ .cancelled := by
  unfold Deed.failure? at h
  split at h
  next plan place fault =>
    split at h
    · cases h
    next hfault => exact ⟨plan, place, fault, rfl, hfault⟩
  next => cases h

def failures (c : Setup σ) (ds : List (Deed σ)) : List Failure :=
  ds.filterMap (Deed.failure? c)

theorem failures_append (c : Setup σ) (ds ds' : List (Deed σ)) :
    failures c (ds ++ ds') = failures c ds ++ failures c ds' :=
  List.filterMap_append

/-- A session has come to another by these deeds, and has their failures on record. -/
structure Diagnoses (c : Setup σ) (ds : List (Deed σ)) (s m : Session σ) : Prop where
  eq : m.diagnostics = { s.diagnostics with failures := s.diagnostics.failures ++ failures c ds }

namespace Diagnoses

theorem of_eq (heq : m.diagnostics = s.diagnostics) (hnone : failures c ds = []) :
    Diagnoses c ds s m := by
  refine ⟨heq.trans ?_⟩
  rw [hnone, List.append_nil]

theorem trans (h : Diagnoses c ds s m) (h' : Diagnoses c ds' m n) :
    Diagnoses c (ds ++ ds') s n := by
  refine ⟨h'.eq.trans ?_⟩
  rw [h.eq, failures_append, List.append_assoc]

end Diagnoses

theorem Serves.diagnostics_eq (h : Serves s m) : m.diagnostics = s.diagnostics := by
  rw [h.eq]

theorem diagnostics_cancel (s : Session σ) (i : Nat) :
    (s.cancel i).diagnostics = s.diagnostics := by
  unfold cancel
  split
  · rfl
  · rfl
  · split
    · split <;> rfl
    · rfl
  · rfl
  · rfl

theorem diagnostics_abandon (s : Session σ) (current : Option Nat) :
    (s.abandon current).diagnostics = s.diagnostics := by
  unfold abandon
  split
  · rfl
  · dsimp only
    split
    · split
      · rfl
      · exact diagnostics_cancel _ _
    · rfl

theorem diagnostics_hand (c : Setup σ) (s : Session σ) (i : Nat) (e : Event) :
    (s.hand c i e).diagnostics = s.diagnostics := by
  unfold hand deliver
  dsimp only
  split
  · exact diagnostics_abandon _ _
  · rfl

section Deferring

variable (hdefers : c.defers)

include hdefers

theorem diagnostics_conclude (s : Session σ) (i : Nat) (ending : Ending) :
    (s.conclude c i ending).diagnostics = s.diagnostics := by
  rw [conclude_eq hdefers]
  unfold concluded
  cases s.bridge <;> rfl

theorem diagnostics_keep (s : Session σ) (i : Nat) (plan : Plan) (v : Verdict) :
    (s.keep c i plan v).diagnostics = s.diagnostics := by
  unfold keep
  split
  · exact diagnostics_conclude hdefers ..
  · dsimp only
    split <;> exact diagnostics_conclude hdefers ..

theorem diagnostics_consider (s : Session σ) (i : Nat) (r : RunRequest) :
    (s.consider c i r).diagnostics = s.diagnostics := by
  have haccepted : ∀ {plan m}, s.Accepts c r plan m → m.diagnostics = s.diagnostics := by
    intro plan m haccepts
    rw [haccepts.session]
  have hconsidered := considered hdefers i r s
  generalize s.consider c i r = s' at hconsidered ⊢
  cases hconsidered with
  | refused | unknown => rfl
  | announced plan m haccepts =>
    have hsame := haccepted haccepts
    exact hsame
  | opened plan m haccepts =>
    have hsame := haccepted haccepts
    rw [prepare_eq hdefers]
    exact hsame
  | failed fault => exact diagnostics_conclude hdefers ..

theorem diagnostics_comes (s : Session σ) (i : Nat) (wait : Wait) (isFlagged : Bool) :
    (s.comes c i wait isFlagged).2.diagnostics = s.diagnostics := by
  unfold comes
  split
  · rfl
  · cases wait with
    | delivery e later aim =>
      exact (serves_announce hdefers (s.hand c i e) i later aim).diagnostics_eq.trans
        (diagnostics_hand c s i e)
    | ticket t => rfl
    | command argv cwd isOver => exact (serves_collect hdefers (s.seat i) i argv cwd).diagnostics_eq

/-- A run that is over leaves its failure on record. -/
theorem diagnoses_judge (s : Session σ) (i : Nat) (plan : Plan)
    (ending : Except (Context × Fault) Result) :
    Diagnoses c [.over plan ending] s (s.judge c i plan ending) := by
  have hdiagnosed : plan.diagnosed c s.diagnostics ending = { s.diagnostics with
      failures := s.diagnostics.failures ++ failures c [(.over plan ending : Deed σ)] } := by
    rcases ending with ⟨place, fault⟩ | r
    · by_cases hfault : fault = .cancelled
      · simp [Plan.diagnosed, failures, Deed.failure?, hfault]
      · simp [Plan.diagnosed, failures, Deed.failure?, hfault, Diagnostics.record, Plan.failure,
          Fault.notice]
    · exact (congrArg (Diagnostics.mk _) (List.append_nil _)).symm
  rw [judge_eq hdefers]
  split
  · exact ⟨hdiagnosed⟩
  next hverdict =>
    refine .of_eq (diagnostics_conclude hdefers ..) ?_
    rcases ending with ⟨place, fault⟩ | r
    · by_cases hfault : fault = .cancelled
      · simp [failures, Deed.failure?, hfault]
      · simp [Plan.verdict, hfault] at hverdict
    · rfl

/-- What a run does until it waits or is over. -/
theorem diagnoses_proceed (i : Nat) (plan : Plan) (d : Dialogue Result) (s : Session σ) :
    Diagnoses c (playDeeds c i plan d s) s (s.proceed c i plan d) := by
  induction d generalizing s with
  | done r => exact ⟨(diagnoses_judge hdefers { s with player := none } i plan (.ok r)).eq⟩
  | fail place fault =>
    exact ⟨(diagnoses_judge hdefers { s with player := none } i plan (.error (place, fault))).eq⟩
  | visit place rest ih => exact .trans (.of_eq rfl rfl : Diagnoses c [.visit place] s s) (ih s)
  | ask place q next ih =>
    have hserves := (serves_serve hdefers s i place q).diagnostics_eq
    rw [proceed_ask_eq]
    unfold playDeeds
    generalize s.serve c i place q = served at hserves
    obtain ⟨reply | wait, m⟩ := served
    · exact .trans (.of_eq hserves rfl : Diagnoses c [.attempt place q s (.reply reply) m] s m)
        (ih place reply m)
    · exact .of_eq hserves rfl

theorem diagnoses_carryOn (i : Nat) (plan : Plan) (next : Reply → Dialogue Result)
    (served : Served × Session σ) :
    Diagnoses c (replyDeeds c i plan next served) served.2 (carryOn c i plan next served) := by
  obtain ⟨reply | wait, m⟩ := served
  · exact .trans (.of_eq rfl rfl : Diagnoses c [.hear reply] m m)
      (diagnoses_proceed hdefers i plan (next reply) m)
  · exact .of_eq rfl rfl

omit hdefers in
theorem Diagnoses.of_deeds_eq (heq : m.diagnostics = s.diagnostics) (hnone : s.deeds c i = []) :
    Diagnoses c (s.deeds c i) s m :=
  .of_eq heq (hnone ▸ rfl)

/-- A task goes on after its event was taken. -/
theorem diagnoses_posting {e : Event} {later : List Event} {goal : Goal}
    (htask : s.tasks[i]? = some ⟨.posting e later goal, false⟩) :
    Diagnoses c (s.deeds c i) s (s.happen c (.wake i)) := by
  have hhand := diagnostics_hand c s i e
  cases later with
  | cons e' later =>
    rw [wake_posting_cons hdefers htask]
    exact .of_deeds_eq hhand (by simp only [deeds, htask])
  | nil =>
    rw [wake_posting_nil htask]
    cases goal with
    | refuse | finish => exact .of_deeds_eq hhand (by simp only [deeds, htask])
    | prepare plan =>
      refine .of_deeds_eq ?_ (by simp only [deeds, htask])
      rw [reachGoal, prepare_eq hdefers]
      exact hhand
    | keep plan v =>
      exact .of_deeds_eq ((diagnostics_keep hdefers ..).trans hhand) (by simp only [deeds, htask])
    | play plan =>
      rw [deeds_of_ready htask]
      exact .trans (.of_eq hhand rfl : Diagnoses c [] s { s.hand c i e with player := some i })
        (diagnoses_proceed hdefers i plan _ _)

/-- A task goes on. -/
theorem diagnoses_wake {run : Option Nat} (horder : Order s.footing s.tasks run) (i : Nat) :
    Diagnoses c (s.deeds c i) s (s.happen c (.wake i)) := by
  cases htask : s.tasks[i]? with
  | none =>
    rw [wake_none htask]
    exact .of_deeds_eq rfl (by simp only [deeds, htask])
  | some task =>
    obtain ⟨phase, isFlagged⟩ := task
    cases phase with
    | finished | active =>
      obtain rfl : isFlagged = false := horder.isFlagged htask trivial
      rw [wake_still htask trivial]
      exact .of_deeds_eq rfl (by simp only [deeds, htask])
    | new r =>
      obtain rfl : isFlagged = false := horder.isFlagged htask trivial
      rw [wake_new htask]
      refine .of_eq (diagnostics_consider hdefers (s.seat i) i r) ?_
      rw [deeds_of_new htask]
      unfold acceptDeeds
      split <;> rfl
    | posting e later goal =>
      obtain rfl : isFlagged = false := horder.isFlagged_of_posting htask
      exact diagnoses_posting hdefers htask
    | playing plan next wait =>
      rw [wake_playing htask, deeds_of_playing htask]
      exact .trans (.of_eq (diagnostics_comes hdefers s i wait isFlagged) rfl : Diagnoses c [] s _)
        (diagnoses_carryOn hdefers i plan next _)

omit hdefers in
theorem failures_callDeeds (s : Session σ) (i : Nat) : failures c (s.callDeeds c i) = [] := by
  unfold callDeeds
  cases ((s.happen c (.wake i)).tasks[i]?).bind fun task => task.phase.underway? <;> rfl

/-- Whatever happens, the failures of what was done are on record. -/
theorem diagnoses_happen {run : Option Nat} (horder : Order s.footing s.tasks run) (x : Happening) :
    Diagnoses c ((s.entries c x).map Prod.snd) s (s.happen c x) := by
  have hgiven : failures c (((s.givenUp? c x).toList.map fun i => (i, (Deed.giveUp : Deed σ))).map
      Prod.snd) = [] := by
    cases s.givenUp? c x <;> rfl
  have hquiet : ∀ {m : Session σ}, m.diagnostics = s.diagnostics →
      Diagnoses c (((s.givenUp? c x).toList.map fun i => (i, (Deed.giveUp : Deed σ))).map
        Prod.snd) s m := fun heq => .of_eq heq hgiven
  unfold entries
  rw [List.map_append]
  cases x with
  | wake i =>
    refine .trans (hquiet rfl) ?_
    rw [List.map_map, Function.comp_def, List.map_id']
    have hwake := diagnoses_wake hdefers horder i
    exact hwake.trans (.of_eq rfl (failures_callDeeds s i))
  | request script resumes clears vars => exact .trans (hquiet rfl) (.of_eq rfl rfl)
  | shuffle line => exact .trans (hquiet rfl) (.of_eq rfl rfl)
  | abandon current => exact .trans (hquiet rfl) (.of_eq (diagnostics_abandon s current) rfl)
  | message v =>
    refine .trans (hquiet rfl) (.of_eq ?_ rfl)
    simp only [happen, receive]
    split
    · rfl
    · unfold answer
      split <;> rfl
    · rfl

end Deferring

theorem eq_of_map_text {kept : Table String} (h : vars.map Value.text = kept.map .text) :
    vars = kept :=
  Record.Decoded.ok.inj ((texts_map_text vars).symm.trans (h ▸ texts_map_text kept))

/-- A run that failed is told to have failed. -/
theorem verdict_of_fault {isAbandoned : Bool} {e : Event} {later : List Event} {v : Verdict}
    (hfault : fault ≠ .cancelled)
    (hverdict : plan.verdict isAbandoned (.error (place, fault)) = some (e, later, v)) :
    v = ⟨.failure, some fault.notice, if fault.isLocated then place.vars else plan.vars, none⟩ := by
  simp only [Plan.verdict, if_neg hfault, Option.some.injEq, Prod.mk.injEq] at hverdict
  exact hverdict.2.2.symm

/-- What comes of the record of a run whose script is over. -/
theorem Recorded.judged {phase : Phase} (h : Recorded c ds phase)
    {ending : Except (Context × Fault) Result} (hover : .over plan ending ∈ ds) :
    endings ds = [(plan, ending)] ∧ ∃ vars v, Judged c ds plan vars v ∧
      ∀ before after, .call (.busy false) before after ∈ ds → Closes c plan v before after := by
  have hmem : (plan, ending) ∈ endings ds := List.mem_filterMap.2 ⟨_, hover, rfl⟩
  have hbegun : ∀ {other vars}, Begun c ds other vars → False := by
    intro other vars hbegun
    rw [hbegun.endings] at hmem
    cases hmem
  have hjudged : ∀ {other vars v}, Judged c ds other vars v →
      (∀ before after, .call (.busy false) before after ∈ ds → Closes c other v before after) →
      endings ds = [(plan, ending)] ∧ ∃ vars v, Judged c ds plan vars v ∧
        ∀ before after, .call (.busy false) before after ∈ ds → Closes c plan v before after := by
    intro other vars v hjudged hcloses
    obtain ⟨ending', hendings, _⟩ := hjudged.ending
    rw [hendings, List.mem_singleton] at hmem
    cases hmem
    exact ⟨hendings, vars, v, hjudged, hcloses⟩
  cases h with
  | new r vars hvars hnone => rw [hnone] at hover; cases hover
  | refusing e he hall | refused e he hall =>
    obtain ⟨_, _, rfl⟩ := hall
    cases List.mem_singleton.1 hover
  | opening plan vars e hother | ready plan vars e later hother => exact (hbegun hother).elim
  | playing plan vars next wait place q hother => exact (hbegun hother).elim
  | closing other vars e later v hv hcalls =>
    exact hjudged hv fun before after hmem =>
      absurd (List.mem_append_left _ (mem_calls hmem)) (not_busy_of_judged hcalls)
  | ending other vars v hv hcalls hcloses | ended other vars v hv hcalls hcloses =>
    exact hjudged hv hcloses

end Session

open Session Run

namespace Chronicle

variable {σ : Type} {c : Setup σ} {ch : Chronicle σ} {i : Nat} {plan : Plan} {place : Context}
  {fault : Fault}

/-- The failures on record are those of the runs so far. -/
def IsDiagnosed (c : Setup σ) (ch : Chronicle σ) : Prop :=
  ch.session.diagnostics = ⟨c.moment, failures c (ch.log.map Prod.snd)⟩

theorem Coherent.isDiagnosed_note (h : Coherent c ch) (hdefers : c.defers)
    (hdiagnosed : ch.IsDiagnosed c) (x : Happening) : (ch.note c x).IsDiagnosed c := by
  obtain ⟨run, horder⟩ := h.order
  unfold IsDiagnosed at hdiagnosed ⊢
  rw [Chronicle.note, (diagnoses_happen hdefers horder x).eq, hdiagnosed, List.map_append,
    failures_append]

theorem Coherent.isDiagnosed_run (h : Coherent c ch) (hdefers : c.defers) (hhost : c.host.Keeps)
    (hdiagnosed : ch.IsDiagnosed c) (xs : List Happening) : (ch.run c xs).IsDiagnosed c := by
  induction xs generalizing ch with
  | nil => exact hdiagnosed
  | cons x xs ih => exact ih (h.note hdefers hhost x) (h.isDiagnosed_note hdefers hdiagnosed x)

/-- What is left of a run that began with these variables and failed: it says where it was and keeps
    what it reached, unless its host is at fault or its script is none. -/
structure Leaves (c : Setup σ) (ch : Chronicle σ) (i : Nat) (plan : Plan) (vars : Table String)
    (place : Context) (fault : Fault) : Prop where
  failure : plan.failure c place fault ∈ ch.session.diagnostics.failures
  located : fault.isLocated → ∃ step, step ≠ "" ∧ (plan.failure c place fault).step = step ∧
    (lastVisit (trail (ch.of i)).marks = some step ∨ ∃ limit, fault = .budgetExceeded limit)
  unlocated : ¬ fault.isLocated → (plan.failure c place fault).step = Diagnostics.beforeSteps ∧
    ((∃ f, fault = .host f) ∨ ∃ f, Script.ofInput plan.entry.script = .error f)
  saved : ∀ before after, .call (.busy false) before after ∈ ch.of i →
    ∃ answers, after.saved = some ⟨plan.entry.id, answers,
        if fault.isLocated then reached plan.entry.script vars (trail (ch.of i)).marks else vars,
        some "failure", some fault.notice, c.now⟩ ∧
      c.host.load after.host = .ok after.saved

theorem mem_log_of_mem_of {deed : Deed σ} (hmem : deed ∈ ch.of i) : (i, deed) ∈ ch.log := by
  obtain ⟨⟨j, other⟩, hlog, hother⟩ := List.mem_filterMap.1 hmem
  dsimp only at hother
  split at hother
  next hj =>
    cases hother
    exact hj ▸ hlog
  next => cases hother

theorem Coherent.leaves (h : Coherent c ch) (hdiagnosed : ch.IsDiagnosed c)
    (hover : .over plan (.error (place, fault)) ∈ ch.of i) (hfault : fault ≠ .cancelled) :
    ∃ vars : Table String, plan.vars = vars.map .text ∧ Leaves c ch i plan vars place fault := by
  have hrecorded : ∃ task, ch.session.tasks[i]? = some task ∧ Recorded c (ch.of i) task.phase := by
    cases htask : ch.session.tasks[i]? with
    | none => rw [h.unknown i htask] at hover; cases hover
    | some task => exact ⟨task, rfl, h.recorded i task htask⟩
  obtain ⟨task, _, hrecorded⟩ := hrecorded
  obtain ⟨hendings, vars, v, hjudged, hcloses⟩ := hrecorded.judged hover
  obtain ⟨ending, hendings', hended, isAbandoned, e, later, hverdict⟩ := hjudged.ending
  obtain rfl : ending = .error (place, fault) := by
    rw [hendings] at hendings'
    cases hendings'
    rfl
  have hfails := hended.resolve_left fun hcancelled => hfault hcancelled.1
  obtain rfl := verdict_of_fault hfault hverdict
  refine ⟨vars, hjudged.textual, ?_, fun hlocated => ?_, fun hlost => ?_, fun before after hmem => ?_⟩
  · rw [hdiagnosed]
    exact List.mem_filterMap.2 ⟨_, List.mem_map_of_mem (mem_log_of_mem_of hover), if_neg hfault⟩
  · obtain ⟨step, hstep, hne⟩ := hfails.located hlocated
    refine ⟨step, hne, ?_, ?_⟩
    · simp [Plan.failure, hlocated, hstep, Option.filter_some, hne]
    · rw [← hstep]
      exact hfails.step.imp_left Eq.symm
  · refine ⟨by simp [Plan.failure, hlost], ?_⟩
    cases fault with
    | host f => exact .inl ⟨f, rfl⟩
    | invalidScript f => exact .inr ⟨f, hfails.rejected f rfl⟩
    | _ => exact absurd rfl hlost
  · obtain ⟨_, _, _, kept, answers, hkept, hsaved, hload⟩ := hcloses before after hmem
    have hvars : (if fault.isLocated then
        reached plan.entry.script vars (trail (ch.of i)).marks else vars).map Value.text =
        kept.map .text := by
      rw [← hkept]
      dsimp only
      split
      · exact hfails.vars.symm
      · exact hjudged.textual.symm
    rw [← eq_of_map_text hvars] at hsaved
    exact ⟨answers, hsaved, hload⟩

/-- A script that asks for a name, and then goes round. -/
def carousel : Script :=
  { greeting with steps := greeting.steps ++ [⟨"again", none, none, .goto "again"⟩] }

end Chronicle

end Stepwise
