import Stepwise.Proofs.Session.Coherent
import Stepwise.Proofs.Session.Deferral

namespace Stepwise

namespace Session

variable {σ : Type} {c : Setup σ} {s : Session σ} {i : Nat} {ds : List (Deed σ)} {phase : Phase}
  {plan : Plan} {status : Status}

/-- What a run says that is refused because another one is active. -/
def refusal : Event :=
  .log .warn "A walkthrough run is already in progress."

/-- The life of a run that was accepted: what it tells is right in kind and order, and complete if it
    is over. When it tells last that it is over, it is. -/
structure Lives (c : Setup σ) (ds : List (Deed σ)) (plan : Plan) (phase : Phase) : Prop where
  once : ∃ r, plans ds = [(r, plan)] ∧ c.script? r.script = some plan.entry
  telling : ∃ status es, plan.Told status es ∧ calls ds <+: es
  closing : ∀ before after, .call (.busy false) before after ∈ ds →
    ∃ v : Verdict, plan.Told v.status (calls ds) ∧ Closes c plan v before after
  finished : ∀ ending, phase = .finished ending →
    ∃ v : Verdict, ending = .result v.result ∧ plan.Told v.status (calls ds)

theorem Plan.Judged.told {es : List Event} (h : plan.Judged status es) :
    plan.Told status (es ++ [.busy false]) :=
  ⟨es, h, rfl⟩

theorem Plan.Plays.judged {es : List Event} (h : plan.Plays es) (status : Status) (text : String) :
    plan.Judged status (es ++ [.status status text]) :=
  ⟨es, text, h, rfl⟩

/-- A run that has told so much, and nothing else, may be over in the end. -/
theorem Plan.Plays.telling {es : List Event} (h : plan.Plays es) :
    ∃ status es', plan.Told status es' ∧ es <+: es' := by
  refine ⟨.success, _, (h.judged .success "").told, ?_⟩
  rw [List.append_assoc]
  exact List.prefix_append ..

theorem Plan.Told.mem_busy {es : List Event} (h : plan.Told status es) : .busy false ∈ es := by
  obtain ⟨judged, _, rfl⟩ := h
  exact List.mem_append_right _ List.mem_cons_self

theorem Plan.Plays.not_busy {es : List Event} (h : plan.Plays es) : .busy false ∉ es :=
  fun hmem => not_busy_of_judged (h.judged .success "") (List.mem_append_left _ hmem)

/-- A run is active from when it is accepted until it tells that it is over. -/
theorem Recorded.isActive_iff (h : Recorded c ds phase) :
    ¬ phase.IsAside ↔ plans ds ≠ [] ∧ .busy false ∉ calls ds := by
  have hplanned : ∀ {plan : Plan}, (∃ r, plans ds = [(r, plan)] ∧
      c.script? r.script = some plan.entry) → plans ds ≠ [] := by
    rintro plan ⟨r, hplans, _⟩
    simp [hplans]
  cases h with
  | new r vars hvars hnone => exact iff_of_false (fun h => h trivial) fun h => h.1 (hnone ▸ rfl)
  | refusing e he hall | refused e he hall =>
    obtain ⟨_, _, rfl⟩ := hall
    exact iff_of_false (fun h => h trivial) fun h => h.1 rfl
  | opening plan vars e hbegun htrail he hcalls =>
    refine iff_of_true id ⟨hplanned hbegun.plans, ?_⟩
    rw [hcalls, List.mem_singleton]
    rintro rfl
    exact he
  | ready plan vars e later hbegun htrail hcalls =>
    exact iff_of_true id ⟨hplanned hbegun.plans, fun hmem =>
      hcalls.plays.not_busy (List.mem_append_left _ hmem)⟩
  | playing plan vars next wait place q hbegun hcalls =>
    exact iff_of_true id ⟨hplanned hbegun.plans, hcalls.not_busy⟩
  | closing plan vars e later v hjudged hcalls =>
    exact iff_of_true id ⟨hplanned hjudged.plans, fun hmem =>
      not_busy_of_judged hcalls (List.mem_append_left _ hmem)⟩
  | ending plan vars v hjudged hcalls | ended plan vars v hjudged hcalls =>
    exact iff_of_false (fun h => h trivial) fun h => h.2 hcalls.mem_busy

/-- A run that was accepted lives as it should. -/
theorem Recorded.lives (h : Recorded c ds phase) {r : RunRequest} (hplan : (r, plan) ∈ plans ds) :
    Lives c ds plan phase := by
  have hsame : ∀ {other : Plan}, (∃ r, plans ds = [(r, other)] ∧
      c.script? r.script = some other.entry) → other = plan := by
    rintro other ⟨r', hplans, _⟩
    rw [hplans, List.mem_singleton] at hplan
    exact (congrArg Prod.snd hplan).symm
  have hopen : .busy false ∉ calls ds → ∀ before after, .call (.busy false) before after ∈ ds →
      ∃ v : Verdict, plan.Told v.status (calls ds) ∧ Closes c plan v before after :=
    fun hquiet before after hmem => absurd (mem_calls hmem) hquiet
  have hactive := h.isActive_iff
  cases h with
  | new r vars hvars hnone => rw [hnone] at hplan; cases hplan
  | refusing e he hall | refused e he hall =>
    obtain ⟨_, _, rfl⟩ := hall
    cases hplan
  | opening _ vars e hbegun htrail he hcalls =>
    obtain rfl := hsame hbegun.plans
    refine ⟨hbegun.plans, ?_, hopen (hactive.1 id).2, nofun⟩
    obtain ⟨status, es, htold, hprefix⟩ := Plan.Plays.telling
      (Plan.Opens.plays ⟨[e], by simpa using he, rfl⟩)
    exact ⟨status, es, htold, hcalls ▸ (List.prefix_append ..).trans hprefix⟩
  | ready _ vars e later hbegun htrail hcalls =>
    obtain rfl := hsame hbegun.plans
    refine ⟨hbegun.plans, ?_, hopen (hactive.1 id).2, nofun⟩
    obtain ⟨status, es, htold, hprefix⟩ := hcalls.plays.telling
    exact ⟨status, es, htold, (List.prefix_append ..).trans hprefix⟩
  | playing _ vars next wait place q hbegun hcalls =>
    obtain rfl := hsame hbegun.plans
    exact ⟨hbegun.plans, hcalls.telling, hopen (hactive.1 id).2, nofun⟩
  | closing _ vars e later v hjudged hcalls =>
    obtain rfl := hsame hjudged.plans
    refine ⟨hjudged.plans, ⟨v.status, _, hcalls.told, ?_⟩, hopen (hactive.1 id).2, nofun⟩
    rw [List.append_assoc]
    exact List.prefix_append ..
  | ending _ vars v hjudged hcalls hcloses =>
    obtain rfl := hsame hjudged.plans
    exact ⟨hjudged.plans, ⟨v.status, _, hcalls, List.prefix_rfl⟩,
      fun before after hmem => ⟨v, hcalls, hcloses before after hmem⟩, nofun⟩
  | ended _ vars v hjudged hcalls hcloses =>
    obtain rfl := hsame hjudged.plans
    refine ⟨hjudged.plans, ⟨v.status, _, hcalls, List.prefix_rfl⟩,
      fun before after hmem => ⟨v, hcalls, hcloses before after hmem⟩, fun ending heq => ?_⟩
    cases heq
    exact ⟨v, rfl, hcalls⟩

end Session

open Session

namespace Chronicle

variable {σ : Type} {c : Setup σ} {ch : Chronicle σ} {i : Nat}

/-- A run was accepted, and has not told yet that it is over. -/
def IsActive (ch : Chronicle σ) (i : Nat) : Prop :=
  plans (ch.of i) ≠ [] ∧ .busy false ∉ calls (ch.of i)

/-- A run that is refused: it changes nothing but its own task, and says one thing. Once this is
    taken, it is over without a result, whatever else happens. -/
structure Refuses (c : Setup σ) (ch : Chronicle σ) (i : Nat) : Prop where
  refused : (ch.note c (.wake i)).session = { ch.session with
    line := ch.session.line.erase i ++ [i]
    tasks := ch.session.tasks.set i ⟨.posting refusal [] .refuse, false⟩ }
  deeds : ∀ xs, ((ch.note c (.wake i)).run c xs).of i =
    [.call refusal ch.session (ch.note c (.wake i)).session]
  telling : ∀ xs, .wake i ∉ xs → ∀ s, ((ch.note c (.wake i)).run c xs).session = s →
    s.tasks[i]? = some ⟨.posting refusal [] .refuse, false⟩ ∧
    ((c.host.receive refusal s.host).1 = false → s.happen c (.wake i) = { s with
      line := s.line.erase i
      tasks := s.tasks.set i ⟨.finished (.result none), false⟩
      events := s.events ++ [refusal]
      host := (c.host.receive refusal s.host).2 })
  ends : ∀ xs, .wake i ∈ xs → ((ch.note c (.wake i)).run c xs).session.tasks[i]? =
    some ⟨.finished (.result none), false⟩

/-- How runs come and go in a session. -/
structure Lifecycle (c : Setup σ) (ch : Chronicle σ) : Prop where
  one : ∀ i j, ch.IsActive i → ch.IsActive j → i = j
  running : ch.session.isRunning = true ↔ ∃ i, ch.IsActive i
  alternates : Alternates (busies (calls (ch.log.map Prod.snd))) ch.session.bridge.isSome
  accepted : ∀ i r plan, (r, plan) ∈ plans (ch.of i) →
    ∃ task, ch.session.tasks[i]? = some task ∧ Lives c (ch.of i) plan task.phase
  refused : ∀ i r isFlagged, ch.session.isRunning = true →
    ch.session.tasks[i]? = some ⟨.new r, isFlagged⟩ → Refuses c ch i

/-- Just the active run has a task that is not aside. -/
theorem Coherent.isActive_iff (h : Coherent c ch) :
    ch.IsActive i ↔ ∃ task, ch.session.tasks[i]? = some task ∧ ¬ task.phase.IsAside := by
  cases htask : ch.session.tasks[i]? with
  | none =>
    refine iff_of_false (fun hactive => hactive.1 ?_) (by simp)
    rw [h.unknown i htask]
    rfl
  | some task =>
    rw [IsActive, ← (h.recorded i task htask).isActive_iff]
    simp

theorem Coherent.eq_of_isActive (h : Coherent c ch) {j : Nat} (hi : ch.IsActive i)
    (hj : ch.IsActive j) : i = j := by
  obtain ⟨run, horder⟩ := h.order
  obtain ⟨task, htask, hphase⟩ := h.isActive_iff.1 hi
  obtain ⟨other, hother, hphase'⟩ := h.isActive_iff.1 hj
  have hrun := (horder.stands htask hphase).1
  exact Option.some.inj (hrun.symm.trans (horder.stands hother hphase').1)

theorem Coherent.isRunning_iff (h : Coherent c ch) :
    ch.session.isRunning = true ↔ ∃ i, ch.IsActive i := by
  simp only [h.isActive_iff]
  obtain ⟨run, horder⟩ := h.order
  cases horder with
  | idle hidle haside =>
    refine iff_of_false (by simp [show ch.session.isRunning = false from hidle.isRunning]) ?_
    rintro ⟨i, task, htask, hphase⟩
    exact hphase (haside task (List.mem_iff_getElem?.2 ⟨i, htask⟩)).phase
  | active i task htask hothers hstands =>
    refine iff_of_true hstands.isRunning ⟨i, task, htask, ?_⟩
    cases hstands <;> exact id

/-- A task aside stays as it is, and its run is recorded no further, until it goes on. -/
theorem Coherent.aside_note (h : Coherent c ch) (hdefers : c.defers) {task : Task}
    (htask : ch.session.tasks[i]? = some task) (haside : task.phase.IsAside) {x : Happening}
    (hx : x ≠ .wake i) :
    (ch.note c x).session.tasks[i]? = some task ∧ (ch.note c x).of i = ch.of i := by
  obtain ⟨run, horder⟩ := h.order
  obtain ⟨run', horder', _⟩ := order_happen hdefers horder x
  refine ⟨?_, ?_⟩
  · rcases others_happen hdefers horder.steady hx htask with hsame | hdropped
    · exact hsame
    · have hphase : task.dropped.phase.IsAside := by
        obtain ⟨phase, isFlagged⟩ := task
        cases phase <;> first | exact haside | exact haside.elim
      have hflag := horder'.isFlagged hdropped hphase
      obtain ⟨phase, isFlagged⟩ := task
      cases phase with
      | finished ending => exact hdropped
      | new | posting | active => cases hflag
      | playing => exact haside.elim
  · rw [of_note, own_entries_ne c _ hx, gaveUp_of_aside htask haside, List.append_nil]

/-- A task that is over stays as it is, and its run is recorded no further. -/
theorem Coherent.finished_note (h : Coherent c ch) (hdefers : c.defers) {ending : Ending}
    (htask : ch.session.tasks[i]? = some ⟨.finished ending, false⟩) (x : Happening) :
    (ch.note c x).session.tasks[i]? = some ⟨.finished ending, false⟩ ∧
      (ch.note c x).of i = ch.of i := by
  by_cases hx : x = .wake i
  · subst hx
    have hwake : (ch.note c (.wake i)).session.tasks[i]? = some ⟨.finished ending, false⟩ := by
      rw [Chronicle.note, wake_still htask trivial]
      exact htask
    have hdeeds : ch.session.deeds c i = [] := by
      simp only [deeds, htask]
    rw [of_note, own_entries_of_finished hdeeds hwake, gaveUp_of_aside htask trivial]
    exact ⟨hwake, List.append_nil _⟩
  · exact h.aside_note hdefers htask trivial hx

theorem Coherent.finished_run (h : Coherent c ch) (hdefers : c.defers) (hhost : c.host.Keeps)
    {ending : Ending} (htask : ch.session.tasks[i]? = some ⟨.finished ending, false⟩)
    (xs : List Happening) :
    (ch.run c xs).session.tasks[i]? = some ⟨.finished ending, false⟩ ∧
      (ch.run c xs).of i = ch.of i := by
  induction xs generalizing ch with
  | nil => exact ⟨htask, rfl⟩
  | cons x xs ih =>
    obtain ⟨hnext, hof⟩ := h.finished_note hdefers htask x
    obtain ⟨hlast, hof'⟩ := ih (h.note hdefers hhost x) hnext
    exact ⟨hlast, hof'.trans hof⟩

/-- A run that is refused waits until its warning is taken, and then is over. -/
theorem Coherent.refusing_run (h : Coherent c ch) (hdefers : c.defers) (hhost : c.host.Keeps)
    (htask : ch.session.tasks[i]? = some ⟨.posting refusal [] .refuse, false⟩)
    (xs : List Happening) :
    (ch.run c xs).of i = ch.of i ∧
      (.wake i ∉ xs →
        (ch.run c xs).session.tasks[i]? = some ⟨.posting refusal [] .refuse, false⟩) ∧
      (.wake i ∈ xs →
        (ch.run c xs).session.tasks[i]? = some ⟨.finished (.result none), false⟩) := by
  induction xs generalizing ch with
  | nil => exact ⟨rfl, fun _ => htask, nofun⟩
  | cons x xs ih =>
    by_cases hx : x = .wake i
    · subst hx
      obtain ⟨run, horder⟩ := h.order
      have hover : (ch.note c (.wake i)).session.tasks[i]? =
          some ⟨.finished (.result none), false⟩ := by
        rw [Chronicle.note, wake_posting_nil htask]
        exact getElem?_setPhase_self (getElem?_hand_self horder.steady htask _) _
      have hof : (ch.note c (.wake i)).of i = ch.of i := by
        have hdeeds : ch.session.deeds c i = [] := by
          simp only [deeds, htask]
        rw [of_note, own_entries_of_finished hdeeds hover, gaveUp_of_aside htask trivial]
        exact List.append_nil _
      obtain ⟨hlast, hof'⟩ := (h.note hdefers hhost _).finished_run hdefers hhost hover xs
      exact ⟨hof'.trans hof, fun hnot => absurd List.mem_cons_self hnot, fun _ => hlast⟩
    · obtain ⟨hnext, hof⟩ := h.aside_note hdefers htask trivial hx
      obtain ⟨hof', hwaits, hends⟩ := ih (h.note hdefers hhost x) hnext
      refine ⟨hof'.trans hof, fun hnot => hwaits fun hmem => hnot (List.mem_cons_of_mem _ hmem),
        fun hmem => hends ?_⟩
      exact (List.mem_cons.1 hmem).resolve_left (Ne.symm hx)

/-- A run that is asked for while another one is active is refused. -/
theorem Coherent.refuses (h : Coherent c ch) (hdefers : c.defers) (hhost : c.host.Keeps)
    {r : RunRequest} {isFlagged : Bool} (hrunning : ch.session.isRunning = true)
    (htask : ch.session.tasks[i]? = some ⟨.new r, isFlagged⟩) : Refuses c ch i := by
  obtain ⟨run, horder⟩ := h.order
  obtain rfl : isFlagged = false := horder.isFlagged htask trivial
  have hrefused : (ch.note c (.wake i)).session = { ch.session with
      line := ch.session.line.erase i ++ [i]
      tasks := ch.session.tasks.set i ⟨.posting refusal [] .refuse, false⟩ } := by
    have hseat : (ch.session.seat i).isRunning = true := hrunning
    rw [Chronicle.note, wake_new htask, consider, if_pos hseat, post_cons hdefers]
    simp only [Session.tell, setPhase, enqueue, seat, modify_set]
    rfl
  have hlt := (List.getElem?_eq_some_iff.1 htask).1
  have hnext : (ch.note c (.wake i)).session.tasks[i]? =
      some ⟨.posting refusal [] .refuse, false⟩ := by
    rw [hrefused]
    exact List.getElem?_set_self hlt
  have hof : (ch.note c (.wake i)).of i =
      [.call refusal ch.session (ch.note c (.wake i)).session] := by
    have hbefore : ch.of i = [] := by
      cases h.recorded i _ htask with
      | new _ _ _ hnone => exact hnone
    have hafter : (ch.session.happen c (.wake i)).tasks[i]? =
        some ⟨.posting refusal [] .refuse, false⟩ := hnext
    rw [of_note, own_entries_self, hbefore, gaveUp_of_aside htask trivial]
    simp only [deeds, htask, hafter, acceptDeeds, callDeeds, Option.bind_some, Phase.underway?]
    rfl
  have hrun := (h.note hdefers hhost (.wake i)).refusing_run hdefers hhost hnext
  refine ⟨hrefused, fun xs => (hrun xs).1.trans hof, fun xs hnot s hs => ?_,
    fun xs hmem => (hrun xs).2.2 hmem⟩
  obtain rfl := hs
  have hwaits := (hrun xs).2.1 hnot
  refine ⟨hwaits, fun hkeeps => ?_⟩
  rw [wake_posting_nil hwaits, hand, deliver]
  simp only [hkeeps, Bool.false_eq_true, if_false, seat, reachGoal, refuse, finish, setPhase,
    modify_set]

theorem Coherent.lifecycle (h : Coherent c ch) (hdefers : c.defers) (hhost : c.host.Keeps) :
    Lifecycle c ch where
  one _ _ hi hj := h.eq_of_isActive hi hj
  running := h.isRunning_iff
  alternates := h.alternates
  accepted i r plan hplan := by
    cases htask : ch.session.tasks[i]? with
    | none =>
      rw [h.unknown i htask] at hplan
      cases hplan
    | some task => exact ⟨task, rfl, (h.recorded i task htask).lives hplan⟩
  refused _ _ _ hrunning htask := h.refuses hdefers hhost hrunning htask

/-- Whatever happens, and in whatever order, the runs of a session come and go one after the other. It
    is enough to say so of a surface that lets everything else go first before it takes an event: what
    happens with one that takes events at once is among what happens with this one. -/
theorem lifecycle_run (c : Setup σ) (hhost : c.host.Keeps) (saved : Option SavedRun) (host : σ)
    (xs : List Happening) :
    Lifecycle c.deferring ((start c.deferring saved host).run c.deferring xs) ∧
      ∃ ys, (start c saved host).session.happens c xs =
        ((start c.deferring saved host).run c.deferring ys).session := by
  have hkeeps : c.deferring.host.Keeps := hhost
  exact ⟨(coherent_run rfl hkeeps saved host xs).lifecycle rfl hkeeps,
    exists_deferring c saved host xs⟩

/-- A run that is asked for twice, and is given its answer. -/
def busyDay : List Happening :=
  [.request none false false .empty, .request none false false .empty, .wake 0, .wake 1, .wake 0,
    .wake 0, .wake 1, .wake 0, .wake 0,
    .message (.map [(.text "type", .text "promptResponse"), (.text "stepId", .text "ask"),
      (.text "value", .text "ann")]), .wake 0, .wake 0, .wake 0]

theorem lifecycle_run_busyDay :
    let c := (Setup.shelf greeting fun _ => false).deferring
    let ch := (start c none none).run c busyDay
    Lifecycle c ch ∧ (calls (ch.of 0)).map Event.kind =
      ["busy", "reset", "log", "prompt", "status", "busy"] ∧
      (calls (ch.of 1)).map Event.kind = ["log"] ∧ ch.session.isRunning = false ∧
      ch.session.host.map SavedRun.lastStatus = some (some "success") :=
  ⟨(lifecycle_run (Setup.shelf greeting fun _ => false) (keeps_shelf ..) none none busyDay).1,
    by decide +kernel, by decide +kernel, by decide +kernel, by decide +kernel⟩

end Chronicle

end Stepwise
