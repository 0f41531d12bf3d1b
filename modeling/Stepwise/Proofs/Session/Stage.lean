import Stepwise.Proofs.Run.Integrity
import Stepwise.Proofs.Session.Course

namespace Stepwise.Session

variable {σ : Type} {c : Setup σ} {outcome : Outcomes} {x : Scene} {plan : Plan}
  {Q : List (String × String) → Dialogue Result → Prop} {request : RunRequest}
  {saved saved' : Option SavedRun} {given : List (String × String)} {b : Bridge String}
  {v : View} {s : Session σ}

/-- A run stands somewhere on its course, and comes to its end if the surface is never asked. -/
def OnCourse (c : Setup σ) (outcome : Outcomes) (x : Scene) (plan : Plan)
    (Q : List (String × String) → Dialogue Result → Prop) (request : RunRequest)
    (saved : Option SavedRun) (given : List (String × String)) (s : Session σ) : Prop :=
  Stage c outcome x plan Q request saved given s ∧ (x.IsQuiet → Ends c x s)

theorem OnCourse.ends (request : RunRequest) (h : OnCourse c outcome x plan Q request saved given s)
    (hquiet : x.IsQuiet) : Ends c x s :=
  h.2 hquiet

/-- Events are posted on the way to a goal. -/
theorem Scene.At.post (h : x.At v s) (hhost : c.host.Steady outcome) (hline : v.line = [])
    {es : List Event} (hallowed : ∀ e ∈ es, x.allowed e) (goal : Goal) :
    (∃ s', x.At v s' ∧
      s.post c x.self es goal (reachGoal c x.self goal) = s'.reachGoal c x.self goal) ∨
    ∃ e later, es = e :: later ∧ (x.allowed e ∧ ∀ e' ∈ later, x.allowed e') ∧
      x.At { v with phase := .posting e later goal, line := [x.self] }
        (s.post c x.self es goal (reachGoal c x.self goal)) := by
  cases es with
  | nil => exact .inl ⟨s, h, rfl⟩
  | cons e later =>
    by_cases hdefers : c.defers
    · refine .inr ⟨e, later, rfl, ⟨hallowed e List.mem_cons_self,
        fun e' he' => hallowed e' (List.mem_cons_of_mem _ he')⟩, ?_⟩
      have hposted := (h.setPhase (.posting e later goal)).enqueue
      simp only [hline, List.nil_append] at hposted
      simpa only [Session.post, hdefers, if_true] using hposted
    · refine .inl ⟨_, h.deliverAll hhost hallowed (some x.self), ?_⟩
      simp only [Session.post, hdefers, Bool.false_eq_true, if_false]

/-- A task that posts events comes to its goal. -/
theorem ends_of_posting (hhost : c.host.Steady outcome) {bridge : Option (Bridge String)}
    {isRunning : Bool} {goal : Goal}
    (hreach : ∀ s', x.At ⟨.active, [], bridge, saved', isRunning, false⟩ s' →
      Ends c x (s'.reachGoal c x.self goal))
    {e : Event} {later : List Event} (hallowed : x.allowed e ∧ ∀ e' ∈ later, x.allowed e')
    (h : x.At ⟨.posting e later goal, [x.self], bridge, saved', isRunning, false⟩ s) :
    Ends c x s := by
  induction later generalizing e s with
  | nil =>
    obtain ⟨s', hs', hturn⟩ := h.release.turn (c := c) rfl
    apply Ends.of_round
    rw [round, hturn]
    exact hreach _ (hs'.deliver hhost hallowed.1 _)
  | cons e' rest ih =>
    obtain ⟨s', hs', hturn⟩ := h.release.turn (c := c) rfl
    apply Ends.of_round
    rw [round, hturn]
    rcases (hs'.deliver hhost hallowed.1 (some x.self)).post hhost rfl hallowed.2 goal with
      ⟨s'', hs'', hpost⟩ | ⟨e'', later, heq, hallowed', hposted⟩
    · dsimp only
      rw [hpost]
      exact hreach s'' hs''
    · cases heq
      exact ih hallowed' hposted

theorem onCourse_post (hhost : c.host.Steady outcome) {bridge : Option (Bridge String)}
    {isRunning : Bool} (h : x.At ⟨.active, [], bridge, saved', isRunning, false⟩ s)
    {es : List Event} (hallowed : ∀ e ∈ es, x.allowed e) {goal : Goal}
    (hreach : ∀ s', x.At ⟨.active, [], bridge, saved', isRunning, false⟩ s' →
      OnCourse c outcome x plan Q request saved given (s'.reachGoal c x.self goal))
    (hstage : ∀ e later s', (x.allowed e ∧ ∀ e' ∈ later, x.allowed e') →
      x.At ⟨.posting e later goal, [x.self], bridge, saved', isRunning, false⟩ s' →
      Stage c outcome x plan Q request saved given s') :
    OnCourse c outcome x plan Q request saved given
      (s.post c x.self es goal (reachGoal c x.self goal)) := by
  rcases h.post hhost rfl hallowed goal with ⟨s', hs', hpost⟩ | ⟨e, later, -, he, hposted⟩
  · rw [hpost]
    exact hreach s' hs'
  · refine ⟨hstage e later _ he hposted, fun hquiet => ?_⟩
    exact ends_of_posting hhost (fun s' hs' => (hreach s' hs').2 hquiet) he hposted

theorem onCourse_finish {ending : Ending} (hended : c.Ended plan Q given ending saved')
    (h : x.At ⟨.active, [], none, saved', false, false⟩ s) :
    OnCourse c outcome x plan Q request saved given (s.finish x.self ending) := by
  have hfinished := h.setPhase (.finished ending)
  exact ⟨.ended hfinished hended, fun _ => ⟨0, ending, congrArg _ hfinished.task⟩⟩

variable (hhost : c.host.Steady outcome) (hcourse : Course c outcome x plan Q)

include hhost hcourse

theorem onCourse_conclude {ending : Ending} (hended : c.Ended plan Q given ending saved')
    (hpending : b.pending = []) (h : x.At ⟨.active, [], some b, saved', true, false⟩ s) :
    OnCourse c outcome x plan Q request saved given (s.conclude c x.self ending) := by
  have hclose : b.close = ⟨{ b with pending := [], isClosed := true }, []⟩ := by
    simp [Bridge.close, hpending, Bridge.cancelAll]
  have hclosed : x.At ⟨.active, [], none, saved', false, false⟩
      { s.apply b.close with bridge := none, isRunning := false } := by
    have happly := h.apply { b with pending := [], isClosed := true } []
    rw [hclose]
    exact { happly with bridge := rfl, isRunning := rfl }
  unfold conclude
  rw [h.bridge]
  exact onCourse_post hhost hclosed
    (List.forall_mem_singleton.2 (hcourse.plain _ id))
    (fun s' hs' => onCourse_finish hended hs')
    (fun e later s' he hs' => .ending hs' he hended)

/-- A verdict is kept, and the run ends as it says. -/
theorem onCourse_keep {verdict : Verdict} (hjudges : verdict.Judges Q given)
    (hrests : b.Rests plan given) (h : x.At ⟨.active, [], some b, saved, true, false⟩ s) :
    OnCourse c outcome x plan Q request saved given (s.keep c x.self plan verdict) := by
  unfold keep
  split
  next issues hbad =>
    refine onCourse_conclude hhost hcourse ?_ hrests.pending h
    rcases hjudges with ⟨r, _, rfl⟩ | ⟨hfail, _⟩
    · rw [Run.texts_map_text] at hbad
      cases hbad
    · exact .inr ⟨hfail, nofun⟩
  next vars hvars =>
    have hanswers : (s.bridge.map Bridge.answers).getD .empty = plan.answers.insertAll given := by
      rw [h.bridge]
      exact hrests.answers
    obtain ⟨host, hsave⟩ := hhost.save (some ⟨plan.entry.id, plan.answers.insertAll given, vars,
      some verdict.status.name, verdict.message, c.now⟩) s.host
    have hkept : x.At ⟨.active, [], some b, some ⟨plan.entry.id, plan.answers.insertAll given, vars,
      some verdict.status.name, verdict.message, c.now⟩, true, false⟩ { s with
        saved := some ⟨plan.entry.id, plan.answers.insertAll given, vars,
          some verdict.status.name, verdict.message, c.now⟩
        host } := { h with saved := rfl }
    dsimp only
    rw [hanswers, hsave]
    refine onCourse_conclude hhost hcourse ?_ hrests.pending hkept
    rcases hjudges with ⟨r, hdone, rfl⟩ | ⟨hfail, hnone⟩
    · rw [Run.texts_map_text] at hvars
      cases hvars
      exact .inl ⟨r, hdone, rfl, rfl⟩
    · exact .inr ⟨hfail, by simp [hnone]⟩

/-- A run that is over is judged, and comes to its end. -/
theorem onCourse_judge (hrests : b.Rests plan given)
    (h : x.At ⟨.active, [], some b, saved, true, false⟩ s) (ending : Except (Context × Fault) Result)
    (hover : match ending with
      | .ok r => Q given (.done r)
      | .error (place, f) => Q given (.fail place f)) :
    OnCourse c outcome x plan Q request saved given (s.judge c x.self plan ending) := by
  have hpost : ∀ {s : Session σ} {es : List Event} {verdict : Verdict},
      x.At ⟨.active, [], some b, saved, true, false⟩ s → (∀ e ∈ es, ¬ e.Asks) →
      verdict.Judges Q given → OnCourse c outcome x plan Q request saved given
        (s.post c x.self es (.keep plan verdict) (keep c x.self plan verdict)) := by
    intro s es verdict hs hplain hjudges
    exact onCourse_post hhost hs (fun e he => hcourse.plain e (hplain e he))
      (fun s' hs' => onCourse_keep hhost hcourse hjudges hrests hs')
      (fun e later s' he hs' => .closing hs' he hrests hjudges)
  unfold judge
  split
  next r => exact hpost h (by simp [Event.Asks]) (.inl ⟨r, hover, rfl⟩)
  next place =>
    rw [if_neg (by simp [h.isAbandoned])]
    exact onCourse_conclude hhost hcourse (.inr ⟨⟨place, _, hover⟩, nofun⟩) hrests.pending h
  next place fault _ =>
    exact hpost { h with } (by simp [Event.Asks]) (.inr ⟨⟨place, fault, hover⟩, rfl⟩)

omit hcourse in
/-- A run that waits for a reply that is sure to come gets it. -/
theorem ends_of_due (hplain : ∀ e : Event, ¬ e.Asks → x.allowed e)
    {next : Reply → Dialogue Result} {reply : Reply}
    (hnext : ∀ s', x.At ⟨.active, [], some b, saved, true, false⟩ s' →
      Ends c x (s'.proceed c x.self plan (next reply)))
    (rank : Nat) {w : Wait} (hrank : w.rank ≤ rank) (hdue : w.Due outcome b reply)
    (hallowed : w.Allowed x)
    (h : x.At ⟨.playing plan next w, w.lineOf x.self true, some b, saved, true, false⟩ s) :
    Ends c x s := by
  induction rank generalizing w s with
  | zero => cases w <;> cases hrank
  | succ rank ih =>
    have hround : ∃ w' s', w'.rank = w.rank ∧ w'.Due outcome b reply ∧ w'.Allowed x ∧
        x.At ⟨.active, [], some b, saved, true, false⟩ s' ∧
        s.round c = carryOn c x.self plan next (s'.awaken c x.self w') := by
      cases w with
      | delivery e later aim =>
        obtain ⟨s', hs', hturn⟩ := h.release.turn (c := c) rfl
        exact ⟨_, s', rfl, hdue, hallowed, hs', hturn⟩
      | ticket t =>
        obtain ⟨s', hs', hturn⟩ := h.release.turn (c := c) rfl
        exact ⟨_, s', rfl, hdue, hallowed, hs', hturn⟩
      | command argv cwd isOver =>
        cases isOver <;>
        · obtain ⟨s', hs', hturn⟩ := h.release.turn (c := c) rfl
          exact ⟨.command argv cwd true, s', rfl, hdue, hallowed, hs', hturn⟩
    obtain ⟨w', s', hsame, hdue', hallowed', hs', hround⟩ := hround
    have hleads := hs'.leads_awaken hhost rfl rfl hplain hdue' hallowed'
    apply Ends.of_round
    rw [hround]
    generalize s'.awaken c x.self w' = served at hleads
    obtain ⟨r | w'', s''⟩ := served
    · obtain ⟨rfl, hs''⟩ := hleads
      exact hnext s'' hs''
    · obtain ⟨hless, hdue'', hallowed'', hs''⟩ := hleads
      exact ih (by omega) hdue'' hallowed'' (hs''.setPhase _)

/-- A run that is led to its next reply stays on its course. -/
theorem onCourse_carryOn (hrests : b.Rests plan given) {next : Reply → Dialogue Result}
    {reply : Reply} (hreply : Q given (next reply))
    (hnext : ∀ s', x.At ⟨.active, [], some b, saved, true, false⟩ s' →
      OnCourse c outcome x plan Q request saved given (s'.proceed c x.self plan (next reply)))
    {rank : Nat} {served : Served × Session σ}
    (hleads : Leads outcome x ⟨.active, [], some b, saved, true, false⟩ b reply rank served) :
    OnCourse c outcome x plan Q request saved given (carryOn c x.self plan next served) := by
  obtain ⟨r | w, s'⟩ := served
  · obtain ⟨rfl, hs'⟩ := hleads
    exact hnext s' hs'
  · obtain ⟨hrank, hdue, hallowed, hs'⟩ := hleads
    refine ⟨.due (hs'.setPhase _) hallowed hrests hdue hreply, fun hquiet => ?_⟩
    exact ends_of_due hhost hcourse.plain (fun s'' hs'' => (hnext s'' hs'').2 hquiet) rank hrank
      hdue hallowed (hs'.setPhase _)

omit hhost hcourse in
theorem proceed_ask (place : Context) (q : Request) (next : Context → Reply → Dialogue Result)
    (s : Session σ) : s.proceed c x.self plan (.ask place q next) =
      carryOn c x.self plan (next place) (s.serve c x.self place q) := by
  unfold proceed carryOn advance
  obtain ⟨_ | _, _⟩ := s.serve c x.self place q <;> rfl

omit hhost hcourse in
theorem question?_of_reply?_eq_none {place : Context} {q : Request}
    (hnone : c.reply? outcome place q = none) :
    ∃ step question, c.question? place q = some (step, question) := by
  cases q <;> first | exact ⟨_, _, rfl⟩ | cases hnone

/-- A run that goes on stays on its course. -/
theorem onCourse_proceed (d : Dialogue Result) (hrests : b.Rests plan given) (hd : Q given d)
    (h : x.At ⟨.active, [], some b, saved, true, false⟩ s) :
    OnCourse c outcome x plan Q request saved given (s.proceed c x.self plan d) := by
  induction d generalizing s with
  | done r =>
    have hplayed : x.At ⟨.active, [], some b, saved, true, false⟩ { s with player := none } :=
      { h with }
    exact onCourse_judge hhost hcourse hrests hplayed (.ok r) hd
  | fail place f =>
    have hplayed : x.At ⟨.active, [], some b, saved, true, false⟩ { s with player := none } :=
      { h with }
    exact onCourse_judge hhost hcourse hrests hplayed (.error (place, f)) hd
  | visit place rest ih => exact ih (hcourse.visit hd) h
  | ask place q next ih =>
    rw [proceed_ask]
    cases hreply : c.reply? outcome place q with
    | some reply =>
      have hnext := hcourse.reply hd hreply
      exact onCourse_carryOn hhost hcourse hrests hnext (fun s' hs' => ih place reply hnext hs')
        (h.leads_serve hhost rfl rfl rfl hcourse.plain hreply)
    | none =>
      obtain ⟨step, question, hquestion⟩ := question?_of_reply?_eq_none hreply
      cases hstored : b.replay? step with
      | some a =>
        have hanswer := Bridge.replay?_eq_some_iff.1 hstored
        rw [hrests.replays, hrests.answers] at hanswer
        have hnext := hcourse.retrieve hd hquestion hanswer.1 hanswer.2
        exact onCourse_carryOn hhost hcourse hrests hnext (fun s' hs' => ih place _ hnext hs')
          (h.leads_retrieve hhost rfl rfl hcourse.plain hquestion hstored)
      | none =>
        have hanswer := Bridge.replay?_eq_none_iff.1 hstored
        rw [hrests.replays, hrests.answers] at hanswer
        obtain ⟨hasks, hnext⟩ := hcourse.ask hd hquestion hanswer
        obtain ⟨w, s', _, hserve, hawaits, hallowed, rfl, hs'⟩ := h.waits_ask hhost rfl rfl
          hrests.pending hrests.isClosed hquestion hstored hasks
        rw [hserve]
        have hloud : ¬ x.IsQuiet := fun hquiet => hquiet _ hasks (by cases question <;> trivial)
        refine ⟨.asking (hs'.setPhase _) hallowed ⟨rfl, hrests.isClosed, hrests.replays,
          hrests.answers, ?_⟩ hawaits hloud hnext, fun hquiet => absurd hquiet hloud⟩
        exact Bridge.isUnsettled_iff.2 List.getElem?_concat_length

theorem onCourse_play
    (h : x.At ⟨.active, [], some (.start plan.replays plan.answers), saved, true, false⟩ s) :
    OnCourse c outcome x plan Q request saved [] (s.play c x.self plan) := by
  have hplayer : x.At ⟨.active, [], some (.start plan.replays plan.answers), saved, true, false⟩
      { s with player := some x.self } := { h with }
  exact onCourse_proceed hhost hcourse _ ⟨rfl, rfl, rfl, rfl⟩ hcourse.start hplayer

theorem onCourse_prepare (h : x.At ⟨.active, [], none, saved, true, false⟩ s) :
    OnCourse c outcome x plan Q request saved [] (s.prepare c x.self plan) := by
  have hbridge : x.At ⟨.active, [], some (.start plan.replays plan.answers), saved, true, false⟩
      { s with bridge := some (.start plan.replays plan.answers) } := { h with bridge := rfl }
  have hplain : ∀ name, ∀ e ∈ [Event.busy true, .reset, .log .info name], ¬ e.Asks := by
    simp [Event.Asks]
  exact onCourse_post hhost hbridge (fun e he => hcourse.plain e (hplain _ e he))
    (fun s' hs' => onCourse_play hhost hcourse hs') (fun e later s' he hs' => .opening hs' he)

end Stepwise.Session
