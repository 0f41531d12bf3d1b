import Stepwise.Proofs.Session.Stage

namespace Stepwise.Session

variable {σ : Type}

/-- What can happen while a run goes on. -/
inductive Move where
  /-- The first task in line goes on. -/
  | turn
  /-- The commands are over that are waited for. -/
  | release
  | answer (step : String) (response : Response String)

def move (c : Setup σ) (s : Session σ) : Move → Session σ
  | .turn => s.turn c
  | .release => s.release
  | .answer step response => s.answer step response

def run (c : Setup σ) (s : Session σ) (moves : List Move) : Session σ :=
  moves.foldl (move c) s

/-- The answer that a move gives, if a question takes it. -/
def gives (s : Session σ) : Move → List (String × String)
  | .answer step response => match s.bridge with
    | some b =>
      if (b.answer step response.kind (response.value "")).1 then [(step, response.value "")]
      else []
    | none => []
  | _ => []

/-- The answers that moves give, in order. -/
def given (c : Setup σ) : Session σ → List Move → List (String × String)
  | _, [] => []
  | s, m :: moves => s.gives m ++ given c (s.move c m) moves

/-- A request that is accepted with this plan. -/
def Setup.Accepts (c : Setup σ) (x : Scene) (request : RunRequest) (saved : Option SavedRun)
    (plan : Plan) : Prop :=
  ∀ (s : Session σ) isAbandoned, x.At ⟨.active, [], none, saved, false, isAbandoned⟩ s →
    ∃ s', x.At ⟨.active, [], none, saved, true, false⟩ s' ∧
      s.consider c x.self request = s'.prepare c x.self plan

namespace Stage

variable {c : Setup σ} {outcome : Outcomes} {x : Scene} {plan : Plan}
  {Q : List (String × String) → Dialogue Result → Prop} {request : RunRequest}
  {saved : Option SavedRun} {before : List (String × String)} {s : Session σ}

theorem release (h : Stage c outcome x plan Q request saved before s) :
    Stage c outcome x plan Q request saved before s.release := by
  cases h with
  | new hview => exact .new hview.release
  | opening hview hallowed => exact .opening hview.release hallowed
  | closing hview hallowed hrests hjudges => exact .closing hview.release hallowed hrests hjudges
  | ending hview hallowed hended => exact .ending hview.release hallowed hended
  | ended hview hended => exact .ended hview.release hended
  | @due _ next w b reply _ hview hallowed hrests hdue hnext =>
    cases w with
    | command argv cwd isOver => cases isOver with
      | false =>
        exact .due (w := .command argv cwd true) hview.release hallowed hrests hdue hnext
      | true => exact .due hview.release hallowed hrests hdue hnext
    | delivery e later aim => exact .due hview.release hallowed hrests hdue hnext
    | ticket t => exact .due hview.release hallowed hrests hdue hnext
  | @asking _ next w b p _ hview hallowed hputs hawaits hasks hnext =>
    cases w with
    | command argv cwd isOver => cases hawaits
    | delivery e later aim => exact .asking hview.release hallowed hputs hawaits hasks hnext
    | ticket t => exact .asking hview.release hallowed hputs hawaits hasks hnext

/-- An answer to nothing changes nothing. -/
theorem answer_refused {v : View} {b : Bridge String} (hview : x.At v s)
    (hbridge : v.bridge = some b) {step : String} {r : Response String}
    (hrefused : b.answer step r.kind (r.value "") = (false, ⟨b, []⟩)) :
    s.gives (.answer step r) = [] ∧ x.At v (s.answer step r) := by
  have hb := hview.bridge.trans hbridge
  simp only [gives, Session.answer, hb, hrefused]
  exact ⟨rfl, { hview.apply b [] with
    bridge := hbridge.symm
    line := (hview.apply b []).line.trans (List.append_nil _) }⟩

theorem answer_of_rests {v : View} {b : Bridge String} (hview : x.At v s)
    (hbridge : v.bridge = some b) (hpending : b.pending = []) (step : String)
    (r : Response String) : s.gives (.answer step r) = [] ∧ x.At v (s.answer step r) :=
  answer_refused hview hbridge (by simp [Bridge.answer, Bridge.pending?, hpending])

/-- A question takes an answer of its step and kind, and no other. -/
theorem answer_of_puts {b : Bridge String} {p : Pending} {next : Reply → Dialogue Result} {w : Wait}
    (hview : x.At ⟨.playing plan next w, w.lineOf x.self false, some b, saved, true, false⟩ s)
    (hallowed : w.Allowed x) (hputs : b.Puts plan before p) (hawaits : w.Awaits p.ticket)
    (hasks : ¬ x.IsQuiet) (hnext : ∀ a, Q (before ++ [(p.step, a)]) (next (.value (.text a))))
    (step : String) (r : Response String) :
    Stage c outcome x plan Q request saved (before ++ s.gives (.answer step r))
      (s.answer step r) := by
  by_cases hfits : p.step = step ∧ p.kind = r.kind
  · obtain ⟨rfl, hkind⟩ := hfits
    have hanswer := hputs.answer_eq (r.value "") hkind
    have hgives : s.gives (.answer p.step r) = [(p.step, r.value "")] := by
      simp only [gives, hview.bridge, hanswer, if_true]
    have hsession : s.answer p.step r = s.apply ⟨b.granted p (r.value ""), [p.ticket]⟩ := by
      simp only [Session.answer, hview.bridge, hanswer]
    have happly := hview.apply (b.granted p (r.value "")) [p.ticket]
    rw [hgives, hsession]
    exact .due { happly with line := happly.line.trans (hawaits.lineOf_append x.self plan next) }
      hallowed (hputs.rests_granted _) (hawaits.due (hputs.ticket?_granted _)) (hnext _)
  · obtain ⟨hgives, hview'⟩ := answer_refused hview rfl (hputs.answer_of_not_fits hfits)
    rw [hgives, List.append_nil]
    exact .asking hview' hallowed hputs hawaits hasks hnext

theorem answer (h : Stage c outcome x plan Q request saved before s) (step : String)
    (r : Response String) :
    Stage c outcome x plan Q request saved (before ++ s.gives (.answer step r))
      (s.answer step r) := by
  have hnone : s.bridge = none → s.gives (.answer step r) = [] ∧ s.answer step r = s := by
    intro hbridge
    simp only [gives, Session.answer, hbridge]
    trivial
  cases h with
  | new hview =>
    obtain ⟨hgives, hsame⟩ := hnone hview.bridge
    rw [hgives, hsame]
    exact .new hview
  | opening hview hallowed =>
    obtain ⟨hgives, hview'⟩ := answer_of_rests hview rfl rfl step r
    rw [hgives]
    exact .opening hview' hallowed
  | due hview hallowed hrests hdue hnext =>
    obtain ⟨hgives, hview'⟩ := answer_of_rests hview rfl hrests.pending step r
    rw [hgives, List.append_nil]
    exact .due hview' hallowed hrests hdue hnext
  | asking hview hallowed hputs hawaits hasks hnext =>
    exact answer_of_puts hview hallowed hputs hawaits hasks hnext step r
  | closing hview hallowed hrests hjudges =>
    obtain ⟨hgives, hview'⟩ := answer_of_rests hview rfl hrests.pending step r
    rw [hgives, List.append_nil]
    exact .closing hview' hallowed hrests hjudges
  | ending hview hallowed hended =>
    obtain ⟨hgives, hsame⟩ := hnone hview.bridge
    rw [hgives, hsame, List.append_nil]
    exact .ending hview hallowed hended
  | ended hview hended =>
    obtain ⟨hgives, hsame⟩ := hnone hview.bridge
    rw [hgives, hsame, List.append_nil]
    exact .ended hview hended

variable (hhost : c.host.Steady outcome) (hcourse : Course c outcome x plan Q)

include hhost hcourse

/-- A run that is never asked comes to its end. -/
theorem ends (hquiet : x.IsQuiet) (haccepts : c.Accepts x request saved plan)
    (h : Stage c outcome x plan Q request saved before s) : Ends c x s := by
  cases h with
  | new hview =>
    obtain ⟨s', hs', hturn⟩ := hview.release.turn (c := c) rfl
    obtain ⟨s'', hs'', hconsider⟩ := haccepts s' _ hs'
    apply Ends.of_round
    rw [round, hturn]
    dsimp only
    rw [hconsider]
    exact OnCourse.ends request (onCourse_prepare hhost hcourse hs'') hquiet
  | opening hview hallowed =>
    refine ends_of_posting hhost (fun s' hs' => ?_) hallowed hview
    exact OnCourse.ends request (onCourse_play hhost hcourse hs') hquiet
  | closing hview hallowed hrests hjudges =>
    refine ends_of_posting hhost (fun s' hs' => ?_) hallowed hview
    exact OnCourse.ends request (onCourse_keep hhost hcourse hjudges hrests hs') hquiet
  | @ending _ _ _ ending _ _ hview hallowed hended =>
    refine ends_of_posting hhost (fun s' hs' => ?_) hallowed hview
    exact ⟨0, ending, congrArg _ (hs'.setPhase (.finished ending)).task⟩
  | @ended _ ending _ _ hview hended => exact ⟨0, ending, congrArg _ hview.task⟩
  | due hview hallowed hrests hdue hnext =>
    refine ends_of_due hhost hcourse.plain (fun s' hs' => ?_) _ (Nat.le_refl _) hdue hallowed hview
    exact OnCourse.ends request (onCourse_proceed hhost hcourse _ hrests hnext hs') hquiet
  | asking hview hallowed hputs hawaits hasks hnext => exact absurd hquiet hasks

omit hcourse in
theorem turn_of_posting {bridge : Option (Bridge String)} {isRunning : Bool} {e : Event}
    {later : List Event} {goal : Goal} {saved' : Option SavedRun}
    (hview : x.At ⟨.posting e later goal, [x.self], bridge, saved', isRunning, false⟩ s)
    (hallowed : x.allowed e ∧ ∀ e' ∈ later, x.allowed e')
    (hreach : ∀ s', x.At ⟨.active, [], bridge, saved', isRunning, false⟩ s' →
      OnCourse c outcome x plan Q request saved before (s'.reachGoal c x.self goal))
    (hstage : ∀ e later s', (x.allowed e ∧ ∀ e' ∈ later, x.allowed e') →
      x.At ⟨.posting e later goal, [x.self], bridge, saved', isRunning, false⟩ s' →
      Stage c outcome x plan Q request saved before s') :
    Stage c outcome x plan Q request saved before (s.turn c) := by
  obtain ⟨s', hs', hturn⟩ := hview.turn (c := c) rfl
  rw [hturn]
  exact (onCourse_post hhost (hs'.deliver hhost hallowed.1 _) hallowed.2 hreach hstage).1

/-- A run whose reply is due takes it, once it is its turn. -/
theorem turn_of_due {next : Reply → Dialogue Result} {w : Wait} {b : Bridge String} {reply : Reply}
    (hview : x.At ⟨.playing plan next w, w.lineOf x.self true, some b, saved, true, false⟩ s)
    (hallowed : w.Allowed x) (hrests : b.Rests plan before) (hdue : w.Due outcome b reply)
    (hnext : Q before (next reply)) :
    Stage c outcome x plan Q request saved before (s.turn c) := by
  by_cases hline : w.lineOf x.self true = []
  · rw [hview.turn_of_nil hline]
    exact .due hview hallowed hrests hdue hnext
  · have hself : w.lineOf x.self true = [x.self] := by
      cases w with
      | command argv cwd isOver => cases isOver <;> simp_all [Wait.lineOf]
      | _ => rfl
    obtain ⟨s', hs', hturn⟩ := hview.turn (c := c) hself
    rw [hturn]
    exact (onCourse_carryOn hhost hcourse hrests hnext
      (fun s'' hs'' => onCourse_proceed hhost hcourse _ hrests hnext hs'')
      (hs'.leads_awaken hhost rfl rfl hcourse.plain hdue hallowed)).1

omit hcourse in
/-- A run that asks may tell of it still, and waits on. -/
theorem turn_of_asking {next : Reply → Dialogue Result} {w : Wait} {b : Bridge String} {p : Pending}
    (hview : x.At ⟨.playing plan next w, w.lineOf x.self false, some b, saved, true, false⟩ s)
    (hallowed : w.Allowed x) (hputs : b.Puts plan before p) (hawaits : w.Awaits p.ticket)
    (hasks : ¬ x.IsQuiet) (hnext : ∀ a, Q (before ++ [(p.step, a)]) (next (.value (.text a)))) :
    Stage c outcome x plan Q request saved before (s.turn c) := by
  cases w with
  | command argv cwd isOver => cases hawaits
  | ticket t =>
    rw [hview.turn_of_nil rfl]
    exact .asking hview hallowed hputs hawaits hasks hnext
  | delivery e later aim =>
    obtain ⟨s', hs', hturn⟩ := hview.turn (c := c) rfl
    rw [hturn]
    cases aim with
    | await t =>
      obtain rfl : t = p.ticket := hawaits
      obtain ⟨w, s'', hannounce, hawaits', hallowed', hs''⟩ :=
        (hs'.deliver hhost hallowed.1 (some x.self)).waits_announce hhost rfl rfl hputs.unsettled
          hallowed.2
      simp only [awaken, hannounce, carryOn]
      exact .asking (hs''.setPhase _) hallowed' hputs hawaits' hasks hnext
    | reply r => cases hawaits
    | retrieve step => cases hawaits

/-- A run that goes on stays on its course. -/
theorem turn (haccepts : c.Accepts x request saved plan)
    (h : Stage c outcome x plan Q request saved before s) :
    Stage c outcome x plan Q request saved before (s.turn c) := by
  cases h with
  | new hview =>
    obtain ⟨s', hs', hturn⟩ := hview.turn (c := c) rfl
    obtain ⟨s'', hs'', hconsider⟩ := haccepts s' _ hs'
    rw [hturn]
    dsimp only
    rw [hconsider]
    exact (onCourse_prepare hhost hcourse hs'').1
  | opening hview hallowed =>
    exact turn_of_posting hhost hview hallowed (fun s' hs' => onCourse_play hhost hcourse hs')
      (fun e later s' he hs' => .opening hs' he)
  | due hview hallowed hrests hdue hnext =>
    exact turn_of_due hhost hcourse hview hallowed hrests hdue hnext
  | asking hview hallowed hputs hawaits hasks hnext =>
    exact turn_of_asking hhost hview hallowed hputs hawaits hasks hnext
  | closing hview hallowed hrests hjudges =>
    exact turn_of_posting hhost hview hallowed
      (fun s' hs' => onCourse_keep hhost hcourse hjudges hrests hs')
      (fun e later s' he hs' => .closing hs' he hrests hjudges)
  | ending hview hallowed hended =>
    exact turn_of_posting hhost hview hallowed (fun s' hs' => onCourse_finish hended hs')
      (fun e later s' he hs' => .ending hs' he hended)
  | ended hview hended =>
    rw [hview.turn_of_nil rfl]
    exact .ended hview hended

theorem move (haccepts : c.Accepts x request saved plan)
    (h : Stage c outcome x plan Q request saved before s) (m : Move) :
    Stage c outcome x plan Q request saved (before ++ s.gives m) (s.move c m) := by
  cases m with
  | turn =>
    simp only [gives, List.append_nil]
    exact h.turn hhost hcourse haccepts
  | release =>
    simp only [gives, List.append_nil]
    exact h.release
  | answer step r => exact h.answer step r

/-- A run stays on its course, whatever happens. -/
theorem run (haccepts : c.Accepts x request saved plan)
    (h : Stage c outcome x plan Q request saved before s) (moves : List Move) :
    Stage c outcome x plan Q request saved (before ++ given c s moves) (s.run c moves) := by
  induction moves generalizing before s with
  | nil =>
    rw [given, List.append_nil]
    exact h
  | cons m rest ih =>
    rw [given, ← List.append_assoc]
    exact ih (h.move hhost hcourse haccepts m)

end Stage

end Stepwise.Session
