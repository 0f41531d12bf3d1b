import Stepwise.Proofs.Session.Serve

namespace Stepwise

/-- A run rests: nothing is asked, and the answers are those to begin with and those given. -/
structure Bridge.Rests (b : Bridge String) (plan : Session.Plan) (given : List (String × String)) :
    Prop where
  pending : b.pending = []
  isClosed : b.isClosed = false
  replays : b.replays = plan.replays
  answers : b.answers = plan.answers.insertAll given

/-- A run asks: one question waits for an answer, and it has none yet. -/
structure Bridge.Puts (b : Bridge String) (plan : Session.Plan) (given : List (String × String))
    (p : Pending) : Prop where
  pending : b.pending = [p]
  isClosed : b.isClosed = false
  replays : b.replays = plan.replays
  answers : b.answers = plan.answers.insertAll given
  unsettled : b.isUnsettled p.ticket

/-- The bridge once the question has its answer. -/
def Bridge.granted (b : Bridge String) (p : Pending) (a : String) : Bridge String :=
  { b with
    pending := []
    answers := b.answers.insert p.step a
    tickets := b.tickets.set p.ticket (.answered a) }

namespace Bridge.Puts

variable {b : Bridge String} {plan : Session.Plan} {given : List (String × String)} {p : Pending}

theorem answer_eq (h : b.Puts plan given p) (a : String) {kind : Question.Kind}
    (hkind : p.kind = kind) : b.answer p.step kind a = (true, ⟨b.granted p a, [p.ticket]⟩) := by
  simp [answer, pending?, forget, granted, h.pending, hkind, h.unsettled]

theorem answer_of_not_fits (h : b.Puts plan given p) {step a : String} {kind : Question.Kind}
    (hfits : ¬ (p.step = step ∧ p.kind = kind)) :
    b.answer step kind a = (false, ⟨b, []⟩) := by
  by_cases hstep : p.step = step
  · have hkind : p.kind ≠ kind := fun hkind => hfits ⟨hstep, hkind⟩
    simp [answer, pending?, h.pending, hstep, hkind]
  · simp [answer, pending?, h.pending, hstep]

theorem rests_granted (h : b.Puts plan given p) (a : String) :
    (b.granted p a).Rests plan (given ++ [(p.step, a)]) := by
  refine ⟨rfl, h.isClosed, h.replays, ?_⟩
  simp only [granted, h.answers, Table.insertAll, List.foldl_append, List.foldl_cons,
    List.foldl_nil]

theorem ticket?_granted (h : b.Puts plan given p) (a : String) :
    (b.granted p a).ticket? p.ticket = some (.answered a) :=
  List.getElem?_set_self
    (List.getElem?_eq_some_iff.1 (isUnsettled_iff.1 h.unsettled)).1

end Bridge.Puts

namespace Session

variable {σ : Type}

namespace Wait.Awaits

variable {b : Bridge String} {w : Wait} {t : Nat}

/-- The reply is sure to come once the ticket is answered. -/
theorem due (h : w.Awaits t) {outcome : Outcomes} {a : String}
    (hticket : b.ticket? t = some (.answered a)) : w.Due outcome b (.value (.text a)) := by
  cases w with
  | command argv cwd isOver => cases h
  | ticket t' =>
    obtain rfl : t' = t := h
    exact ⟨a, hticket, rfl⟩
  | delivery e later aim => cases aim with
    | await t' =>
      obtain rfl : t' = t := h
      exact ⟨a, hticket, rfl⟩
    | reply reply => cases h
    | retrieve step => cases h

/-- Whoever waits for the ticket itself can go on once it is settled. -/
theorem lineOf_append (h : w.Awaits t) (i : Nat) (plan : Plan) (next : Reply → Dialogue Result) :
    (w.lineOf i false ++ [t].flatMap fun ticket =>
      if (Task.mk (.playing plan next w) false).isWaitingFor ticket then [i] else []) =
      w.lineOf i true := by
  cases w with
  | command argv cwd isOver => cases h
  | ticket t' =>
    obtain rfl : t' = t := h
    simp [lineOf, Task.isWaitingFor]
  | delivery e later aim => simp [lineOf, Task.isWaitingFor]

end Wait.Awaits

/-- What holds of the answers given so far and of the rest of a run, all through the run. -/
structure Course (c : Setup σ) (outcome : Outcomes) (x : Scene) (plan : Plan)
    (Q : List (String × String) → Dialogue Result → Prop) : Prop where
  plain : ∀ e : Event, ¬ e.Asks → x.allowed e
  start : Q [] (Run.ofInput .all c.limit plan.entry.script plan.vars)
  visit : ∀ {given place rest}, Q given (.visit place rest) → Q given rest
  reply : ∀ {given place q next reply}, Q given (.ask place q next) →
    c.reply? outcome place q = some reply → Q given (next place reply)
  retrieve : ∀ {given place q next step question a}, Q given (.ask place q next) →
    c.question? place q = some (step, question) → plan.replays →
    (plan.answers.insertAll given).get? step = some a → Q given (next place (.value (.text a)))
  ask : ∀ {given place q next step question}, Q given (.ask place q next) →
    c.question? place q = some (step, question) →
    (plan.replays → (plan.answers.insertAll given).get? step = none) →
    x.allowed (question.event step) ∧
      ∀ a, Q (given ++ [(step, a)]) (next place (.value (.text a)))

/-- The verdict is on a run that was on its course. -/
def Verdict.Judges (verdict : Verdict) (Q : List (String × String) → Dialogue Result → Prop)
    (given : List (String × String)) : Prop :=
  (∃ r, Q given (.done r) ∧ verdict = ⟨r.status, r.message, r.vars.map .text, some r⟩) ∨
  (∃ place f, Q given (.fail place f)) ∧ verdict.result = none

/-- The ending of a run that was on its course, and what is saved then. -/
def Setup.Ended (c : Setup σ) (plan : Plan) (Q : List (String × String) → Dialogue Result → Prop)
    (given : List (String × String)) (ending : Ending) (saved : Option SavedRun) : Prop :=
  (∃ r, Q given (.done r) ∧ ending = .result (some r) ∧
    saved = some ⟨plan.entry.id, plan.answers.insertAll given, r.vars, some r.status.name,
      r.message, c.now⟩) ∨
  (∃ place f, Q given (.fail place f)) ∧ ∀ r, ending ≠ .result (some r)

/-- The surface is never asked. -/
def Scene.IsQuiet (x : Scene) : Prop :=
  ∀ e, x.allowed e → ¬ e.Asks

/-- Where a run may stand, with the answers given so far. -/
inductive Stage (c : Setup σ) (outcome : Outcomes) (x : Scene) (plan : Plan)
    (Q : List (String × String) → Dialogue Result → Prop) (request : RunRequest)
    (saved : Option SavedRun) : List (String × String) → Session σ → Prop where
  | new {isAbandoned : Bool} {s : Session σ}
      (hview : x.At ⟨.new request, [x.self], none, saved, false, isAbandoned⟩ s) :
      Stage c outcome x plan Q request saved [] s
  | opening {e : Event} {later : List Event} {s : Session σ}
      (hview : x.At ⟨.posting e later (.play plan), [x.self],
        some (.start plan.replays plan.answers), saved, true, false⟩ s)
      (hallowed : x.allowed e ∧ ∀ e' ∈ later, x.allowed e') :
      Stage c outcome x plan Q request saved [] s
  /-- It waits for a reply that is sure to come. -/
  | due {given : List (String × String)} {next : Reply → Dialogue Result} {w : Wait}
      {b : Bridge String} {reply : Reply} {s : Session σ}
      (hview : x.At ⟨.playing plan next w, w.lineOf x.self true, some b, saved, true, false⟩ s)
      (hallowed : w.Allowed x) (hrests : b.Rests plan given) (hdue : w.Due outcome b reply)
      (hcourse : Q given (next reply)) : Stage c outcome x plan Q request saved given s
  /-- It waits for an answer of the surface. -/
  | asking {given : List (String × String)} {next : Reply → Dialogue Result} {w : Wait}
      {b : Bridge String} {p : Pending} {s : Session σ}
      (hview : x.At ⟨.playing plan next w, w.lineOf x.self false, some b, saved, true, false⟩ s)
      (hallowed : w.Allowed x) (hputs : b.Puts plan given p) (hawaits : w.Awaits p.ticket)
      (hasks : ¬ x.IsQuiet)
      (hcourse : ∀ a, Q (given ++ [(p.step, a)]) (next (.value (.text a)))) :
      Stage c outcome x plan Q request saved given s
  | closing {given : List (String × String)} {e : Event} {later : List Event} {verdict : Verdict}
      {b : Bridge String} {s : Session σ}
      (hview : x.At ⟨.posting e later (.keep plan verdict), [x.self], some b, saved, true, false⟩ s)
      (hallowed : x.allowed e ∧ ∀ e' ∈ later, x.allowed e') (hrests : b.Rests plan given)
      (hjudges : verdict.Judges Q given) : Stage c outcome x plan Q request saved given s
  | ending {given : List (String × String)} {e : Event} {later : List Event} {ending : Ending}
      {saved' : Option SavedRun} {s : Session σ}
      (hview : x.At ⟨.posting e later (.finish ending), [x.self], none, saved', false, false⟩ s)
      (hallowed : x.allowed e ∧ ∀ e' ∈ later, x.allowed e')
      (hended : c.Ended plan Q given ending saved') : Stage c outcome x plan Q request saved given s
  | ended {given : List (String × String)} {ending : Ending} {saved' : Option SavedRun}
      {s : Session σ} (hview : x.At ⟨.finished ending, [], none, saved', false, false⟩ s)
      (hended : c.Ended plan Q given ending saved') : Stage c outcome x plan Q request saved given s

/-- Lets the commands be over that are waited for, and then the first in line go on. -/
def round (c : Setup σ) (s : Session σ) : Session σ :=
  s.release.turn c

def rounds (c : Setup σ) : Nat → Session σ → Session σ
  | 0, s => s
  | n + 1, s => rounds c n (s.round c)

/-- The run ends if it is let go on often enough. -/
def Ends (c : Setup σ) (x : Scene) (s : Session σ) : Prop :=
  ∃ n ending, ((s.rounds c n).tasks[x.self]?).map Task.phase = some (.finished ending)

theorem Ends.of_round {c : Setup σ} {x : Scene} {s : Session σ} (h : Ends c x (s.round c)) :
    Ends c x s := by
  obtain ⟨n, ending, hn⟩ := h
  exact ⟨n + 1, ending, hn⟩

end Session

end Stepwise
