import Stepwise.Proofs.Bridge.Retract
import Stepwise.Proofs.Session.Scene

namespace Stepwise.Session

variable {σ : Type}

/-- The question that a request puts, with the name under which it is answered. -/
def Setup.question? (c : Setup σ) (place : Context) : Request → Option (String × Question)
  | .prompt message preset =>
    let q := Question.prompt message preset
    some (q.place c.now place.step, q)
  | .choose message options =>
    let q := Question.choice message (options.map (Script.dumpChoice .full))
    some (q.place c.now place.step, q)
  | _ => none

def commandReply : Except HostFault Outcome → Reply
  | .ok o => .value o.dump
  | .error fault => .fault (.host fault)

/-- The reply to a request that puts no question. -/
def Setup.reply? (c : Setup σ) (outcome : Outcomes) (place : Context) : Request → Option Reply
  | .prompt _ _ | .choose _ _ => none
  | .command command args cwd => some <| commandReply <|
      outcome (command :: args.getD []) (cwd.filter (!·.isEmpty) <|> c.workspace)
  | .evaluate expression => some <| match Evaluator.standard.lenient expression place.vars with
      | .ok (b, _) => .ofTruth b
      | .error fault => .fault fault
  | .log _ => some (.value .null)

/-- The reply that an aim leads to. -/
def Aim.Due (b : Bridge String) (reply : Reply) : Aim → Prop
  | .reply r => r = reply
  | .retrieve step => ∃ a, b.answers.get? step = some a ∧ reply = .value (.text a)
  | .await t => ∃ a, b.ticket? t = some (.answered a) ∧ reply = .value (.text a)

namespace Wait

/-- The reply that is sure to come. -/
def Due (outcome : Outcomes) (b : Bridge String) (reply : Reply) : Wait → Prop
  | .delivery _ _ aim => aim.Due b reply
  | .ticket t => Aim.Due b reply (.await t)
  | .command argv cwd _ => commandReply (outcome argv cwd) = reply

/-- The reply is that of a ticket. -/
def Awaits (t : Nat) : Wait → Prop
  | .delivery _ _ (.await t') | .ticket t' => t' = t
  | _ => False

/-- The events that are still to be delivered are allowed. -/
def Allowed (x : Scene) : Wait → Prop
  | .delivery e later _ => x.allowed e ∧ ∀ e' ∈ later, x.allowed e'
  | _ => True

/-- The line while run `i` waits. -/
def lineOf (i : Nat) (isSettled : Bool) : Wait → List Nat
  | .delivery _ _ _ => [i]
  | .ticket _ => if isSettled then [i] else []
  | .command _ _ isOver => if isOver then [i] else []

/-- How often a run that waits goes on at most, until it has its reply. A command has two texts to
    tell. -/
def rank : Wait → Nat
  | .delivery _ later _ => later.length + 1
  | .ticket _ => 1
  | .command _ _ _ => 3

end Wait

/-- A request or a wait leads to a reply, at once or after a wait of at most this rank. -/
def Leads (outcome : Outcomes) (x : Scene) (v : View) (b : Bridge String) (reply : Reply)
    (rank : Nat) : Served × Session σ → Prop
  | (.reply r, s) => r = reply ∧ x.At v s
  | (.wait w, s) => w.rank ≤ rank ∧ w.Due outcome b reply ∧ w.Allowed x ∧
      x.At { v with line := w.lineOf x.self true } s

theorem Leads.mono {outcome : Outcomes} {x : Scene} {v : View} {b : Bridge String} {reply : Reply}
    {m n : Nat} {served : Served × Session σ} (h : Leads outcome x v b reply m served)
    (hle : m ≤ n) : Leads outcome x v b reply n served := by
  obtain ⟨_ | w, s⟩ := served
  · exact h
  · exact ⟨Nat.le_trans h.1 hle, h.2⟩

theorem length_outcomeLog_le (o : Outcome) : (outcomeLog o).length ≤ 2 := by
  have hsaid : ∀ s : Option String, (s.filter (!·.isEmpty)).toList.length ≤ 1 := by
    intro s
    cases s.filter (!·.isEmpty) <;> simp
  simp only [outcomeLog, List.length_append, List.length_map]
  exact Nat.add_le_add (hsaid o.stdout) (hsaid o.stderr)

theorem not_asks_of_mem_outcomeLog {o : Outcome} {e : Event} (he : e ∈ outcomeLog o) :
    ¬ e.Asks := by
  rcases List.mem_append.1 he with hsaid | hsaid <;>
    obtain ⟨_, _, rfl⟩ := List.mem_map.1 hsaid <;> exact id

namespace Scene.At

variable {c : Setup σ} {outcome : Outcomes} {x : Scene} {v : View} {s : Session σ}
  {b : Bridge String} {reply : Reply}

theorem announce (h : x.At v s) (hhost : c.host.Steady outcome) {es : List Event}
    (hallowed : ∀ e ∈ es, x.allowed e) (aim : Aim) :
    (∃ s', x.At v s' ∧ s.announce c x.self es aim = (s'.reach aim, s')) ∨
    ∃ e later s', es = e :: later ∧ x.allowed e ∧ (∀ e' ∈ later, x.allowed e') ∧
      x.At { v with line := v.line ++ [x.self] } s' ∧
      s.announce c x.self es aim = (.wait (.delivery e later aim), s') := by
  cases es with
  | nil => exact .inl ⟨s, h, rfl⟩
  | cons e later =>
    by_cases hdefers : c.defers
    · refine .inr ⟨e, later, _, rfl, hallowed e List.mem_cons_self,
        fun e' he' => hallowed e' (List.mem_cons_of_mem _ he'), h.enqueue, ?_⟩
      simp only [Session.announce, hdefers, if_true]
    · refine .inl ⟨_, h.deliverAll hhost hallowed (some x.self), ?_⟩
      simp only [Session.announce, hdefers, Bool.false_eq_true, if_false]

theorem reach_of_due (h : x.At v s) (hbridge : v.bridge = some b) {aim : Aim}
    (hdue : aim.Due b reply) : s.reach aim = .reply reply := by
  have hb : s.bridge = some b := h.bridge.trans hbridge
  cases aim with
  | reply r => exact congrArg _ hdue
  | retrieve step =>
    obtain ⟨a, ha, rfl⟩ := hdue
    simp only [reach, hb, Option.bind_some, ha]
  | await t =>
    obtain ⟨a, ha, rfl⟩ := hdue
    simp only [reach, hb, Option.bind_some, ha]

/-- Events are delivered on the way to a reply that is sure to come. -/
theorem leads_announce (h : x.At v s) (hhost : c.host.Steady outcome) (hline : v.line = [])
    (hbridge : v.bridge = some b) {es : List Event} (hallowed : ∀ e ∈ es, x.allowed e) (aim : Aim)
    (hdue : aim.Due b reply) {n : Nat} (hlength : es.length ≤ n) :
    Leads outcome x v b reply n (s.announce c x.self es aim) := by
  rcases h.announce hhost hallowed aim with
    ⟨s', hs', heq⟩ | ⟨e, later, s', rfl, he, hlater, hs', heq⟩
  · rw [heq, hs'.reach_of_due hbridge hdue]
    exact ⟨rfl, hs'⟩
  · rw [heq]
    rw [hline] at hs'
    exact ⟨hlength, hdue, ⟨he, hlater⟩, hs'⟩

theorem leads_collect (h : x.At v s) (hhost : c.host.Steady outcome) (hline : v.line = [])
    (hbridge : v.bridge = some b) (hplain : ∀ e : Event, ¬ e.Asks → x.allowed e)
    (argv : List String) (cwd : Option String) :
    Leads outcome x v b (commandReply (outcome argv cwd)) 2 (s.collect c x.self argv cwd) := by
  unfold Session.collect
  obtain hcollect := hhost.collect argv cwd s.host
  generalize c.host.collect argv cwd s.host = result at hcollect
  obtain ⟨out, host⟩ := result
  obtain rfl := hcollect
  have hs : x.At v { s with host } := { h with }
  cases houtcome : outcome argv cwd with
  | error fault => exact ⟨rfl, hs⟩
  | ok o =>
    exact hs.leads_announce hhost hline hbridge
      (fun e he => hplain e (not_asks_of_mem_outcomeLog he)) (.reply _) rfl
      (length_outcomeLog_le o)

/-- A request that puts no question leads to its reply. -/
theorem leads_serve (h : x.At v s) (hhost : c.host.Steady outcome) (hline : v.line = [])
    (hbridge : v.bridge = some b) (hcalm : v.isAbandoned = false)
    (hplain : ∀ e : Event, ¬ e.Asks → x.allowed e) {place : Context} {q : Request}
    (hreply : c.reply? outcome place q = some reply) :
    Leads outcome x v b reply 3 (s.serve c x.self place q) := by
  have habandoned : s.isAbandoned = false := h.isAbandoned.trans hcalm
  cases q with
  | prompt message preset => cases hreply
  | choose message options => cases hreply
  | command command args cwd =>
    obtain rfl := Option.some.inj hreply
    have hs : x.At v { s with host := (c.host.begin command s.host).2 } := { h with }
    rw [serve, if_neg (by simp [habandoned])]
    dsimp only
    split
    · exact ⟨Nat.le_refl _, rfl, trivial, { hs with line := h.line.trans hline }⟩
    · exact (hs.leads_collect hhost hline hbridge hplain _ _).mono (by decide)
  | evaluate expression =>
    simp only [serve, habandoned, Bool.false_eq_true, if_false]
    simp only [Setup.reply?, Option.some.injEq] at hreply
    cases hlenient : Evaluator.standard.lenient expression place.vars with
    | error fault =>
      rw [hlenient] at hreply
      exact ⟨hreply, h⟩
    | ok result =>
      obtain ⟨truth, report⟩ := result
      rw [hlenient] at hreply
      refine h.leads_announce hhost hline hbridge (fun e he => hplain e ?_) (.reply _) hreply ?_
      · obtain ⟨_, _, rfl⟩ := List.mem_map.1 he
        exact id
      · cases report <;> simp
  | log message =>
    obtain rfl := Option.some.inj hreply
    simp only [serve, habandoned, Bool.false_eq_true, if_false]
    refine h.leads_announce hhost hline hbridge (fun e he => hplain e ?_) (.reply _) rfl (by simp)
    rw [List.mem_singleton.1 he]
    exact id

theorem serve_question (s : Session σ) {place : Context} {q : Request} {step : String}
    {question : Question} (hquestion : c.question? place q = some (step, question)) :
    s.serve c x.self place q = s.put c x.self step question := by
  cases q <;> cases hquestion <;> rfl

/-- A question that has an answer is not put. -/
theorem leads_retrieve (h : x.At v s) (hhost : c.host.Steady outcome) (hline : v.line = [])
    (hbridge : v.bridge = some b) (hplain : ∀ e : Event, ¬ e.Asks → x.allowed e) {place : Context}
    {q : Request} {step : String} {question : Question} {a : String}
    (hquestion : c.question? place q = some (step, question)) (hstored : b.replay? step = some a) :
    Leads outcome x v b (.value (.text a)) 3 (s.serve c x.self place q) := by
  have hanswer := (Bridge.replay?_eq_some_iff.1 hstored).2
  rw [serve_question s hquestion]
  simp only [put, h.bridge.trans hbridge, hstored]
  refine h.leads_announce hhost hline hbridge (fun e he => hplain e ?_) (.retrieve step)
    ⟨a, hanswer, rfl⟩ (by simp)
  rw [List.mem_singleton.1 he]
  cases question <;> exact id

/-- Events are delivered on the way to an answer that is not given yet. -/
theorem waits_announce (h : x.At v s) (hhost : c.host.Steady outcome) (hline : v.line = [])
    (hbridge : v.bridge = some b) {t : Nat} (hunsettled : b.isUnsettled t) {es : List Event}
    (hallowed : ∀ e ∈ es, x.allowed e) :
    ∃ w s', s.announce c x.self es (.await t) = (.wait w, s') ∧ w.Awaits t ∧ w.Allowed x ∧
      x.At { v with line := w.lineOf x.self false } s' := by
  rcases h.announce hhost hallowed (.await t) with
    ⟨s', hs', heq⟩ | ⟨e, later, s', -, he, hlater, hs', heq⟩
  · rw [heq]
    refine ⟨.ticket t, s', ?_, rfl, trivial, { hs' with line := hs'.line.trans hline }⟩
    simp only [reach, hs'.bridge, hbridge, Option.bind_some, Bridge.isUnsettled_iff.1 hunsettled]
  · rw [heq]
    exact ⟨_, s', rfl, rfl, ⟨he, hlater⟩,
      { hs' with line := by simpa [hline, Wait.lineOf] using hs'.line }⟩

/-- A question that has no answer is put, and waits for one. -/
theorem waits_ask (h : x.At v s) (hhost : c.host.Steady outcome) (hline : v.line = [])
    (hbridge : v.bridge = some b) (hpending : b.pending = []) (hopen : b.isClosed = false)
    {place : Context} {q : Request} {step : String} {question : Question}
    (hquestion : c.question? place q = some (step, question)) (hnone : b.replay? step = none)
    (hallowed : x.allowed (question.event step)) :
    ∃ w s' b', s.serve c x.self place q = (.wait w, s') ∧ w.Awaits b.tickets.length ∧
      w.Allowed x ∧ b' = { b with
        pending := [⟨step, question.kind, b.tickets.length⟩]
        tickets := b.tickets ++ [.unsettled] } ∧
      x.At { v with line := w.lineOf x.self false, bridge := some b' } s' := by
  have hregister : b.register step question.kind = some (b.tickets.length, ⟨{ b with
      pending := [⟨step, question.kind, b.tickets.length⟩]
      tickets := b.tickets ++ [.unsettled] }, []⟩) := by
    simp [Bridge.register, Bridge.pending?, Bridge.forget, hopen, hpending]
  have happly := h.apply { b with
    pending := [⟨step, question.kind, b.tickets.length⟩]
    tickets := b.tickets ++ [.unsettled] } []
  rw [serve_question s hquestion]
  simp only [put, h.bridge.trans hbridge, hnone, hregister]
  obtain ⟨w, s', heq, hawaits, hallowed', hs'⟩ := happly.waits_announce hhost (by simp [hline]) rfl
    (Bridge.isUnsettled_iff.2 List.getElem?_concat_length) (List.forall_mem_singleton.2 hallowed)
  exact ⟨w, s', _, heq, hawaits, hallowed', rfl, hs'⟩

/-- A run that goes on from a wait is led to the reply. -/
theorem leads_awaken (h : x.At v s) (hhost : c.host.Steady outcome) (hline : v.line = [])
    (hbridge : v.bridge = some b) (hplain : ∀ e : Event, ¬ e.Asks → x.allowed e) {w : Wait}
    (hdue : w.Due outcome b reply) (hallowed : w.Allowed x) :
    Leads outcome x v b reply (w.rank - 1) (s.awaken c x.self w) := by
  cases w with
  | delivery e later aim =>
    exact (h.deliver hhost hallowed.1 _).leads_announce hhost hline hbridge hallowed.2 aim hdue
      (Nat.le_refl _)
  | ticket t =>
    have hreach : s.reach (.await t) = .reply reply := h.reach_of_due hbridge hdue
    rw [awaken, hreach]
    exact ⟨rfl, h⟩
  | command argv cwd isOver =>
    obtain rfl := hdue
    exact h.leads_collect hhost hline hbridge hplain argv cwd

end Scene.At

end Stepwise.Session
