import Stepwise.Proofs.Run.Replay
import Stepwise.Proofs.Session.Played

namespace Stepwise.Session

open Dialogue

variable {σ : Type} {c : Setup σ} {outcome : Outcomes} {answers final : Table String}

/-- What a mark shows can be seen again: an answer is kept, and an expression has the same truth
    once the final variables are there from the beginning. -/
structure Setup.Recalls (c : Setup σ) (answers final : Table String) (mark : Mark) : Prop where
  answer : ∀ step a, c.answered? mark = some (step, a) → answers.get? step = some a
  truth : ∀ expression vars, mark.decided? = some (expression, vars) →
    Evaluator.standard.truth? expression ((final.map .text).overlay vars) =
      Evaluator.standard.truth? expression vars

/-- A dialogue goes the way of another, which came to a result, and the rest of it can be seen
    again. -/
def Setup.Retraces (c : Setup σ) (outcome : Outcomes) (answers final : Table String) (r : Result)
    (given : List (String × String)) (d' : Dialogue Result) : Prop :=
  given = [] ∧ ∃ d replies,
    Related (.ofReplay final) (fun r r' => r' = { r with vars := final.overlay r.vars }) d d' ∧
    (d.play (c.responder outcome) replies).1 = .ok r ∧
    ∀ mark ∈ d.marks (c.responder outcome) replies, c.Recalls answers final mark

theorem question?_congr {place place' : Context} (hstep : place'.step = place.step) (q : Request) :
    c.question? place' q = c.question? place q := by
  cases q <;> simp only [Setup.question?, hstep]

/-- A reply is the same again. -/
theorem reply?_of_truth {place : Context} (place' : Context) {q : Request} {v : Value}
    (hreply : c.reply? outcome place q = some (.value v))
    (htruth : ∀ expression, q = .evaluate expression →
      Evaluator.standard.truth? expression place'.vars =
        Evaluator.standard.truth? expression place.vars) :
    c.reply? outcome place' q = some (.value v) := by
  cases q with
  | prompt message preset => cases hreply
  | choose message options => cases hreply
  | command command args cwd => exact hreply
  | log message => exact hreply
  | evaluate expression =>
    have htruth := htruth expression rfl
    simp only [Setup.reply?, Evaluator.truth?] at hreply htruth ⊢
    cases hbefore : Evaluator.standard.lenient expression place.vars with
    | error fault =>
      rw [hbefore] at hreply
      cases hreply
    | ok before =>
      rw [hbefore] at hreply htruth
      cases hafter : Evaluator.standard.lenient expression place'.vars with
      | error fault =>
        rw [hafter] at htruth
        cases htruth
      | ok after =>
        rw [hafter] at htruth
        have hsame : after.1 = before.1 := Option.some.inj htruth
        obtain ⟨_, _⟩ := before
        obtain ⟨_, _⟩ := after
        obtain rfl := hsame
        exact hreply

theorem keeps_of_reply? {place : Context} {q : Request} {reply : Reply}
    (hreply : c.reply? outcome place q = some reply) : reply.Keeps := by
  cases q with
  | prompt message preset => cases hreply
  | choose message options => cases hreply
  | log message =>
    cases hreply
    trivial
  | command command args cwd =>
    cases hreply
    cases outcome (command :: args.getD []) (cwd.filter (!·.isEmpty) <|> c.workspace) <;> trivial
  | evaluate expression =>
    simp only [Setup.reply?] at hreply
    cases hlenient : Evaluator.standard.lenient expression place.vars <;> rw [hlenient] at hreply <;>
      cases hreply <;> trivial

theorem responder_cases (replies : List String) (place : Context) (q : Request) :
    ∃ reply rest, c.responder outcome replies place q = (place, reply, rest) ∧ reply.Keeps ∧
      (c.reply? outcome place q = some reply ∨
        c.reply? outcome place q = none ∧ ∀ v, reply = .value v → ∃ a, v = .text a) := by
  cases hreply : c.reply? outcome place q with
  | some reply =>
    exact ⟨reply, replies, responder_of_reply? hreply replies, keeps_of_reply? hreply, .inl rfl⟩
  | none =>
    cases replies with
    | nil =>
      exact ⟨.fault .cancelled, [], by simp only [Setup.responder, hreply], trivial,
        .inr ⟨rfl, nofun⟩⟩
    | cons a rest =>
      refine ⟨.value (.text a), rest, by simp only [Setup.responder, hreply], trivial,
        .inr ⟨rfl, ?_⟩⟩
      rintro v ⟨⟩
      exact ⟨a, rfl⟩

namespace Setup.Retraces

variable {r : Result} {given : List (String × String)} {place : Context} {q : Request}
  {next : Context → Reply → Dialogue Result}

theorem visit {rest : Dialogue Result}
    (h : c.Retraces outcome answers final r given (.visit place rest)) :
    c.Retraces outcome answers final r given rest := by
  obtain ⟨hgiven, d, replies, hrelated, hplay, hmarks⟩ := h
  cases hrelated with
  | visit _ _ _ hrest =>
    exact ⟨hgiven, _, replies, hrest, hplay, fun mark hmark => hmarks mark (.tail _ hmark)⟩

/-- A request gets the same value as before, and the way goes on. -/
theorem ask (h : c.Retraces outcome answers final r given (.ask place q next)) :
    ∃ place₀ v, place.step = place₀.step ∧ c.Recalls answers final (.call place₀ q (.value v)) ∧
      (∃ vars : Table String, place₀.vars = vars.map .text ∧
        place.vars = (final.overlay vars).map .text) ∧
      (c.reply? outcome place₀ q = some (.value v) ∨
        c.reply? outcome place₀ q = none ∧ ∃ a, v = .text a) ∧
      c.Retraces outcome answers final r given (next place (.value v)) := by
  obtain ⟨hgiven, d, replies, hrelated, hplay, hmarks⟩ := h
  cases hrelated with
  | @ask place₀ _ _ next₀ _ hsame hvalue hfault hfault' =>
    obtain ⟨reply, rest, hresponder, hkeeps, hreply⟩ :=
      @responder_cases σ c outcome replies place₀ q
    simp only [Dialogue.play, marks, hresponder] at hplay hmarks
    cases reply with
    | edited options v => exact absurd hkeeps id
    | fault fault =>
      rw [hfault] at hplay
      cases hplay
    | value v =>
      refine ⟨place₀, v, hsame.1, hmarks _ List.mem_cons_self, hsame.2,
        hreply.imp_right fun hasked => ⟨hasked.1, hasked.2 v rfl⟩, hgiven, _, rest,
        hvalue _ _ v hsame, hplay, fun mark hmark => hmarks mark (.tail _ hmark)⟩

/-- A dialogue that is over came to the same result, from the final variables of the first. -/
theorem result_eq {r' : Result} (h : c.Retraces outcome answers r.vars r given (.done r')) : r' = r := by
  obtain ⟨_, d, replies, hrelated, hplay, _⟩ := h
  cases hrelated with
  | done hresult =>
    obtain rfl := Except.ok.inj hplay
    rw [hresult, Table.overlay_self]

theorem not_fail {f : Fault} : ¬ c.Retraces outcome answers final r given (.fail place f) := by
  rintro ⟨_, d, replies, hrelated, hplay, _⟩
  cases hrelated with
  | fail hsame hfault => cases hplay

/-- A run begins to retrace another from its final variables. -/
theorem start {limit : Int} {input : Value} {vars : Table String} {replies : List String}
    (hplay : ((Run.ofInput .all limit input (vars.map .text)).play (c.responder outcome)
      replies).1 = .ok r)
    (hmarks : ∀ mark ∈ (Run.ofInput .all limit input (vars.map .text)).marks
      (c.responder outcome) replies, c.Recalls answers final mark) :
    c.Retraces outcome answers final r []
      (Run.ofInput .all limit input ((final.map .text).overlay (vars.map .text))) := by
  rw [← Table.overlay_map]
  cases hinput : Script.ofInput input with
  | error fault =>
    simp only [Run.ofInput, hinput] at hplay
    cases hplay
  | ok script =>
    simp only [Run.ofInput, hinput] at hplay hmarks ⊢
    exact ⟨rfl, _, replies, Run.related_replay (Script.linked_of_ofInput hinput) final vars, hplay,
      hmarks⟩

end Setup.Retraces

/-- The course of a run that replays another: nothing is asked. -/
theorem course_retraced {x : Scene} (hallowed : x.allowed = fun e => ¬ e.Asks) {plan : Plan}
    (hreplays : plan.replays = true) {r : Result}
    (hstart : c.Retraces outcome plan.answers final r []
      (Run.ofInput .all c.limit plan.entry.script plan.vars)) :
    Course c outcome x plan (c.Retraces outcome plan.answers final r) where
  plain e he := hallowed ▸ he
  start := hstart
  visit := .visit
  reply := by
    intro given place q next reply h hreply
    obtain ⟨place₀, v, hstep, hrecalls, ⟨vars, hvars, hvars'⟩, hbefore, hnext⟩ := h.ask
    rcases hbefore with hbefore | ⟨hnone, _⟩
    · have hsame := reply?_of_truth place hbefore fun expression hq => by
        subst hq
        rw [hvars', Table.overlay_map, ← hvars]
        exact hrecalls.truth _ _ rfl
      obtain rfl := Option.some.inj (hreply.symm.trans hsame)
      exact hnext
    · obtain ⟨step, question, hquestion⟩ := question?_of_reply?_eq_none hnone
      rw [← question?_congr hstep] at hquestion
      cases (reply?_eq_none hquestion).symm.trans hreply
  retrieve := by
    intro given place q next step question a h hquestion _ hstored
    obtain ⟨place₀, v, hstep, hrecalls, _, hbefore, hnext⟩ := h.ask
    rw [question?_congr hstep] at hquestion
    rw [h.1] at hstored
    rcases hbefore with hbefore | ⟨_, b, rfl⟩
    · rw [reply?_eq_none hquestion] at hbefore
      cases hbefore
    · have hkept := hrecalls.answer step b (by simp [Setup.answered?, hquestion])
      obtain rfl := Option.some.inj (hstored.symm.trans hkept)
      exact hnext
  ask := by
    intro given place q next step question h hquestion hmissing
    obtain ⟨place₀, v, hstep, hrecalls, _, hbefore, hnext⟩ := h.ask
    rw [question?_congr hstep] at hquestion
    have hnone := hmissing hreplays
    rw [h.1] at hnone
    rcases hbefore with hbefore | ⟨_, b, rfl⟩
    · rw [reply?_eq_none hquestion] at hbefore
      cases hbefore
    · have hkept := hrecalls.answer step b (by simp [Setup.answered?, hquestion])
      cases hnone.symm.trans hkept

end Stepwise.Session
