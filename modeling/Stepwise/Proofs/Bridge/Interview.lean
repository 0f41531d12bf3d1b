import Mathlib.Data.List.Infix
import Stepwise.Proofs.Bridge.Replayed
import Stepwise.Proofs.Run.Leads
import Stepwise.Script.Dump

namespace Stepwise

variable {α β : Type} {blank : α} {seed : Table α}

namespace Switchboard

/-- Only the phase of an inquiry changes as it goes on. -/
theorem inquiries_resume (s : Switchboard α) (i : Nat) :
    ∃ phase : Inquiry α → Inquiry.Phase α,
      (s.resume i).inquiries = s.inquiries.modify i fun q => { q with phase := phase q } := by
  have hself : s.inquiries = s.inquiries.modify i fun q => { q with phase := q.phase } :=
    (List.modify_id i s.inquiries).symm
  simp only [resume]
  cases s.inquiries[i]? with
  | none => exact ⟨_, hself⟩
  | some q =>
    dsimp only
    cases q.phase with
    | returned _ | cancelled | failed _ => exact ⟨_, hself⟩
    | waiting t =>
      cases q.isFlagged with
      | true => exact ⟨fun _ => .cancelled, rfl⟩
      | false => exact ⟨fun _ => _, rfl⟩
    | announcing event aim =>
      cases q.isFlagged with
      | true => exact ⟨fun _ => .cancelled, rfl⟩
      | false =>
        obtain ⟨phase, hgoes, _⟩ :=
          reach_goes { s with events := s.events ++ [event] } i q.step aim
        exact ⟨fun _ => phase, hgoes.2⟩
    | new =>
      cases q.isFlagged with
      | true => exact ⟨fun _ => .cancelled, rfl⟩
      | false =>
        simp only [Bool.false_eq_true, if_false, put]
        cases s.bridge.replay? q.step with
        | some a =>
          obtain ⟨phase, hgoes, _⟩ :=
            announce_goes s i q.step (q.question.replayNotice q.step) .retrieve
          exact ⟨fun _ => phase, hgoes.2⟩
        | none =>
          cases s.bridge.register q.step q.question.kind with
          | none => exact ⟨fun _ => .cancelled, rfl⟩
          | some put =>
            obtain ⟨phase, hgoes, _⟩ := announce_goes (s.apply put.2) i q.step
              (q.question.event q.step) (.await put.1)
            exact ⟨fun _ => phase, hgoes.2⟩

theorem map_modify {f : Inquiry α → β} {g : Inquiry α → Inquiry α} (hsame : ∀ q, f (g q) = f q)
    (i : Nat) (inquiries : List (Inquiry α)) : (inquiries.modify i g).map f = inquiries.map f := by
  refine List.ext_getElem? fun i' => ?_
  rw [List.getElem?_map, List.getElem?_map]
  by_cases heq : i = i'
  · subst heq
    rw [List.getElem?_modify_eq]
    cases inquiries[i]? with
    | none => rfl
    | some q => exact congrArg some (hsame q)
  · rw [List.getElem?_modify_ne _ _ heq]

/-- The steps at which inquiries were made, in order. -/
def steps (s : Switchboard α) : List String :=
  s.inquiries.map Inquiry.step

theorem steps_cancel (s : Switchboard α) (i : Nat) : (s.cancel i).steps = s.steps := by
  have hflag : (s.flag i).steps = s.steps := map_modify (by intro _; rfl) i s.inquiries
  unfold cancel
  split
  · rfl
  · split
    · rfl
    · rfl
    · rfl
    · exact hflag
    · exact hflag
    · split
      · rfl
      · exact hflag

/-- An inquiry keeps its step. -/
theorem steps_move (s : Switchboard α) (m : Move α) : s.steps <+: (s.move blank m).steps := by
  cases m with
  | inquire step question => exact ⟨[step], by simp [steps, move, inquire]⟩
  | wake i =>
    obtain ⟨phase, hphase⟩ := inquiries_resume { s with line := s.line.erase i } i
    have hsame : (s.move blank (.wake i)).steps = s.steps := by
      simp only [steps, move, hphase]
      exact map_modify (by intro _; rfl) i s.inquiries
    rw [hsame]
  | cancel i =>
    rw [move, steps_cancel]
  | respond | close | deliver => exact List.prefix_rfl

end Switchboard

open Switchboard

namespace Journal

variable {j : Journal α}

/-- Each question was put at the step of its inquiry. -/
def IsPlaced (j : Journal α) : Prop :=
  ∀ r ∈ j.posed, j.board.steps[r.inquiry]? = some r.step

theorem getElem?_steps_note {i : Nat} {step : String} (hstep : j.board.steps[i]? = some step)
    (m : Move α) : (j.note blank m).board.steps[i]? = some step := by
  obtain ⟨later, hlater⟩ : j.board.steps <+: (j.board.move blank m).steps := j.board.steps_move m
  have hlt : i < j.board.steps.length := (List.getElem?_eq_some_iff.1 hstep).1
  have hboard : (j.note blank m).board.steps = j.board.steps ++ later := hlater.symm
  rw [hboard, List.getElem?_append_left hlt, hstep]

theorem isPlaced_note (h : j.IsPlaced) (m : Move α) : (j.note blank m).IsPlaced := by
  intro r hr
  rcases j.posed_note m with hposed | ⟨i, q, hq, hposed⟩
  · exact getElem?_steps_note (h r (hposed ▸ hr)) m
  · rw [hposed] at hr
    rcases List.mem_append.1 hr with hold | hnew
    · exact getElem?_steps_note (h r hold) m
    · obtain rfl := List.mem_singleton.1 hnew
      exact getElem?_steps_note (by rw [steps, List.getElem?_map, hq]; rfl) m

/-- A step at which there is one inquiry only has the answer that this was given. -/
theorem Coherent.get?_answers (h : j.Coherent seed) (hplaced : j.IsPlaced)
    (hnodup : j.board.steps.Nodup) {g : Grant α} (hg : g ∈ j.grants) :
    j.board.bridge.answers.get? g.step = some g.answer := by
  have hticket : ∀ g' ∈ j.grants, g'.step = g.step → g'.ticket = g.ticket := by
    intro g' hg' hstep
    obtain ⟨_, i, hi⟩ := h.ledger.settled g hg
    obtain ⟨_, i', hi'⟩ := h.ledger.settled g' hg'
    have hat : j.board.steps[i]? = some g.step := hplaced _ (List.mem_of_getElem? hi)
    have hat' : j.board.steps[i']? = some g'.step := hplaced _ (List.mem_of_getElem? hi')
    have hlt : i < j.board.steps.length := (List.getElem?_eq_some_iff.1 hat).1
    obtain rfl : i = i' := (List.getElem?_inj hlt hnodup).1 (by rw [hat, hat', hstep])
    have hposed : (j.posed.map Posed.inquiry)[g.ticket]? = some i := by
      rw [List.getElem?_map, show j.posed[g.ticket]? = _ from hi, Option.map_some]
    have hposed' : (j.posed.map Posed.inquiry)[g'.ticket]? = some i := by
      rw [List.getElem?_map, show j.posed[g'.ticket]? = _ from hi', Option.map_some]
    have hlt' := (List.getElem?_eq_some_iff.1 hposed').1
    exact (List.getElem?_inj hlt' h.ledger.asked_once).1 (hposed'.trans hposed.symm)
  have hanswers : j.board.bridge.answers =
      seed.insertAll (j.grants.map fun g => (g.step, g.answer)) := h.ledger.answers
  rw [hanswers]
  refine Table.get?_insertAll (.inl (List.mem_map.2 ⟨g, hg, rfl⟩)) fun b hb => ?_
  obtain ⟨g', hg', heq⟩ := List.mem_map.1 hb
  obtain ⟨hstep, rfl⟩ := Prod.mk.inj heq
  rw [List.inj_on_of_nodup_map h.ledger.granted_once hg' hg (hticket g' hg' hstep)]

end Journal

/-- The question that a request puts. -/
def Request.question? : Request → Option Question
  | .prompt message preset => some (.prompt message preset)
  | .choose message options => some (.choice message (options.map (Script.dumpChoice .full)))
  | _ => none

/-- How the requests are served that put no question. A reply depends only on what is asked and on
    the variables. -/
abbrev Desk := Request → Table Value → Except Fault Value

def Reply.ofExcept : Except Fault Value → Reply
  | .ok v => .value v
  | .error f => .fault f

/-- What an inquiry that is over replies to the run that made it. -/
def Inquiry.Phase.reply? : Inquiry.Phase String → Option Reply
  | .returned a => some (.value (.text a))
  | .cancelled => some (.fault .cancelled)
  | .failed f => some (.fault (.host f))
  | _ => none

/-- The place that a mark shows a visit of. -/
def Mark.visited? : Mark → Option Context
  | .visit place => some place
  | .call _ _ _ => none

/-- Where a run stands whose questions go through a bridge. -/
inductive Interview.Stage where
  | running (d : Dialogue Result)
  /-- It waits for an inquiry that it made. -/
  | asking (inquiry : Nat) (place : Context) (request : Request)
      (next : Context → Reply → Dialogue Result)

/-- A run whose questions go through a bridge of its own, with what was seen of it. -/
structure Interview where
  journal : Journal String
  stage : Interview.Stage
  marks : List Mark

namespace Interview

def start (replays : Bool) (seed : Table String) (delivery : Delivery) (d : Dialogue Result) :
    Interview :=
  ⟨.start replays seed delivery, .running d, []⟩

/-- What is left of the run. -/
def rest (x : Interview) : Dialogue Result :=
  match x.stage with
  | .running d => d
  | .asking _ place request next => .ask place request next

/-- The result that the run came to. -/
def result? (x : Interview) : Option Result :=
  match x.stage with
  | .running (.done r) => some r
  | _ => none

def visits (x : Interview) : List Context :=
  x.marks.filterMap Mark.visited?

/-- Lets an inquiry of the run go on, and the run itself once the inquiry is over. -/
def await (x : Interview) (i : Nat) (place : Context) (request : Request)
    (next : Context → Reply → Dialogue Result) : Interview :=
  let journal := x.journal.note "" (.wake i)
  match journal.board.inquiries[i]?.bind fun q => q.phase.reply? with
  | some reply => ⟨journal, .running (next place reply), x.marks ++ [.call place request reply]⟩
  | none => ⟨journal, .asking i place request next, x.marks⟩

/-- The run goes on by one thing that it does: it visits a step, or puts a request. -/
def goOn (desk : Desk) (now : Int) (x : Interview) : Interview :=
  match x.stage with
  | .running (.visit place rest) =>
    { x with stage := .running rest, marks := x.marks ++ [.visit place] }
  | .running (.ask place request next) => match request.question? with
    | some q =>
      let journal := x.journal.note "" (.inquire (q.place now place.step) q)
      { x with journal }.await x.journal.board.inquiries.length place request next
    | none =>
      let reply := Reply.ofExcept (desk request place.vars)
      { x with
        stage := .running (next place reply)
        marks := x.marks ++ [.call place request reply] }
  | .running _ => x
  | .asking i place request next => x.await i place request next

/-- What can happen in an interview. -/
inductive Move where
  /-- The run goes on, at this time. -/
  | goOn (now : Int)
  | respond (step : String) (response : Response String)
  /-- Someone wants the question cancelled that the run waits for. -/
  | cancel
  | close
  | deliver (delivery : Delivery)

def move (desk : Desk) (x : Interview) : Move → Interview
  | .goOn now => x.goOn desk now
  | .respond step response => { x with journal := x.journal.note "" (.respond step response) }
  | .cancel => match x.stage with
    | .running _ => x
    | .asking i _ _ _ => { x with journal := x.journal.note "" (.cancel i) }
  | .close => { x with journal := x.journal.note "" .close }
  | .deliver delivery => { x with journal := x.journal.note "" (.deliver delivery) }

def run (desk : Desk) (x : Interview) (moves : List Move) : Interview :=
  moves.foldl (move desk) x

theorem result?_eq_some {x : Interview} {r : Result} :
    x.result? = some r ↔ x.stage = .running (.done r) := by
  unfold result?
  split
  next r' hstage => simp [hstage]
  next hother => exact ⟨nofun, fun hstage => absurd hstage (hother r)⟩

theorem journal_await (x : Interview) (i : Nat) (place : Context) (q : Request)
    (next : Context → Reply → Dialogue Result) :
    (x.await i place q next).journal = x.journal.note "" (.wake i) := by
  unfold await
  dsimp only
  split <;> rfl

/-- An interview does to its bridge what can be done to any. -/
theorem journal_move (desk : Desk) (x : Interview) (m : Move) :
    ∃ moves, (x.move desk m).journal = x.journal.run "" moves := by
  cases m with
  | respond step response => exact ⟨[.respond step response], rfl⟩
  | close => exact ⟨[.close], rfl⟩
  | deliver delivery => exact ⟨[.deliver delivery], rfl⟩
  | cancel =>
    simp only [move]
    cases x.stage with
    | running d => exact ⟨[], rfl⟩
    | asking i place q next => exact ⟨[.cancel i], rfl⟩
  | goOn now =>
    simp only [move, goOn]
    cases x.stage with
    | asking i place q next => exact ⟨[.wake i], x.journal_await i place q next⟩
    | running d =>
      cases d with
      | done | fail | visit => exact ⟨[], rfl⟩
      | ask place q next =>
        dsimp only
        cases q.question? with
        | none => exact ⟨[], rfl⟩
        | some question =>
          exact ⟨[.inquire (question.place now place.step) question,
            .wake x.journal.board.inquiries.length], journal_await _ _ _ _ _⟩

theorem journal_run (desk : Desk) (x : Interview) (moves : List Move) :
    ∃ moves', (x.run desk moves).journal = x.journal.run "" moves' := by
  induction moves generalizing x with
  | nil => exact ⟨[], rfl⟩
  | cons m rest ih =>
    obtain ⟨first, hfirst⟩ := x.journal_move desk m
    obtain ⟨later, hlater⟩ := ih (x.move desk m)
    refine ⟨first ++ later, hlater.trans ?_⟩
    rw [hfirst]
    exact List.foldl_append.symm

/-- A run that waits goes on to wait, or takes the reply of its inquiry. -/
theorem await_cases (x : Interview) (i : Nat) (place : Context) (q : Request)
    (next : Context → Reply → Dialogue Result) :
    x.await i place q next = ⟨x.journal.note "" (.wake i), .asking i place q next, x.marks⟩ ∨
    ∃ inquiry reply, (x.journal.note "" (.wake i)).board.inquiries[i]? = some inquiry ∧
      inquiry.phase.reply? = some reply ∧
      x.await i place q next = ⟨x.journal.note "" (.wake i), .running (next place reply),
        x.marks ++ [.call place q reply]⟩ := by
  unfold await
  dsimp only
  split
  next reply hreply =>
    obtain ⟨inquiry, hinquiry, hphase⟩ := Option.bind_eq_some_iff.1 hreply
    exact .inr ⟨inquiry, reply, hinquiry, hphase, rfl⟩
  next => exact .inl rfl

end Interview

theorem Inquiry.Phase.reply?_cases {phase : Inquiry.Phase String} {reply : Reply}
    (hreply : phase.reply? = some reply) :
    (∃ a, phase = .returned a ∧ reply = .value (.text a)) ∨ ∃ f, reply = .fault f := by
  cases phase with
  | returned a =>
    cases hreply
    exact .inl ⟨a, rfl, rfl⟩
  | cancelled | failed =>
    cases hreply
    exact .inr ⟨_, rfl⟩
  | new | announcing | waiting => cases hreply

theorem Reply.keeps_ofExcept (outcome : Except Fault Value) : (Reply.ofExcept outcome).Keeps := by
  cases outcome <;> trivial

/-- A question is put at the step that a run has come to. -/
theorem Question.place_of_step {place : Context} {step : String} (hstep : place.step = some step)
    (hne : step ≠ "") (now : Int) (q : Question) : q.place now place.step = step := by
  have hfilter : place.step.filter (!·.isEmpty) = some step :=
    Option.filter_eq_some_iff.2 ⟨hstep, by simpa using hne⟩
  rw [Question.place, hfilter]

/-- The reply is that of the desk, or an answer that the bridge was given at this step. -/
def Mark.IsBacked (desk : Desk) (grants : List (Grant String)) : Mark → Prop
  | .visit _ => True
  | .call place q reply => match q.question? with
    | none => reply = .ofExcept (desk q place.vars)
    | some _ => ∃ g ∈ grants, place.step = some g.step ∧ reply = .value (.text g.answer)

theorem Mark.IsBacked.mono {desk : Desk} {grants later : List (Grant String)} {mark : Mark}
    (h : mark.IsBacked desk grants) : mark.IsBacked desk (grants ++ later) := by
  cases mark with
  | visit => trivial
  | call place q reply =>
    simp only [Mark.IsBacked] at h ⊢
    cases hq : q.question? with
    | none =>
      rw [hq] at h
      exact h
    | some question =>
      rw [hq] at h
      obtain ⟨g, hg, hsame⟩ := h
      exact ⟨g, List.mem_append_left _ hg, hsame⟩

namespace Interview

open Dialogue

variable {desk : Desk} {d : Dialogue Result} {seed : Table String} {x : Interview}

/-- How a live run came where it stands: by replies that are backed, but for a fault that ended it
    where it put a question. -/
inductive Path (desk : Desk) (d : Dialogue Result) (x : Interview) : Prop where
  | onWay (hleads : Leads d x.marks x.rest)
      (hbacked : ∀ mark ∈ x.marks, mark.IsBacked desk x.journal.grants)
  | halted {core : List Mark} {place : Context} {q : Request}
      {next : Context → Reply → Dialogue Result} {f : Fault}
      (hleads : Leads d core (.ask place q next))
      (hbacked : ∀ mark ∈ core, mark.IsBacked desk x.journal.grants)
      (hmarks : x.marks = core ++ [.call place q (.fault f)])
      (hstage : x.stage = .running (.fail place f))

/-- A live run of a dialogue: its books are in order, it waits for an inquiry at the step that it
    has come to, and it knows the way that it came. -/
structure Lives (desk : Desk) (d : Dialogue Result) (seed : Table String) (x : Interview) : Prop where
  journal : x.journal.Coherent seed
  placed : x.journal.IsPlaced
  live : x.journal.board.bridge.replays = false
  asks : ∀ i place q next, x.stage = .asking i place q next →
    ∃ question step, q.question? = some question ∧ place.step = some step ∧
      x.journal.board.steps[i]? = some step
  path : Path desk d x

theorem lives_start (d : Dialogue Result) (delivery : Delivery) :
    Lives desk d seed (start false seed delivery d) where
  journal := Journal.coherent_start false seed delivery
  placed := nofun
  live := rfl
  asks := nofun
  path := .onWay (.nil d) (List.forall_mem_nil _)

namespace Lives

theorem leads (h : Lives desk d seed x) (hstage : ∀ place f, x.stage ≠ .running (.fail place f)) :
    Leads d x.marks x.rest ∧ ∀ mark ∈ x.marks, mark.IsBacked desk x.journal.grants := by
  cases h.path with
  | onWay hleads hbacked => exact ⟨hleads, hbacked⟩
  | halted _ _ _ hfailed => exact absurd hfailed (hstage _ _)

/-- Whatever else happens on its bridge leaves the run where it is. -/
theorem note (h : Lives desk d seed x) (m : Switchboard.Move String) :
    Lives desk d seed { x with journal := x.journal.note "" m } where
  journal := (h.journal.note m).1
  placed := Journal.isPlaced_note h.placed m
  live := (h.journal.note m).2.replays.trans h.live
  asks := by
    intro i place q next hstage
    obtain ⟨question, step, hq, hstep, hat⟩ := h.asks i place q next hstage
    exact ⟨question, step, hq, hstep, Journal.getElem?_steps_note hat m⟩
  path := by
    cases h.path with
    | onWay hleads hbacked => exact .onWay hleads fun mark hmark => (hbacked mark hmark).mono
    | halted hleads hbacked hmarks hstage =>
      exact .halted hleads (fun mark hmark => (hbacked mark hmark).mono) hmarks hstage

/-- A run that puts a question takes nothing for a reply but an answer given to it. -/
theorem await (hd : d.IsOrderly) (h : Lives desk d seed x) {i : Nat} {place : Context} {q : Request}
    {next : Context → Reply → Dialogue Result} (hleads : Leads d x.marks (.ask place q next))
    (hbacked : ∀ mark ∈ x.marks, mark.IsBacked desk x.journal.grants) {question : Question}
    (hq : q.question? = some question) {step : String} (hstep : place.step = some step)
    (hat : x.journal.board.steps[i]? = some step) :
    Lives desk d seed (x.await i place q next) := by
  have hnote := h.note (.wake i)
  have hbacked' : ∀ mark ∈ x.marks,
      mark.IsBacked desk (x.journal.note "" (.wake i)).grants :=
    fun mark hmark => (hbacked mark hmark).mono
  have hat' : (x.journal.note "" (.wake i)).board.steps[i]? = some step :=
    Journal.getElem?_steps_note hat (.wake i)
  rcases x.await_cases i place q next with heq | ⟨inquiry, reply, hinquiry, hreply, heq⟩
  · rw [heq]
    refine ⟨hnote.journal, hnote.placed, hnote.live, ?_, .onWay hleads hbacked'⟩
    rintro _ _ _ _ ⟨⟩
    exact ⟨question, step, hq, hstep, hat'⟩
  · rw [heq]
    refine ⟨hnote.journal, hnote.placed, hnote.live, nofun, ?_⟩
    rcases Inquiry.Phase.reply?_cases hreply with ⟨a, hphase, rfl⟩ | ⟨f, rfl⟩
    · refine .onWay (hleads.concat_call trivial) fun mark hmark => ?_
      rcases List.mem_append.1 hmark with hold | hnew
      · exact hbacked' mark hold
      · obtain rfl := List.mem_singleton.1 hnew
        simp only [Mark.IsBacked, hq]
        rcases hnote.journal.returned hinquiry hphase with ⟨hreplays, _⟩ | ⟨t, _, hgrant⟩
        · exact nomatch hreplays.symm.trans hnote.live
        · have hown : inquiry.step = step := by
            rw [steps, List.getElem?_map, hinquiry] at hat'
            exact Option.some.inj hat'
          exact ⟨_, hgrant, hown ▸ hstep, rfl⟩
    · exact .halted hleads hbacked' rfl (congrArg Stage.running ((hd _ _ _ _ hleads).2 f))

theorem goOn (hd : d.IsOrderly) (h : Lives desk d seed x) (now : Int) :
    Lives desk d seed (x.goOn desk now) := by
  obtain ⟨journal, stage, marks⟩ := x
  cases stage with
  | asking i place q next =>
    obtain ⟨hleads, hbacked⟩ := h.leads nofun
    obtain ⟨question, step, hq, hstep, hat⟩ := h.asks i place q next rfl
    exact h.await hd hleads hbacked hq hstep hat
  | running rest =>
    cases rest with
    | done | fail => exact h
    | visit place rest =>
      obtain ⟨hleads, hbacked⟩ := h.leads nofun
      refine { h with asks := nofun, path := .onWay hleads.concat_visit fun mark hmark => ?_ }
      rcases List.mem_append.1 hmark with hold | hnew
      · exact hbacked mark hold
      · obtain rfl := List.mem_singleton.1 hnew
        trivial
    | ask place q next =>
      obtain ⟨hleads, hbacked⟩ := h.leads nofun
      simp only [Interview.goOn]
      cases hq : q.question? with
      | none =>
        refine { h with
          asks := nofun
          path := .onWay (hleads.concat_call (Reply.keeps_ofExcept _)) fun mark hmark => ?_ }
        rcases List.mem_append.1 hmark with hold | hnew
        · exact hbacked mark hold
        · obtain rfl := List.mem_singleton.1 hnew
          simp only [Mark.IsBacked, hq]
      | some question =>
        obtain ⟨step, hstep, hne⟩ := (hd _ _ _ _ hleads).1
        have hinquire := h.note (.inquire (question.place now place.step) question)
        refine hinquire.await hd hleads (fun mark hmark => (hbacked mark hmark).mono) hq hstep ?_
        rw [question.place_of_step hstep hne now]
        simp [Journal.note, Switchboard.move, inquire, steps]

theorem move (hd : d.IsOrderly) (h : Lives desk d seed x) (m : Move) :
    Lives desk d seed (x.move desk m) := by
  cases m with
  | goOn now => exact h.goOn hd now
  | respond step response => exact h.note (.respond step response)
  | close => exact h.note .close
  | deliver delivery => exact h.note (.deliver delivery)
  | cancel =>
    simp only [Interview.move]
    split
    · exact h
    · exact h.note (.cancel _)

theorem run (hd : d.IsOrderly) (h : Lives desk d seed x) (moves : List Move) :
    Lives desk d seed (x.run desk moves) := by
  induction moves generalizing x with
  | nil => exact h
  | cons m rest ih => exact ih (h.move hd m)

end Lives

end Interview

end Stepwise
