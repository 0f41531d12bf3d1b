import Stepwise.Bridge.Switchboard
import Stepwise.Proofs.Bridge.Ledger

namespace Stepwise

variable {α : Type}

namespace Switchboard

/-- What can happen on a switchboard. -/
inductive Move (α : Type) where
  | inquire (step : String) (question : Question)
  | respond (step : String) (response : Response α)
  | cancel (inquiry : Nat)
  | close
  /-- An inquiry goes on, whoever is first in line. -/
  | wake (inquiry : Nat)
  /-- The surface takes events in another way from now on. -/
  | deliver (delivery : Delivery)

def move (blank : α) (s : Switchboard α) : Move α → Switchboard α
  | .inquire step question => s.inquire step question
  | .respond step response => (s.respond blank step response).2
  | .cancel i => s.cancel i
  | .close => s.close
  | .wake i => { s with line := s.line.erase i }.resume i
  | .deliver delivery => { s with delivery }

/-- The question that an inquiry puts as it goes on, if it then has a new ticket. -/
def puts (s s' : Switchboard α) (i : Nat) : List Posed :=
  if s.bridge.tickets.length < s'.bridge.tickets.length then
    s.inquiries[i]?.toList.map fun q => ⟨i, q.step, q.question.kind⟩
  else []

/-- The answer that a response gives, if it is taken, with the ticket that it settles. -/
def grants (blank : α) (s : Switchboard α) (step : String) (r : Response α) : List (Grant α) :=
  if (s.respond blank step r).1 then
    (s.bridge.answer step r.kind (r.value blank)).2.settled.map
      (⟨·, step, r.kind, r.value blank⟩)
  else []

/-- Letting the inquiries in line go on is a sequence of moves. -/
theorem settle_eq_moves (blank : α) (s : Switchboard α) :
    ∃ line : List Nat, s.settle = (line.map Move.wake).foldl (move blank) s := by
  have hgo : ∀ fuel (s : Switchboard α),
      ∃ line : List Nat, settle.go fuel s = (line.map Move.wake).foldl (move blank) s := by
    intro fuel
    induction fuel with
    | zero => exact fun s => ⟨[], rfl⟩
    | succ fuel ih =>
      intro s
      cases hline : s.line with
      | nil => exact ⟨[], by simp [settle.go, hline]⟩
      | cons i rest =>
        obtain ⟨line, hline'⟩ := ih ({ s with line := rest }.resume i)
        refine ⟨i :: line, ?_⟩
        simp only [settle.go, hline, hline', List.map_cons, List.foldl_cons, move,
          List.erase_cons_head]
  exact hgo _ s

end Switchboard

open Switchboard

/-- A switchboard with the questions put on it and the answers that found their question. -/
structure Journal (α : Type) where
  board : Switchboard α
  posed : List Posed
  grants : List (Grant α)

/-- What it takes that an inquiry has this aim. -/
def Inquiry.Aim.Fits (l : Ledger α) (i : Nat) (step : String) (kind : Question.Kind) :
    Inquiry.Aim → Prop
  | .retrieve => l.bridge.replays ∧ ∀ r ∈ l.posed, r.inquiry ≠ i
  | .await t => l.posed[t]? = some ⟨i, step, kind⟩

/-- What it takes that an inquiry is in this phase. -/
def Inquiry.Phase.Fits (l : Ledger α) (i : Nat) (step : String) (kind : Question.Kind) :
    Inquiry.Phase α → Prop
  | .new => ∀ r ∈ l.posed, r.inquiry ≠ i
  | .announcing _ aim => aim.Fits l i step kind
  | .waiting t => l.posed[t]? = some ⟨i, step, kind⟩
  | .returned a =>
    (l.bridge.replays ∧ (∀ r ∈ l.posed, r.inquiry ≠ i) ∧ l.bridge.answers.get? step = some a) ∨
    ∃ t, l.posed[t]? = some ⟨i, step, kind⟩ ∧ l.bridge.ticket? t = some (.answered a)
  | .cancelled | .failed _ => True

variable {blank : α} {seed : Table α}

namespace Ledger.Grows

variable {l l' : Ledger α}

/-- A phase that fits goes on to fit while others put questions. -/
theorem fits (h : l.Grows l') {i : Nat} {step : String} {kind : Question.Kind}
    (hothers : ∀ r ∈ l'.posed, r.inquiry = i → r ∈ l.posed) {phase : Inquiry.Phase α}
    (hfits : phase.Fits l i step kind) : phase.Fits l' i step kind := by
  have hunasked : (∀ r ∈ l.posed, r.inquiry ≠ i) → ∀ r ∈ l'.posed, r.inquiry ≠ i :=
    fun hnone r hr heq => hnone r (hothers r hr heq) heq
  cases phase with
  | new => exact hunasked hfits
  | announcing event aim =>
    cases aim with
    | retrieve => exact ⟨h.replays.trans hfits.1, hunasked hfits.2⟩
    | await t => exact h.posed t _ hfits
  | waiting t => exact h.posed t _ hfits
  | returned a =>
    rcases hfits with ⟨hreplays, hnone, hstored⟩ | ⟨t, hown, hticket⟩
    · exact .inl ⟨h.replays.trans hreplays, hunasked hnone, h.answers hreplays _ _ hstored⟩
    · exact .inr ⟨t, h.posed t _ hown, h.settled t _ hticket nofun⟩
  | cancelled => trivial
  | failed fault => trivial

end Ledger.Grows

namespace Switchboard

/-- The inquiry is in this phase from now on, and the bridge stays as it is. -/
def Goes (s s' : Switchboard α) (i : Nat) (phase : Inquiry.Phase α) : Prop :=
  s'.bridge = s.bridge ∧ s'.inquiries = s.inquiries.modify i fun q => { q with phase }

/-- An inquiry whose event is delivered goes where its aim leads. -/
theorem reach_goes (s : Switchboard α) (i : Nat) (step : String) (aim : Inquiry.Aim) :
    ∃ phase, s.Goes (s.reach i step aim) i phase ∧
      ∀ l : Ledger α, l.bridge = s.bridge → ∀ kind, aim.Fits l i step kind →
        phase.Fits l i step kind := by
  cases aim with
  | retrieve =>
    refine ⟨_, ⟨rfl, rfl⟩, fun l hbridge kind haim => ?_⟩
    cases hstored : s.bridge.answers.get? step with
    | none => trivial
    | some a => exact .inl ⟨haim.1, haim.2, hbridge ▸ hstored⟩
  | await t =>
    refine ⟨_, ⟨rfl, rfl⟩, fun l hbridge kind haim => ?_⟩
    cases hticket : s.bridge.ticket? t with
    | none => trivial
    | some k => cases k with
      | unsettled => exact haim
      | answered a => exact .inr ⟨t, haim, hbridge ▸ hticket⟩
      | cancelled => trivial

theorem announce_goes (s : Switchboard α) (i : Nat) (step : String) (event : Event)
    (aim : Inquiry.Aim) :
    ∃ phase, s.Goes (s.announce i step event aim) i phase ∧
      ∀ l : Ledger α, l.bridge = s.bridge → ∀ kind, aim.Fits l i step kind →
        phase.Fits l i step kind := by
  unfold announce
  split
  · exact reach_goes { s with events := s.events ++ [event] } i step aim
  · exact ⟨_, ⟨rfl, rfl⟩, fun _ _ _ haim => haim⟩
  · exact ⟨_, ⟨rfl, rfl⟩, fun _ _ _ _ => trivial⟩

theorem setPhase_self {s : Switchboard α} {i : Nat} {q : Inquiry α}
    (hq : s.inquiries[i]? = some q) : s.Goes s i q.phase := by
  refine ⟨rfl, List.ext_getElem? fun i' => ?_⟩
  by_cases heq : i = i'
  · subst heq
    rw [List.getElem?_modify_eq, hq]
    rfl
  · rw [List.getElem?_modify_ne _ _ heq]

/-- An inquiry that goes on either leaves the bridge as it is, or puts its question. -/
theorem resume_goes {s : Switchboard α} {l : Ledger α} (hbridge : l.bridge = s.bridge) {i : Nat}
    {q : Inquiry α} (hq : s.inquiries[i]? = some q)
    (hfits : q.phase.Fits l i q.step q.question.kind) :
    (∃ phase, s.Goes (s.resume i) i phase ∧ phase.Fits l i q.step q.question.kind) ∨
    ∃ t change phase, s.bridge.register q.step q.question.kind = some (t, change) ∧
      s.bridge.replay? q.step = none ∧ (∀ r ∈ l.posed, r.inquiry ≠ i) ∧
      (s.resume i).bridge = change.bridge ∧
      (s.resume i).inquiries = s.inquiries.modify i (fun q => { q with phase }) ∧
      ∀ l' : Ledger α, l'.bridge = change.bridge →
        l'.posed[t]? = some ⟨i, q.step, q.question.kind⟩ →
        phase.Fits l' i q.step q.question.kind := by
  have hstay : s.Goes s i q.phase := setPhase_self hq
  have hcancelled : s.Goes (s.setPhase i .cancelled) i .cancelled := ⟨rfl, rfl⟩
  simp only [resume, hq]
  cases hphase : q.phase with
  | returned _ | cancelled | failed _ => exact .inl ⟨q.phase, hstay, hfits⟩
  | waiting t =>
    rw [hphase] at hfits
    simp only
    split
    · exact .inl ⟨_, hcancelled, trivial⟩
    · obtain ⟨phase, hgoes, hreached⟩ := reach_goes s i q.step (.await t)
      exact .inl ⟨phase, hgoes, hreached l hbridge _ hfits⟩
  | announcing event aim =>
    rw [hphase] at hfits
    simp only
    split
    · exact .inl ⟨_, hcancelled, trivial⟩
    · obtain ⟨phase, hgoes, hreached⟩ :=
        reach_goes { s with events := s.events ++ [event] } i q.step aim
      exact .inl ⟨phase, hgoes, hreached l hbridge _ hfits⟩
  | new =>
    rw [hphase] at hfits
    simp only
    split
    · exact .inl ⟨_, hcancelled, trivial⟩
    · unfold put
      split
      next a hstored =>
        obtain ⟨phase, hgoes, hreached⟩ :=
          announce_goes s i q.step (q.question.replayNotice q.step) .retrieve
        have hreplays : l.bridge.replays := hbridge ▸ (Bridge.replay?_eq_some_iff.1 hstored).1
        exact .inl ⟨phase, hgoes, hreached l hbridge _ ⟨hreplays, hfits⟩⟩
      next hreplay =>
        split
        next => exact .inl ⟨_, hcancelled, trivial⟩
        next t change hregister =>
          obtain ⟨phase, hgoes, hreached⟩ :=
            announce_goes (s.apply change) i q.step (q.question.event q.step) (.await t)
          exact .inr ⟨t, change, phase, hregister, hreplay, hfits, hgoes.1, hgoes.2,
            fun l' hbridge' hown => hreached l' hbridge' _ hown⟩

end Switchboard

namespace Journal

def ledger (j : Journal α) : Ledger α :=
  ⟨j.board.bridge, j.posed, j.grants⟩

@[simp]
theorem ledger_bridge (j : Journal α) : j.ledger.bridge = j.board.bridge := rfl

def start (replays : Bool) (seed : Table α) (delivery : Delivery) : Journal α :=
  ⟨.start delivery (.start replays seed), [], []⟩

/-- Makes a move, and notes the question it puts and the answer it gives. -/
def note (blank : α) (j : Journal α) (m : Move α) : Journal α where
  board := j.board.move blank m
  posed := j.posed ++ match m with
    | .wake i => j.board.puts (j.board.move blank m) i
    | _ => []
  grants := j.grants ++ match m with
    | .respond step r => j.board.grants blank step r
    | _ => []

def run (blank : α) (j : Journal α) (moves : List (Move α)) : Journal α :=
  moves.foldl (note blank) j

theorem board_run (j : Journal α) (moves : List (Move α)) :
    (j.run blank moves).board = moves.foldl (move blank) j.board := by
  induction moves generalizing j with
  | nil => rfl
  | cons m rest ih => exact ih (j.note blank m)

/-- The books are in order, and each inquiry is where they say. -/
structure Coherent (seed : Table α) (j : Journal α) : Prop where
  ledger : j.ledger.Coherent seed
  known : ∀ r ∈ j.posed, r.inquiry < j.board.inquiries.length
  fits : ∀ (i : Nat) q, j.board.inquiries[i]? = some q →
    q.phase.Fits j.ledger i q.step q.question.kind

namespace Coherent

variable {j j' : Journal α}

/-- A move keeps the books in order if it does so for the ledger, and if it lets those inquiries
    alone that it does not set. -/
theorem follow (h : j.Coherent seed) (hledger : j'.ledger.Coherent seed)
    (hgrows : j.ledger.Grows j'.ledger)
    (hknown : ∀ r ∈ j'.posed, r.inquiry < j'.board.inquiries.length)
    (hinquiries : ∀ (i : Nat) q', j'.board.inquiries[i]? = some q' →
      q'.phase.Fits j'.ledger i q'.step q'.question.kind ∨
      (∀ r ∈ j'.posed, r.inquiry = i → r ∈ j.posed) ∧
      ∃ q, j.board.inquiries[i]? = some q ∧
        q'.phase = q.phase ∧ q'.step = q.step ∧ q'.question = q.question) :
    j'.Coherent seed := by
  refine ⟨hledger, hknown, fun i q' hq' => ?_⟩
  rcases hinquiries i q' hq' with hfits | ⟨hothers, q, hq, hphase, hstep, hquestion⟩
  · exact hfits
  · rw [hphase, hstep, hquestion]
    exact hgrows.fits hothers (h.fits i q hq)

/-- The inquiries stay where they are, flagged or not, and the books grow. -/
theorem stay (h : j.Coherent seed) (hledger : j'.ledger.Coherent seed)
    (hgrows : j.ledger.Grows j'.ledger) (hposed : j'.posed = j.posed)
    (hlength : j'.board.inquiries.length = j.board.inquiries.length)
    (hinquiries : ∀ (i : Nat) q', j'.board.inquiries[i]? = some q' →
      ∃ q, j.board.inquiries[i]? = some q ∧
        q'.phase = q.phase ∧ q'.step = q.step ∧ q'.question = q.question) :
    j'.Coherent seed := by
  refine h.follow hledger hgrows ?_ fun i q' hq' => .inr ⟨?_, hinquiries i q' hq'⟩
  · rw [hposed, hlength]
    exact h.known
  · exact fun r hr _ => hposed ▸ hr

/-- One inquiry goes on to a phase that fits the books. -/
theorem go (h : j.Coherent seed) {s : Switchboard α} {l : Ledger α} (hledger : l.Coherent seed)
    (hgrows : j.ledger.Grows l) {i : Nat} {q : Inquiry α} (hq : j.board.inquiries[i]? = some q)
    (hothers : ∀ r ∈ l.posed, r ∈ j.posed ∨ r.inquiry = i) {phase : Inquiry.Phase α}
    (hbridge : s.bridge = l.bridge)
    (hinquiries : s.inquiries = j.board.inquiries.modify i fun q => { q with phase })
    (hfits : phase.Fits l i q.step q.question.kind) :
    Coherent seed ⟨s, l.posed, l.grants⟩ := by
  have hl : Journal.ledger ⟨s, l.posed, l.grants⟩ = l := by
    unfold Journal.ledger
    rw [hbridge]
  refine h.follow (hl ▸ hledger) (hl ▸ hgrows) ?_ fun i' q' hq' => ?_
  · intro r hr
    simp only [hinquiries, List.length_modify]
    rcases hothers r hr with hold | rfl
    · exact h.known r hold
    · exact (List.getElem?_eq_some_iff.1 hq).1
  · rw [hl]
    by_cases heq : i = i'
    · subst heq
      rw [hinquiries, List.getElem?_modify_eq, hq] at hq'
      cases hq'
      exact .inl hfits
    · rw [hinquiries, List.getElem?_modify_ne _ _ heq] at hq'
      refine .inr ⟨fun r hr hinquiry => ?_, q', hq', rfl, rfl, rfl⟩
      exact (hothers r hr).resolve_right fun hi => heq (hi.symm.trans hinquiry)

/-- An inquiry that goes on keeps the books in order. -/
theorem wake (h : j.Coherent seed) (i : Nat) :
    (j.note blank (.wake i)).Coherent seed ∧ j.ledger.Grows (j.note blank (.wake i)).ledger := by
  have hquiet : ∀ s' : Switchboard α, s'.bridge = j.board.bridge → j.board.puts s' i = [] := by
    intro s' hbridge
    simp [puts, hbridge]
  cases hq : j.board.inquiries[i]? with
  | none =>
    have hsame : j.board.move blank (.wake i) = { j.board with line := j.board.line.erase i } := by
      simp [move, resume, hq]
    have hledger : (j.note blank (.wake i)).ledger = j.ledger := by
      simp [note, Journal.ledger, hsame, hquiet]
    rw [hledger]
    refine ⟨h.stay (hledger ▸ h.ledger) (hledger ▸ .refl _) ?_ ?_ ?_, .refl _⟩
    · simp [note, hsame, hquiet]
    · simp [note, hsame]
    · exact fun i' q' hq' => ⟨q', by simpa [note, hsame] using hq', rfl, rfl, rfl⟩
  | some q =>
    rcases resume_goes (s := { j.board with line := j.board.line.erase i }) (l := j.ledger) rfl hq
      (h.fits i q hq) with ⟨phase, ⟨hbridge, hinquiries⟩, hfits⟩ |
      ⟨t, change, phase, hregister, hreplay, hunasked, hbridge, hinquiries, hfits⟩
    · have hnote : j.note blank (.wake i) =
          ⟨{ j.board with line := j.board.line.erase i }.resume i, j.posed, j.grants⟩ := by
        simp [note, move, hquiet _ hbridge]
      have hledger : (j.note blank (.wake i)).ledger = j.ledger := by
        rw [hnote, Journal.ledger, hbridge]
        rfl
      rw [hledger, hnote]
      exact ⟨h.go h.ledger (.refl _) hq (fun r hr => .inl hr) hbridge hinquiries hfits, .refl _⟩
    · obtain ⟨b, hretracts, hnone, rfl, hchange⟩ :=
        Bridge.register_eq_some (fun p hp p' hp' => h.ledger.ticket_eq hp hp') hregister
      have hnote : j.note blank (.wake i) =
          ⟨{ j.board with line := j.board.line.erase i }.resume i,
            j.posed ++ [⟨i, q.step, q.question.kind⟩], j.grants⟩ := by
        have hlonger : j.board.bridge.tickets.length <
            ({ j.board with line := j.board.line.erase i }.resume i).bridge.tickets.length := by
          rw [hbridge, hchange]
          simp [hretracts.length]
        simp [note, move, puts, hlonger, hq]
      have hreplay' : b.replay? q.step = none := by
        simpa [Bridge.replay?, hretracts.replays, hretracts.answers] using hreplay
      have hledger : (j.note blank (.wake i)).ledger =
          ⟨change.bridge, j.posed ++ [⟨i, q.step, q.question.kind⟩], j.grants⟩ := by
        rw [hnote, Journal.ledger, hbridge]
      have hput : Ledger.Coherent seed ⟨{ b with
          pending := b.pending ++ [⟨q.step, q.question.kind, b.tickets.length⟩]
          tickets := b.tickets ++ [.unsettled] },
          j.posed ++ [⟨i, q.step, q.question.kind⟩], j.grants⟩ :=
        (h.ledger.retract hretracts).put hnone hreplay' hunasked
      have hgrows := (Ledger.Grows.retract hretracts).trans
        (.put { j.ledger with bridge := b } i q.step q.question.kind)
      rw [← hchange] at hput hgrows
      rw [hledger, hnote]
      refine ⟨h.go hput hgrows hq ?_ hbridge hinquiries (hfits _ rfl ?_), hgrows⟩
      · intro r hr
        rcases List.mem_append.1 hr with hold | hnew
        · exact .inl hold
        · exact .inr (List.mem_singleton.1 hnew ▸ rfl)
      · rw [hretracts.length]
        exact Ledger.getElem?_concat_iff.2 (.inr ⟨h.ledger.numbered.symm, rfl⟩)

/-- An answer keeps the books in order. -/
theorem respond (h : j.Coherent seed) (step : String) (r : Response α) :
    (j.note blank (.respond step r)).Coherent seed ∧
      j.ledger.Grows (j.note blank (.respond step r)).ledger := by
  rcases j.board.bridge.answer_cases step r.kind (r.value blank) with
    ⟨b, hrefused, hbridge⟩ | ⟨p, hpending, hkind, hunsettled, haccepted⟩
  · have hnote : j.note blank (.respond step r) =
        ⟨j.board.apply ⟨b, []⟩, j.posed, j.grants⟩ := by
      simp [note, move, Switchboard.grants, Switchboard.respond, Switchboard.answer, hrefused]
    have hretracts := h.ledger.retracts_of_refused hbridge
    rw [hnote]
    have hgrows : j.ledger.Grows { j.ledger with bridge := b } := .retract hretracts
    exact ⟨h.stay (h.ledger.retract hretracts) hgrows rfl rfl
      fun _ q hq => ⟨q, hq, rfl, rfl, rfl⟩, hgrows⟩
  · have hnote : j.note blank (.respond step r) =
        ⟨j.board.apply ⟨{ j.board.bridge.forget step with
            answers := j.board.bridge.answers.insert step (r.value blank)
            tickets := j.board.bridge.tickets.set p.ticket (.answered (r.value blank)) },
            [p.ticket]⟩,
          j.posed, j.grants ++ [⟨p.ticket, step, p.kind, r.value blank⟩]⟩ := by
      simp [note, move, Switchboard.grants, Switchboard.respond, Switchboard.answer, haccepted, hkind]
    rw [hnote]
    have hgrows := Ledger.Grows.grant h.ledger (r.value blank) hpending hunsettled
    exact ⟨h.stay (h.ledger.grant _ hpending hunsettled) hgrows rfl rfl
      fun _ q hq => ⟨q, hq, rfl, rfl, rfl⟩, hgrows⟩

/-- Cancelled tickets leave the books in order. -/
theorem apply (h : j.Coherent seed) {change : Bridge.Change α}
    (hretracts : j.board.bridge.Retracts change.bridge) :
    Coherent seed { j with board := j.board.apply change } ∧
      j.ledger.Grows { j.ledger with bridge := change.bridge } := by
  have hgrows : j.ledger.Grows { j.ledger with bridge := change.bridge } := .retract hretracts
  exact ⟨h.stay (h.ledger.retract hretracts) hgrows rfl rfl
    fun _ q hq => ⟨q, hq, rfl, rfl, rfl⟩, hgrows⟩

theorem flag (h : j.Coherent seed) (i : Nat) :
    Coherent seed { j with board := j.board.flag i } := by
  refine h.stay h.ledger (.refl _) rfl (by simp [Switchboard.flag]) fun i' q' hq' => ?_
  by_cases heq : i = i'
  · subst heq
    simp only [Switchboard.flag, List.getElem?_modify_eq] at hq'
    obtain ⟨q, hq, rfl⟩ := Option.map_eq_some_iff.1 hq'
    exact ⟨q, hq, rfl, rfl, rfl⟩
  · simp only [Switchboard.flag, List.getElem?_modify_ne _ _ heq] at hq'
    exact ⟨q', hq', rfl, rfl, rfl⟩

theorem cancel (h : j.Coherent seed) (i : Nat) :
    Coherent seed { j with board := j.board.cancel i } ∧
      j.ledger.Grows { j.ledger with bridge := (j.board.cancel i).bridge } := by
  unfold Switchboard.cancel
  split
  · exact ⟨h, .refl _⟩
  · split
    · exact ⟨h, .refl _⟩
    · exact ⟨h, .refl _⟩
    · exact ⟨h, .refl _⟩
    · exact ⟨h.flag i, .refl _⟩
    · exact ⟨h.flag i, .refl _⟩
    next t _ =>
      split
      · exact h.apply (j.board.bridge.retracts_cancel t)
      · exact ⟨h.flag i, .refl _⟩

theorem inquire (h : j.Coherent seed) (step : String) (question : Question) :
    Coherent seed { j with board := j.board.inquire step question } := by
  refine h.follow h.ledger (.refl _) ?_ fun i q' hq' => ?_
  · intro r hr
    simpa [Switchboard.inquire] using Nat.lt_succ_of_lt (h.known r hr)
  · rcases Ledger.getElem?_concat_iff.1 hq' with hold | ⟨rfl, rfl⟩
    · exact .inr ⟨fun _ hr _ => hr, q', hold, rfl, rfl, rfl⟩
    · exact .inl fun r hr => Nat.ne_of_lt (h.known r hr)

/-- Every move keeps the books in order. -/
theorem note (h : j.Coherent seed) (m : Move α) :
    (j.note blank m).Coherent seed ∧ j.ledger.Grows (j.note blank m).ledger := by
  have hquiet : ∀ board : Switchboard α,
      (⟨board, j.posed ++ [], j.grants ++ []⟩ : Journal α) = { j with board } := by simp
  cases m with
  | respond step r => exact h.respond step r
  | wake i => exact h.wake i
  | inquire step question =>
    simp only [Journal.note, move, hquiet]
    exact ⟨h.inquire step question, .refl _⟩
  | cancel i =>
    simp only [Journal.note, move, hquiet]
    exact h.cancel i
  | close =>
    simp only [Journal.note, move, hquiet]
    exact h.apply j.board.bridge.retracts_close
  | deliver delivery =>
    simp only [Journal.note, move, hquiet]
    exact ⟨h.stay h.ledger (.refl _) rfl rfl fun _ q hq => ⟨q, hq, rfl, rfl, rfl⟩, .refl _⟩

theorem run (h : j.Coherent seed) (moves : List (Move α)) :
    (j.run blank moves).Coherent seed ∧ j.ledger.Grows (j.run blank moves).ledger := by
  induction moves generalizing j with
  | nil => exact ⟨h, .refl _⟩
  | cons m rest ih =>
    obtain ⟨hnote, hgrows⟩ : (j.note blank m).Coherent seed ∧ _ := h.note m
    obtain ⟨hrest, hgrows'⟩ := ih hnote
    exact ⟨hrest, hgrows.trans hgrows'⟩

end Coherent

end Journal

end Stepwise
