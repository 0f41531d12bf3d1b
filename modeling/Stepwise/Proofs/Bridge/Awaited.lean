import Stepwise.Proofs.Bridge.Interview
import Stepwise.Proofs.Bridge.Tidy

namespace Stepwise

variable {α : Type} {blank : α} {seed : Table α}

namespace Bridge

variable {b : Bridge α} {step : String} {kind : Question.Kind} {p : Pending} {t t' : Nat}

theorem pending_cancel (b : Bridge α) (t : Nat) : (b.cancel t).bridge.pending = b.pending := by
  unfold cancel
  split <;> rfl

theorem isUnsettled_cancel_ne (hne : t' ≠ t) (hunsettled : b.isUnsettled t) :
    (b.cancel t').bridge.isUnsettled t := by
  unfold cancel
  split
  · rw [isUnsettled_iff] at hunsettled ⊢
    exact (List.getElem?_set_ne hne).trans hunsettled
  · exact hunsettled

/-- A question that is put takes the place of those of its step. -/
theorem pending_register {change : Change α} (hregister : b.register step kind = some (t, change)) :
    t = b.tickets.length ∧
    change.bridge.pending = b.pending.filter (·.step ≠ step) ++ [⟨step, kind, t⟩] := by
  unfold register at hregister
  split at hregister
  · cases hregister
  · cases hpending : b.pending? step with
    | none =>
      rw [hpending] at hregister
      cases hregister
      exact ⟨rfl, rfl⟩
    | some stale =>
      rw [hpending] at hregister
      cases hregister
      have hlength : (b.cancel stale.ticket).bridge.tickets.length = b.tickets.length :=
        (b.retracts_cancel stale.ticket).length
      refine ⟨hlength, ?_⟩
      simp only [forget, pending_cancel]

/-- It is unsettled, and so are those of other steps that were. -/
theorem isUnsettled_register {change : Change α}
    (hregister : b.register step kind = some (t, change)) :
    change.bridge.isUnsettled t ∧
    ∀ t', b.isUnsettled t' → (∀ p ∈ b.pending, p.ticket = t' → p.step ≠ step) →
      change.bridge.isUnsettled t' := by
  have hput : ∀ b' : Bridge α, (b'.tickets ++ [Ticket.unsettled])[b'.tickets.length]? =
      some Ticket.unsettled := by simp
  have hkept : ∀ (b' : Bridge α) t', b'.isUnsettled t' →
      (b'.tickets ++ [Ticket.unsettled])[t']? = some Ticket.unsettled :=
    fun b' t' hunsettled => Ledger.getElem?_concat_iff.2 (.inl (isUnsettled_iff.1 hunsettled))
  unfold register at hregister
  split at hregister
  · cases hregister
  · cases hpending : b.pending? step with
    | none =>
      rw [hpending] at hregister
      cases hregister
      exact ⟨isUnsettled_iff.2 (hput b), fun t' ht' _ => isUnsettled_iff.2 (hkept b t' ht')⟩
    | some stale =>
      rw [hpending] at hregister
      cases hregister
      obtain ⟨hmem, hstep⟩ := mem_of_pending? hpending
      refine ⟨isUnsettled_iff.2 (hput _), fun t' ht' hother => isUnsettled_iff.2 (hkept _ t' ?_)⟩
      have hne : stale.ticket ≠ t' := fun heq => hother stale hmem heq hstep
      exact isUnsettled_cancel_ne hne ht'

/-- A response leaves the questions that are not of its step and kind. -/
theorem Tidy.mem_pending_answer (h : b.Tidy) (a : α) :
    p ∈ (b.answer step kind a).2.bridge.pending ↔
      p ∈ b.pending ∧ ¬ (p.step = step ∧ p.kind = kind) := by
  refine ⟨fun hp => (h.answer step kind a).2 p hp, ?_⟩
  rintro ⟨hp, hother⟩
  unfold Bridge.answer
  split
  next => exact hp
  next q hq =>
    obtain ⟨hmem, hstep⟩ := mem_of_pending? hq
    split
    next => exact hp
    next hkind =>
      have hne : p.step ≠ step := by
        intro heq
        obtain rfl := h.single p hp q hmem (heq.trans hstep.symm)
        exact hother ⟨heq, not_not.1 hkind⟩
      have hkept : p ∈ (b.forget step).pending := List.mem_filter.2 ⟨hp, by simpa using hne⟩
      split <;> exact hkept

theorem isUnsettled_answer (hunsettled : b.isUnsettled t)
    (hother : ∀ p, b.pending? step = some p → p.ticket ≠ t) (a : α) :
    (b.answer step kind a).2.bridge.isUnsettled t := by
  rcases b.answer_cases step kind a with
    ⟨b', hrefused, rfl | ⟨rfl, _⟩⟩ | ⟨p, hpending, _, _, haccepted⟩
  · rw [hrefused]
    exact hunsettled
  · rw [hrefused]
    exact hunsettled
  · rw [haccepted]
    rw [isUnsettled_iff] at hunsettled ⊢
    exact (List.getElem?_set_ne (hother p hpending)).trans hunsettled

/-- A response is taken if there is a question of its step and kind that waits. -/
theorem Tidy.answer_eq_true_iff (h : b.Tidy) (a : α) :
    (b.answer step kind a).1 = true ↔
      ∃ p ∈ b.pending, p.step = step ∧ p.kind = kind ∧ b.isUnsettled p.ticket := by
  constructor
  · intro htaken
    rcases b.answer_cases step kind a with ⟨b', hrefused, _⟩ | ⟨p, hpending, hkind, hunsettled, _⟩
    · rw [hrefused] at htaken
      cases htaken
    · obtain ⟨hmem, hstep⟩ := mem_of_pending? hpending
      exact ⟨p, hmem, hstep, hkind, hunsettled⟩
  · rintro ⟨p, hp, rfl, rfl, hunsettled⟩
    simp [Bridge.answer, h.pending?_eq hp, hunsettled]

theorem hasPending_iff : b.hasPending step = true ↔ ∃ p ∈ b.pending, p.step = step := by
  simp [hasPending, pending?]

end Bridge

namespace Inquiry.Phase

/-- The inquiry is over: it has returned, it was cancelled, or the surface failed it. -/
def IsOver : Inquiry.Phase α → Prop
  | .returned _ | .cancelled | .failed _ => True
  | .new | .announcing _ _ | .waiting _ => False

/-- The inquiry waits for this ticket, or does so as soon as its event is delivered. -/
def Holds (t : Nat) : Inquiry.Phase α → Prop
  | .announcing _ (.await t') | .waiting t' => t' = t
  | _ => False

theorem Holds.not_isOver {t : Nat} {phase : Inquiry.Phase α} (h : phase.Holds t) :
    ¬ phase.IsOver := by
  cases phase <;> simp_all [Holds, IsOver]

end Inquiry.Phase

namespace Switchboard

/-- The bridge drops a question of this step and kind at this move, whoever put it. -/
def Move.Clears (step : String) (kind : Question.Kind) : Move α → Prop
  | .respond step' response => step' = step ∧ response.kind = kind
  | .close => True
  | .inquire _ _ | .cancel _ | .wake _ | .deliver _ => False

/-- Whoever is cancelled is cancelled already or is so at once, as the ticket is that it waits for, or
    else it is flagged. -/
theorem cancel_cases (s : Switchboard α) (i : Nat) :
    s.cancel i = s ∨ s.cancel i = s.flag i ∨
    ∃ q t, s.inquiries[i]? = some q ∧ q.phase = .waiting t ∧
      s.cancel i = s.apply (s.bridge.cancel t) := by
  cases hq : s.inquiries[i]? with
  | none => exact .inl (by simp [cancel, hq])
  | some q =>
    cases hphase : q.phase with
    | returned | cancelled | failed => exact .inl (by simp [cancel, hq, hphase])
    | new | announcing => exact .inr (.inl (by simp [cancel, hq, hphase]))
    | waiting t =>
      by_cases hunsettled : s.bridge.isUnsettled t
      · exact .inr (.inr ⟨q, t, rfl, hphase, by simp [cancel, hq, hphase, hunsettled]⟩)
      · exact .inr (.inl (by simp [cancel, hq, hphase, hunsettled]))

/-- An inquiry that holds a ticket goes on to hold it until it is settled or someone wants the
    inquiry cancelled. -/
theorem resume_holds {s : Switchboard α} {i t : Nat} {q : Inquiry α}
    (hq : s.inquiries[i]? = some q) (hflag : q.isFlagged = false) (hholds : q.phase.Holds t)
    (hunsettled : s.bridge.isUnsettled t) :
    ∃ q', (s.resume i).inquiries[i]? = some q' ∧ q'.phase.Holds t := by
  have hticket := Bridge.isUnsettled_iff.1 hunsettled
  have hawait : ∀ events, ∃ q',
      ({ s with events }.await i t).inquiries[i]? = some q' ∧ q'.phase.Holds t :=
    fun events => ⟨{ q with phase := .waiting t }, by simp [await, setPhase, hticket, hq], rfl⟩
  cases hphase : q.phase with
  | new | returned _ | cancelled | failed _ => simp [hphase, Inquiry.Phase.Holds] at hholds
  | waiting t' =>
    obtain rfl : t' = t := by simpa [hphase, Inquiry.Phase.Holds] using hholds
    simp only [resume, hq, hphase, hflag, Bool.false_eq_true, if_false]
    exact hawait s.events
  | announcing e aim =>
    cases aim with
    | retrieve => simp [hphase, Inquiry.Phase.Holds] at hholds
    | await t' =>
      obtain rfl : t' = t := by simpa [hphase, Inquiry.Phase.Holds] using hholds
      simp only [resume, hq, hphase, hflag, Bool.false_eq_true, if_false]
      exact hawait (s.events ++ [e])

theorem getElem?_resume_ne {s : Switchboard α} {i i' : Nat} (hne : i ≠ i') :
    (s.resume i).inquiries[i']? = s.inquiries[i']? := by
  obtain ⟨_, hinquiries⟩ := inquiries_resume s i
  rw [hinquiries, List.getElem?_modify_ne _ _ hne]

/-- An inquiry whose question was put holds its ticket, unless the surface failed it. -/
theorem announce_holds {s : Switchboard α} {i : Nat} {q : Inquiry α}
    (hq : s.inquiries[i]? = some q) {t : Nat} (hunsettled : s.bridge.isUnsettled t) (step : String)
    (event : Event) :
    ∃ q', (s.announce i step event (.await t)).inquiries[i]? = some q' ∧
      (q'.phase.Holds t ∨ ∃ fault, q'.phase = .failed fault) := by
  have hticket := Bridge.isUnsettled_iff.1 hunsettled
  unfold announce
  cases s.delivery with
  | immediate =>
    exact ⟨{ q with phase := .waiting t }, by simp [reach, await, setPhase, hticket, hq], .inl rfl⟩
  | deferred =>
    exact ⟨{ q with phase := .announcing event (.await t) }, by simp [setPhase, hq], .inl rfl⟩
  | failing fault =>
    exact ⟨{ q with phase := .failed fault }, by simp [setPhase, hq], .inr ⟨fault, rfl⟩⟩

end Switchboard

open Switchboard

namespace Journal

variable {j : Journal α}

/-- Who put the question goes on to wait for its answer: the inquiry is not over, and nothing has
    settled its question. -/
def Awaits (j : Journal α) (r : Posed) : Prop :=
  ∃ t q, j.posed[t]? = some r ∧ j.board.bridge.isUnsettled t ∧
    j.board.inquiries[r.inquiry]? = some q ∧ ¬ q.phase.IsOver

/-- The inquiry is lost: someone wanted it cancelled, or the surface failed it. -/
def Lost (j : Journal α) (cancelled : Nat → Prop) (i : Nat) : Prop :=
  cancelled i ∨ ∃ q fault, j.board.inquiries[i]? = some q ∧ q.phase = .failed fault

namespace Coherent

theorem recorded (h : j.Coherent seed) {p : Pending} (hp : p ∈ j.board.bridge.pending) :
    ∃ i, j.posed[p.ticket]? = some ⟨i, p.step, p.kind⟩ :=
  h.ledger.recorded p hp

theorem tidy (h : j.Coherent seed) : j.board.bridge.Tidy where
  listed := h.ledger.awaited
  single p hp p' hp' hstep := by
    obtain ⟨i, hi⟩ := h.recorded hp
    obtain ⟨i', hi'⟩ := h.recorded hp'
    have hticket := h.ledger.ticket_eq hp hp' hstep
    rw [hticket, hi', Option.some.injEq, Posed.mk.injEq] at hi
    obtain ⟨step, kind, ticket⟩ := p
    obtain ⟨step', kind', ticket'⟩ := p'
    simp_all

/-- A ticket belongs to one step. -/
theorem step_eq_of_ticket_eq (h : j.Coherent seed) {p p' : Pending}
    (hp : p ∈ j.board.bridge.pending) (hp' : p' ∈ j.board.bridge.pending)
    (hticket : p.ticket = p'.ticket) : p.step = p'.step := by
  obtain ⟨i, hi⟩ := h.recorded hp
  obtain ⟨i', hi'⟩ := h.recorded hp'
  rw [hticket, hi', Option.some.injEq, Posed.mk.injEq] at hi
  exact hi.2.1.symm

/-- An inquiry has one ticket at most. -/
theorem ticket_unique (h : j.Coherent seed) {t t' : Nat} {r r' : Posed}
    (hr : j.posed[t]? = some r) (hr' : j.posed[t']? = some r') (hinquiry : r.inquiry = r'.inquiry) :
    t = t' := by
  have hlt : t < (j.posed.map Posed.inquiry).length := by
    simpa using (List.getElem?_eq_some_iff.1 hr).1
  refine (List.getElem?_inj hlt h.ledger.asked_once).1 ?_
  rw [List.getElem?_map, List.getElem?_map, hr, hr', Option.map_some, Option.map_some, hinquiry]

/-- An inquiry that put a question and is not over holds its ticket. -/
theorem holds_of_posed (h : j.Coherent seed) {t : Nat} {r : Posed} (hr : j.posed[t]? = some r)
    {q : Inquiry α} (hq : j.board.inquiries[r.inquiry]? = some q) (hover : ¬ q.phase.IsOver) :
    q.phase.Holds t := by
  have hfits := h.fits r.inquiry q hq
  have hunique : ∀ t', j.posed[t']? = some ⟨r.inquiry, q.step, q.question.kind⟩ → t' = t :=
    fun t' ht' => h.ticket_unique ht' hr rfl
  have hmem := List.mem_of_getElem? hr
  cases hphase : q.phase with
  | returned _ | cancelled | failed _ => simp [hphase, Inquiry.Phase.IsOver] at hover
  | new =>
    rw [hphase] at hfits
    exact absurd rfl (hfits r hmem)
  | waiting t' =>
    rw [hphase] at hfits
    exact hunique t' hfits
  | announcing e aim =>
    rw [hphase] at hfits
    cases aim with
    | retrieve => exact absurd rfl (hfits.2 r hmem)
    | await t' => exact hunique t' hfits

end Coherent

/-- The second journal is the first one after this question was put: it takes the place of those of
    its step, and whoever put it holds its ticket, unless the surface failed it. -/
structure Puts (j j' : Journal α) (r : Posed) : Prop where
  posed : j'.posed = j.posed ++ [r]
  pending : j'.board.bridge.pending =
    j.board.bridge.pending.filter (·.step ≠ r.step) ++ [⟨r.step, r.kind, j.posed.length⟩]
  kept : ∀ p ∈ j.board.bridge.pending, p.step ≠ r.step → j.board.bridge.isUnsettled p.ticket →
    j'.board.bridge.isUnsettled p.ticket
  unsettled : j'.board.bridge.isUnsettled j.posed.length
  asker : ∃ q, j'.board.inquiries[r.inquiry]? = some q ∧
    (q.phase.Holds j.posed.length ∨ ∃ fault, q.phase = .failed fault)

/-- An inquiry that goes on leaves the bridge as it is, or puts its question. -/
theorem still_or_puts (blank : α) (h : j.Coherent seed) (i : Nat) :
    ((j.note blank (.wake i)).posed = j.posed ∧
      (j.note blank (.wake i)).board.bridge = j.board.bridge) ∨
    ∃ r, r.inquiry = i ∧ j.Puts (j.note blank (.wake i)) r := by
  have hany : Tells (fun _ => True) { j.board with line := j.board.line.erase i } :=
    ⟨fun _ _ _ _ => trivial, fun _ _ _ _ _ _ _ => trivial⟩
  rcases resume_cases hany i with ⟨hbridge, _⟩ | ⟨q, t, change, hdue, hregister, hresume⟩
  · have hbridge : (j.board.move blank (.wake i)).bridge = j.board.bridge := hbridge
    refine .inl ⟨?_, hbridge⟩
    simp [note, puts, hbridge]
  · obtain ⟨rfl, hpending⟩ := Bridge.pending_register hregister
    obtain ⟨hunsettled, hothers⟩ := Bridge.isUnsettled_register hregister
    have hlength : j.board.bridge.tickets.length = j.posed.length := h.ledger.numbered.symm
    have hboard : j.board.move blank (.wake i) =
        (apply { j.board with line := j.board.line.erase i } change).announce i q.step
          (q.question.event q.step) (.await j.board.bridge.tickets.length) := hresume
    have hbridge : (j.board.move blank (.wake i)).bridge = change.bridge := by
      obtain ⟨_, hgoes, _⟩ := announce_goes
        (apply { j.board with line := j.board.line.erase i } change) i q.step
        (q.question.event q.step) (.await j.board.bridge.tickets.length)
      rw [hboard, hgoes.1]
      rfl
    have hlonger : j.board.bridge.tickets.length <
        (j.board.move blank (.wake i)).bridge.tickets.length := by
      have hput := Bridge.length_tickets_register hregister
      rw [hbridge]
      exact Nat.lt_of_succ_le (Nat.le_of_eq hput.symm)
    have hq : j.board.inquiries[i]? = some q := hdue.found
    refine .inr ⟨⟨i, q.step, q.question.kind⟩, rfl, ?_, ?_, ?_, ?_, ?_⟩
    · simp [note, puts, hlonger, hq]
    · change (j.board.move blank (.wake i)).bridge.pending = _
      rw [hbridge, hpending, hlength]
    · intro p hp hstep hp'
      change (j.board.move blank (.wake i)).bridge.isUnsettled p.ticket = true
      rw [hbridge]
      refine hothers p.ticket hp' fun p' hp'mem hticket => ?_
      rw [h.step_eq_of_ticket_eq hp'mem hp hticket]
      exact hstep
    · change (j.board.move blank (.wake i)).bridge.isUnsettled j.posed.length = true
      rw [hbridge, ← hlength]
      exact hunsettled
    · rw [← hlength]
      change ∃ q', (j.board.move blank (.wake i)).inquiries[i]? = some q' ∧ _
      rw [hboard]
      exact announce_holds (s := apply { j.board with line := j.board.line.erase i } change) hq
        hunsettled q.step (q.question.event q.step)

/-- A move that puts no question leaves those that it does not clear. -/
theorem mem_pending_note (h : j.Coherent seed) {m : Move α}
    (hposed : (j.note blank m).posed = j.posed) {p : Pending} :
    p ∈ (j.note blank m).board.bridge.pending ↔
      p ∈ j.board.bridge.pending ∧ ¬ m.Clears p.step p.kind := by
  cases m with
  | inquire | deliver => simp [note, move, inquire, Move.Clears]
  | close => simp [note, move, close, Switchboard.apply, Bridge.close, Move.Clears]
  | respond step response =>
    change p ∈ (j.board.bridge.answer step response.kind (response.value blank)).2.bridge.pending ↔ _
    rw [h.tidy.mem_pending_answer]
    simp [Move.Clears, eq_comm]
  | wake i =>
    rcases still_or_puts blank h i with ⟨_, hbridge⟩ | ⟨r, _, hputs⟩
    · simp [hbridge, Move.Clears]
    · have hlength := congrArg List.length (hputs.posed.symm.trans hposed)
      simp at hlength
  | cancel i =>
    have hsame : (j.board.cancel i).bridge.pending = j.board.bridge.pending := by
      rcases j.board.cancel_cases i with hsame | hflagged | ⟨_, t, _, _, hcancelled⟩
      · rw [hsame]
      · rw [hflagged]
        rfl
      · rw [hcancelled]
        exact Bridge.pending_cancel _ t
    simp [note, move, hsame, Move.Clears]

theorem note_cases (blank : α) (h : j.Coherent seed) (m : Move α) : (j.note blank m).posed = j.posed ∨
    ∃ r, m = .wake r.inquiry ∧ j.Puts (j.note blank m) r := by
  cases m with
  | wake i =>
    rcases still_or_puts blank h i with ⟨hposed, _⟩ | ⟨r, rfl, hputs⟩
    · exact .inl hposed
    · exact .inr ⟨r, rfl, hputs⟩
  | inquire | respond | cancel | close | deliver => exact .inl (List.append_nil _)

/-- No question was put at the step after the one with this ticket. -/
def LatestAt (j : Journal α) (t : Nat) (step : String) : Prop :=
  ∀ (t' : Nat) r, j.posed[t']? = some r → t < t' → r.step ≠ step

/-- A question was put with this ticket and stands since: no other was put at its step, no response
    of its kind came for it, and the bridge was not closed. -/
def Stands (blank : α) (start : Journal α) (moves : List (Move α)) (t : Nat) (r : Posed) : Prop :=
  ∃ earlier later, moves = earlier ++ .wake r.inquiry :: later ∧
    (start.run blank earlier).posed.length = t ∧
    (start.run blank (earlier ++ [.wake r.inquiry])).posed =
      (start.run blank earlier).posed ++ [r] ∧
    (start.run blank moves).LatestAt t r.step ∧ ∀ m ∈ later, ¬ m.Clears r.step r.kind

theorem run_concat (start : Journal α) (moves : List (Move α)) (m : Move α) :
    start.run blank (moves ++ [m]) = (start.run blank moves).note blank m := by
  simp [run]

section Stands

variable {start : Journal α} {moves : List (Move α)} {m : Move α} {t : Nat} {r : Posed}

/-- A question stands as long as moves leave it. -/
theorem Stands.concat (h : Stands blank start moves t r)
    (hlatest : ((start.run blank moves).note blank m).LatestAt t r.step)
    (hclears : ¬ m.Clears r.step r.kind) : Stands blank start (moves ++ [m]) t r := by
  obtain ⟨earlier, later, rfl, hlength, hput, _, hleft⟩ := h
  refine ⟨earlier, later ++ [m], by simp, hlength, hput, run_concat start _ m ▸ hlatest, ?_⟩
  intro m' hm'
  rcases List.mem_append.1 hm' with hold | hnew
  · exact hleft m' hold
  · exact List.mem_singleton.1 hnew ▸ hclears

theorem Stands.latest (h : Stands blank start moves t r) :
    (start.run blank moves).LatestAt t r.step := by
  obtain ⟨_, _, _, _, _, hlatest, _⟩ := h
  exact hlatest

/-- The books know who put it. -/
theorem Stands.own {replays : Bool} {delivery : Delivery}
    (h : Stands blank (.start replays seed delivery) moves t r) :
    ((Journal.start replays seed delivery).run blank moves).posed[t]? = some r := by
  obtain ⟨earlier, later, rfl, rfl, hput, _⟩ := h
  have hcoherent : ((Journal.start replays seed delivery).run blank
      (earlier ++ [.wake r.inquiry])).Coherent seed :=
    ((coherent_start replays seed delivery).run _).1
  have hrun : (Journal.start replays seed delivery).run blank (earlier ++ .wake r.inquiry :: later) =
      ((Journal.start replays seed delivery).run blank (earlier ++ [.wake r.inquiry])).run blank
        later := by
    simp [run]
  have hgrows : Ledger.Grows _ (Journal.run blank _ later).ledger := (hcoherent.run later).2
  rw [hrun]
  refine hgrows.posed _ r ?_
  simp only [ledger]
  rw [hput]
  exact Ledger.getElem?_concat_iff.2 (.inr ⟨rfl, rfl⟩)

/-- A question stands as soon as it is put. -/
theorem stands_put (hput : ((start.run blank moves).note blank (.wake r.inquiry)).posed =
      (start.run blank moves).posed ++ [r]) :
    Stands blank start (moves ++ [.wake r.inquiry]) (start.run blank moves).posed.length r := by
  refine ⟨moves, [], rfl, rfl, by rw [run_concat, hput], fun t' r' hr' hlt => ?_, by simp⟩
  have hlength := (List.getElem?_eq_some_iff.1 hr').1
  rw [run_concat, hput, List.length_append, List.length_singleton] at hlength
  omega

/-- It was put by the last move, or it stood before and was left. -/
theorem Stands.of_concat (h : Stands blank start (moves ++ [m]) t r) :
    (m = .wake r.inquiry ∧ (start.run blank moves).posed.length = t ∧
      ((start.run blank moves).note blank m).posed = (start.run blank moves).posed ++ [r]) ∨
    ((start.run blank moves).LatestAt t r.step → Stands blank start moves t r) ∧
      ¬ m.Clears r.step r.kind := by
  obtain ⟨earlier, later, hmoves, hlength, hput, _, hleft⟩ := h
  rcases List.eq_nil_or_concat later with rfl | ⟨later, m', rfl⟩
  · obtain ⟨rfl, hm⟩ := List.append_inj' hmoves rfl
    obtain rfl : m = .wake r.inquiry := List.singleton_inj.1 hm
    rw [run_concat] at hput
    exact .inl ⟨rfl, hlength, hput⟩
  · rw [List.concat_eq_append, ← List.cons_append, ← List.append_assoc] at hmoves
    obtain ⟨rfl, hm⟩ := List.append_inj' hmoves rfl
    obtain rfl : m = m' := List.singleton_inj.1 hm
    refine .inr ⟨fun hlatest => ?_, hleft m (by simp)⟩
    exact ⟨earlier, later, rfl, hlength, hput, hlatest, fun m' hm' => hleft m' (by simp [hm'])⟩

/-- The questions that can be answered are those that stand: by induction on the moves, from the
    last one. -/
theorem mem_pending_iff_stands {replays : Bool} {delivery : Delivery} (p : Pending) :
    p ∈ ((Journal.start replays seed delivery).run blank moves).board.bridge.pending ↔
      ∃ i, Stands blank (.start replays seed delivery) moves p.ticket ⟨i, p.step, p.kind⟩ := by
  induction moves using List.reverseRecOn generalizing p with
  | nil =>
    refine ⟨fun hp => (List.not_mem_nil hp).elim, ?_⟩
    rintro ⟨i, earlier, later, hmoves, _⟩
    simp at hmoves
  | append_singleton moves m ih =>
    have hcoherent : ((Journal.start replays seed delivery).run blank moves).Coherent seed :=
      ((coherent_start replays seed delivery).run moves).1
    rw [run_concat]
    rcases note_cases blank hcoherent m with hposed | ⟨r, rfl, hputs⟩
    · rw [mem_pending_note hcoherent hposed, ih]
      constructor
      · rintro ⟨⟨i, hstands⟩, hclears⟩
        refine ⟨i, hstands.concat ?_ hclears⟩
        rw [LatestAt, hposed]
        exact hstands.latest
      · rintro ⟨i, hstands⟩
        have hlatest := hstands.latest
        rw [run_concat, LatestAt, hposed] at hlatest
        rcases hstands.of_concat with ⟨_, _, hput⟩ | ⟨hbefore, hclears⟩
        · rw [hposed] at hput
          simp at hput
        · exact ⟨⟨i, hbefore hlatest⟩, hclears⟩
    · rw [hputs.pending, List.mem_append, List.mem_filter, List.mem_singleton, ih]
      constructor
      · rintro (⟨⟨i, hstands⟩, hstep⟩ | rfl)
        · refine ⟨i, hstands.concat (fun t' r' hr' hlt => ?_) id⟩
          rw [hputs.posed] at hr'
          rcases Ledger.getElem?_concat_iff.1 hr' with hold | ⟨_, rfl⟩
          · exact hstands.latest t' r' hold hlt
          · exact (of_decide_eq_true hstep).symm
        · exact ⟨r.inquiry, stands_put hputs.posed⟩
      · rintro ⟨i, hstands⟩
        have hlatest := hstands.latest
        rw [run_concat, LatestAt, hputs.posed] at hlatest
        rcases hstands.of_concat with ⟨_, hlength, hput⟩ | ⟨hbefore, _⟩
        · obtain rfl : r = ⟨i, p.step, p.kind⟩ := by
            rw [hputs.posed] at hput
            exact List.singleton_inj.1 (List.append_cancel_left hput)
          exact .inr (by rw [hlength])
        · have hold := hbefore fun t' r' hr' =>
            hlatest t' r' (Ledger.getElem?_concat_iff.2 (.inl hr'))
          refine .inl ⟨⟨i, hold⟩, ?_⟩
          obtain ⟨_, hown⟩ := hcoherent.recorded ((ih p).2 ⟨i, hold⟩)
          have hlt := (List.getElem?_eq_some_iff.1 hown).1
          have hother := hlatest _ r (Ledger.getElem?_concat_iff.2 (.inr ⟨rfl, rfl⟩)) hlt
          exact decide_eq_true hother.symm

end Stands

section Lost

variable {i : Nat} {q : Inquiry α} {m : Move α} {cancelled cancelled' : Nat → Prop}

/-- A move leaves an inquiry where it is, unless this is the one that goes on. -/
theorem exists_inquiry_note (blank : α) (hq : j.board.inquiries[i]? = some q) (hwake : m ≠ .wake i) :
    ∃ q', (j.note blank m).board.inquiries[i]? = some q' ∧ q'.phase = q.phase := by
  cases m with
  | inquire step question =>
    exact ⟨q, Ledger.getElem?_concat_iff.2 (.inl hq), rfl⟩
  | respond | close | deliver => exact ⟨q, hq, rfl⟩
  | wake i' =>
    have hne : i' ≠ i := fun heq => hwake (heq ▸ rfl)
    exact ⟨q, (getElem?_resume_ne hne).trans hq, rfl⟩
  | cancel i' =>
    change ∃ q', (j.board.cancel i').inquiries[i]? = some q' ∧ q'.phase = q.phase
    rcases j.board.cancel_cases i' with hsame | hflagged | ⟨_, t, _, _, hcancelled⟩
    · rw [hsame]
      exact ⟨q, hq, rfl⟩
    · rw [hflagged]
      by_cases heq : i' = i
      · subst heq
        exact ⟨{ q with isFlagged := true }, by simp [flag, hq], rfl⟩
      · exact ⟨q, by simp [flag, List.getElem?_modify_ne _ _ heq, hq], rfl⟩
    · rw [hcancelled]
      exact ⟨q, hq, rfl⟩

/-- Only who was flagged before, or is cancelled by this very move, is flagged after it. -/
theorem isFlagged_of_note {q' : Inquiry α} (hq' : (j.note blank m).board.inquiries[i]? = some q')
    (hflag : q'.isFlagged = true) :
    m = .cancel i ∨ ∃ q, j.board.inquiries[i]? = some q ∧ q.isFlagged = true := by
  cases m with
  | inquire step question =>
    rcases Ledger.getElem?_concat_iff.1 hq' with hold | ⟨_, rfl⟩
    · exact .inr ⟨q', hold, hflag⟩
    · cases hflag
  | respond | close | deliver => exact .inr ⟨q', hq', hflag⟩
  | wake i' =>
    obtain ⟨phase, hinquiries⟩ := inquiries_resume { j.board with line := j.board.line.erase i' } i'
    have hq' : (j.board.inquiries.modify i' fun q => { q with phase := phase q })[i]? = some q' :=
      hinquiries ▸ hq'
    by_cases heq : i' = i
    · subst heq
      rw [List.getElem?_modify_eq] at hq'
      obtain ⟨q, hq, rfl⟩ := Option.map_eq_some_iff.1 hq'
      exact .inr ⟨q, hq, hflag⟩
    · rw [List.getElem?_modify_ne _ _ heq] at hq'
      exact .inr ⟨q', hq', hflag⟩
  | cancel i' =>
    have hq' : (j.board.cancel i').inquiries[i]? = some q' := hq'
    rcases j.board.cancel_cases i' with hsame | hflagged | ⟨_, t, _, _, hcancelled⟩
    · rw [hsame] at hq'
      exact .inr ⟨q', hq', hflag⟩
    · by_cases heq : i' = i
      · exact .inl (congrArg Move.cancel heq)
      · rw [hflagged] at hq'
        simp only [Switchboard.flag, List.getElem?_modify_ne _ _ heq] at hq'
        exact .inr ⟨q', hq', hflag⟩
    · rw [hcancelled] at hq'
      exact .inr ⟨q', hq', hflag⟩

/-- Who failed has failed for good. -/
theorem Lost.note (h : j.Lost cancelled i) (m : Move α)
    (hmono : ∀ i, cancelled i → cancelled' i) : (j.note blank m).Lost cancelled' i := by
  rcases h with hcancelled | ⟨q, fault, hq, hfailed⟩
  · exact .inl (hmono i hcancelled)
  · by_cases hwake : m = .wake i
    · subst hwake
      have hsame : resume { j.board with line := j.board.line.erase i } i =
          { j.board with line := j.board.line.erase i } := by
        simp [resume, hq, hfailed]
      refine .inr ⟨q, fault, ?_, hfailed⟩
      change (resume { j.board with line := j.board.line.erase i } i).inquiries[i]? = some q
      rw [hsame]
      exact hq
    · obtain ⟨q', hq', hphase⟩ := exists_inquiry_note blank hq hwake
      exact .inr ⟨q', fault, hq', hphase.trans hfailed⟩

/-- An open question stays unsettled unless its inquiry is cancelled. -/
theorem isUnsettled_note (h : j.Coherent seed) {p : Pending} (hp : p ∈ j.board.bridge.pending)
    (hp' : p ∈ (j.note blank m).board.bridge.pending) {r : Posed}
    (hr : j.posed[p.ticket]? = some r) (hcancel : m ≠ .cancel r.inquiry)
    (hunsettled : j.board.bridge.isUnsettled p.ticket) :
    (j.note blank m).board.bridge.isUnsettled p.ticket := by
  cases m with
  | inquire | deliver => exact hunsettled
  | close => cases hp'
  | respond step response =>
    have hp' : p ∈ (j.board.bridge.answer step response.kind
      (response.value blank)).2.bridge.pending := hp'
    obtain ⟨_, hother⟩ := h.tidy.mem_pending_answer _ |>.1 hp'
    by_cases hstep : p.step = step
    · -- the question is of another kind, so the response is refused
      have hrefused : (j.board.bridge.answer step response.kind (response.value blank)).2.bridge =
          j.board.bridge := by
        have hkind : p.kind ≠ response.kind := fun hkind => hother ⟨hstep, hkind⟩
        subst hstep
        simp [Bridge.answer, h.tidy.pending?_eq hp, hkind]
      change (j.board.bridge.answer step response.kind
        (response.value blank)).2.bridge.isUnsettled p.ticket = true
      rw [hrefused]
      exact hunsettled
    · refine Bridge.isUnsettled_answer hunsettled (fun p' hpending hticket => hstep ?_) _
      obtain ⟨hmem, rfl⟩ := Bridge.mem_of_pending? hpending
      exact (h.step_eq_of_ticket_eq hmem hp hticket).symm
  | wake i =>
    rcases still_or_puts blank h i with ⟨_, hbridge⟩ | ⟨r', _, hputs⟩
    · rw [hbridge]
      exact hunsettled
    · refine hputs.kept p hp (fun hstep => ?_) hunsettled
      rw [hputs.pending, List.mem_append, List.mem_filter, List.mem_singleton] at hp'
      rcases hp' with ⟨_, hother⟩ | hnew
      · exact of_decide_eq_true hother hstep
      · have hlt := (List.getElem?_eq_some_iff.1 hr).1
        rw [hnew] at hlt
        exact absurd hlt (lt_irrefl _)
  | cancel i =>
    have hne : i ≠ r.inquiry := fun heq => hcancel (congrArg Move.cancel heq)
    change (j.board.cancel i).bridge.isUnsettled p.ticket = true
    rcases j.board.cancel_cases i with hsame | hflagged | ⟨q, t, hq, hphase, hcancelled⟩
    · rw [hsame]
      exact hunsettled
    · rw [hflagged]
      exact hunsettled
    · have hfits := h.fits i q hq
      rw [hphase] at hfits
      rw [hcancelled]
      refine Bridge.isUnsettled_cancel_ne (fun ht => hne ?_) hunsettled
      rw [ht] at hfits
      exact congrArg Posed.inquiry (Option.some.inj (hfits.symm.trans hr))

/-- Who waits for the answer to an open question goes on to wait, unless someone wants the inquiry
    cancelled. -/
theorem Awaits.note (h : j.Coherent seed) {r : Posed} (hawaits : j.Awaits r) {p : Pending}
    (hp : p ∈ j.board.bridge.pending) (hp' : p ∈ (j.note blank m).board.bridge.pending)
    (hr : j.posed[p.ticket]? = some r) (hcancel : m ≠ .cancel r.inquiry)
    (hflag : ∀ q, j.board.inquiries[r.inquiry]? = some q → q.isFlagged = false) :
    (j.note blank m).Awaits r := by
  obtain ⟨t, q, hown, hunsettled, hq, hover⟩ := hawaits
  obtain rfl := h.ticket_unique hown hr rfl
  have hgrows : j.ledger.Grows (j.note blank m).ledger := (h.note m).2
  suffices ∃ q', (j.note blank m).board.inquiries[r.inquiry]? = some q' ∧ ¬ q'.phase.IsOver by
    obtain ⟨q', hq', hover'⟩ := this
    exact ⟨_, q', hgrows.posed _ r hr, isUnsettled_note h hp hp' hr hcancel hunsettled, hq', hover'⟩
  by_cases hwake : m = .wake r.inquiry
  · subst hwake
    obtain ⟨q', hq', hholds⟩ := resume_holds
      (s := { j.board with line := j.board.line.erase r.inquiry }) hq (hflag q hq)
      (h.holds_of_posed hr hq hover) hunsettled
    exact ⟨q', hq', hholds.not_isOver⟩
  · obtain ⟨q', hq', hphase⟩ := exists_inquiry_note blank hq hwake
    exact ⟨q', hq', hphase ▸ hover⟩

end Lost

/-- Each question that can be answered is awaited, unless the inquiry that put it is lost; and
    nobody is flagged without cause. -/
structure Minded (cancelled : Nat → Prop) (j : Journal α) : Prop where
  flagged : ∀ (i : Nat) q, j.board.inquiries[i]? = some q → q.isFlagged = true → cancelled i
  minded : ∀ p ∈ j.board.bridge.pending, ∀ r, j.posed[p.ticket]? = some r →
    j.Awaits r ∨ j.Lost cancelled r.inquiry

namespace Minded

variable {cancelled cancelled' : Nat → Prop}

/-- Every move keeps the questions minded. -/
theorem step (hm : Minded cancelled j) (h : j.Coherent seed) {m : Move α}
    (hmono : ∀ i, cancelled i → cancelled' i) (hcancel : ∀ i, m = .cancel i → cancelled' i) :
    Minded cancelled' (j.note blank m) where
  flagged i q hq hflag := by
    rcases isFlagged_of_note hq hflag with hnow | ⟨q', hq', hflag'⟩
    · exact hcancel i hnow
    · exact hmono i (hm.flagged i q' hq' hflag')
  minded := by
    have hold : ∀ p ∈ j.board.bridge.pending, p ∈ (j.note blank m).board.bridge.pending →
        ∀ r, j.posed[p.ticket]? = some r →
          (j.note blank m).Awaits r ∨ (j.note blank m).Lost cancelled' r.inquiry := by
      intro p hp hp' r hr
      by_cases hlost : j.Lost cancelled r.inquiry
      · exact .inr (hlost.note m hmono)
      by_cases hnow : m = .cancel r.inquiry
      · exact .inr (.inl (hcancel _ hnow))
      refine .inl (((hm.minded p hp r hr).resolve_right hlost).note h hp hp' hr hnow ?_)
      intro q hq
      refine Bool.eq_false_iff.2 fun hflag => hlost (.inl (hm.flagged _ q hq hflag))
    intro p hp' r hr
    rcases note_cases blank h m with hposed | ⟨r', rfl, hputs⟩
    · rw [hposed] at hr
      exact hold p ((mem_pending_note h hposed).1 hp').1 hp' r hr
    · have hp := hp'
      rw [hputs.pending, List.mem_append, List.mem_filter, List.mem_singleton] at hp
      rcases hp with ⟨hp, _⟩ | rfl
      · obtain ⟨i, hown⟩ := h.recorded hp
        have hgrows : j.ledger.Grows (j.note blank (.wake r'.inquiry)).ledger := (h.note _).2
        have hsame := hgrows.posed _ _ hown
        obtain rfl : ⟨i, p.step, p.kind⟩ = r := Option.some.inj (hsame.symm.trans hr)
        exact hold p hp hp' _ hown
      · have hnew : j.posed.length = j.posed.length ∧ r' = r := by
          rw [hputs.posed] at hr
          rcases Ledger.getElem?_concat_iff.1 hr with hlt | hnew
          · exact absurd (List.getElem?_eq_some_iff.1 hlt).1 (lt_irrefl _)
          · exact hnew
        obtain ⟨-, rfl⟩ := hnew
        obtain ⟨q, hq, hholds | ⟨fault, hfailed⟩⟩ := hputs.asker
        · exact .inl ⟨_, q, hr, hputs.unsettled, hq, hholds.not_isOver⟩
        · exact .inr (.inr ⟨q, fault, hq, hfailed⟩)

end Minded

/-- After any moves, each question that can be answered is awaited or its inquiry is lost. -/
theorem minded_run (blank : α) (replays : Bool) (seed : Table α) (delivery : Delivery)
    (moves : List (Move α)) :
    Minded (fun i => .cancel i ∈ moves) ((Journal.start replays seed delivery).run blank moves) := by
  induction moves using List.reverseRecOn with
  | nil => exact ⟨nofun, nofun⟩
  | append_singleton moves m ih =>
    rw [run_concat]
    refine ih.step ((coherent_start replays seed delivery).run moves).1
      (fun i => List.mem_append_left _) ?_
    rintro i rfl
    exact List.mem_append_right _ List.mem_cons_self

/-- The question stands, but nobody waits for its answer any more: whoever put it was cancelled, or
    the surface failed it. -/
structure Forsaken (blank : α) (start : Journal α) (moves : List (Move α)) (t : Nat) (r : Posed) :
    Prop where
  stands : Stands blank start moves t r
  lost : (start.run blank moves).Lost (fun i => .cancel i ∈ moves) r.inquiry
  unheard : ¬ (start.run blank moves).Awaits r

section Forsaken

variable {replays : Bool} {delivery : Delivery} {moves : List (Move α)}

/-- An awaited question can be answered. -/
theorem Coherent.pending_of_awaits (h : j.Coherent seed) {r : Posed} (hawaits : j.Awaits r) :
    ∃ p ∈ j.board.bridge.pending, p.step = r.step ∧ p.kind = r.kind ∧
      j.board.bridge.isUnsettled p.ticket := by
  obtain ⟨t, _, hr, hunsettled, _⟩ := hawaits
  obtain ⟨p, hp, rfl⟩ := h.ledger.awaited t hunsettled
  obtain ⟨i, hown⟩ := h.recorded hp
  obtain rfl : ⟨i, p.step, p.kind⟩ = r := Option.some.inj (hown.symm.trans hr)
  exact ⟨p, hp, rfl, rfl, hunsettled⟩

/-- So can a forsaken one. -/
theorem Forsaken.mem_pending {t : Nat} {r : Posed}
    (h : Forsaken blank (.start replays seed delivery) moves t r) : ⟨r.step, r.kind, t⟩ ∈
      ((Journal.start replays seed delivery).run blank moves).board.bridge.pending :=
  (mem_pending_iff_stands ⟨_, _, _⟩).2 ⟨_, h.stands⟩

/-- No others can. -/
theorem awaits_or_forsaken {p : Pending}
    (hp : p ∈ ((Journal.start replays seed delivery).run blank moves).board.bridge.pending) :
    ∃ r, r.step = p.step ∧ r.kind = p.kind ∧
      (((Journal.start replays seed delivery).run blank moves).Awaits r ∨
        Forsaken blank (.start replays seed delivery) moves p.ticket r) := by
  obtain ⟨i, hstands⟩ := (mem_pending_iff_stands p).1 hp
  refine ⟨⟨i, p.step, p.kind⟩, rfl, rfl, or_iff_not_imp_left.2 fun hunheard => ?_⟩
  have hminded := (minded_run blank replays seed delivery moves).minded p hp _ hstands.own
  exact ⟨hstands, hminded.resolve_left hunheard, hunheard⟩

end Forsaken

/-- A response is put on record exactly if it is taken. -/
theorem answers_respond (s : Switchboard α) (step : String) (response : Response α) :
    (s.respond blank step response).2.bridge.answers =
      if (s.respond blank step response).1 then
        s.bridge.answers.insert step (response.value blank)
      else s.bridge.answers := by
  rcases s.bridge.answer_cases step response.kind (response.value blank) with
    ⟨b, hanswered, rfl | ⟨rfl, _⟩⟩ | ⟨p, _, _, _, hanswered⟩
  · simp [respond, Switchboard.answer, Switchboard.apply, hanswered]
  · simp [respond, Switchboard.answer, Switchboard.apply, hanswered, Bridge.forget]
  · simp [respond, Switchboard.answer, Switchboard.apply, hanswered]

/-- Which questions a bridge says can be answered, and which responses it takes. -/
structure Hears (blank : α) (start : Journal α) (moves : List (Move α)) (j : Journal α) : Prop where
  /-- A question can be answered if someone waits for the answer, and beyond that only if it is
      forsaken. -/
  pending : ∀ step, j.board.bridge.hasPending step = true ↔
    ∃ r, r.step = step ∧ (j.Awaits r ∨ ∃ t, Forsaken blank start moves t r)
  /-- A response is taken by a question of its step and kind that is awaited, and beyond that only by
      a forsaken one that nothing has settled. -/
  taken : ∀ step response, (j.board.respond blank step response).1 = true ↔
    ∃ r, r.step = step ∧ r.kind = response.kind ∧
      (j.Awaits r ∨ ∃ t, Forsaken blank start moves t r ∧ j.board.bridge.isUnsettled t)
  recorded : ∀ step response, (j.board.respond blank step response).1 = true →
    (j.board.respond blank step response).2.bridge.answers =
      j.board.bridge.answers.insert step (response.value blank)
  refused : ∀ step response, (j.board.respond blank step response).1 = false →
    (j.board.respond blank step response).2.bridge.answers = j.board.bridge.answers

/-- At every moment, the questions that can be answered are those that someone waits for, and those
    that are forsaken; a response is taken only by one of these. -/
theorem hears_run (blank : α) (replays : Bool) (seed : Table α) (delivery : Delivery)
    (moves : List (Move α)) :
    Hears blank (.start replays seed delivery) moves
      ((Journal.start replays seed delivery).run blank moves) := by
  have h : ((Journal.start replays seed delivery).run blank moves).Coherent seed :=
    ((coherent_start replays seed delivery).run moves).1
  refine ⟨fun step => ?_, fun step response => ?_, fun step response htaken => ?_,
    fun step response hrefused => ?_⟩
  · rw [Bridge.hasPending_iff]
    constructor
    · rintro ⟨p, hp, rfl⟩
      obtain ⟨r, hstep, _, hr⟩ := awaits_or_forsaken hp
      exact ⟨r, hstep, hr.imp_right fun hforsaken => ⟨_, hforsaken⟩⟩
    · rintro ⟨r, rfl, hawaits | ⟨t, hforsaken⟩⟩
      · obtain ⟨p, hp, hstep, _⟩ := h.pending_of_awaits hawaits
        exact ⟨p, hp, hstep⟩
      · exact ⟨_, hforsaken.mem_pending, rfl⟩
  · refine h.tidy.answer_eq_true_iff (response.value blank) |>.trans ?_
    constructor
    · rintro ⟨p, hp, rfl, hkind, hunsettled⟩
      obtain ⟨r, hstep, hkind', hr⟩ := awaits_or_forsaken hp
      exact ⟨r, hstep, hkind'.trans hkind, hr.imp_right fun hforsaken => ⟨_, hforsaken, hunsettled⟩⟩
    · rintro ⟨r, rfl, hkind, hawaits | ⟨t, hforsaken, hunsettled⟩⟩
      · obtain ⟨p, hp, hstep, hkind', hunsettled⟩ := h.pending_of_awaits hawaits
        exact ⟨p, hp, hstep, hkind'.trans hkind, hunsettled⟩
      · exact ⟨_, hforsaken.mem_pending, rfl, hkind, hunsettled⟩
  · rw [answers_respond, if_pos htaken]
  · rw [answers_respond, hrefused, if_neg Bool.false_ne_true]

/-- A question whose event the surface fails to deliver is forsaken, and a response to it is put on
    record. -/
theorem forsaken_is_answered :
    let j := (start true Table.empty (.failing (.failure "no screen"))).run ""
      [.inquire "name" (.prompt "Name?" none), .wake 0]
    (∀ r, ¬ j.Awaits r) ∧ j.board.bridge.hasPending "name" = true ∧
      (j.board.respond "" "name" (.prompt (some "Ann"))).1 = true ∧
      (j.board.respond "" "name" (.prompt (some "Ann"))).2.bridge.answers =
        Table.empty.insert "name" "Ann" := by
  refine ⟨?_, rfl, rfl, rfl⟩
  rintro r ⟨t, q, hr, _, hq, hover⟩
  obtain rfl : r = ⟨0, "name", .prompt⟩ := List.mem_singleton.1 (List.mem_of_getElem? hr)
  obtain rfl := Option.some.inj hq
  exact hover trivial

end Journal

end Stepwise
