import Stepwise.Proofs.Bridge.Journal

namespace Stepwise.Journal

variable {α : Type} {blank : α} {seed : Table α}

/-- What a bridge keeps to, as the books show. -/
structure Agrees (blank : α) (seed : Table α) (j : Journal α) : Prop where
  /-- Every ticket belongs to a question that was put. -/
  numbered : j.posed.length = j.board.bridge.tickets.length
  /-- No two questions of one step wait for an answer. -/
  single : ∀ (t t' : Nat) r r', j.posed[t]? = some r → j.posed[t']? = some r' → r.step = r'.step →
    j.board.bridge.isUnsettled t → j.board.bridge.isUnsettled t' → t = t'
  /-- What became of a question stays so, whatever happens next. -/
  final : ∀ t k, j.board.bridge.ticket? t = some k → k ≠ .unsettled →
    ∀ moves, (j.run blank moves).board.bridge.ticket? t = some k
  /-- No question is settled by two answers. -/
  granted_once : (j.grants.map Grant.ticket).Nodup
  /-- A response that is taken settles the latest question of its step, which is of its kind, and
      no other. -/
  accepted : ∀ step r, (j.board.respond blank step r).1 = true →
    ∃ t i, j.posed[t]? = some ⟨i, step, r.kind⟩ ∧
      (∀ (t' : Nat) r', j.posed[t']? = some r' → r'.step = step → t' ≤ t) ∧
      j.board.bridge.isUnsettled t ∧
      (j.board.respond blank step r).2.bridge.tickets =
        j.board.bridge.tickets.set t (.answered (r.value blank)) ∧
      j.board.grants blank step r = [⟨t, step, r.kind, r.value blank⟩]
  /-- A response that is not taken changes no answer, and no question that waits for one. -/
  refused : ∀ step r, (j.board.respond blank step r).1 = false →
    (j.board.respond blank step r).2.bridge.answers = j.board.bridge.answers ∧
    (j.board.respond blank step r).2.bridge.tickets = j.board.bridge.tickets ∧
    ∀ p ∈ j.board.bridge.pending, j.board.bridge.isUnsettled p.ticket →
      p ∈ (j.board.respond blank step r).2.bridge.pending
  /-- An inquiry returns the answer that is stored for its step, if it put no question, or else
      the one answer that settled its own question. -/
  returned : ∀ (i : Nat) q a, j.board.inquiries[i]? = some q → q.phase = .returned a →
    (j.board.bridge.replays ∧ (∀ r ∈ j.posed, r.inquiry ≠ i) ∧
      j.board.bridge.answers.get? q.step = some a) ∨
    ∃ t, j.posed[t]? = some ⟨i, q.step, q.question.kind⟩ ∧
      ⟨t, q.step, q.question.kind, a⟩ ∈ j.grants
  /-- No inquiry puts two questions. -/
  posed_once : (j.posed.map Posed.inquiry).Nodup
  /-- The answers are those to begin with, overlaid by those given, in order. -/
  answers : j.board.bridge.answers = seed.insertAll (j.grants.map fun g => (g.step, g.answer))

namespace Coherent

variable {j : Journal α}

/-- Only the latest question of a step waits for an answer. -/
theorem single (h : j.Coherent seed) {t t' : Nat} {r r' : Posed} (hr : j.posed[t]? = some r)
    (hr' : j.posed[t']? = some r') (hstep : r.step = r'.step)
    (ht : j.board.bridge.isUnsettled t) (ht' : j.board.bridge.isUnsettled t') : t = t' := by
  obtain ⟨p, hp, rfl⟩ := h.ledger.awaited t ht
  obtain ⟨p', hp', rfl⟩ := h.ledger.awaited t' ht'
  obtain ⟨i, hi⟩ := h.ledger.recorded p hp
  obtain ⟨i', hi'⟩ := h.ledger.recorded p' hp'
  obtain rfl := Option.some.inj (hr.symm.trans hi)
  obtain rfl := Option.some.inj (hr'.symm.trans hi')
  exact h.ledger.ticket_eq hp hp' hstep

theorem returned (h : j.Coherent seed) {i : Nat} {q : Inquiry α} {a : α}
    (hq : j.board.inquiries[i]? = some q) (hphase : q.phase = .returned a) :
    (j.board.bridge.replays ∧ (∀ r ∈ j.posed, r.inquiry ≠ i) ∧
      j.board.bridge.answers.get? q.step = some a) ∨
    ∃ t, j.posed[t]? = some ⟨i, q.step, q.question.kind⟩ ∧
      ⟨t, q.step, q.question.kind, a⟩ ∈ j.grants := by
  have hfits := h.fits i q hq
  rw [hphase] at hfits
  rcases hfits with hstored | ⟨t, hown, hticket⟩
  · exact .inl hstored
  · obtain ⟨g, hg, rfl, rfl⟩ := h.ledger.granted t a hticket
    obtain ⟨_, i', hi'⟩ := h.ledger.settled g hg
    obtain ⟨hi, hstep, hkind⟩ := Posed.mk.inj (Option.some.inj (hi'.symm.trans hown))
    exact .inr ⟨g.ticket, hown, hstep ▸ hkind ▸ hg⟩

theorem agrees (h : j.Coherent seed) : j.Agrees blank seed where
  numbered := h.ledger.numbered
  single _ _ _ _ := h.single
  final t k hk hsettled moves := (h.run moves).2.settled t k hk hsettled
  granted_once := h.ledger.granted_once
  accepted step r hfound := by
    rcases j.board.bridge.answer_cases step r.kind (r.value blank) with
      ⟨b, hrefused, _⟩ | ⟨p, hpending, hkind, hunsettled, haccepted⟩
    · simp [Switchboard.respond, Switchboard.answer, hrefused] at hfound
    · obtain ⟨hmem, rfl⟩ := Bridge.mem_of_pending? hpending
      obtain ⟨i, hi⟩ := h.ledger.recorded p hmem
      refine ⟨p.ticket, i, hkind ▸ hi, h.ledger.latest p hmem, hunsettled, ?_, ?_⟩
      · simp [Switchboard.respond, Switchboard.answer, Switchboard.apply, haccepted]
      · simp [Switchboard.grants, Switchboard.respond, Switchboard.answer, haccepted]
  refused step r hnone := by
    rcases j.board.bridge.answer_cases step r.kind (r.value blank) with
      ⟨b, hrefused, hbridge⟩ | ⟨p, _, _, _, haccepted⟩
    · have hretracts := h.ledger.retracts_of_refused hbridge
      have hboard : (j.board.respond blank step r).2.bridge = b := by
        simp [Switchboard.respond, Switchboard.answer, Switchboard.apply, hrefused]
      rw [hboard]
      refine ⟨hretracts.answers, ?_, fun p hp hunsettled => hretracts.kept p hp ?_⟩
      · rcases hbridge with rfl | ⟨rfl, _⟩ <;> rfl
      · rcases hbridge with rfl | ⟨rfl, _⟩ <;> exact hunsettled
    · simp [Switchboard.respond, Switchboard.answer, haccepted] at hnone
  returned _ _ _ := h.returned
  posed_once := h.ledger.asked_once
  answers := h.ledger.answers

end Coherent

theorem coherent_start (replays : Bool) (seed : Table α) (delivery : Delivery) :
    (start replays seed delivery).Coherent seed :=
  ⟨Ledger.coherent_start replays seed, nofun, nofun⟩

/-- However inquiries, answers, cancellations, the closing of the bridge and wake-ups are
    interleaved, the bridge agrees with its books. -/
theorem agrees_run (blank : α) (replays : Bool) (seed : Table α) (delivery : Delivery)
    (moves : List (Switchboard.Move α)) :
    ((start replays seed delivery).run blank moves).Agrees blank seed :=
  ((coherent_start replays seed delivery).run moves).1.agrees

/-- A question that is put again cancels the one before, and the answer goes to the later one. -/
example : ((start false .empty .immediate).run "" [.inquire "name" (.prompt "Name?" none),
    .inquire "name" (.prompt "Name?" none), .wake 0, .wake 1,
    .respond "name" (.prompt none)]).board.bridge.tickets = [.cancelled, .answered ""] := rfl

end Stepwise.Journal
