import Stepwise.Bridge.Basic

namespace Stepwise

variable {α : Type}

namespace Bridge

variable {b b' b'' : Bridge α}

theorem isUnsettled_iff {ticket : Nat} :
    b.isUnsettled ticket ↔ b.ticket? ticket = some .unsettled := by
  unfold isUnsettled
  split <;> simp_all

theorem getElem?_set_tickets {ticket : Nat} (hunsettled : b.isUnsettled ticket) (k : Ticket α)
    (t : Nat) : (b.tickets.set ticket k)[t]? = if ticket = t then some k else b.ticket? t := by
  have hlt : ticket < b.tickets.length :=
    (List.getElem?_eq_some_iff.1 (isUnsettled_iff.1 hunsettled)).1
  rw [List.getElem?_set]
  by_cases heq : ticket = t
  · rw [if_pos heq, if_pos heq, if_pos hlt]
  · rw [if_neg heq, if_neg heq]
    rfl

theorem mem_of_pending? {step : String} {p : Pending} (hpending : b.pending? step = some p) :
    p ∈ b.pending ∧ p.step = step :=
  ⟨List.mem_of_find?_eq_some hpending, by simpa using List.find?_some hpending⟩

theorem step_ne_of_pending?_none {step : String} (hnone : b.pending? step = none) :
    ∀ p ∈ b.pending, p.step ≠ step := by
  simpa [pending?] using hnone

theorem replay?_eq_some_iff {step : String} {a : α} :
    b.replay? step = some a ↔ b.replays ∧ b.answers.get? step = some a := by
  unfold replay?
  split <;> simp_all

theorem replay?_eq_none_iff {step : String} :
    b.replay? step = none ↔ (b.replays → b.answers.get? step = none) := by
  unfold replay?
  split <;> simp_all

/-- A change that puts and answers nothing. It may cancel tickets, and drop questions that can
    be answered no longer. -/
structure Retracts (b b' : Bridge α) : Prop where
  replays : b'.replays = b.replays
  answers : b'.answers = b.answers
  length : b'.tickets.length = b.tickets.length
  ticket : ∀ t, b'.ticket? t = b.ticket? t ∨ b.isUnsettled t ∧ b'.ticket? t = some .cancelled
  pending : ∀ p ∈ b'.pending, p ∈ b.pending
  kept : ∀ p ∈ b.pending, b'.isUnsettled p.ticket → p ∈ b'.pending

namespace Retracts

theorem refl (b : Bridge α) : b.Retracts b :=
  ⟨rfl, rfl, rfl, fun _ => .inl rfl, fun _ hp => hp, fun _ hp _ => hp⟩

theorem isUnsettled (h : b.Retracts b') {t : Nat} (hunsettled : b'.isUnsettled t) :
    b.isUnsettled t := by
  rcases h.ticket t with hsame | ⟨hbefore, _⟩
  · exact isUnsettled_iff.2 (hsame ▸ isUnsettled_iff.1 hunsettled)
  · exact hbefore

theorem trans (h : b.Retracts b') (h' : b'.Retracts b'') : b.Retracts b'' where
  replays := h'.replays.trans h.replays
  answers := h'.answers.trans h.answers
  length := h'.length.trans h.length
  ticket t := by
    rcases h'.ticket t with hsame | ⟨hbefore, hcancelled⟩
    · rw [hsame]
      exact h.ticket t
    · exact .inr ⟨h.isUnsettled hbefore, hcancelled⟩
  pending p hp := h.pending p (h'.pending p hp)
  kept p hp hunsettled := h'.kept p (h.kept p hp (h'.isUnsettled hunsettled)) hunsettled

/-- What became of a question stays so. -/
theorem settled (h : b.Retracts b') {t : Nat} {k : Ticket α} (hticket : b.ticket? t = some k)
    (hsettled : k ≠ .unsettled) : b'.ticket? t = some k := by
  rcases h.ticket t with hsame | ⟨hbefore, _⟩
  · exact hsame.trans hticket
  · rw [isUnsettled_iff, hticket] at hbefore
    exact absurd (Option.some.inj hbefore) hsettled

end Retracts

theorem retracts_cancel (b : Bridge α) (t : Nat) : b.Retracts (b.cancel t).bridge := by
  unfold cancel
  split
  next hunsettled =>
    refine ⟨rfl, rfl, List.length_set, fun t' => ?_, fun _ hp => hp, fun _ hp _ => hp⟩
    by_cases heq : t' = t
    · subst heq
      refine .inr ⟨hunsettled, ?_⟩
      obtain ⟨hlt, _⟩ := List.getElem?_eq_some_iff.1 (isUnsettled_iff.1 hunsettled)
      exact List.getElem?_set_self hlt
    · exact .inl (List.getElem?_set_ne (Ne.symm heq))
  next => exact .refl b

theorem not_isUnsettled_cancel (b : Bridge α) (t : Nat) : ¬ (b.cancel t).bridge.isUnsettled t := by
  unfold cancel
  split
  next hunsettled =>
    obtain ⟨hlt, _⟩ := List.getElem?_eq_some_iff.1 (isUnsettled_iff.1 hunsettled)
    rw [isUnsettled_iff]
    exact fun hticket => nomatch (List.getElem?_set_self hlt).symm.trans hticket
  next hsettled => exact hsettled

theorem retracts_cancelAll (b : Bridge α) (ts : List Nat) :
    b.Retracts (b.cancelAll ts).bridge := by
  induction ts generalizing b with
  | nil => exact .refl b
  | cons t rest ih => exact (b.retracts_cancel t).trans (ih _)

theorem not_isUnsettled_cancelAll (b : Bridge α) {ts : List Nat} {t : Nat} (hmem : t ∈ ts) :
    ¬ (b.cancelAll ts).bridge.isUnsettled t := by
  induction ts generalizing b with
  | nil => cases hmem
  | cons t' rest ih =>
    intro hunsettled
    rcases List.mem_cons.1 hmem with rfl | hrest
    · exact b.not_isUnsettled_cancel t
        (((b.cancel t).bridge.retracts_cancelAll rest).isUnsettled hunsettled)
    · exact ih _ hrest hunsettled

theorem retracts_close (b : Bridge α) : b.Retracts b.close.bridge := by
  have hcancel := b.retracts_cancelAll (b.pending.map Pending.ticket)
  refine ⟨hcancel.replays, hcancel.answers, hcancel.length, hcancel.ticket, nofun, ?_⟩
  intro p hp hunsettled
  exact absurd hunsettled (b.not_isUnsettled_cancelAll (List.mem_map_of_mem hp))

theorem retracts_forget {step : String}
    (hsettled : ∀ p ∈ b.pending, p.step = step → ¬ b.isUnsettled p.ticket) :
    b.Retracts (b.forget step) := by
  refine ⟨rfl, rfl, rfl, fun _ => .inl rfl, fun p hp => (List.mem_filter.1 hp).1, ?_⟩
  intro p hp hunsettled
  exact List.mem_filter.2 ⟨hp, by simpa using fun hstep => hsettled p hp hstep hunsettled⟩

theorem step_ne_of_mem_forget {step : String} :
    ∀ p ∈ (b.forget step).pending, p.step ≠ step := by
  intro p hp
  simpa using (List.mem_filter.1 hp).2

/-- A bridge that puts a question first cancels and drops what there is at this step. -/
theorem register_eq_some {step : String} {kind : Question.Kind} {t : Nat} {change : Change α}
    (hsame : ∀ p ∈ b.pending, ∀ p' ∈ b.pending, p.step = p'.step → p.ticket = p'.ticket)
    (hregister : b.register step kind = some (t, change)) :
    ∃ b', b.Retracts b' ∧ (∀ p ∈ b'.pending, p.step ≠ step) ∧ t = b'.tickets.length ∧
      change.bridge = { b' with
        pending := b'.pending ++ [⟨step, kind, t⟩]
        tickets := b'.tickets ++ [.unsettled] } := by
  unfold register at hregister
  split at hregister
  · cases hregister
  · cases hpending : b.pending? step with
    | none =>
      rw [hpending] at hregister
      cases hregister
      have hnone := step_ne_of_pending?_none hpending
      exact ⟨b.forget step, retracts_forget fun p hp hstep => absurd hstep (hnone p hp),
        step_ne_of_mem_forget, rfl, rfl⟩
    | some stale =>
      rw [hpending] at hregister
      cases hregister
      obtain ⟨hmem, hstale⟩ := mem_of_pending? hpending
      have hcancel := b.retracts_cancel stale.ticket
      refine ⟨(b.cancel stale.ticket).bridge.forget step, hcancel.trans (retracts_forget ?_),
        step_ne_of_mem_forget, rfl, rfl⟩
      intro p hp hstep
      rw [hsame p (hcancel.pending p hp) stale hmem (hstep.trans hstale.symm)]
      exact b.not_isUnsettled_cancel stale.ticket

/-- An answer finds the question that can be answered at its step, if this is of its kind and
    waits; otherwise it settles nothing. -/
theorem answer_cases (b : Bridge α) (step : String) (kind : Question.Kind) (a : α) :
    (∃ b', b.answer step kind a = (false, ⟨b', []⟩) ∧
      (b' = b ∨ b' = b.forget step ∧ ∃ p, b.pending? step = some p ∧ ¬ b.isUnsettled p.ticket)) ∨
    ∃ p, b.pending? step = some p ∧ p.kind = kind ∧ b.isUnsettled p.ticket ∧
      b.answer step kind a = (true, ⟨{ b.forget step with
        answers := b.answers.insert step a
        tickets := b.tickets.set p.ticket (.answered a) }, [p.ticket]⟩) := by
  unfold answer
  split
  next => exact .inl ⟨b, rfl, .inl rfl⟩
  next p hpending =>
    by_cases hkind : p.kind = kind
    · by_cases hunsettled : b.isUnsettled p.ticket
      · refine .inr ⟨p, hpending, hkind, hunsettled, ?_⟩
        simp only [hkind, hunsettled, ne_eq, not_true_eq_false, if_false, if_true]
      · refine .inl ⟨b.forget step, ?_, .inr ⟨rfl, p, hpending, hunsettled⟩⟩
        simp only [hkind, hunsettled, ne_eq, not_true_eq_false, if_false, Bool.false_eq_true]
    · exact .inl ⟨b, by simp only [ne_eq, hkind, not_false_eq_true, if_true], .inl rfl⟩

/-- An answer that does not fit its question drops a question only if this is settled. -/
theorem retracts_of_refused {step : String}
    (hsame : ∀ p ∈ b.pending, ∀ p' ∈ b.pending, p.step = p'.step → p.ticket = p'.ticket)
    (hrefused : b' = b ∨ b' = b.forget step ∧
      ∃ p, b.pending? step = some p ∧ ¬ b.isUnsettled p.ticket) : b.Retracts b' := by
  rcases hrefused with rfl | ⟨rfl, p, hpending, hsettled⟩
  · exact .refl _
  · obtain ⟨hmem, hp⟩ := mem_of_pending? hpending
    refine retracts_forget fun p' hp' hstep => ?_
    rwa [hsame p' hp' p hmem (hstep.trans hp.symm)]

end Bridge

end Stepwise
