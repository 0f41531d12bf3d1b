import Stepwise.Proofs.Bridge.Retract

namespace Stepwise.Bridge

variable {α : Type} {b b' : Bridge α} {step : String} {kind : Question.Kind}

/-- Every question that waits for an answer can be answered, and at a step at most one can. -/
structure Tidy (b : Bridge α) : Prop where
  listed : ∀ t, b.isUnsettled t → ∃ p ∈ b.pending, p.ticket = t
  single : ∀ p ∈ b.pending, ∀ p' ∈ b.pending, p.step = p'.step → p = p'

theorem tidy_start (replays : Bool) (answers : Table α) : (start replays answers).Tidy where
  listed _ hunsettled := nomatch isUnsettled_iff.1 hunsettled
  single := nofun

namespace Tidy

theorem retract (h : b.Tidy) (hretracts : b.Retracts b') : b'.Tidy where
  listed t hunsettled := by
    obtain ⟨p, hp, rfl⟩ := h.listed t (hretracts.isUnsettled hunsettled)
    exact ⟨p, hretracts.kept p hp hunsettled, rfl⟩
  single p hp p' hp' := h.single p (hretracts.pending p hp) p' (hretracts.pending p' hp')

/-- A question is put at a step where no other can be answered. -/
theorem put (h : b.Tidy) (hnone : ∀ p ∈ b.pending, p.step ≠ step) (kind : Question.Kind) :
    ({ b with
      pending := b.pending ++ [⟨step, kind, b.tickets.length⟩]
      tickets := b.tickets ++ [.unsettled] } : Bridge α).Tidy where
  listed t hunsettled := by
    have hticket := isUnsettled_iff.1 hunsettled
    simp only [ticket?, List.getElem?_append] at hticket
    split at hticket
    · obtain ⟨p, hp, rfl⟩ := h.listed t (isUnsettled_iff.2 hticket)
      exact ⟨p, List.mem_append_left _ hp, rfl⟩
    next hlength =>
      have hlt := (List.getElem?_eq_some_iff.1 hticket).1
      simp only [List.length_singleton] at hlt
      exact ⟨_, List.mem_append_right _ List.mem_cons_self, by dsimp only; omega⟩
  single p hp p' hp' hstep := by
    rcases List.mem_append.1 hp with hold | hnew <;> rcases List.mem_append.1 hp' with hold' | hnew'
    · exact h.single p hold p' hold' hstep
    · obtain rfl := List.mem_singleton.1 hnew'
      exact absurd hstep (hnone p hold)
    · obtain rfl := List.mem_singleton.1 hnew
      exact absurd hstep.symm (hnone p' hold')
    · rw [List.mem_singleton.1 hnew, List.mem_singleton.1 hnew']

theorem pending?_eq (h : b.Tidy) {p : Pending} (hp : p ∈ b.pending) :
    b.pending? p.step = some p := by
  cases hfound : b.pending? p.step with
  | none => exact absurd rfl (step_ne_of_pending?_none hfound p hp)
  | some p' =>
    obtain ⟨hp', hstep⟩ := mem_of_pending? hfound
    rw [h.single p' hp' p hp hstep]

/-- After an answer, no question of its step and kind can be answered, and no other one more than
    before. -/
theorem answer (h : b.Tidy) (step : String) (kind : Question.Kind) (a : α) :
    (b.answer step kind a).2.bridge.Tidy ∧
    ∀ p ∈ (b.answer step kind a).2.bridge.pending,
      p ∈ b.pending ∧ ¬ (p.step = step ∧ p.kind = kind) := by
  rcases b.answer_cases step kind a with ⟨b', hrefused, hsame⟩ | ⟨q, hq, hkind, hunsettled, haccepted⟩
  · have hretracts := retracts_of_refused
      (fun p hp p' hp' hstep => congrArg Pending.ticket (h.single p hp p' hp' hstep)) hsame
    rw [hrefused]
    refine ⟨h.retract hretracts, fun p hp => ⟨hretracts.pending p hp, ?_⟩⟩
    rintro ⟨rfl, rfl⟩
    have hfound := h.pending?_eq (hretracts.pending p hp)
    rcases hsame with rfl | ⟨rfl, _⟩
    · simp only [Bridge.answer, hfound, ne_eq, not_true_eq_false, if_false] at hrefused
      split at hrefused
      · cases hrefused
      · have hforget : b'.forget p.step = b' := congrArg (·.2.bridge) hrefused
        rw [← hforget] at hp
        exact step_ne_of_mem_forget p hp rfl
    · exact step_ne_of_mem_forget p hp rfl
  · obtain ⟨hmem, hstep⟩ := mem_of_pending? hq
    have hticket := getElem?_set_tickets hunsettled (.answered a)
    rw [haccepted]
    refine ⟨⟨fun t hopen => ?_, fun p hp p' hp' => ?_⟩, fun p hp => ⟨(List.mem_filter.1 hp).1, ?_⟩⟩
    · rw [isUnsettled_iff, ticket?, hticket] at hopen
      split at hopen
      · cases hopen
      next hne =>
        obtain ⟨p, hp, rfl⟩ := h.listed t (isUnsettled_iff.2 hopen)
        have hother : p.step ≠ step := by
          intro hsame
          exact hne (congrArg Pending.ticket (h.single q hmem p hp (hstep.trans hsame.symm)))
        exact ⟨p, List.mem_filter.2 ⟨hp, by simpa using hother⟩, rfl⟩
    · exact h.single p (List.mem_filter.1 hp).1 p' (List.mem_filter.1 hp').1
    · exact fun hsame => step_ne_of_mem_forget p hp hsame.1

end Tidy

end Stepwise.Bridge
