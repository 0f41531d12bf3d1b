import Stepwise.Proofs.Bridge.Calm
import Stepwise.Proofs.Run.Latest

namespace Stepwise.Bridge

open Run

/-- A run waits for the answer to the question of this ticket, which it put at this step. At every
    other step the answer is the one that it heard last. -/
structure Awaits (b : Bridge String) (ms : List Mark) (step : String) (t : Nat) : Prop where
  echoes : ∀ other v, other ≠ step → latest (Mark.answer? other) ms = some v →
    ∃ a, v = .text a ∧ b.answers.get? other = some a
  pending : ∀ p ∈ b.pending, p.step = step
  due : ∀ a, b.ticket? t = some (.answered a) → b.answers.get? step = some a

/-- The answers are those that a run heard last, but for the step at which it waits for this
    ticket. -/
def Minds (b : Bridge String) (ms : List Mark) (step : String) : Option Nat → Prop
  | some t => b.Awaits ms step t
  | none => Echoes b.answers ms

/-- What others may do to the bridge of a run: they answer a question, or give the run up. -/
inductive Heeds (b : Bridge String) : Bridge String → Prop where
  | same : Heeds b b
  | answered (step : String) (kind : Question.Kind) (a : String) :
      Heeds b (b.answer step kind a).2.bridge
  | closed : Heeds b b.close.bridge

variable {b b' : Bridge String} {ms : List Mark} {step : String} {t : Nat} {ticket : Option Nat}

/-- No question but that of the ticket can be answered. -/
theorem Serves.eq_of_isUnsettled (h : b.Serves t) {other : Nat} (hunsettled : b.isUnsettled other) :
    other = t := by
  cases h with
  | asked hasks => exact hasks.only other hunsettled
  | answered _ hcalm | cancelled hcalm => exact absurd hunsettled (hcalm.settled other)

theorem Awaits.retracts (h : b.Awaits ms step t) (hretracts : b.Retracts b') :
    b'.Awaits ms step t where
  echoes := hretracts.answers.symm ▸ h.echoes
  pending p hp := h.pending p (hretracts.pending p hp)
  due a ha := by
    rw [hretracts.answers]
    rcases hretracts.ticket t with hsame | ⟨_, hcancelled⟩
    · exact h.due a (hsame ▸ ha)
    · cases hcancelled.symm.trans ha

/-- An answer that finds a question finds the one that the run waits for. -/
theorem Awaits.answer (h : b.Awaits ms step t) (hserves : b.Serves t) (step' : String)
    (kind : Question.Kind) (a : String) : (b.answer step' kind a).2.bridge.Awaits ms step t := by
  rcases b.answer_cases step' kind a with ⟨b', heq, rfl | ⟨rfl, _⟩⟩ | ⟨p, hp, _, hunsettled, heq⟩
  · rw [heq]
    exact h
  · rw [heq]
    exact ⟨h.echoes, fun p hp => h.pending p (List.mem_filter.1 hp).1, h.due⟩
  · rw [heq]
    obtain ⟨hmem, rfl⟩ := mem_of_pending? hp
    obtain rfl := h.pending p hmem
    obtain rfl := hserves.eq_of_isUnsettled hunsettled
    refine ⟨fun other v hne hlatest => ?_, fun p hp => h.pending p (List.mem_filter.1 hp).1,
      fun a' ha' => ?_⟩
    · obtain ⟨a', hv, ha'⟩ := h.echoes other v hne hlatest
      exact ⟨a', hv, (Table.get?_insert ..).trans ((if_neg hne).trans ha')⟩
    · rw [ticket?, getElem?_set_tickets hunsettled, if_pos rfl] at ha'
      cases ha'
      exact (Table.get?_insert ..).trans (if_pos rfl)

/-- Whatever others do, the answers stay those that the run heard last. -/
theorem Minds.heeds (h : b.Minds ms step ticket) (hexpects : b.Expects ticket)
    (hheeds : b.Heeds b') : b'.Minds ms step ticket := by
  cases ticket with
  | none =>
    have hcalm : b.Calm := hexpects
    cases hheeds with
    | same => exact h
    | answered step' kind a =>
      rw [hcalm.answer_eq]
      exact h
    | closed =>
      have hechoes : Echoes b.close.bridge.answers ms := b.retracts_close.answers.symm ▸ h
      exact hechoes
  | some t =>
    cases hheeds with
    | same => exact h
    | answered step' kind a => exact Awaits.answer h hexpects step' kind a
    | closed => exact Awaits.retracts h b.retracts_close

/-- A run that puts a question waits for its ticket. -/
theorem Calm.register_awaits (h : b.Calm) (hechoes : Echoes b.answers ms) {kind : Question.Kind}
    {change : Change String} (hregister : b.register step kind = some (t, change)) :
    change.bridge.Awaits ms step t := by
  have hnone : ∀ p, p ∉ b.pending := by simp [h.pending]
  obtain ⟨b', hretracts, _, rfl, heq⟩ :=
    register_eq_some (fun p hp => absurd hp (hnone p)) hregister
  rw [heq]
  refine ⟨fun other v _ hlatest => ?_, fun p hp => ?_, fun a ha => ?_⟩
  · obtain ⟨a, hv, ha⟩ := hechoes other v hlatest
    exact ⟨a, hv, (congrArg (·.get? other) hretracts.answers).trans ha⟩
  · rcases List.mem_append.1 hp with hold | hnew
    · exact absurd (hretracts.pending p hold) (hnone p)
    · rw [List.mem_singleton.1 hnew]
  · rw [ticket?, List.getElem?_concat_length] at ha
    cases ha

end Stepwise.Bridge
