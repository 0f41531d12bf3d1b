import Stepwise.Proofs.Bridge.Retract

namespace Stepwise.Bridge

variable {α : Type} {b b' b'' : Bridge α} {t : Nat}

/-- No question can be answered, and none waits for an answer. -/
structure Calm (b : Bridge α) : Prop where
  pending : b.pending = []
  settled : ∀ t, ¬ b.isUnsettled t

/-- The question of this ticket can be answered, and no other. -/
structure Asks (b : Bridge α) (t : Nat) : Prop where
  pending : ∃ p, b.pending = [p] ∧ p.ticket = t
  unsettled : b.isUnsettled t
  only : ∀ t', b.isUnsettled t' → t' = t
  isOpen : b.isClosed = false

/-- The one question that may be open is that of this ticket. It is cancelled only if the bridge
    is closed. -/
inductive Serves (b : Bridge α) (t : Nat) : Prop where
  | asked (hasks : b.Asks t)
  | answered (a : α) (hcalm : b.Calm) (hticket : b.ticket? t = some (.answered a))
  | cancelled (hcalm : b.Calm) (hticket : b.ticket? t = some .cancelled) (hclosed : b.isClosed)

theorem Calm.notServesUnsettled (h : b.Calm) (t : Nat) : b.ticket? t ≠ some .unsettled :=
  fun hticket => h.settled t (isUnsettled_iff.2 hticket)

theorem calm_start (replays : Bool) (answers : Table α) : (start replays answers).Calm :=
  ⟨rfl, fun _ hunsettled => nomatch isUnsettled_iff.1 hunsettled⟩

theorem calm_close (hpending : ∀ t, b.isUnsettled t → t ∈ b.pending.map Pending.ticket) :
    b.close.bridge.Calm := by
  refine ⟨rfl, fun t hunsettled => ?_⟩
  have hbefore := b.retracts_close.isUnsettled hunsettled
  exact b.not_isUnsettled_cancelAll (hpending t hbefore) hunsettled

theorem Calm.close (h : b.Calm) : b.close.bridge.Calm :=
  calm_close fun t hunsettled => absurd hunsettled (h.settled t)

theorem Asks.calm_close (h : b.Asks t) : b.close.bridge.Calm := by
  refine Bridge.calm_close fun t' hunsettled => ?_
  obtain ⟨p, hpending, rfl⟩ := h.pending
  simp [hpending, h.only t' hunsettled]

theorem Serves.close (h : b.Serves t) : b.close.bridge.Serves t := by
  cases h with
  | asked hasks =>
    refine .cancelled hasks.calm_close ?_ rfl
    rcases b.retracts_close.ticket t with hsame | ⟨_, hcancelled⟩
    · exact absurd (hsame.trans (isUnsettled_iff.1 hasks.unsettled))
        (hasks.calm_close.notServesUnsettled t)
    · exact hcancelled
  | answered a hcalm hticket =>
    exact .answered a hcalm.close (b.retracts_close.settled hticket nofun)
  | cancelled hcalm hticket hclosed =>
    exact .cancelled hcalm.close (b.retracts_close.settled hticket nofun) rfl

/-- What may become of a bridge while its run does not go on. -/
structure Follows (b b' : Bridge α) : Prop where
  calm : b.Calm → b'.Calm
  serves : ∀ t, b.Serves t → b'.Serves t
  replays : b'.replays = b.replays
  closed : b.isClosed → b'.isClosed ∧ b'.answers = b.answers

namespace Follows

theorem refl (b : Bridge α) : b.Follows b :=
  ⟨id, fun _ => id, rfl, fun hclosed => ⟨hclosed, rfl⟩⟩

end Follows

theorem follows_close (b : Bridge α) : b.Follows b.close.bridge where
  calm := Calm.close
  serves _ := Serves.close
  replays := b.retracts_close.replays
  closed _ := ⟨rfl, b.retracts_close.answers⟩

theorem Calm.answer_eq (h : b.Calm) (step : String) (kind : Question.Kind) (a : α) :
    b.answer step kind a = (false, ⟨b, []⟩) := by
  simp [answer, pending?, h.pending]

/-- An answer that fits its question leaves none open. -/
theorem Asks.answer_cases (h : b.Asks t) (step : String) (kind : Question.Kind) (a : α) :
    (b.answer step kind a).2.bridge = b ∨
    (b.answer step kind a).2.bridge.Calm ∧
      (b.answer step kind a).2.bridge.ticket? t = some (.answered a) := by
  obtain ⟨p, hpending, rfl⟩ := h.pending
  rcases b.answer_cases step kind a with ⟨b', hrefused, hsame⟩ | ⟨q, hq, _, _, haccepted⟩
  · refine .inl ?_
    rw [hrefused]
    rcases hsame with rfl | ⟨_, q, hq, hsettled⟩
    · rfl
    · obtain ⟨hmem, _⟩ := mem_of_pending? hq
      rw [hpending, List.mem_singleton] at hmem
      exact absurd h.unsettled (hmem ▸ hsettled)
  · obtain ⟨hmem, rfl⟩ := mem_of_pending? hq
    rw [hpending, List.mem_singleton] at hmem
    subst hmem
    have hticket := getElem?_set_tickets h.unsettled (.answered a)
    rw [haccepted]
    refine .inr ⟨⟨by simp [forget, hpending], fun t hunsettled => ?_⟩, (hticket _).trans (if_pos rfl)⟩
    rw [isUnsettled_iff, ticket?, hticket] at hunsettled
    split at hunsettled
    · cases hunsettled
    next hne => exact hne (h.only t (isUnsettled_iff.2 hunsettled)).symm

theorem replays_answer (b : Bridge α) (step : String) (kind : Question.Kind) (a : α) :
    (b.answer step kind a).2.bridge.replays = b.replays ∧
      (b.answer step kind a).2.bridge.isClosed = b.isClosed := by
  rcases b.answer_cases step kind a with ⟨b', hrefused, rfl | ⟨rfl, _⟩⟩ | ⟨q, _, _, _, haccepted⟩
  · rw [hrefused]
    exact ⟨rfl, rfl⟩
  · rw [hrefused]
    exact ⟨rfl, rfl⟩
  · rw [haccepted]
    exact ⟨rfl, rfl⟩

/-- Only the question at which a run stands can be answered. -/
inductive Steady (b : Bridge α) : Prop where
  | calm (hcalm : b.Calm)
  | asks (t : Nat) (hasks : b.Asks t)

theorem Serves.steady (h : b.Serves t) : b.Steady := by
  cases h with
  | asked hasks => exact .asks t hasks
  | answered a hcalm => exact .calm hcalm
  | cancelled hcalm => exact .calm hcalm

theorem Steady.calm_close (h : b.Steady) : b.close.bridge.Calm := by
  cases h with
  | calm hcalm => exact hcalm.close
  | asks t hasks => exact hasks.calm_close

/-- The question of this ticket may be open, and else none is. -/
def Expects (b : Bridge α) : Option Nat → Prop
  | some t => b.Serves t
  | none => b.Calm

theorem Expects.steady {ticket : Option Nat} (h : b.Expects ticket) : b.Steady := by
  cases ticket with
  | none => exact .calm h
  | some t => exact Serves.steady h

/-- No question is open on a closed bridge. -/
theorem Expects.calm {ticket : Option Nat} (h : b.Expects ticket) (hclosed : b.isClosed = true) :
    b.Calm := by
  cases ticket with
  | none => exact h
  | some t =>
    cases h with
    | asked hasks => exact nomatch hasks.isOpen.symm.trans hclosed
    | answered a hcalm | cancelled hcalm => exact hcalm

theorem Follows.expects {ticket : Option Nat} (h : b.Follows b') (hexpects : b.Expects ticket) :
    b'.Expects ticket := by
  cases ticket with
  | none => exact h.calm hexpects
  | some t => exact h.serves t hexpects

theorem follows_answer (hsteady : b.Steady) (step : String) (kind : Question.Kind) (a : α) :
    b.Follows (b.answer step kind a).2.bridge := by
  obtain ⟨hreplays, hclosed⟩ := b.replays_answer step kind a
  cases hsteady with
  | calm hcalm =>
    rw [hcalm.answer_eq]
    exact .refl b
  | asks t hasks =>
    rcases hasks.answer_cases step kind a with hsame | ⟨hcalm, hticket⟩
    · rw [hsame]
      exact .refl b
    · refine ⟨fun _ => hcalm, fun t' hserves => ?_, hreplays, fun hclosed => ?_⟩
      · cases hserves with
        | asked hasks' =>
          obtain rfl := hasks.only t' hasks'.unsettled
          exact .answered a hcalm hticket
        | answered _ hcalm' => exact absurd hasks.unsettled (hcalm'.settled t)
        | cancelled hcalm' => exact absurd hasks.unsettled (hcalm'.settled t)
      · rw [hasks.isOpen] at hclosed
        cases hclosed

/-- An open bridge on which nothing is asked puts any question, and then asks it. -/
theorem Calm.register_eq (h : b.Calm) (hopen : b.isClosed = false) (step : String)
    (kind : Question.Kind) :
    ∃ b', b.register step kind = some (b.tickets.length, ⟨b', []⟩) ∧
      b'.Asks b.tickets.length ∧ b'.replays = b.replays ∧ b'.answers = b.answers := by
  refine ⟨{ b with
    pending := [⟨step, kind, b.tickets.length⟩]
    tickets := b.tickets ++ [.unsettled] }, ?_, ?_, rfl, rfl⟩
  · simp [register, pending?, forget, hopen, h.pending]
  · refine ⟨⟨_, rfl, rfl⟩, isUnsettled_iff.2 List.getElem?_concat_length, fun t hunsettled => ?_,
      hopen⟩
    have hticket := isUnsettled_iff.1 hunsettled
    simp only [ticket?, List.getElem?_append] at hticket
    split at hticket
    · exact absurd (isUnsettled_iff.2 hticket) (h.settled t)
    next hlength =>
      have hlt := (List.getElem?_eq_some_iff.1 hticket).1
      simp only [List.length_singleton] at hlt
      omega

theorem register_of_isClosed (hclosed : b.isClosed) (step : String) (kind : Question.Kind) :
    b.register step kind = none := by
  simp [register, hclosed]

end Stepwise.Bridge
