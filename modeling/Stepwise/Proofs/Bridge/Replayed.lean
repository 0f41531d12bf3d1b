import Stepwise.Proofs.Bridge.Agreement
import Stepwise.Proofs.Table

namespace Stepwise

/-- The step that an event puts a question of. -/
def Event.asked? : Event → Option String
  | .prompt step _ _ | .choice step _ _ => some step
  | _ => none

theorem Question.asked?_event (q : Question) (step : String) :
    (q.event step).asked? = some step := by
  cases q <;> rfl

theorem Question.asked?_replayNotice (q : Question) (step : String) :
    (q.replayNotice step).asked? = none := by
  cases q <;> rfl

variable {α : Type} {blank : α} {seed : Table α}

theorem Bridge.length_tickets_register {b : Bridge α} {step : String} {kind : Question.Kind}
    {t : Nat} {change : Bridge.Change α} (hregister : b.register step kind = some (t, change)) :
    change.bridge.tickets.length = b.tickets.length + 1 := by
  unfold Bridge.register at hregister
  split at hregister
  · cases hregister
  · obtain ⟨_, rfl⟩ := Prod.mk.inj (Option.some.inj hregister)
    simp only [Bridge.forget, List.length_append, List.length_singleton]
    cases b.pending? step with
    | none => rfl
    | some stale => rw [(b.retracts_cancel stale.ticket).length]

theorem Bridge.isClosed_of_register {b : Bridge α} {step : String} {kind : Question.Kind}
    (hregister : b.register step kind = none) : b.isClosed = true := by
  unfold Bridge.register at hregister
  split at hregister
  next hclosed => exact hclosed
  next => cases hregister

namespace Switchboard

/-- Every question that is told, or on its way, is of a step that `P` holds of. -/
structure Tells (P : String → Prop) (s : Switchboard α) : Prop where
  told : ∀ e ∈ s.events, ∀ step, e.asked? = some step → P step
  announced : ∀ q ∈ s.inquiries, ∀ e aim, q.phase = .announcing e aim →
    ∀ step, e.asked? = some step → P step

namespace Tells

variable {P : String → Prop} {s : Switchboard α}

theorem mono {P' : String → Prop} (h : s.Tells P) (himp : ∀ step, P step → P' step) :
    s.Tells P' :=
  ⟨fun e he step hstep => himp step (h.told e he step hstep),
    fun q hq e aim hphase step hstep => himp step (h.announced q hq e aim hphase step hstep)⟩

theorem event (h : s.Tells P) {e : Event} (he : ∀ step, e.asked? = some step → P step) :
    Tells P { s with events := s.events ++ [e] } := by
  refine ⟨fun e' he' => ?_, h.announced⟩
  rcases List.mem_append.1 he' with hold | hnew
  · exact h.told e' hold
  · exact List.mem_singleton.1 hnew ▸ he

theorem mem_modify {i : Nat} {f : Inquiry α → Inquiry α} {q : Inquiry α}
    (hq : q ∈ s.inquiries.modify i f) : q ∈ s.inquiries ∨ ∃ q₀ ∈ s.inquiries, q = f q₀ := by
  obtain ⟨i', hq⟩ := List.mem_iff_getElem?.1 hq
  by_cases heq : i = i'
  · subst heq
    rw [List.getElem?_modify_eq] at hq
    obtain ⟨q₀, hq₀, rfl⟩ := Option.map_eq_some_iff.1 hq
    exact .inr ⟨q₀, List.mem_of_getElem? hq₀, rfl⟩
  · rw [List.getElem?_modify_ne _ _ heq] at hq
    exact .inl (List.mem_of_getElem? hq)

theorem setPhase (h : s.Tells P) (i : Nat) {phase : Inquiry.Phase α}
    (hphase : ∀ e aim, phase = .announcing e aim → ∀ step, e.asked? = some step → P step) :
    (s.setPhase i phase).Tells P := by
  refine ⟨h.told, fun q hq => ?_⟩
  rcases mem_modify hq with hold | ⟨q₀, _, rfl⟩
  · exact h.announced q hold
  · exact hphase

theorem setPhase_cancelled (h : s.Tells P) (i : Nat) : (s.setPhase i .cancelled).Tells P := by
  refine h.setPhase i ?_
  rintro _ _ ⟨⟩

theorem await (h : s.Tells P) (i ticket : Nat) : (s.await i ticket).Tells P := by
  refine h.setPhase i fun e aim hphase => ?_
  split at hphase <;> cases hphase

theorem reach (h : s.Tells P) (i : Nat) (step : String) (aim : Inquiry.Aim) :
    (s.reach i step aim).Tells P := by
  cases aim with
  | await ticket => exact h.await i ticket
  | retrieve =>
    refine h.setPhase i fun e aim hphase => ?_
    split at hphase <;> cases hphase

theorem announce (h : s.Tells P) (i : Nat) (step : String) {e : Event} (aim : Inquiry.Aim)
    (he : ∀ step, e.asked? = some step → P step) : (s.announce i step e aim).Tells P := by
  unfold Switchboard.announce
  split
  · exact (h.event he).reach i step aim
  · refine Tells.setPhase (s := { s with line := s.line ++ [i] }) ⟨h.told, h.announced⟩ i ?_
    rintro e' aim' ⟨⟩
    exact he
  · exact h.setPhase i nofun

theorem apply (h : s.Tells P) (change : Bridge.Change α) : (s.apply change).Tells P :=
  ⟨h.told, h.announced⟩

theorem flag (h : s.Tells P) (i : Nat) : (s.flag i).Tells P := by
  refine ⟨h.told, fun q hq => ?_⟩
  rcases mem_modify hq with hold | ⟨q₀, hq₀, rfl⟩
  · exact h.announced q hold
  · exact h.announced q₀ hq₀

theorem cancel (h : s.Tells P) (i : Nat) : (s.cancel i).Tells P := by
  unfold Switchboard.cancel
  split
  · exact h
  · split
    · exact h
    · exact h
    · exact h
    · exact h.flag i
    · exact h.flag i
    · split
      · exact h.apply _
      · exact h.flag i

theorem inquire (h : s.Tells P) (step : String) (question : Question) :
    (s.inquire step question).Tells P := by
  refine ⟨h.told, fun q hq => ?_⟩
  rcases List.mem_append.1 hq with hold | hnew
  · exact h.announced q hold
  · rw [List.mem_singleton.1 hnew]
    exact nofun

end Tells

/-- The inquiry is about to put its question, which has no answer yet. -/
structure IsDue (s : Switchboard α) (i : Nat) (q : Inquiry α) : Prop where
  found : s.inquiries[i]? = some q
  new : q.phase = .new
  unflagged : q.isFlagged = false
  unanswered : s.bridge.replay? q.step = none

/-- A question is put, unless it is on record or the bridge is closed, which leaves the bridge as
    it is. -/
theorem put_cases {P : String → Prop} {s : Switchboard α} (h : s.Tells P) (i : Nat)
    (q : Inquiry α) :
    ((s.put i q).bridge = s.bridge ∧ (s.put i q).Tells P ∧
      (s.bridge.replay? q.step = none → s.bridge.isClosed = true)) ∨
    ∃ t change, s.bridge.replay? q.step = none ∧
      s.bridge.register q.step q.question.kind = some (t, change) ∧
      s.put i q = (s.apply change).announce i q.step (q.question.event q.step) (.await t) := by
  unfold put
  cases hreplay : s.bridge.replay? q.step with
  | some a =>
    have hnotice : ∀ step, (q.question.replayNotice q.step).asked? = some step → P step := by
      intro step hstep
      rw [Question.asked?_replayNotice] at hstep
      cases hstep
    obtain ⟨_, hgoes, _⟩ := announce_goes s i q.step (q.question.replayNotice q.step) .retrieve
    refine .inl ⟨hgoes.1, h.announce i q.step .retrieve hnotice, ?_⟩
    rintro ⟨⟩
  | none =>
    cases hregister : s.bridge.register q.step q.question.kind with
    | none =>
      have hclosed : s.bridge.isClosed = true := Bridge.isClosed_of_register hregister
      exact .inl ⟨rfl, h.setPhase_cancelled i, fun _ => hclosed⟩
    | some put =>
      obtain ⟨t, change⟩ := put
      exact .inr ⟨t, change, rfl, rfl, rfl⟩

/-- An inquiry that goes on leaves the bridge as it is, or puts its question. Only a closed bridge
    keeps it from doing so when it is due. -/
theorem resume_cases {P : String → Prop} {s : Switchboard α} (h : s.Tells P) (i : Nat) :
    ((s.resume i).bridge = s.bridge ∧ (s.resume i).Tells P ∧
      ∀ q, s.IsDue i q → s.bridge.isClosed = true) ∨
    ∃ q t change, s.IsDue i q ∧ s.bridge.register q.step q.question.kind = some (t, change) ∧
      s.resume i = (s.apply change).announce i q.step (q.question.event q.step) (.await t) := by
  have hcancelled : (s.setPhase i .cancelled).Tells P := h.setPhase_cancelled i
  simp only [resume]
  cases hq : s.inquiries[i]? with
  | none =>
    refine .inl ⟨rfl, h, fun q hdue => ?_⟩
    cases hq.symm.trans hdue.found
  | some q =>
    have honly : ∀ q', s.IsDue i q' → q' = q :=
      fun q' hdue => Option.some.inj (hdue.found.symm.trans hq)
    have hlater : q.phase ≠ .new → ∀ q', s.IsDue i q' → s.bridge.isClosed = true := by
      intro hphase q' hdue
      exact absurd (honly q' hdue ▸ hdue.new) hphase
    have hflagged : q.isFlagged = true → ∀ q', s.IsDue i q' → s.bridge.isClosed = true := by
      intro hflag q' hdue
      obtain rfl := honly q' hdue
      cases hflag.symm.trans hdue.unflagged
    dsimp only
    cases hphase : q.phase with
    | returned _ | cancelled | failed _ => exact .inl ⟨rfl, h, hlater (by simp [hphase])⟩
    | waiting t =>
      have hlater := hlater (by simp [hphase])
      cases q.isFlagged with
      | true => exact .inl ⟨rfl, hcancelled, hlater⟩
      | false => exact .inl ⟨rfl, h.await i t, hlater⟩
    | announcing event aim =>
      have hlater := hlater (by simp [hphase])
      cases q.isFlagged with
      | true => exact .inl ⟨rfl, hcancelled, hlater⟩
      | false =>
        have hevent := h.announced q (List.mem_of_getElem? hq) event aim hphase
        obtain ⟨_, hgoes, _⟩ :=
          reach_goes { s with events := s.events ++ [event] } i q.step aim
        exact .inl ⟨hgoes.1, (h.event hevent).reach i q.step aim, hlater⟩
    | new =>
      cases hflag : q.isFlagged with
      | true => exact .inl ⟨rfl, hcancelled, hflagged hflag⟩
      | false =>
        rcases put_cases h i q with ⟨hbridge, htells, hclosed⟩ |
          ⟨t, change, hunanswered, hregister, hput⟩
        · refine .inl ⟨hbridge, htells, fun q' hdue => ?_⟩
          obtain rfl := honly q' hdue
          exact hclosed hdue.unanswered
        · exact .inr ⟨q, t, change, ⟨hq, hphase, hflag, hunanswered⟩, hregister, hput⟩

end Switchboard

open Switchboard

namespace Journal

/-- The step had an answer to begin with, or was given one since. -/
def Knows (seed : Table α) (j : Journal α) (step : String) : Prop :=
  step ∈ seed.names ∨ ∃ g ∈ j.grants, g.step = step

/-- A question of the step was put. -/
def Asked (j : Journal α) (step : String) : Prop :=
  ∃ r ∈ j.posed, r.step = step

variable {j : Journal α}

/-- An inquiry that goes on leaves the bridge as it is, or puts its question. Only a closed bridge
    keeps it from doing so when it is due. -/
theorem wake_cases {P : String → Prop} (h : j.board.Tells P) (i : Nat) :
    ((j.note blank (.wake i)).posed = j.posed ∧ (j.note blank (.wake i)).board.Tells P ∧
      ∀ q, j.board.IsDue i q → j.board.bridge.isClosed = true) ∨
    ∃ q t change, j.board.IsDue i q ∧
      (j.note blank (.wake i)).posed = j.posed ++ [⟨i, q.step, q.question.kind⟩] ∧
      (j.note blank (.wake i)).board =
        (apply { j.board with line := j.board.line.erase i } change).announce i q.step
          (q.question.event q.step) (.await t) := by
  have htells : Tells P { j.board with line := j.board.line.erase i } := ⟨h.told, h.announced⟩
  have hdueIff : ∀ q, IsDue { j.board with line := j.board.line.erase i } i q ↔ j.board.IsDue i q :=
    fun q => ⟨fun ⟨hq, hnew, hflag, hnone⟩ => ⟨hq, hnew, hflag, hnone⟩,
      fun ⟨hq, hnew, hflag, hnone⟩ => ⟨hq, hnew, hflag, hnone⟩⟩
  rcases resume_cases htells i with ⟨hbridge, hkept, hclosed⟩ |
    ⟨q, t, change, hdue, hregister, hresume⟩
  · have hbridge : (j.board.move blank (.wake i)).bridge = j.board.bridge := hbridge
    refine .inl ⟨?_, hkept, fun q hdue => hclosed q ((hdueIff q).2 hdue)⟩
    simp [note, puts, hbridge]
  · have hboard : j.board.move blank (.wake i) =
        (apply { j.board with line := j.board.line.erase i } change).announce i q.step
          (q.question.event q.step) (.await t) := hresume
    have hlonger : j.board.bridge.tickets.length <
        (j.board.move blank (.wake i)).bridge.tickets.length := by
      obtain ⟨_, hgoes, _⟩ := announce_goes
        (apply { j.board with line := j.board.line.erase i } change) i q.step
        (q.question.event q.step) (.await t)
      have hlength := Bridge.length_tickets_register hregister
      rw [hboard, hgoes.1]
      exact Nat.lt_of_succ_le (Nat.le_of_eq hlength.symm)
    have hq := ((hdueIff q).1 hdue).found
    refine .inr ⟨q, t, change, (hdueIff q).1 hdue, ?_, hboard⟩
    simp [note, puts, hlonger, hq]

/-- A question that a move puts is of the inquiry that goes on. -/
theorem posed_note (j : Journal α) (m : Move α) : (j.note blank m).posed = j.posed ∨
    ∃ i q, j.board.inquiries[i]? = some q ∧
      (j.note blank m).posed = j.posed ++ [⟨i, q.step, q.question.kind⟩] := by
  cases m with
  | wake i =>
    have hany : j.board.Tells fun _ => True :=
      ⟨fun _ _ _ _ => trivial, fun _ _ _ _ _ _ _ => trivial⟩
    rcases wake_cases hany i with ⟨hposed, _⟩ | ⟨q, _, _, hdue, hposed, _⟩
    · exact .inl hposed
    · exact .inr ⟨i, q, hdue.found, hposed⟩
  | inquire | respond | cancel | close | deliver => exact .inl (List.append_nil _)

/-- Only what was put is told. -/
theorem tells_note (h : j.board.Tells j.Asked) (m : Move α) :
    (j.note blank m).board.Tells (j.note blank m).Asked := by
  have hgrows : ∀ step, j.Asked step → (j.note blank m).Asked step := by
    rintro step ⟨r, hr, hstep⟩
    exact ⟨r, List.mem_append_left _ hr, hstep⟩
  have hmono := h.mono hgrows
  cases m with
  | wake i =>
    rcases wake_cases hmono i with ⟨_, hkept, _⟩ | ⟨q, t, change, _, hposed, hboard⟩
    · exact hkept
    · have hlast : (j.note blank (.wake i)).Asked q.step :=
        ⟨_, hposed ▸ List.mem_append_right _ (List.mem_singleton_self _), rfl⟩
      have hline : Tells (j.note blank (.wake i)).Asked
          { j.board with line := j.board.line.erase i } := ⟨hmono.told, hmono.announced⟩
      rw [hboard]
      refine (hline.apply change).announce i q.step _ fun step hstep => ?_
      rw [Question.asked?_event] at hstep
      exact Option.some.inj hstep ▸ hlast
  | inquire step question => exact hmono.inquire step question
  | respond step r => exact hmono.apply _
  | cancel i => exact hmono.cancel i
  | close => exact hmono.apply _
  | deliver delivery => exact ⟨hmono.told, hmono.announced⟩

/-- Nothing is told to begin with. -/
theorem tells_start {replays : Bool} {seed : Table α} {delivery : Delivery} (P : String → Prop) :
    (start replays seed delivery).board.Tells P :=
  ⟨List.forall_mem_nil _, List.forall_mem_nil _⟩

theorem tells_run (h : j.board.Tells j.Asked) (moves : List (Move α)) :
    (j.run blank moves).board.Tells (j.run blank moves).Asked := by
  induction moves generalizing j with
  | nil => exact h
  | cons m rest ih => exact ih (tells_note h m)

namespace Coherent

/-- The steps that have an answer are those that are known. -/
theorem mem_names_iff (h : j.Coherent seed) {step : String} :
    step ∈ j.board.bridge.answers.names ↔ j.Knows seed step := by
  have hanswers : j.board.bridge.answers =
      seed.insertAll (j.grants.map fun g => (g.step, g.answer)) := h.ledger.answers
  rw [hanswers, Table.mem_names_insertAll]
  simp [Knows]

theorem replay?_eq_none_iff (h : j.Coherent seed) (hreplays : j.board.bridge.replays = true)
    {step : String} : j.board.bridge.replay? step = none ↔ ¬ j.Knows seed step := by
  rw [← h.mem_names_iff, Table.mem_names_iff, Bridge.replay?_eq_none_iff, hreplays]
  simp [← Option.isSome_iff_exists]

end Coherent

/-- No bridge that replays asks what it knows to begin with. -/
def SparesSeed (seed : Table α) (j : Journal α) : Prop :=
  ∀ step, j.Asked step → step ∉ seed.names

theorem sparesSeed_note (h : j.Coherent seed) (hreplays : j.board.bridge.replays = true)
    (hspares : j.SparesSeed seed) (m : Move α) : (j.note blank m).SparesSeed seed := by
  cases m with
  | wake i =>
    have hany : j.board.Tells fun _ => True :=
      ⟨fun _ _ _ _ => trivial, fun _ _ _ _ _ _ _ => trivial⟩
    rintro step ⟨r, hr, rfl⟩
    rcases wake_cases hany i with ⟨hposed, _⟩ | ⟨q, _, _, hdue, hposed, _⟩
    · rw [hposed] at hr
      exact hspares _ ⟨r, hr, rfl⟩
    · rw [hposed] at hr
      rcases List.mem_append.1 hr with hold | hnew
      · exact hspares _ ⟨r, hold, rfl⟩
      · obtain rfl := List.mem_singleton.1 hnew
        exact fun hseed => (h.replay?_eq_none_iff hreplays).1 hdue.unanswered (.inl hseed)
  | inquire | respond | cancel | close | deliver =>
    rintro step ⟨r, hr, rfl⟩
    exact hspares _ ⟨r, (List.append_nil j.posed) ▸ hr, rfl⟩

theorem sparesSeed_run (h : j.Coherent seed) (hreplays : j.board.bridge.replays = true)
    (hspares : j.SparesSeed seed) (moves : List (Move α)) :
    (j.run blank moves).SparesSeed seed := by
  induction moves generalizing j with
  | nil => exact hspares
  | cons m rest ih =>
    obtain ⟨hnote, hgrows⟩ : (j.note blank m).Coherent seed ∧ _ := h.note m
    exact ih hnote (hgrows.replays.trans hreplays) (sparesSeed_note h hreplays hspares m)

/-- What a bridge that replays asks, and what it answers of itself. -/
structure Replays (blank : α) (seed : Table α) (j : Journal α) : Prop where
  /-- An inquiry that put no question returns the answer of a step that is known. -/
  known : ∀ (i : Nat) q a, j.board.inquiries[i]? = some q → q.phase = .returned a →
    (∀ r ∈ j.posed, r.inquiry ≠ i) →
      j.Knows seed q.step ∧ j.board.bridge.answers.get? q.step = some a
  /-- Only questions that were put are told. -/
  told : ∀ e ∈ j.board.events, ∀ step, e.asked? = some step → j.Asked step
  /-- No question of a step that is known from the beginning is put. -/
  seeded : ∀ step, j.Asked step → step ∉ seed.names
  /-- An inquiry that comes to a step that is known puts no question there. -/
  spared : ∀ (i : Nat) q, j.board.inquiries[i]? = some q → j.Knows seed q.step →
    (j.note blank (.wake i)).posed = j.posed
  /-- An inquiry that comes to a step that is not known puts its question there. -/
  fresh : ∀ (i : Nat) q, j.board.inquiries[i]? = some q → q.phase = .new → q.isFlagged = false →
    j.board.bridge.isClosed = false → ¬ j.Knows seed q.step →
      (j.note blank (.wake i)).posed = j.posed ++ [⟨i, q.step, q.question.kind⟩] ∧
      (j.board.delivery = .immediate →
        (j.note blank (.wake i)).board.events = j.board.events ++ [q.question.event q.step])

theorem events_announce_of_immediate (s : Switchboard α) (i : Nat) (step : String) (event : Event)
    (aim : Inquiry.Aim) (hdelivery : s.delivery = .immediate) :
    (s.announce i step event aim).events = s.events ++ [event] := by
  simp only [announce, hdelivery]
  cases aim <;> rfl

theorem Coherent.replays (h : j.Coherent seed) (hreplays : j.board.bridge.replays = true)
    (htells : j.board.Tells j.Asked) (hspares : j.SparesSeed seed) : j.Replays blank seed where
  known i q a hq hphase hnone := by
    rcases h.returned hq hphase with ⟨_, _, hstored⟩ | ⟨t, hown, _⟩
    · exact ⟨h.mem_names_iff.1 (Table.mem_names_iff.2 ⟨a, hstored⟩), hstored⟩
    · exact absurd rfl (hnone _ (List.mem_of_getElem? hown))
  told := htells.told
  seeded := hspares
  spared i q hq hknown := by
    rcases wake_cases htells i with ⟨hposed, _⟩ | ⟨q', _, _, hdue, _⟩
    · exact hposed
    · obtain rfl := Option.some.inj (hq.symm.trans hdue.found)
      exact absurd hknown ((h.replay?_eq_none_iff hreplays).1 hdue.unanswered)
  fresh i q hq hphase hflag hopen hunknown := by
    have hdue : j.board.IsDue i q :=
      ⟨hq, hphase, hflag, (h.replay?_eq_none_iff hreplays).2 hunknown⟩
    rcases wake_cases htells i with ⟨_, _, hclosed⟩ | ⟨q', t, change, hdue', hposed, hboard⟩
    · exact nomatch hopen.symm.trans (hclosed q hdue)
    · obtain rfl := Option.some.inj (hq.symm.trans hdue'.found)
      refine ⟨hposed, fun hdelivery => ?_⟩
      rw [hboard]
      exact events_announce_of_immediate _ i _ _ _ hdelivery

/-- Whatever happens on a bridge that replays, it asks at a step just as long as it has no answer
    for it, be it one that it began with or one that it was given since. -/
theorem replays_run (blank : α) (seed : Table α) (delivery : Delivery)
    (moves : List (Switchboard.Move α)) :
    ((start true seed delivery).run blank moves).Replays blank seed := by
  have h := coherent_start true seed delivery
  obtain ⟨hcoherent, hgrows⟩ : ((start true seed delivery).run blank moves).Coherent seed ∧ _ :=
    h.run moves
  exact hcoherent.replays hgrows.replays (tells_run (tells_start _) moves)
    (sparesSeed_run h rfl nofun moves)

/-- A step that was answered a moment ago is not asked again, although the bridge began with no
    answers at all: the second inquiry returns the answer that the first one was given. -/
theorem replays_live_answer :
    let j := (start true (.empty : Table String) .immediate).run ""
      [.inquire "again" (.prompt "Name?" none), .wake 0, .respond "again" (.prompt (some "Ann")),
        .wake 0, .inquire "again" (.prompt "Name?" none), .wake 1]
    (j.board.inquiries.map Inquiry.step = ["again", "again"] ∧
      j.board.inquiries.map Inquiry.phase = [.returned "Ann", .returned "Ann"]) ∧
    j.posed.map Posed.inquiry = [0] ∧ "again" ∉ (.empty : Table String).names ∧
    j.board.events.map Event.asked? = [some "again", none] := by
  refine ⟨⟨rfl, rfl⟩, rfl, ?_, rfl⟩
  exact nofun

end Journal

end Stepwise
