import Stepwise.Proofs.Bridge.Agreement
import Stepwise.Proofs.Bridge.Calm

namespace Stepwise

variable {α : Type} {blank : α} {seed : Table α}

namespace Bridge

variable {b : Bridge α}

theorem Calm.cancel_eq (h : b.Calm) (t : Nat) : b.cancel t = ⟨b, []⟩ :=
  if_neg (h.settled t)

theorem Calm.close_eq (h : b.Calm) (hclosed : b.isClosed = true) : b.close = ⟨b, []⟩ := by
  obtain ⟨replays, answers, pending, tickets, isClosed⟩ := b
  obtain rfl : pending = [] := h.pending
  obtain rfl : isClosed = true := hclosed
  rfl

end Bridge

/-- Where an inquiry can stand that was made at a closed bridge. It gets an answer only if there is
    one on record for its step. -/
inductive Inquiry.IsLate (b : Bridge α) (q : Inquiry α) : Prop where
  | new (hphase : q.phase = .new)
  | refused (hphase : q.phase = .cancelled) (hnone : b.replay? q.step = none)
  | dropped (hphase : q.phase = .cancelled) (hflag : q.isFlagged = true)
  | announcing (a : α) (hstored : b.replay? q.step = some a)
      (hphase : q.phase = .announcing (q.question.replayNotice q.step) .retrieve)
  | returned (a : α) (hstored : b.replay? q.step = some a) (hphase : q.phase = .returned a)
  | failed (a : α) (hstored : b.replay? q.step = some a) (fault : HostFault)
      (hphase : q.phase = .failed fault)

namespace Switchboard

variable {s closed : Switchboard α} {i : Nat} {q : Inquiry α}

@[simp]
theorem apply_nil (s : Switchboard α) : s.apply ⟨s.bridge, []⟩ = s := by
  simp [apply]

/-- What a surface may still be told when a bridge is closed: an event that is on its way to it,
    and that an answer on record is replayed. -/
inductive Owes (closed : Switchboard α) (e : Event) : Prop where
  | announced (q : Inquiry α) (hq : q ∈ closed.inquiries) (aim : Inquiry.Aim)
      (hphase : q.phase = .announcing e aim)
  | replayed (step : String) (question : Question) (a : α)
      (hstored : closed.bridge.replay? step = some a) (hnotice : e = question.replayNotice step)

/-- What has become of a switchboard since its bridge was closed. -/
structure Rests (closed s : Switchboard α) : Prop where
  bridge : s.bridge = closed.bridge
  told : ∃ late, s.events = closed.events ++ late ∧ ∀ e ∈ late, closed.Owes e
  announced : ∀ q ∈ s.inquiries, ∀ e aim, q.phase = .announcing e aim → closed.Owes e
  longer : closed.inquiries.length ≤ s.inquiries.length
  late : ∀ (i : Nat) q, closed.inquiries.length ≤ i → s.inquiries[i]? = some q →
    q.IsLate closed.bridge

namespace Rests

theorem refl (closed : Switchboard α) : closed.Rests closed where
  bridge := rfl
  told := ⟨[], (List.append_nil _).symm, nofun⟩
  announced q hq _ aim hphase := .announced q hq aim hphase
  longer := Nat.le_refl _
  late _ _ hlate hq :=
    absurd (List.getElem?_eq_some_iff.1 hq).1 (Nat.not_lt.2 hlate)

theorem line (h : closed.Rests s) (line : List Nat) : closed.Rests { s with line } :=
  ⟨h.bridge, h.told, h.announced, h.longer, h.late⟩

theorem event (h : closed.Rests s) {e : Event} (howes : closed.Owes e) :
    closed.Rests { s with events := s.events ++ [e] } := by
  obtain ⟨late, hevents, hlate⟩ := h.told
  refine ⟨h.bridge, ⟨late ++ [e], by simp [hevents], fun e' he' => ?_⟩, h.announced, h.longer,
    h.late⟩
  rcases List.mem_append.1 he' with hold | hnew
  · exact hlate e' hold
  · exact List.mem_singleton.1 hnew ▸ howes

/-- One inquiry changes, if there is one of this number. -/
theorem modify (h : closed.Rests s) (i : Nat) {f : Inquiry α → Inquiry α}
    (hannounced : ∀ q, s.inquiries[i]? = some q → ∀ e aim, (f q).phase = .announcing e aim →
      closed.Owes e)
    (hlate : ∀ q, s.inquiries[i]? = some q → q.IsLate closed.bridge →
      (f q).IsLate closed.bridge) :
    closed.Rests { s with inquiries := s.inquiries.modify i f } := by
  refine ⟨h.bridge, h.told, fun q' hq' => ?_, by simpa using h.longer, fun i' q' hi' hq' => ?_⟩
  · obtain ⟨i', hq'⟩ := List.mem_iff_getElem?.1 hq'
    by_cases heq : i = i'
    · subst heq
      rw [List.getElem?_modify_eq] at hq'
      obtain ⟨q, hq, rfl⟩ := Option.map_eq_some_iff.1 hq'
      exact hannounced q hq
    · rw [List.getElem?_modify_ne _ _ heq] at hq'
      exact h.announced q' (List.mem_of_getElem? hq')
  · by_cases heq : i = i'
    · subst heq
      rw [List.getElem?_modify_eq] at hq'
      obtain ⟨q, hq, rfl⟩ := Option.map_eq_some_iff.1 hq'
      exact hlate q hq (h.late i q hi' hq)
    · rw [List.getElem?_modify_ne _ _ heq] at hq'
      exact h.late i' q' hi' hq'

theorem flag (h : closed.Rests s) (i : Nat) : closed.Rests (s.flag i) := by
  refine h.modify i (fun q hq => h.announced q (List.mem_of_getElem? hq)) fun q _ hlate => ?_
  cases hlate with
  | new hphase => exact .new hphase
  | refused hphase hnone => exact .refused hphase hnone
  | dropped hphase _ => exact .dropped hphase rfl
  | announcing a hstored hphase => exact .announcing a hstored hphase
  | returned a hstored hphase => exact .returned a hstored hphase
  | failed a hstored fault hphase => exact .failed a hstored fault hphase

/-- One inquiry goes on. -/
theorem setPhase (h : closed.Rests s) (hq : s.inquiries[i]? = some q) {phase : Inquiry.Phase α}
    (hannounced : ∀ e aim, phase = .announcing e aim → closed.Owes e)
    (hlate : q.IsLate closed.bridge → { q with phase }.IsLate closed.bridge) :
    closed.Rests (s.setPhase i phase) := by
  refine h.modify i (fun _ _ => hannounced) fun q' hq' hq'late => ?_
  obtain rfl := Option.some.inj (hq.symm.trans hq')
  exact hlate hq'late

theorem await (h : closed.Rests s) (hq : s.inquiries[i]? = some q)
    (hearly : ¬ q.IsLate closed.bridge) (ticket : Nat) : closed.Rests (s.await i ticket) := by
  refine h.setPhase hq (fun e aim hphase => ?_) fun hlate => absurd hlate hearly
  split at hphase <;> cases hphase

/-- An inquiry whose event is delivered gets the answer on record, if it was made at the closed
    bridge. -/
theorem reach (h : closed.Rests s) (hq : s.inquiries[i]? = some q) {aim : Inquiry.Aim}
    (haim : q.IsLate closed.bridge →
      aim = .retrieve ∧ ∃ a, closed.bridge.replay? q.step = some a) :
    closed.Rests (s.reach i q.step aim) := by
  cases aim with
  | await ticket => exact h.await hq (fun hlate => nomatch (haim hlate).1) ticket
  | retrieve =>
    refine h.setPhase hq (fun e aim hphase => ?_) fun hlate => ?_
    · split at hphase <;> cases hphase
    · obtain ⟨_, a, hstored⟩ := haim hlate
      have hanswer : s.bridge.answers.get? q.step = some a :=
        h.bridge ▸ (Bridge.replay?_eq_some_iff.1 hstored).2
      exact .returned a hstored (by simp [hanswer])

/-- An inquiry that comes to a step whose answer is on record. -/
theorem announce (h : closed.Rests s) (hq : s.inquiries[i]? = some q) {a : α}
    (hstored : closed.bridge.replay? q.step = some a) :
    closed.Rests (s.announce i q.step (q.question.replayNotice q.step) .retrieve) := by
  have howes : closed.Owes (q.question.replayNotice q.step) :=
    .replayed q.step q.question a hstored rfl
  unfold Switchboard.announce
  split
  · exact (h.event howes).reach hq fun _ => ⟨rfl, a, hstored⟩
  · refine (h.line (s.line ++ [i])).setPhase hq (fun e aim hphase => ?_) fun _ => ?_
    · cases hphase
      exact howes
    · exact .announcing a hstored rfl
  · exact h.setPhase hq nofun fun _ => .failed a hstored _ rfl

/-- An inquiry that has not gone on yet is cancelled, unless the answer of its step is on record. -/
theorem put (h : closed.Rests s) (hclosed : closed.bridge.isClosed = true)
    (hq : s.inquiries[i]? = some q) : closed.Rests (s.put i q) := by
  have hbridge := h.bridge
  unfold Switchboard.put
  cases hreplay : s.bridge.replay? q.step with
  | some a => exact h.announce hq (hbridge ▸ hreplay)
  | none =>
    rw [Bridge.register_of_isClosed (hbridge ▸ hclosed)]
    exact h.setPhase hq nofun fun _ => .refused rfl (hbridge ▸ hreplay)

theorem resume (h : closed.Rests s) (hclosed : closed.bridge.isClosed = true) (i : Nat) :
    closed.Rests (s.resume i) := by
  simp only [Switchboard.resume]
  cases hq : s.inquiries[i]? with
  | none => exact h
  | some q =>
    have hdropped (hflag : q.isFlagged = true) : closed.Rests (s.setPhase i .cancelled) := by
      refine h.setPhase hq ?_ fun _ => .dropped rfl hflag
      rintro _ _ ⟨⟩
    dsimp only
    cases hphase : q.phase with
    | returned _ | cancelled | failed _ => exact h
    | new =>
      cases hflag : q.isFlagged with
      | true => exact hdropped hflag
      | false => exact h.put hclosed hq
    | waiting t =>
      cases hflag : q.isFlagged with
      | true => exact hdropped hflag
      | false =>
        refine h.await hq (fun hlate => ?_) t
        cases hlate <;> simp_all
    | announcing event aim =>
      cases hflag : q.isFlagged with
      | true => exact hdropped hflag
      | false =>
        have howes := h.announced q (List.mem_of_getElem? hq) event aim hphase
        refine (h.event howes).reach hq fun hlate => ?_
        cases hlate with
        | announcing a hstored hphase' =>
          cases hphase.symm.trans hphase'
          exact ⟨rfl, a, hstored⟩
        | new hphase' | refused hphase' | dropped hphase' | returned _ _ hphase'
        | failed _ _ _ hphase' => cases hphase.symm.trans hphase'

theorem inquire (h : closed.Rests s) (step : String) (question : Question) :
    closed.Rests (s.inquire step question) := by
  have hlonger := h.longer
  refine ⟨h.bridge, h.told, fun q hq => ?_, ?_, fun i q hi hq => ?_⟩
  · rcases List.mem_append.1 hq with hold | hnew
    · exact h.announced q hold
    · rw [List.mem_singleton.1 hnew]
      exact nofun
  · simp only [Switchboard.inquire, List.length_append]
    omega
  · rcases Ledger.getElem?_concat_iff.1 hq with hold | ⟨_, rfl⟩
    · exact h.late i q hi hold
    · exact .new rfl

/-- Nothing happens to a bridge that is closed, whatever is done with it. -/
theorem move (h : closed.Rests s) (hclosed : closed.bridge.isClosed = true)
    (hcalm : closed.bridge.Calm) (m : Move α) : closed.Rests (s.move blank m) := by
  have hcalm : s.bridge.Calm := h.bridge ▸ hcalm
  cases m with
  | inquire step question => exact h.inquire step question
  | respond step r =>
    have hrefused : s.respond blank step r = (false, s) := by
      simp [respond, answer, hcalm.answer_eq]
    simpa only [Switchboard.move, hrefused] using h
  | close =>
    have hsame : s.close = s := by
      rw [Switchboard.close, hcalm.close_eq (h.bridge ▸ hclosed), apply_nil]
    simpa only [Switchboard.move, hsame] using h
  | wake i => exact (h.line _).resume hclosed i
  | deliver delivery => exact ⟨h.bridge, h.told, h.announced, h.longer, h.late⟩
  | cancel i =>
    simp only [Switchboard.move, Switchboard.cancel]
    split
    · exact h
    · split
      · exact h
      · exact h
      · exact h
      · exact h.flag i
      · exact h.flag i
      · rw [if_neg (hcalm.settled _)]
        exact h.flag i

theorem foldl_move (h : closed.Rests s) (hclosed : closed.bridge.isClosed = true)
    (hcalm : closed.bridge.Calm) (moves : List (Move α)) :
    closed.Rests (moves.foldl (Switchboard.move blank) s) := by
  induction moves generalizing s with
  | nil => exact h
  | cons m rest ih => exact ih (h.move hclosed hcalm m)

end Rests

/-- An inquiry that is made at a closed bridge is cancelled as soon as it goes on, and nothing is
    told, if there is no answer on record for its step. -/
theorem resume_refused (hclosed : s.bridge.isClosed = true) (hq : s.inquiries[i]? = some q)
    (hlate : q.IsLate s.bridge) (hnone : s.bridge.replay? q.step = none) :
    (s.resume i).events = s.events ∧
      (s.resume i).inquiries[i]? = some { q with phase := .cancelled } := by
  have hcancelled : (s.setPhase i .cancelled).inquiries[i]? =
      some { q with phase := .cancelled } := by
    rw [setPhase, List.getElem?_modify_eq, hq]
    rfl
  have hover : q.phase = .cancelled → (s.resume i).events = s.events ∧
      (s.resume i).inquiries[i]? = some { q with phase := .cancelled } := by
    intro hphase
    have hsame : s.resume i = s := by simp only [resume, hq, hphase]
    rw [hsame, ← hphase]
    exact ⟨rfl, hq⟩
  cases hlate with
  | new hphase =>
    simp only [resume, hq, hphase]
    split
    · exact ⟨rfl, hcancelled⟩
    · simp only [put, hnone, Bridge.register_of_isClosed hclosed]
      exact ⟨rfl, hcancelled⟩
  | refused hphase _ | dropped hphase _ => exact hover hphase
  | announcing a hstored _ | returned a hstored _ | failed a hstored _ _ =>
    cases hnone.symm.trans hstored

/-- An inquiry that is made at a closed bridge gets the answer on record for its step, if there is
    one. -/
theorem resume_replayed (hq : s.inquiries[i]? = some q) (hphase : q.phase = .new)
    (hflag : q.isFlagged = false) {a : α} (hstored : s.bridge.replay? q.step = some a)
    (hdelivery : s.delivery = .immediate) :
    (s.resume i).events = s.events ++ [q.question.replayNotice q.step] ∧
      (s.resume i).inquiries[i]? = some { q with phase := .returned a } := by
  obtain ⟨_, hanswer⟩ := Bridge.replay?_eq_some_iff.1 hstored
  have hput : s.resume i = s.put i q := by simp [resume, hq, hphase, hflag]
  rw [hput]
  simp only [put, hstored, announce, hdelivery, reach, hanswer, setPhase,
    List.getElem?_modify_eq, hq]
  exact ⟨trivial, rfl⟩

end Switchboard

open Switchboard

namespace Journal

/-- What a bridge that is closed by now keeps to, whatever is done with it later. -/
structure TurnsAway (blank : α) (closed j : Journal α) : Prop where
  /-- It stays closed, with its answers as they are. -/
  bridge : j.board.bridge = closed.board.bridge
  isClosed : j.board.bridge.isClosed = true
  /-- There is no question that can be answered. -/
  pending : j.board.bridge.pending = []
  unanswerable : ∀ step r, j.board.respond blank step r = (false, j.board)
  /-- An inquiry that is made now gets no other answer than the one on record for its step. -/
  late : ∀ (i : Nat) q, closed.board.inquiries.length ≤ i → j.board.inquiries[i]? = some q →
    q.IsLate j.board.bridge
  /-- If there is none, it is cancelled as soon as it goes on, and the surface is told nothing. -/
  refused : ∀ (i : Nat) q, closed.board.inquiries.length ≤ i → j.board.inquiries[i]? = some q →
    j.board.bridge.replay? q.step = none →
      (j.note blank (.wake i)).board.events = j.board.events ∧
      (j.note blank (.wake i)).board.inquiries[i]? = some { q with phase := .cancelled }
  /-- If there is one, it is replayed as on a bridge that is open. -/
  replayed : ∀ (i : Nat) q a, j.board.inquiries[i]? = some q → q.phase = .new →
    q.isFlagged = false → j.board.bridge.replay? q.step = some a →
      j.board.delivery = .immediate →
      (j.note blank (.wake i)).board.events =
        j.board.events ++ [q.question.replayNotice q.step] ∧
      (j.note blank (.wake i)).board.inquiries[i]? = some { q with phase := .returned a }
  /-- The surface is told what was on its way to it, and which answers are replayed. -/
  told : ∃ late, j.board.events = closed.board.events ++ late ∧ ∀ e ∈ late, closed.board.Owes e

theorem Coherent.calm_close {j : Journal α} (h : j.Coherent seed) :
    (j.note blank .close).board.bridge.Calm := by
  refine Bridge.calm_close fun t hunsettled => ?_
  obtain ⟨p, hp, rfl⟩ := h.ledger.awaited t hunsettled
  exact List.mem_map_of_mem hp

/-- However a bridge was used before it is closed and is used later: an inquiry that comes then is
    cancelled at once, without a word to the surface, unless the answer of its step is on record
    and the bridge replays. In no case does anything change on the bridge. -/
theorem closed_run (blank : α) (replays : Bool) (seed : Table α) (delivery : Delivery)
    (earlier later : List (Move α)) :
    let closed := ((start replays seed delivery).run blank earlier).note blank .close
    closed.TurnsAway blank (closed.run blank later) := by
  intro closed
  have hcalm : closed.board.bridge.Calm :=
    ((coherent_start replays seed delivery).run earlier).1.calm_close
  have hclosed : closed.board.bridge.isClosed = true := rfl
  have hrests : closed.board.Rests (closed.run blank later).board := by
    rw [board_run]
    exact (Rests.refl _).foldl_move hclosed hcalm later
  generalize closed.run blank later = j at hrests
  have hbridge := hrests.bridge
  have hcalm' : j.board.bridge.Calm := hbridge ▸ hcalm
  have hclosed' : j.board.bridge.isClosed = true := hbridge ▸ hclosed
  have hlate : ∀ (i : Nat) q, closed.board.inquiries.length ≤ i →
      j.board.inquiries[i]? = some q → q.IsLate j.board.bridge := hbridge ▸ hrests.late
  refine ⟨hbridge, hclosed', hcalm'.pending, fun step r => ?_, hlate, fun i q hi hq hnone => ?_,
    fun i q a hq hphase hflag hstored hdelivery => ?_, hrests.told⟩
  · simp [respond, answer, hcalm'.answer_eq]
  · exact resume_refused (s := { j.board with line := j.board.line.erase i }) hclosed' hq
      (hlate i q hi hq) hnone
  · exact resume_replayed (s := { j.board with line := j.board.line.erase i }) hq hphase hflag
      hstored hdelivery

/-- A closed bridge still answers a step from its record, and tells the surface so. -/
theorem closed_replays :
    let j := (start true (Table.empty.insert "name" "Ann") .immediate).run ""
      [.close, .inquire "name" (.prompt "Name?" none), .wake 0]
    j.board.bridge.isClosed = true ∧ j.board.inquiries.map Inquiry.phase = [.returned "Ann"] ∧
      j.board.events = [.log .info "Replaying saved answer for name"] :=
  ⟨rfl, rfl, rfl⟩

end Journal

end Stepwise
