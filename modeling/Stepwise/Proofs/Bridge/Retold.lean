import Stepwise.Proofs.Bridge.Interview

namespace Stepwise

variable {α : Type} {blank : α}

namespace Switchboard

variable {s : Switchboard α} {i : Nat} {q : Inquiry α} {a : α}

theorem getElem?_setPhase (hq : s.inquiries[i]? = some q) (phase : Inquiry.Phase α) :
    (s.setPhase i phase).inquiries[i]? = some { q with phase } := by
  rw [setPhase, List.getElem?_modify_eq, hq]
  rfl

/-- An inquiry at a step that has an answer gets it at once, or once its notice is delivered. -/
theorem resume_known (hq : s.inquiries[i]? = some q) (hnew : q.phase = .new)
    (hflag : q.isFlagged = false) (hreplay : s.bridge.replay? q.step = some a) :
    ∃ phase, (s.resume i).inquiries[i]? = some { q with phase } ∧
      (phase = .returned a ∨ (∃ e, phase = .announcing e .retrieve) ∨
        ∃ f, phase = .failed f ∧ s.delivery = .failing f) := by
  have hstored := (Bridge.replay?_eq_some_iff.1 hreplay).2
  have hput : s.resume i =
      s.announce i q.step (q.question.replayNotice q.step) .retrieve := by
    simp only [resume, hq, hnew, hflag, Bool.false_eq_true, if_false, put, hreplay]
  rw [hput, announce]
  cases hdelivery : s.delivery with
  | immediate =>
    refine ⟨_, getElem?_setPhase hq _, .inl ?_⟩
    simp only [hstored]
  | deferred => exact ⟨_, getElem?_setPhase hq _, .inr (.inl ⟨_, rfl⟩)⟩
  | failing f => exact ⟨_, getElem?_setPhase hq _, .inr (.inr ⟨f, rfl, rfl⟩)⟩

theorem resume_retrieving {e : Event} (hq : s.inquiries[i]? = some q)
    (hphase : q.phase = .announcing e .retrieve) (hstored : s.bridge.answers.get? q.step = some a) :
    ∃ phase, (s.resume i).inquiries[i]? = some { q with phase } ∧
      (phase = .returned a ∨ phase = .cancelled ∧ q.isFlagged = true) := by
  by_cases hflag : q.isFlagged = true
  · have hcancel : s.resume i = s.setPhase i .cancelled := by
      simp only [resume, hq, hphase, hflag, if_true]
    rw [hcancel]
    exact ⟨_, getElem?_setPhase hq _, .inr ⟨rfl, hflag⟩⟩
  · have hreach : s.resume i =
        Switchboard.setPhase { s with events := s.events ++ [e] } i (.returned a) := by
      simp only [resume, hq, hphase, hflag, Bool.false_eq_true, if_false, reach, hstored]
    rw [hreach]
    exact ⟨_, getElem?_setPhase (s := { s with events := s.events ++ [e] }) hq _, .inl rfl⟩

/-- The surface takes what it is told, and nobody wants a question cancelled. -/
structure IsFair (s : Switchboard α) : Prop where
  delivers : ∀ f, s.delivery ≠ .failing f
  unflagged : ∀ b ∈ s.inquiries.map Inquiry.isFlagged, b = false

def Move.IsFair : Move α → Prop
  | .cancel _ | .deliver (.failing _) => False
  | _ => True

theorem delivery_resume (s : Switchboard α) (i : Nat) : (s.resume i).delivery = s.delivery := by
  have hreach : ∀ (s : Switchboard α) step aim, (s.reach i step aim).delivery = s.delivery := by
    intro s step aim
    cases aim <;> rfl
  have hannounce : ∀ (s : Switchboard α) step e aim,
      (s.announce i step e aim).delivery = s.delivery := by
    intro s step e aim
    unfold announce
    split
    · exact hreach _ _ _
    · rfl
    · rfl
  simp only [resume]
  split
  · rfl
  · split
    · rfl
    · rfl
    · rfl
    · split
      · rfl
      · split
        · unfold put
          split
          · exact hannounce _ _ _ _
          · split
            · rfl
            · exact hannounce _ _ _ _
        · exact hreach _ _ _
        · rfl
        · rfl

theorem IsFair.move (h : s.IsFair) {m : Move α} (hm : m.IsFair) : (s.move blank m).IsFair := by
  cases m with
  | cancel i => exact hm.elim
  | respond | close => exact ⟨h.delivers, h.unflagged⟩
  | inquire step question =>
    refine ⟨h.delivers, fun b hb => ?_⟩
    simp only [Switchboard.move, inquire, List.map_append, List.mem_append] at hb
    rcases hb with hold | hnew
    · exact h.unflagged b hold
    · simpa using hnew
  | wake i =>
    obtain ⟨phase, hphase⟩ := inquiries_resume { s with line := s.line.erase i } i
    refine ⟨(delivery_resume _ i).symm ▸ h.delivers, ?_⟩
    simp only [Switchboard.move, hphase]
    rw [map_modify (by intro _; rfl)]
    exact h.unflagged
  | deliver delivery =>
    refine ⟨?_, h.unflagged⟩
    rintro f rfl
    exact hm

end Switchboard

/-- The reply is that of the desk, or the answer that is recorded for this step. -/
def Mark.IsRecorded (desk : Desk) (answers : Table String) : Mark → Prop
  | .visit _ => True
  | .call place q reply => match q.question? with
    | none => reply = .ofExcept (desk q place.vars)
    | some _ => ∃ step a, place.step = some step ∧ answers.get? step = some a ∧
        reply = .value (.text a)

/-- A bridge that replays recorded answers, whatever else it was given since. -/
structure Journal.Replaying (answers : Table String) (j : Journal String) : Prop where
  coherent : j.Coherent answers
  replays : j.board.bridge.replays = true
  stored : ∀ step a, answers.get? step = some a → j.board.bridge.answers.get? step = some a

theorem Journal.Replaying.note {answers : Table String} {j : Journal String}
    (h : j.Replaying answers) (m : Switchboard.Move String) : (j.note "" m).Replaying answers := by
  obtain ⟨hcoherent, hgrows⟩ : (j.note "" m).Coherent answers ∧ _ := h.coherent.note m
  refine ⟨hcoherent, hgrows.replays.trans h.replays, fun step a ha => ?_⟩
  exact hgrows.answers h.replays step a (h.stored step a ha)

theorem Journal.Replaying.run {answers : Table String} {j : Journal String}
    (h : j.Replaying answers) (moves : List (Switchboard.Move String)) :
    (j.run "" moves).Replaying answers := by
  induction moves generalizing j with
  | nil => exact h
  | cons m rest ih => exact ih (h.note m)

namespace Interview

open Dialogue Switchboard

theorem isFair_note {j : Journal String} (h : j.board.IsFair) {m : Switchboard.Move String}
    (hm : m.IsFair) : (j.note "" m).board.IsFair :=
  h.move hm

/-- The move lets the run go on. -/
def Move.goesOn : Move → Bool
  | .goOn _ => true
  | _ => false

/-- The run is let alone, and its surface takes what it is told. -/
def Move.IsFair : Move → Prop
  | .cancel | .deliver (.failing _) => False
  | _ => True

variable {desk : Desk} {answers : Table String} {d goal : Dialogue Result} {core rest : List Mark}
  {x y : Interview} {n : Nat} {i : Nat} {place : Context} {q : Request}
  {next : Context → Reply → Dialogue Result} {a : String}

theorem await_of_reply {inquiry : Inquiry String} {reply : Reply}
    (hinquiry : (x.journal.note "" (.wake i)).board.inquiries[i]? = some inquiry)
    (hreply : inquiry.phase.reply? = some reply) :
    x.await i place q next = ⟨x.journal.note "" (.wake i), .running (next place reply),
      x.marks ++ [.call place q reply]⟩ := by
  simp only [await, hinquiry, Option.bind_some, hreply]

theorem await_of_none {inquiry : Inquiry String}
    (hinquiry : (x.journal.note "" (.wake i)).board.inquiries[i]? = some inquiry)
    (hreply : inquiry.phase.reply? = none) :
    x.await i place q next = ⟨x.journal.note "" (.wake i), .asking i place q next, x.marks⟩ := by
  simp only [await, hinquiry, Option.bind_some, hreply]

theorem marks_await (x : Interview) (i : Nat) (place : Context) (q : Request)
    (next : Context → Reply → Dialogue Result) : x.marks <+: (x.await i place q next).marks := by
  rcases x.await_cases i place q next with heq | ⟨_, _, _, _, heq⟩
  · rw [heq]
  · rw [heq]
    exact List.prefix_append _ _

theorem marks_move (desk : Desk) (x : Interview) (m : Move) :
    x.marks <+: (x.move desk m).marks := by
  cases m with
  | respond | close | deliver => exact List.prefix_rfl
  | cancel =>
    simp only [move]
    split <;> exact List.prefix_rfl
  | goOn now =>
    simp only [move, goOn]
    split
    · exact List.prefix_append _ _
    · split
      next question _ =>
        exact marks_await { x with
          journal := x.journal.note "" (.inquire (question.place now _) question) } _ _ _ _
      · exact List.prefix_append _ _
    · exact List.prefix_rfl
    · exact marks_await _ _ _ _ _

/-- The run is at a question that was answered before, on the way to `goal` by the marks `core`. -/
structure AtAnswered (d goal : Dialogue Result) (core : List Mark) (y : Interview) (place : Context)
    (q : Request) (next : Context → Reply → Dialogue Result) (a : String) (rest : List Mark) :
    Prop where
  way : Leads d y.marks (.ask place q next)
  ahead : Leads (next place (.value (.text a))) rest goal
  core : core = y.marks ++ .call place q (.value (.text a)) :: rest

/-- A run retraces another one, which came to `goal` by the marks `core`, and comes as far if it
    goes on `n` times more; or it has come further. Questions are answered from the record. -/
inductive Retraces (answers : Table String) (d goal : Dialogue Result) (core : List Mark)
    (y : Interview) (n : Nat) : Prop where
  | running {d' : Dialogue Result} {rest : List Mark} (hstage : y.stage = .running d')
      (hway : Leads d y.marks d') (hahead : Leads d' rest goal) (hcore : core = y.marks ++ rest)
      (hrank : 2 * rest.length ≤ n)
  | asking {i : Nat} {place : Context} {q : Request} {next : Context → Reply → Dialogue Result}
      {a : String} {rest : List Mark} {inquiry : Inquiry String} {e : Event}
      (hstage : y.stage = .asking i place q next)
      (hat : AtAnswered d goal core y place q next a rest)
      (hinquiry : y.journal.board.inquiries[i]? = some inquiry)
      (hphase : inquiry.phase = .announcing e .retrieve)
      (hanswer : answers.get? inquiry.step = some a) (hrank : 2 * rest.length + 1 ≤ n)
  | past (hcore : core <+: y.marks) (hgoal : ∀ r, goal ≠ .done r)

/-- A fault ended the run before it came as far as another one, which came by the marks `core`. -/
structure Cut (core : List Mark) (y : Interview) : Prop where
  stopped : ∃ place f, y.stage = .running (.fail place f)
  visits : y.visits <+: core.filterMap Mark.visited?

/-- What becomes of a run that retraces another as something happens. -/
def Fares (answers : Table String) (d goal : Dialogue Result) (core : List Mark) (isFair : Prop)
    (n : Nat) (y : Interview) : Prop :=
  Retraces answers d goal core y n ∨ Cut core y ∧ ¬ isFair

theorem Retraces.mono {m : Nat} (h : Retraces answers d goal core y m) (hle : m ≤ n) :
    Retraces answers d goal core y n := by
  cases h with
  | running hstage hway hahead hcore hrank =>
    exact .running hstage hway hahead hcore (Nat.le_trans hrank hle)
  | asking hstage hat hinquiry hphase hanswer hrank =>
    exact .asking hstage hat hinquiry hphase hanswer (Nat.le_trans hrank hle)
  | past hcore hgoal => exact .past hcore hgoal

namespace AtAnswered

variable {journal : Journal String}

/-- The same answer leads the same way. -/
theorem returned (h : AtAnswered d goal core y place q next a rest) :
    Retraces answers d goal core ⟨journal, .running (next place (.value (.text a))),
      y.marks ++ [.call place q (.value (.text a))]⟩ (2 * rest.length) :=
  .running rfl (h.way.concat_call trivial) h.ahead (by simp [h.core]) (Nat.le_refl _)

theorem faulted (hd : d.IsOrderly) (h : AtAnswered d goal core y place q next a rest) (f : Fault) :
    Cut core ⟨journal, .running (next place (.fault f)),
      y.marks ++ [.call place q (.fault f)]⟩ where
  stopped := ⟨place, f, congrArg Stage.running ((hd _ _ _ _ h.way).2 f)⟩
  visits := by
    simp only [Interview.visits, h.core, List.filterMap_append]
    exact ⟨rest.filterMap Mark.visited?, by rw [List.append_assoc]; rfl⟩

/-- The inquiry of an answered question goes on: it returns the answer, unless it is cancelled. -/
theorem await_retrieving (hd : d.IsOrderly) (hy : y.journal.Replaying answers)
    (h : AtAnswered d goal core y place q next a rest) {inquiry : Inquiry String} {e : Event}
    (hinquiry : y.journal.board.inquiries[i]? = some inquiry)
    (hphase : inquiry.phase = .announcing e .retrieve)
    (hanswer : answers.get? inquiry.step = some a) :
    Fares answers d goal core y.journal.board.IsFair (2 * rest.length)
      (y.await i place q next) := by
  obtain ⟨phase, hwoken, hreturned | ⟨hcancelled, hflag⟩⟩ :=
    resume_retrieving (s := { y.journal.board with line := y.journal.board.line.erase i })
      hinquiry hphase (hy.stored _ _ hanswer)
  · subst hreturned
    rw [await_of_reply hwoken rfl]
    exact .inl h.returned
  · subst hcancelled
    rw [await_of_reply hwoken rfl]
    refine .inr ⟨h.faulted hd _, fun hfair => ?_⟩
    have hunflagged := hfair.unflagged _ (List.mem_map_of_mem (List.mem_of_getElem? hinquiry))
    exact nomatch hflag.symm.trans hunflagged

/-- An answered question is put: its inquiry returns the answer, at once or later on, unless the
    surface fails. -/
theorem await_new (hd : d.IsOrderly) (hy : y.journal.Replaying answers)
    (h : AtAnswered d goal core y place q next a rest) {inquiry : Inquiry String}
    (hinquiry : y.journal.board.inquiries[i]? = some inquiry) (hnew : inquiry.phase = .new)
    (hflag : inquiry.isFlagged = false) (hanswer : answers.get? inquiry.step = some a) :
    Fares answers d goal core y.journal.board.IsFair (2 * rest.length + 1)
      (y.await i place q next) := by
  have hreplay : y.journal.board.bridge.replay? inquiry.step = some a :=
    Bridge.replay?_eq_some_iff.2 ⟨hy.replays, hy.stored _ _ hanswer⟩
  obtain ⟨phase, hwoken, hreturned | ⟨e, hnotified⟩ | ⟨f, hfailed, hdelivery⟩⟩ :=
    resume_known (s := { y.journal.board with line := y.journal.board.line.erase i })
      hinquiry hnew hflag hreplay
  · subst hreturned
    rw [await_of_reply hwoken rfl]
    exact .inl (h.returned.mono (Nat.le_succ _))
  · subst hnotified
    rw [await_of_none hwoken rfl]
    exact .inl (.asking rfl ⟨h.way, h.ahead, h.core⟩ hwoken rfl hanswer (Nat.le_refl _))
  · subst hfailed
    rw [await_of_reply hwoken rfl]
    exact .inr ⟨h.faulted hd _, fun hfair => hfair.delivers f hdelivery⟩

/-- The run comes to a question that is on record. -/
theorem goOn (hd : d.IsOrderly) (hy : y.journal.Replaying answers)
    (hstage : y.stage = .running (.ask place q next))
    (h : AtAnswered d goal core y place q next a rest) {question : Question} {step : String}
    (hq : q.question? = some question) (hstep : place.step = some step)
    (hanswer : answers.get? step = some a) (now : Int) :
    Fares answers d goal core y.journal.board.IsFair (2 * rest.length + 1) (y.goOn desk now) := by
  obtain ⟨_, hstep', hne⟩ := (hd _ _ _ _ h.way).1
  obtain rfl := Option.some.inj (hstep.symm.trans hstep')
  have hinquiry : (y.journal.note "" (.inquire step question)).board.inquiries[
      y.journal.board.inquiries.length]? = some ⟨question, step, .new, false⟩ :=
    List.getElem?_concat_length
  have hat : AtAnswered d goal core { y with journal := y.journal.note "" (.inquire step question) }
      place q next a rest := ⟨h.way, h.ahead, h.core⟩
  simp only [Interview.goOn, hstage, hq, question.place_of_step hstep hne now]
  refine (hat.await_new hd (hy.note _) hinquiry rfl rfl hanswer).imp_right ?_
  rintro ⟨hcut, hunfair⟩
  exact ⟨hcut, fun hfair => hunfair (isFair_note hfair (m := .inquire step question) trivial)⟩

end AtAnswered

/-- What a run does next when it still retraces another. -/
theorem Retraces.goOn (hd : d.IsOrderly) (hrecorded : ∀ mark ∈ core, mark.IsRecorded desk answers)
    (hy : y.journal.Replaying answers) (h : Retraces answers d goal core y n) (now : Int) :
    Fares answers d goal core y.journal.board.IsFair (n - 1) (y.goOn desk now) := by
  have hmarks : y.marks <+: (y.goOn desk now).marks := marks_move desk y (.goOn now)
  obtain ⟨journal, stage, marks⟩ := y
  cases h with
  | past hcore hgoal => exact .inl (.past (hcore.trans hmarks) hgoal)
  | @asking i place q next a rest inquiry e hstage hat hinquiry hphase hanswer hrank =>
    obtain rfl : stage = _ := hstage
    refine (hat.await_retrieving hd hy hinquiry hphase hanswer).imp_left (·.mono ?_)
    omega
  | @running d' rest hstage hway hahead hcore hrank =>
    obtain rfl : stage = _ := hstage
    obtain rfl : core = marks ++ rest := hcore
    cases rest with
    | nil =>
      obtain rfl := hahead.of_nil
      by_cases hdone : ∃ r, goal = .done r
      · obtain ⟨r, rfl⟩ := hdone
        exact .inl (.running rfl hway (.nil _) rfl (Nat.zero_le _))
      · refine .inl (.past ?_ fun r hr => hdone ⟨r, hr⟩)
        rw [List.append_nil]
        exact hmarks
    | cons mark rest =>
      rw [List.length_cons] at hrank
      cases d' with
      | done r => exact nomatch hahead.of_done.1
      | fail place f => exact nomatch hahead.of_fail.1
      | visit place rest' =>
        obtain ⟨rfl, hnext⟩ := hahead.of_visit
        exact .inl (.running rfl hway.concat_visit hnext (List.append_cons _ _ _)
          (by omega))
      | ask place q next =>
        obtain ⟨reply, rfl, hnext⟩ := hahead.of_ask
        have hmark := hrecorded (.call place q reply) (by simp)
        cases hq : q.question? with
        | none =>
          simp only [Mark.IsRecorded, hq] at hmark
          subst hmark
          simp only [Interview.goOn, hq]
          exact .inl (.running rfl (hway.concat_call (Reply.keeps_ofExcept _)) hnext
            (List.append_cons _ _ _) (by omega))
        | some question =>
          simp only [Mark.IsRecorded, hq] at hmark
          obtain ⟨step, a, hstep, hanswer, rfl⟩ := hmark
          have hat : AtAnswered d goal (marks ++ .call place q (.value (.text a)) :: rest)
              ⟨journal, .running (.ask place q next), marks⟩ place q next a rest :=
            ⟨hway, hnext, rfl⟩
          exact (hat.goOn hd hy rfl hq hstep hanswer now).imp_left (·.mono (by omega))

/-- Whatever happens, a run that retraces another goes on to do so, or was cut off. -/
theorem Retraces.move (hd : d.IsOrderly) (hrecorded : ∀ mark ∈ core, mark.IsRecorded desk answers)
    (hy : y.journal.Replaying answers) (h : Retraces answers d goal core y n) (m : Move) :
    Fares answers d goal core y.journal.board.IsFair (n - if m.goesOn then 1 else 0)
      (y.move desk m) := by
  cases m with
  | goOn now => exact h.goOn hd hrecorded hy now
  | respond | close | deliver =>
    cases h with
    | running hstage hway hahead hcore hrank =>
      exact .inl (.running hstage hway hahead hcore hrank)
    | asking hstage hat hinquiry hphase hanswer hrank =>
      exact .inl (.asking hstage ⟨hat.way, hat.ahead, hat.core⟩ hinquiry hphase hanswer hrank)
    | past hcore hgoal => exact .inl (.past hcore hgoal)
  | cancel =>
    obtain ⟨journal, stage, marks⟩ := y
    cases h with
    | running hstage hway hahead hcore hrank =>
      obtain rfl : stage = _ := hstage
      exact .inl (.running rfl hway hahead hcore hrank)
    | past hcore hgoal =>
      cases stage with
      | running | asking => exact .inl (.past hcore hgoal)
    | @asking i place q next a rest inquiry e hstage hat hinquiry hphase hanswer hrank =>
      obtain rfl : stage = _ := hstage
      have hflagged : (journal.note "" (.cancel i)).board.inquiries[i]? =
          some { inquiry with isFlagged := true } := by
        have hfound : journal.board.inquiries[i]? = some inquiry := hinquiry
        simp [Journal.note, Switchboard.move, Switchboard.cancel, flag, hfound, hphase]
      exact .inl (.asking rfl ⟨hat.way, hat.ahead, hat.core⟩ hflagged hphase hanswer hrank)

theorem Cut.move (h : Cut core y) (m : Move) : Cut core (y.move desk m) := by
  obtain ⟨⟨place, f, hstage⟩, hvisits⟩ := h
  obtain ⟨journal, stage, marks⟩ := y
  obtain rfl : stage = _ := hstage
  cases m with
  | goOn | respond | cancel | close | deliver => exact ⟨⟨place, f, rfl⟩, hvisits⟩

theorem isFair_move (h : y.journal.board.IsFair) {m : Move} (hm : m.IsFair) :
    (y.move desk m).journal.board.IsFair := by
  cases m with
  | cancel => exact hm.elim
  | respond step response => exact isFair_note h (m := .respond step response) trivial
  | close => exact isFair_note h (m := .close) trivial
  | deliver delivery =>
    have hdelivery : (Switchboard.Move.deliver delivery : Switchboard.Move String).IsFair := by
      cases delivery <;> exact hm
    exact isFair_note h hdelivery
  | goOn now =>
    obtain ⟨journal, stage, marks⟩ := y
    have hwake : ∀ (z : Interview) i place q next, z.journal.board.IsFair →
        (z.await i place q next).journal.board.IsFair := by
      intro z i place q next hz
      rw [journal_await]
      exact isFair_note hz (m := .wake i) trivial
    cases stage with
    | asking i place q next => exact hwake _ i place q next h
    | running d =>
      cases d with
      | done | fail | visit => exact h
      | ask place q next =>
        simp only [Interview.move, Interview.goOn]
        cases q.question? with
        | none => exact h
        | some question =>
          exact hwake _ _ place q next
            (isFair_note h (m := .inquire (question.place now place.step) question) trivial)

theorem replaying_move (hy : y.journal.Replaying answers) (m : Move) :
    (y.move desk m).journal.Replaying answers := by
  obtain ⟨moves, hmoves⟩ := y.journal_move desk m
  rw [hmoves]
  exact hy.run moves

theorem Cut.run (h : Cut core y) (moves : List Move) : Cut core (y.run desk moves) := by
  induction moves generalizing y with
  | nil => exact h
  | cons m rest ih => exact ih (h.move m)

/-- By induction on the moves: only unfair ones can cut the run off. -/
theorem Retraces.run (hd : d.IsOrderly) (hrecorded : ∀ mark ∈ core, mark.IsRecorded desk answers)
    (hy : y.journal.Replaying answers) (h : Retraces answers d goal core y n) (moves : List Move) :
    Fares answers d goal core (y.journal.board.IsFair ∧ ∀ m ∈ moves, m.IsFair)
      (n - moves.countP Move.goesOn) (y.run desk moves) := by
  induction moves generalizing y n with
  | nil => exact .inl h
  | cons m rest ih =>
    rw [List.countP_cons, Nat.add_comm, ← Nat.sub_sub]
    rcases h.move hd hrecorded hy m with hnext | ⟨hcut, hunfair⟩
    · refine (ih (replaying_move hy m) hnext).imp_right fun ⟨hcut, hunfair⟩ => ⟨hcut, ?_⟩
      rintro ⟨hfair, hmoves⟩
      have hm : m.IsFair := hmoves m List.mem_cons_self
      exact hunfair ⟨isFair_move hfair hm, fun m' hm' => hmoves m' (List.mem_cons_of_mem _ hm')⟩
    · exact .inr ⟨hcut.run rest, fun hfair => hunfair hfair.1⟩

/-- The visits of a run that retraces another begin like those of the other, or the other way
    round. -/
theorem Retraces.visits (h : Retraces answers d goal core y n) :
    core.filterMap Mark.visited? <+: y.visits ∨ y.visits <+: core.filterMap Mark.visited? := by
  cases h with
  | running _ _ _ hcore _ =>
    rw [hcore]
    exact .inr ((List.prefix_append _ _).filterMap _)
  | asking _ hat _ _ _ _ =>
    rw [hat.core]
    exact .inr ((List.prefix_append _ _).filterMap _)
  | past hcore _ => exact .inl (hcore.filterMap _)

/-- A run that has retraced another came as far, and to the same result. -/
theorem Retraces.over (h : Retraces answers d goal core y 0) :
    core.filterMap Mark.visited? <+: y.visits ∧
      ∀ r, goal = .done r → y.result? = some r := by
  cases h with
  | @running d' rest hstage _ hahead hcore hrank =>
    obtain rfl : rest = [] := List.eq_nil_of_length_eq_zero (by omega)
    obtain rfl := hahead.of_nil
    rw [List.append_nil] at hcore
    rw [hcore]
    exact ⟨List.prefix_rfl, fun r hr => result?_eq_some.2 (hr ▸ hstage)⟩
  | asking _ _ _ _ _ hrank => omega
  | past hcore hgoal => exact ⟨hcore.filterMap _, fun r hr => absurd hr (hgoal r)⟩

/-- A run that replays answers puts no question that it has the answer to from the beginning. -/
theorem notMem_of_asked (answers : Table String) (delivery : Delivery) (d : Dialogue Result)
    (desk : Desk) (moves : List Move) :
    ∀ e ∈ ((start true answers delivery d).run desk moves).journal.board.events,
      ∀ step, e.asked? = some step → step ∉ answers.names := by
  intro e he step hstep
  obtain ⟨moves', hjournal⟩ := (start true answers delivery d).journal_run desk moves
  rw [hjournal] at he
  have hcoherent := Journal.coherent_start true answers delivery
  have hspares : ((Journal.start true answers delivery).run "" moves').SparesSeed answers :=
    Journal.sparesSeed_run hcoherent rfl nofun moves'
  exact hspares step ((Journal.tells_run (Journal.tells_start _) moves').told e he step hstep)

/-- A live run that came to no step twice with a question is on the record of its bridge. -/
theorem Lives.recorded {seed : Table String} (h : Lives desk d seed x)
    (hnodup : x.journal.board.steps.Nodup) : ∃ core goal, Leads d core goal ∧
      (∀ mark ∈ core, mark.IsRecorded desk x.journal.board.bridge.answers) ∧
      core.filterMap Mark.visited? = x.visits ∧ core.length ≤ x.marks.length ∧
      ∀ r, x.result? = some r → goal = .done r := by
  have hrecorded : ∀ mark : Mark, mark.IsBacked desk x.journal.grants →
      mark.IsRecorded desk x.journal.board.bridge.answers := by
    intro mark hbacked
    cases mark with
    | visit place => trivial
    | call place q reply =>
      simp only [Mark.IsBacked, Mark.IsRecorded] at hbacked ⊢
      cases hq : q.question? with
      | none =>
        rw [hq] at hbacked
        exact hbacked
      | some question =>
        rw [hq] at hbacked
        obtain ⟨g, hg, hstep, hreply⟩ := hbacked
        exact ⟨_, _, hstep, h.journal.get?_answers h.placed hnodup hg, hreply⟩
  cases h.path with
  | onWay hleads hbacked =>
    refine ⟨x.marks, x.rest, hleads, fun mark hmark => hrecorded mark (hbacked mark hmark), rfl,
      Nat.le_refl _, fun r hresult => ?_⟩
    rw [rest, result?_eq_some.1 hresult]
  | @halted core place q next f hleads hbacked hmarks hstage =>
    refine ⟨core, _, hleads, fun mark hmark => hrecorded mark (hbacked mark hmark), ?_, ?_,
      fun r hresult => ?_⟩
    · rw [Interview.visits, hmarks, List.filterMap_append]
      exact (List.append_nil _).symm
    · rw [hmarks, List.length_append]
      exact Nat.le_add_right _ _
    · cases hstage.symm.trans (result?_eq_some.1 hresult)

end Interview

open Dialogue Interview

/-- A run whose questions were answered live, each of its steps with a question at most once, can
    be told again from the answers that its bridge has, wherever it was cut off. The second run
    puts no question that is on record, and visits the same steps with the same variables as far as
    the first one came; nothing but a cancellation or a failing surface keeps it from coming so
    far. If the first run came to a result, so does the second, and to the same. -/
theorem Interview.retold {hooks : Hooks} {limit : Int} (input : Value) (vars : Table String)
    (desk : Desk) (seed : Table String) (delivery delivery' : Delivery)
    (moves moves' : List Interview.Move) :
    let d := Run.ofInput hooks limit input (vars.map .text)
    let x := (start false seed delivery d).run desk moves
    let answers := x.journal.board.bridge.answers
    let y := (start true answers delivery' d).run desk moves'
    x.journal.board.steps.Nodup →
      (∀ e ∈ y.journal.board.events, ∀ step, e.asked? = some step → step ∉ answers.names) ∧
      (x.visits <+: y.visits ∨ y.visits <+: x.visits) ∧
      ((∀ f, delivery' ≠ .failing f) → (∀ m ∈ moves', m.IsFair) →
        2 * x.marks.length ≤ moves'.countP Interview.Move.goesOn →
          x.visits <+: y.visits ∧
            ∀ r, x.result? = some r → y.result? = some r) := by
  intro d x answers y hnodup
  have hd : d.IsOrderly := Run.isOrderly_ofInput input vars
  have hx : Lives desk d seed x := (lives_start d delivery).run hd moves
  obtain ⟨core, goal, hleads, hrecorded, hvisits, hlength, hdone⟩ := hx.recorded hnodup
  have hreplaying : (start true answers delivery' d).journal.Replaying answers :=
    ⟨Journal.coherent_start true answers delivery', rfl, fun _ _ ha => ha⟩
  have hstart : Retraces answers d goal core (start true answers delivery' d) (2 * core.length) :=
    .running rfl (.nil d) hleads rfl (Nat.le_refl _)
  have hfares := hstart.run hd hrecorded hreplaying moves'
  refine ⟨?_, ?_, ?_⟩
  · exact notMem_of_asked answers delivery' d desk moves'
  · rw [← hvisits]
    rcases hfares with hretraces | ⟨hcut, _⟩
    · exact hretraces.visits
    · exact .inr hcut.visits
  · intro hdelivery hfair hoften
    have hspent : 2 * core.length - moves'.countP Interview.Move.goesOn = 0 := by omega
    rcases hfares with hretraces | ⟨_, hunfair⟩
    · rw [hspent] at hretraces
      obtain ⟨hfar, hresult⟩ := hretraces.over
      exact ⟨hvisits ▸ hfar, fun r hr => hresult r (hdone r hr)⟩
    · exact absurd ⟨⟨hdelivery, nofun⟩, hfair⟩ hunfair

/-- A desk at which everything that is asked about holds. -/
def Desk.ofTrue : Desk
  | .evaluate _, _ => .ok (.bool true)
  | _, _ => .ok .null

/-- The tour, taken once. -/
def Interview.toured : Interview :=
  (start false .empty .immediate (Run.ofInput .all 10 (Script.tour.dump .full)
    ((Table.ofList [("ready", "1")]).map .text))).run .ofTrue
      [.goOn 0, .goOn 1, .goOn 2, .respond "ask" (.prompt "Ann"), .goOn 3, .goOn 4, .goOn 5,
        .respond "pick" (.choice "no"), .goOn 6, .goOn 7]

/-- The tour, told again to a surface that takes its events late. -/
def Interview.retoured : Interview :=
  (start true toured.journal.board.bridge.answers .deferred (Run.ofInput .all 10
    (Script.tour.dump .full) ((Table.ofList [("ready", "1")]).map .text))).run .ofTrue
      (List.replicate 12 (.goOn 8))

theorem Interview.retold_tour :
    toured.journal.board.steps.Nodup ∧
    toured.visits.map Context.step = [some "ask", some "pick", some "done"] ∧
    toured.visits <+: retoured.visits ∧
    retoured.result? = some ⟨.success, 3, .ofList [("ready", "1"), ("name", "Ann")], some "Bye"⟩ ∧
    ∀ e ∈ retoured.journal.board.events, ∀ step, e.asked? = some step →
      step ∉ toured.journal.board.bridge.answers.names := by
  have hnodup : toured.journal.board.steps.Nodup := by decide +kernel
  have hresult : toured.result? =
      some ⟨.success, 3, .ofList [("ready", "1"), ("name", "Ann")], some "Bye"⟩ := by decide +kernel
  have hlength : toured.marks.length = 6 := by decide +kernel
  have hvisited : toured.visits.map Context.step = [some "ask", some "pick", some "done"] := by
    decide +kernel
  have hfair : ∀ m ∈ List.replicate 12 (Interview.Move.goOn 8), m.IsFair := by
    intro m hm
    rw [List.eq_of_mem_replicate hm]
    trivial
  have hoften : 2 * toured.marks.length ≤
      (List.replicate 12 (Interview.Move.goOn 8)).countP Interview.Move.goesOn := by
    rw [hlength]
    decide
  obtain ⟨hunasked, _, hfar⟩ : (∀ e ∈ retoured.journal.board.events, ∀ step,
      e.asked? = some step → step ∉ toured.journal.board.bridge.answers.names) ∧ _ ∧
      ((∀ f, Delivery.deferred ≠ .failing f) → _ → 2 * toured.marks.length ≤ _ →
        toured.visits <+: retoured.visits ∧
          ∀ r, toured.result? = some r → retoured.result? = some r) :=
    @retold .all 10 (Script.tour.dump .full) (.ofList [("ready", "1")]) .ofTrue .empty .immediate
      .deferred _ (List.replicate 12 (.goOn 8)) hnodup
  obtain ⟨hvisits, hsame⟩ := hfar nofun hfair hoften
  exact ⟨hnodup, hvisited, hvisits, hsame _ hresult, hunasked⟩

end Stepwise
