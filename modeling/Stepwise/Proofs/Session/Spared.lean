import Stepwise.Proofs.Session.Order

namespace Stepwise.Session

variable {σ : Type} {c : Setup σ} {s m n : Session σ} {i j : Nat}

/-- No task but one is touched. -/
structure Spares (i : Nat) (before after : List Task) : Prop where
  others : ∀ j, j ≠ i → after[j]? = before[j]?

theorem Spares.trans {before between after : List Task} (h : Spares i before between)
    (h' : Spares i between after) : Spares i before after :=
  ⟨fun j hj => (h'.others j hj).trans (h.others j hj)⟩

theorem Serves.spares (h : Serves s m) (i : Nat) : Spares i s.tasks m.tasks :=
  ⟨fun _ _ => congrArg (·[_]?) h.tasks_eq⟩

theorem spares_setPhase (s : Session σ) (i : Nat) (phase : Phase) :
    Spares i s.tasks (s.setPhase i phase).tasks :=
  ⟨fun _ hj => getElem?_setPhase_ne s phase hj⟩

section Deferring

variable (hdefers : c.defers)

include hdefers

theorem spares_conclude {before : List Task} (htasks : s.tasks = before) (i : Nat)
    (ending : Ending) : Spares i before (s.conclude c i ending).tasks := by
  rw [conclude_eq hdefers, ← htasks, ← tasks_concluded s]
  exact spares_setPhase ..

theorem spares_prepare (s : Session σ) (i : Nat) (plan : Plan) :
    Spares i s.tasks (s.prepare c i plan).tasks := by
  rw [prepare_eq hdefers]
  exact spares_setPhase s i _

theorem spares_keep (s : Session σ) (i : Nat) (plan : Plan) (v : Verdict) :
    Spares i s.tasks (s.keep c i plan v).tasks := by
  unfold keep
  split
  · exact spares_conclude hdefers rfl i _
  · dsimp only
    split <;> exact spares_conclude hdefers (by rfl) i _

theorem spares_judge (s : Session σ) (i : Nat) (plan : Plan)
    (ending : Except (Context × Fault) Result) :
    Spares i s.tasks (s.judge c i plan ending).tasks := by
  rw [judge_eq hdefers]
  split
  · exact spares_setPhase s i _
  · exact spares_conclude hdefers rfl i _

theorem spares_proceed (s : Session σ) (i : Nat) (plan : Plan) (d : Dialogue Result) :
    Spares i s.tasks (s.proceed c i plan d).tasks := by
  have hserves := serves_advance hdefers d s i
  unfold proceed
  generalize advance c i d s = progress at hserves
  obtain ⟨⟨next, w⟩ | ending, s'⟩ := progress
  · exact (hserves.spares i).trans (spares_setPhase s' i _)
  · exact (hserves.spares i).trans (spares_judge hdefers { s' with player := none } i plan ending)

theorem spares_carryOn (i : Nat) (plan : Plan) (next : Reply → Dialogue Result)
    (served : Served × Session σ) :
    Spares i served.2.tasks (carryOn c i plan next served).tasks := by
  obtain ⟨r | w, s⟩ := served
  · exact spares_proceed hdefers s i plan _
  · exact spares_setPhase s i _

theorem spares_reachGoal (s : Session σ) (i : Nat) (goal : Goal) :
    Spares i s.tasks (s.reachGoal c i goal).tasks := by
  cases goal with
  | refuse | finish _ => exact spares_setPhase s i _
  | prepare plan => exact spares_prepare hdefers s i plan
  | play plan => exact spares_proceed hdefers { s with player := some i } i plan _
  | keep plan v => exact spares_keep hdefers s i plan v

theorem spares_consider (s : Session σ) (i : Nat) (r : RunRequest) :
    Spares i s.tasks (s.consider c i r).tasks := by
  have haccepted : ∀ {plan m}, s.Accepts c r plan m → m.tasks = s.tasks := by
    intro plan m haccepts
    rw [haccepts.session]
  have hconsidered := considered hdefers i r s
  generalize s.consider c i r = s' at hconsidered ⊢
  cases hconsidered with
  | refused | unknown => exact spares_setPhase s i _
  | announced plan m haccepts =>
    rw [← haccepted haccepts]
    exact spares_setPhase m i _
  | opened plan m haccepts =>
    rw [← haccepted haccepts]
    exact spares_prepare hdefers m i plan
  | failed fault => exact spares_conclude hdefers (by rfl) i _

omit hdefers in
/-- The task that plays may be cancelled as another one tells an event. -/
theorem others_hand (hsteady : s.footing.Steady) (e : Event) (hj : j ≠ i) :
    (s.hand c i e).tasks[j]? = s.tasks[j]? ∨
      (s.hand c i e).tasks[j]? = s.tasks[j]?.map Task.dropped := by
  have hseat := getElem?_seat_ne s hj
  rcases (stirs_deliver (s := s.seat i) hsteady c (some i) e).2 with hsame | ⟨_, hdropped⟩
  · exact .inl ((congrArg (·[j]?) hsame).trans hseat)
  · have hget : (s.hand c i e).tasks[j]? = (dropPlayer s.player (some i) (s.seat i).tasks)[j]? :=
      congrArg (·[j]?) hdropped
    rw [hget, ← hseat]
    unfold dropPlayer
    split
    next k _ =>
      split
      · exact .inl rfl
      · by_cases hk : k = j
        · exact .inr (hk ▸ List.getElem?_modify_eq ..)
        · exact .inl (List.getElem?_modify_ne _ _ hk)
    next => exact .inl rfl

/-- As a task goes on, any other stays as it is, or is cancelled. -/
theorem others_wake (hsteady : s.footing.Steady) (hj : j ≠ i) :
    (s.happen c (.wake i)).tasks[j]? = s.tasks[j]? ∨
      (s.happen c (.wake i)).tasks[j]? = s.tasks[j]?.map Task.dropped := by
  have hseat := getElem?_seat_ne s hj
  have hspares : ∀ {before after : List Task}, Spares i before after →
      before[j]? = s.tasks[j]? ∨ before[j]? = s.tasks[j]?.map Task.dropped →
      after[j]? = s.tasks[j]? ∨ after[j]? = s.tasks[j]?.map Task.dropped := by
    intro before after hspares hbefore
    rwa [hspares.others j hj]
  cases htask : s.tasks[i]? with
  | none => exact .inl (by rw [wake_none htask])
  | some task =>
    obtain ⟨phase, isFlagged⟩ := task
    simp only [happen, resume, htask]
    cases phase with
    | finished ending => exact hspares (spares_setPhase (s.seat i) i _) (.inl hseat)
    | active => exact hspares (spares_setPhase (s.seat i) i _) (.inl hseat)
    | new r =>
      cases isFlagged
      · exact hspares (spares_consider hdefers (s.seat i) i r) (.inl hseat)
      · exact hspares (spares_setPhase (s.seat i) i _) (.inl hseat)
    | posting e later goal =>
      cases isFlagged
      · have hhand := others_hand (c := c) hsteady e hj
        cases later with
        | nil => exact hspares (spares_reachGoal hdefers (s.hand c i e) i goal) hhand
        | cons e' later =>
          simp only [Bool.false_eq_true, if_false, post_cons hdefers]
          exact hspares (spares_setPhase (s.hand c i e) i _) hhand
      · cases goal with
        | refuse | finish => exact hspares (spares_setPhase (s.seat i) i _) (.inl hseat)
        | prepare | play | keep =>
          exact hspares (spares_conclude hdefers rfl i _) (.inl hseat)
    | playing plan next wait =>
      refine hspares (spares_carryOn hdefers i plan next _) ?_
      cases isFlagged
      · cases wait with
        | delivery e later aim =>
          exact hspares ((serves_announce hdefers (s.hand c i e) i later aim).spares i)
            (others_hand hsteady e hj)
        | ticket t => exact .inl hseat
        | command argv cwd isOver =>
          exact hspares ((serves_collect hdefers (s.seat i) i argv cwd).spares i) (.inl hseat)
      · exact .inl hseat

end Deferring

end Stepwise.Session
