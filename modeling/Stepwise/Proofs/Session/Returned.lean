import Stepwise.Proofs.Session.Attends
import Stepwise.Proofs.Session.Replay

namespace Stepwise

open Session

namespace Chronicle

variable {σ : Type} {c : Setup σ} {ch : Chronicle σ} {i : Nat}

/-- The answers of every run are kept in mind, and the session is in order. -/
structure Attentive (c : Setup σ) (ch : Chronicle σ) : Prop where
  order : ∃ run, Order ch.session.footing ch.session.tasks run
  attends : ∀ i task, ch.session.tasks[i]? = some task →
    Attends c ch.session (ch.of i) task.phase
  unknown : ∀ i, ch.session.tasks[i]? = none → ch.of i = []

theorem attentive_start (c : Setup σ) (saved : Option SavedRun) (host : σ) :
    Attentive c (start c saved host) where
  order := (coherent_start c saved host).order
  attends _ _ htask := nomatch htask
  unknown _ _ := rfl

/-- The task that goes on keeps its answers in mind. -/
theorem Attentive.wake (h : Attentive c ch) (hdefers : c.defers) {task : Task}
    (htask : ch.session.tasks[i]? = some task) :
    ∃ phase, (ch.note c (.wake i)).session.tasks[i]? = some ⟨phase, false⟩ ∧
      Attends c (ch.note c (.wake i)).session ((ch.note c (.wake i)).of i) phase := by
  obtain ⟨run, horder⟩ := h.order
  have hattends := (h.attends i task htask).gaveUp htask (.wake i)
  rcases continues_wake hdefers horder htask hattends with ⟨ending, hphase⟩ | ⟨phase, hget, hphase⟩
  · obtain ⟨phase, isFlagged⟩ := task
    obtain rfl : phase = .finished ending := hphase
    obtain rfl : isFlagged = false := horder.isFlagged htask trivial
    have hwake : ch.session.happen c (.wake i) = { ch.session with
        line := ch.session.line.erase i } := wake_still htask trivial
    have hdeeds : ch.session.deeds c i = [] := by simp only [deeds, htask]
    have hafter : (ch.session.happen c (.wake i)).tasks[i]? = some ⟨.finished ending, false⟩ := by
      rw [hwake]
      exact htask
    refine ⟨.finished ending, hafter, ?_⟩
    rw [of_note, own_entries_of_finished hdeeds hafter]
    cases hattends with
    | ended _ hreturns => exact .ended ending hreturns
  · have hcalls : ch.session.callDeeds c i = phase.underway?.toList.map
        (.call · ch.session (ch.session.happen c (.wake i))) := by
      simp only [callDeeds, hget, Option.bind_some]
    rw [of_note, own_entries_self, hcalls, ← List.append_assoc, ← List.append_assoc]
    exact ⟨phase, hget, hphase⟩

/-- Whatever happens, every run keeps its answers in mind. -/
theorem Attentive.note (h : Attentive c ch) (hdefers : c.defers) (x : Happening) :
    Attentive c (ch.note c x) := by
  obtain ⟨run, horder⟩ := h.order
  obtain ⟨run', horder', _⟩ := order_happen hdefers horder x
  refine ⟨⟨run', horder'⟩, fun i task htask => ?_, fun i hnone => ?_⟩
  · cases hbefore : ch.session.tasks[i]? with
    | none =>
      obtain ⟨r, vars, hphase, hvars⟩ := new_of_happen hdefers horder.steady hbefore htask
      have hx : x ≠ .wake i := by
        rintro rfl
        rw [Chronicle.note, wake_none hbefore] at htask
        cases hbefore.symm.trans htask
      rw [of_note, own_entries_ne c _ hx, h.unknown i hbefore, gaveUp_of_none hbefore, hphase]
      exact .new r vars hvars rfl
    | some before =>
      by_cases hx : x = .wake i
      · subst hx
        obtain ⟨phase, hget, hattends⟩ := h.wake hdefers hbefore
        obtain rfl : ⟨phase, false⟩ = task := Option.some.inj (hget.symm.trans htask)
        exact hattends
      · have hattends := (h.attends i before hbefore).gaveUp (c := c) hbefore x
        have hstays := hattends.stays hdefers horder hbefore hx
        rw [of_note, own_entries_ne c _ hx]
        rcases others_happen hdefers horder.steady hx hbefore with hsame | hdropped
        · obtain rfl : before = task := Option.some.inj (hsame.symm.trans htask)
          exact hstays
        · obtain rfl : before.dropped = task := Option.some.inj (hdropped.symm.trans htask)
          exact hstays.dropped
  · refine of_note_eq_nil hdefers horder.steady (h.unknown i) (fun hx task htask => ?_) hnone
    subst hx
    obtain ⟨phase, hget, _⟩ := h.wake hdefers htask
    exact ⟨_, hget⟩

theorem Attentive.run (h : Attentive c ch) (hdefers : c.defers) (xs : List Happening) :
    Attentive c (ch.run c xs) := by
  induction xs generalizing ch with
  | nil => exact h
  | cons x xs ih => exact ih (h.note hdefers x)

theorem Attentive.returns {r : Result} (h : Attentive c ch)
    (hreturned : ch.session.returned? i = some r) :
    ∃ plan kept, Returns c (ch.of i) plan r kept := by
  obtain ⟨⟨phase, _⟩, htask, hphase⟩ := Option.map_eq_some_iff.1 (finished_of_returned? hreturned)
  obtain rfl : phase = .finished (.result (some r)) := hphase
  cases h.attends i _ htask with
  | ended _ hreturns => exact hreturns r rfl

/-- Whatever happens, and in whatever order: what a run that returned a result has saved agrees with
    the answers that it heard last. It is enough to say so of a surface that lets everything else go
    first before it takes an event: what comes of a session with one that takes events at once comes
    of this one. -/
theorem saved_agrees (c : Setup σ) (saved : Option SavedRun) (host : σ) (xs : List Happening)
    {r : Result} (hch : (start c.deferring saved host).run c.deferring xs = ch)
    (hreturned : ch.session.returned? i = some r) :
    (∃ plan kept, Returns c.deferring (ch.of i) plan r kept) ∧
      ∀ zs, ∃ ws, (start c saved host).session.happens c zs =
        ((start c.deferring saved host).run c.deferring ws).session := by
  subst hch
  exact ⟨((attentive_start c.deferring saved host).run rfl xs).returns hreturned,
    exists_deferring c saved host⟩

/-- The tour, gone round once, with another name the second time. -/
def roundTour : List Happening :=
  let answer (kind step field text : String) : Happening :=
    .message (.map [(.text "type", .text kind), (.text "stepId", .text step),
      (.text field, .text text)])
  [.request none false false (.ofList [("ready", "1")])] ++ List.replicate 6 (.wake 0) ++
    [answer "promptResponse" "ask" "value" "ann"] ++ List.replicate 3 (.wake 0) ++
    [answer "choiceResponse" "pick" "choiceId" "yes"] ++ List.replicate 3 (.wake 0) ++
    [answer "promptResponse" "ask" "value" "bob"] ++ List.replicate 3 (.wake 0) ++
    [answer "choiceResponse" "pick" "choiceId" "no"] ++ List.replicate 6 (.wake 0)

theorem saved_agrees_tour :
    let c := (Setup.shelf Script.tour fun _ => false).deferring
    let ch := (start c none none).run c roundTour
    ch.session.host.map (fun kept => (kept.vars.entries, kept.answers.entries)) =
      some ([("ready", "1"), ("name", "bob")], [("ask", "bob"), ("pick", "no")]) ∧
    ∃ r plan kept, ch.session.returned? 0 = some r ∧ Returns c (ch.of 0) plan r kept := by
  intro c ch
  have hreturned : (ch.session.returned? 0).isSome := by decide +kernel
  obtain ⟨r, hr⟩ := Option.isSome_iff_exists.1 hreturned
  obtain ⟨plan, kept, hreturns⟩ :=
    (saved_agrees (Setup.shelf Script.tour fun _ => false) none none roundTour rfl hr).1
  exact ⟨by decide +kernel, r, plan, kept, hr, hreturns⟩

end Chronicle

end Stepwise
