import Stepwise.Proofs.Run.Related
import Stepwise.Proofs.Session.Moves

namespace Stepwise.Session

open Dialogue

variable {σ : Type} {c : Setup σ} {outcome : Outcomes}

/-- A host that answers questions from a list, and all other requests as a session does. -/
def Setup.responder (c : Setup σ) (outcome : Outcomes) : Responder (List String) :=
  fun answers place q => match c.reply? outcome place q, answers with
    | some reply, answers => (place, reply, answers)
    | none, a :: rest => (place, .value (.text a), rest)
    | none, [] => (place, .fault .cancelled, [])

/-- The answer that a mark shows, with the name under which it is kept. -/
def Setup.answered? (c : Setup σ) : Mark → Option (String × String)
  | .call place q (.value (.text a)) => (c.question? place q).map fun (step, _) => (step, a)
  | _ => none

/-- With the answers given, a dialogue has come this far, and so it shows just them. -/
def Setup.Played (c : Setup σ) (outcome : Outcomes) (first : Dialogue Result)
    (given : List (String × String)) (d : Dialogue Result) : Prop :=
  ∃ log : List Mark, log.filterMap c.answered? = given ∧
    ∀ rest, first.marks (c.responder outcome) (given.map Prod.snd ++ rest) =
        log ++ d.marks (c.responder outcome) rest ∧
      first.play (c.responder outcome) (given.map Prod.snd ++ rest) =
        d.play (c.responder outcome) rest

theorem responder_of_reply? {place : Context} {q : Request} {reply : Reply}
    (hreply : c.reply? outcome place q = some reply) (answers : List String) :
    c.responder outcome answers place q = (place, reply, answers) := by
  simp only [Setup.responder, hreply]

theorem reply?_eq_none {place : Context} {q : Request} {step : String} {question : Question}
    (hquestion : c.question? place q = some (step, question)) :
    c.reply? outcome place q = none := by
  cases q <;> first | rfl | cases hquestion

theorem question?_eq_none {place : Context} {q : Request} {reply : Reply}
    (hreply : c.reply? outcome place q = some reply) : c.question? place q = none := by
  cases q <;> first | rfl | cases hreply

theorem responder_of_question? {place : Context} {q : Request} {step : String}
    {question : Question} (hquestion : c.question? place q = some (step, question)) (a : String)
    (rest : List String) :
    c.responder outcome (a :: rest) place q = (place, .value (.text a), rest) := by
  simp only [Setup.responder, reply?_eq_none hquestion]

namespace Setup.Played

variable {first : Dialogue Result} {given : List (String × String)} {place : Context} {q : Request}

theorem start (c : Setup σ) (outcome : Outcomes) (first : Dialogue Result) :
    c.Played outcome first [] first :=
  ⟨[], rfl, fun _ => ⟨rfl, rfl⟩⟩

theorem visit {rest : Dialogue Result} (h : c.Played outcome first given (.visit place rest)) :
    c.Played outcome first given rest := by
  obtain ⟨log, hgiven, hlog⟩ := h
  refine ⟨log ++ [.visit place], ?_, fun answers => ?_⟩
  · rw [List.filterMap_append, hgiven]
    exact List.append_nil _
  · obtain ⟨hmarks, hplay⟩ := hlog answers
    exact ⟨by rw [hmarks, marks, List.append_assoc]; rfl, hplay⟩

variable {next : Context → Reply → Dialogue Result}

theorem reply (h : c.Played outcome first given (.ask place q next)) {reply : Reply}
    (hreply : c.reply? outcome place q = some reply) :
    c.Played outcome first given (next place reply) := by
  obtain ⟨log, hgiven, hlog⟩ := h
  refine ⟨log ++ [.call place q reply], ?_, fun answers => ?_⟩
  · have hnone : c.answered? (.call place q reply) = none := by
      unfold answered?
      split
      · rename_i heq
        cases heq
        rw [question?_eq_none hreply]
        rfl
      · rfl
    rw [List.filterMap_append, hgiven, List.filterMap_cons, hnone]
    exact List.append_nil _
  · obtain ⟨hmarks, hplay⟩ := hlog answers
    simp only [marks, Dialogue.play, responder_of_reply? hreply] at hmarks hplay
    exact ⟨by rw [hmarks, List.append_assoc]; rfl, hplay⟩

theorem ask (h : c.Played outcome first given (.ask place q next)) {step : String}
    {question : Question} (hquestion : c.question? place q = some (step, question)) (a : String) :
    c.Played outcome first (given ++ [(step, a)]) (next place (.value (.text a))) := by
  obtain ⟨log, hgiven, hlog⟩ := h
  refine ⟨log ++ [.call place q (.value (.text a))], ?_, fun answers => ?_⟩
  · have hsome : c.answered? (.call place q (.value (.text a))) = some (step, a) := by
      simp only [answered?, hquestion, Option.map_some]
    rw [List.filterMap_append, hgiven, List.filterMap_cons, hsome]
    rfl
  · obtain ⟨hmarks, hplay⟩ := hlog (a :: answers)
    simp only [marks, Dialogue.play, responder_of_question? hquestion] at hmarks hplay
    rw [List.map_append, List.append_assoc]
    exact ⟨by rw [List.append_assoc]; exact hmarks, hplay⟩

/-- A dialogue that is over was played with the answers given. -/
theorem of_done {r : Result} (h : c.Played outcome first given (.done r)) :
    first.play (c.responder outcome) (given.map Prod.snd) = (.ok r, []) ∧
      (first.marks (c.responder outcome) (given.map Prod.snd)).filterMap c.answered? = given := by
  obtain ⟨log, hgiven, hlog⟩ := h
  obtain ⟨hmarks, hplay⟩ := hlog []
  rw [List.append_nil] at hmarks hplay
  refine ⟨hplay, ?_⟩
  rw [hmarks]
  simpa only [marks, List.append_nil] using hgiven

end Setup.Played

/-- The course of a run that replays nothing. -/
theorem course_played {x : Scene} (hall : ∀ e, x.allowed e) {plan : Plan}
    (hreplays : plan.replays = false) :
    Course c outcome x plan
      (c.Played outcome (Run.ofInput .all c.limit plan.entry.script plan.vars)) where
  plain e _ := hall e
  start := .start c outcome _
  visit := .visit
  reply hd hreply := hd.reply hreply
  retrieve _ _ htrue := by simp [hreplays] at htrue
  ask hd hquestion _ := ⟨hall _, hd.ask hquestion⟩

end Stepwise.Session
