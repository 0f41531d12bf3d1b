import Stepwise.Proofs.Run.Trail

namespace Stepwise

namespace Dialogue

variable {α : Type}

/-- A dialogue leads, by these marks, to the rest of it. -/
inductive Leads : Dialogue α → List Mark → Dialogue α → Prop where
  | nil (d : Dialogue α) : Leads d [] d
  | visit {place : Context} {d d' : Dialogue α} {ms : List Mark} (hrest : Leads d ms d') :
      Leads (.visit place d) (.visit place :: ms) d'
  | call {place : Context} {q : Request} {reply : Reply} {next : Context → Reply → Dialogue α}
      {d' : Dialogue α} {ms : List Mark} (hkeeps : reply.Keeps)
      (hrest : Leads (next place reply) ms d') :
      Leads (.ask place q next) (.call place q reply :: ms) d'

namespace Leads

variable {d d' d'' : Dialogue α} {ms ms' : List Mark} {place : Context} {q : Request}
  {reply : Reply} {next : Context → Reply → Dialogue α}

theorem append (h : Leads d ms d') (h' : Leads d' ms' d'') : Leads d (ms ++ ms') d'' := by
  induction h with
  | nil => exact h'
  | visit _ ih => exact visit (ih h')
  | call hkeeps _ ih => exact call hkeeps (ih h')

theorem concat_visit (h : Leads d ms (.visit place d')) : Leads d (ms ++ [.visit place]) d' :=
  h.append (visit (.nil d'))

theorem concat_call (h : Leads d ms (.ask place q next)) (hkeeps : reply.Keeps) :
    Leads d (ms ++ [.call place q reply]) (next place reply) :=
  h.append (call hkeeps (.nil _))

theorem of_nil (h : Leads d [] d') : d' = d := by
  cases h with
  | nil => rfl

/-- What a dialogue does first when it leads anywhere. -/
theorem of_visit {mark : Mark} (h : Leads (.visit place d) (mark :: ms) d') :
    mark = .visit place ∧ Leads d ms d' := by
  cases h with
  | visit hrest => exact ⟨rfl, hrest⟩

theorem of_ask {mark : Mark} (h : Leads (.ask place q next) (mark :: ms) d') :
    ∃ reply, mark = .call place q reply ∧ Leads (next place reply) ms d' := by
  cases h with
  | call hkeeps hrest => exact ⟨_, rfl, hrest⟩

/-- A dialogue that is over leads nowhere else. -/
theorem of_fail {f : Fault} (h : Leads (.fail place f : Dialogue α) ms d') :
    ms = [] ∧ d' = .fail place f := by
  cases h with
  | nil => exact ⟨rfl, rfl⟩

theorem of_done {a : α} (h : Leads (.done a) ms d') : ms = [] ∧ d' = .done a := by
  cases h with
  | nil => exact ⟨rfl, rfl⟩

end Leads

/-- Wherever the dialogue leads, it asks at a step only, and ends at once by a fault that it is
    given for a reply. -/
def IsOrderly (d : Dialogue α) : Prop :=
  ∀ ms place q next, Leads d ms (.ask place q next) →
    place.IsAtStep ∧ ∀ f, next place (.fault f) = .fail place f

end Dialogue

namespace Run

open Dialogue

variable {α : Type} {R : List Mark → α → Prop} {input : Value} {vars : Table String}
  {hooks : Hooks} {limit : Int}

/-- By induction on the marks: a fault for a reply is the end, and what goes on is traced. -/
theorem Traced.leads {d d' : Dialogue α} {ms : List Mark} (h : Leads d ms d') {pre : List Mark}
    (htraced : Traced input vars R pre d) :
    Traced input vars R (pre ++ ms) d' ∨ ∃ place f, d' = .fail place f := by
  induction h generalizing pre with
  | nil d =>
    rw [List.append_nil]
    exact .inl htraced
  | visit _ ih =>
    cases htraced with
    | visit hrest =>
      have hnext := ih hrest
      rwa [List.append_assoc] at hnext
  | @call place q reply next d' ms hkeeps hrest ih =>
    cases htraced with
    | ask _ hvalue hfault =>
      cases reply with
      | value v =>
        have hnext := ih (hvalue v)
        rwa [List.append_assoc] at hnext
      | edited => exact hkeeps.elim
      | fault f =>
        rw [hfault] at hrest
        obtain ⟨_, rfl⟩ := hrest.of_fail
        exact .inr ⟨place, f, rfl⟩

theorem isOrderly_ofInput (input : Value) (vars : Table String) :
    (ofInput hooks limit input (vars.map .text)).IsOrderly := by
  intro ms place q next hleads
  rcases Traced.leads hleads (traced_ofInput input vars) with htraced | ⟨_, _, hfail⟩
  · cases htraced with
    | ask htracks _ hfault => exact ⟨htracks.begun, hfault⟩
  · cases hfail

end Run

end Stepwise
