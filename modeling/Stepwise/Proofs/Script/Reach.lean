import Stepwise.Proofs.Script.Linked

namespace Stepwise.Script

/-- The ids that a path from the first step leads to: a path goes from a step to its successors. -/
inductive Reaches (script : Script) : String → Prop where
  | first {id : String} (hfirst : script.first? = some id) : Reaches script id
  | step {id next : String} {step : Step} (hreaches : Reaches script id)
      (hstep : script.step? id = some step) (hnext : next ∈ script.successors step) :
      Reaches script next

theorem subset_explore (script : Script) (seen pending : List String) :
    seen ⊆ explore script seen pending := by
  fun_induction explore script seen pending with
  | case1 seen => exact List.Subset.refl seen
  | case2 seen id rest _ ih => exact ih
  | case3 seen id rest _ _ ih => exact ih
  | case4 seen id rest _ step _ ih => exact fun x hx => ih (List.mem_cons_of_mem id hx)

/-- Exploring adds only what is reached from what is pending. -/
theorem reaches_of_mem_explore {script : Script} {seen pending : List String}
    (hseen : ∀ id ∈ seen, script.Reaches id) (hpending : ∀ id ∈ pending, script.Reaches id) :
    ∀ id ∈ explore script seen pending, script.Reaches id := by
  fun_induction explore script seen pending with
  | case1 seen => exact hseen
  | case2 seen id rest _ ih => exact ih hseen fun x hx => hpending x (List.mem_cons_of_mem id hx)
  | case3 seen id rest _ _ ih =>
    exact ih hseen fun x hx => hpending x (List.mem_cons_of_mem id hx)
  | case4 seen id rest _ step hstep ih =>
    have hid : script.Reaches id := hpending id List.mem_cons_self
    apply ih
    · rintro x (_ | ⟨_, hx⟩)
      · exact hid
      · exact hseen x hx
    · intro x hx
      rcases List.mem_append.1 hx with hx | hx
      · exact .step hid hstep hx
      · exact hpending x (List.mem_cons_of_mem id hx)

/-- The worklist invariant: what follows a step already seen is seen, pending or no step. -/
def FrontierClosed (script : Script) (seen pending : List String) : Prop :=
  ∀ id ∈ seen, ∀ step, script.step? id = some step → ∀ next ∈ script.successors step,
    next ∈ seen ∨ next ∈ pending ∨ script.step? next = none

/-- Every pending step is explored, and what follows an explored step is explored too. -/
theorem explore_closed {script : Script} {seen pending : List String}
    (hclosed : script.FrontierClosed seen pending) :
    (∀ id ∈ pending, script.step? id ≠ none → id ∈ explore script seen pending) ∧
      script.FrontierClosed (explore script seen pending) [] := by
  fun_induction explore script seen pending with
  | case1 seen => exact ⟨by simp, hclosed⟩
  | case2 seen id rest hseen ih =>
    obtain ⟨hpending, hafter⟩ := ih fun x hx step hstep next hnext => by
      rcases hclosed x hx step hstep next hnext with h | h | h
      · exact .inl h
      · rcases List.mem_cons.1 h with rfl | h
        · exact .inl hseen
        · exact .inr (.inl h)
      · exact .inr (.inr h)
    refine ⟨?_, hafter⟩
    rintro x (_ | ⟨_, hx⟩) hsome
    · exact subset_explore script seen rest hseen
    · exact hpending x hx hsome
  | case3 seen id rest hseen hstep ih =>
    obtain ⟨hpending, hafter⟩ := ih fun x hx step hstep' next hnext => by
      rcases hclosed x hx step hstep' next hnext with h | h | h
      · exact .inl h
      · rcases List.mem_cons.1 h with rfl | h
        · exact .inr (.inr hstep)
        · exact .inr (.inl h)
      · exact .inr (.inr h)
    refine ⟨?_, hafter⟩
    rintro x (_ | ⟨_, hx⟩) hsome
    · exact absurd hstep hsome
    · exact hpending x hx hsome
  | case4 seen id rest hseen step hstep ih =>
    obtain ⟨hpending, hafter⟩ := ih fun x hx step' hstep' next hnext => by
      rcases List.mem_cons.1 hx with rfl | hx
      · rw [hstep, Option.some.injEq] at hstep'
        exact .inr (.inl (List.mem_append_left rest (hstep' ▸ hnext)))
      · rcases hclosed x hx step' hstep' next hnext with h | h | h
        · exact .inl (List.mem_cons_of_mem id h)
        · rcases List.mem_cons.1 h with rfl | h
          · exact .inl List.mem_cons_self
          · exact .inr (.inl (List.mem_append_right _ h))
        · exact .inr (.inr h)
    refine ⟨?_, hafter⟩
    rintro x (_ | ⟨_, hx⟩) hsome
    · exact subset_explore script _ _ List.mem_cons_self
    · exact hpending x (List.mem_append_right _ hx) hsome

/-- The worklist finds exactly the steps that are reached. -/
theorem mem_explore_iff {script : Script} {id : String} (hstep : script.step? id ≠ none) :
    id ∈ explore script [] script.first?.toList ↔ script.Reaches id := by
  obtain ⟨hpending, hclosed⟩ :=
    @explore_closed script [] script.first?.toList (by
      intro id hid
      cases hid)
  constructor
  · exact reaches_of_mem_explore (by simp) (fun x hx => .first (by simpa using hx)) id
  · intro hreaches
    induction hreaches with
    | first hfirst => exact hpending _ (by simp [hfirst]) hstep
    | @step id next step _ hstep' hnext ih =>
      rcases hclosed id (ih (by simp [hstep'])) step hstep' next hnext with h | h | h
      · exact h
      · cases h
      · exact absurd h hstep

/-- The steps that are listed as unreachable are those that no path reaches. -/
theorem mem_unreachable_iff {script : Script} {id : String} :
    id ∈ script.unreachable ↔ id ∈ script.stepIds ∧ ¬ script.Reaches id := by
  unfold unreachable
  rw [List.mem_filter]
  refine and_congr_right fun hmem => ?_
  obtain ⟨step, hstep⟩ := exists_step?_of_mem hmem
  rw [← mem_explore_iff (by simp [hstep]), decide_eq_true_iff]

theorem Linked.mem_stepIds_of_reaches {script : Script} (hlinked : script.Linked) {id : String}
    (hreaches : script.Reaches id) : id ∈ script.stepIds := by
  cases hreaches with
  | first hfirst => exact hlinked.mem_stepIds_of_first hfirst
  | step _ hstep hnext => exact hlinked.mem_stepIds_of_successor (step?_eq_some hstep).1 hnext

end Stepwise.Script
