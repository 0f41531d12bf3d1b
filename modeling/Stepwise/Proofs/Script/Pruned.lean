import Stepwise.Proofs.Script.Reach
import Stepwise.Proofs.Script.RoundTrip

namespace Stepwise.Script

/-- The script without the steps that no path reaches. -/
def pruned (script : Script) : Script :=
  { script with steps := script.steps.filter (·.id ∉ script.unreachable) }

theorem idAfter_cons_of_ne {current id : String} (hne : current ≠ id) (rest : List String) :
    idAfter id (current :: rest) = idAfter id rest := by
  cases rest with
  | nil => rfl
  | cons other rest => rw [idAfter, if_neg hne]

/-- What comes next stays next when others are left out. -/
theorem idAfter_filter_of_some {keep : String → Bool} {id next : String} {ids : List String}
    (hid : keep id) (hnext : keep next) (hafter : idAfter id ids = some next) :
    idAfter id (ids.filter keep) = some next := by
  induction ids with
  | nil => cases hafter
  | cons current rest ih =>
    by_cases hcurrent : current = id
    · subst hcurrent
      cases rest with
      | nil => cases hafter
      | cons other rest =>
        rw [idAfter, if_pos rfl] at hafter
        obtain rfl := Option.some.inj hafter
        simp [hid, hnext, idAfter]
    · rw [idAfter_cons_of_ne hcurrent] at hafter
      rw [List.filter_cons]
      split
      · rw [idAfter_cons_of_ne hcurrent]
        exact ih hafter
      · exact ih hafter

/-- What comes last stays last when others are left out. -/
theorem idAfter_filter_of_none {keep : String → Bool} {id : String} {ids : List String}
    (hafter : idAfter id ids = none) : idAfter id (ids.filter keep) = none := by
  induction ids with
  | nil => rfl
  | cons current rest ih =>
    by_cases hcurrent : current = id
    · subst hcurrent
      cases rest with
      | nil =>
        rw [List.filter_cons]
        split <;> rfl
      | cons other rest =>
        rw [idAfter, if_pos rfl] at hafter
        cases hafter
    · rw [idAfter_cons_of_ne hcurrent] at hafter
      rw [List.filter_cons]
      split
      · rw [idAfter_cons_of_ne hcurrent]
        exact ih hafter
      · exact ih hafter

theorem stepIds_pruned (script : Script) :
    script.pruned.stepIds = script.stepIds.filter (· ∉ script.unreachable) := by
  rw [stepIds, stepIds, List.filter_map]
  rfl

theorem step?_pruned {script : Script} {id : String} (hid : id ∉ script.unreachable) :
    script.pruned.step? id = script.step? id := by
  unfold step? pruned
  rw [List.find?_filter]
  congr 1
  funext step
  by_cases heq : step.id = id <;> simp [heq, hid]

theorem notMem_unreachable {script : Script} {id : String} (hreaches : script.Reaches id) :
    id ∉ script.unreachable :=
  fun hmem => (mem_unreachable_iff.1 hmem).2 hreaches

theorem mem_stepIds_pruned_iff {script : Script} {id : String} :
    id ∈ script.pruned.stepIds ↔ id ∈ script.stepIds ∧ script.Reaches id := by
  rw [stepIds_pruned, List.mem_filter, decide_eq_true_iff, mem_unreachable_iff]
  tauto

/-- A step that is reached and falls through is followed by the same one as before. -/
theorem next?_pruned {script : Script} {id : String} {step : Step} (hreaches : script.Reaches id)
    (hstep : script.step? id = some step) (hfalls : step.FallsThrough) :
    script.pruned.next? step.id = script.next? step.id := by
  unfold next?
  rw [stepIds_pruned]
  cases hnext : idAfter step.id script.stepIds with
  | none => exact idAfter_filter_of_none hnext
  | some next =>
    have hafter : script.Reaches next := .step hreaches hstep (mem_successors_of_next hfalls hnext)
    have hid : step.id = id := (step?_eq_some hstep).2
    exact idAfter_filter_of_some (by simpa [hid] using notMem_unreachable hreaches)
      (by simpa using notMem_unreachable hafter) hnext

theorem first?_pruned (script : Script) : script.pruned.first? = script.first? := by
  unfold first?
  rw [show script.pruned.start = script.start from rfl]
  cases hstart : script.start with
  | some id => rfl
  | none =>
    rw [stepIds_pruned]
    cases hids : script.stepIds with
    | nil => rfl
    | cons id rest =>
      have hfirst : script.Reaches id := .first (by simp [first?, hstart, hids])
      have hkept : id ∉ script.unreachable := notMem_unreachable hfirst
      simp [hkept]

/-- The pruned script goes on like the whole one from every step that is reached. -/
theorem Linked.mirrors_pruned {script : Script} (hlinked : script.Linked) :
    script.Mirrors script.Reaches script.pruned where
  nodup := hlinked.nodup
  nodup' := by
    rw [stepIds_pruned]
    exact hlinked.nodup.filter _
  step := by
    intro id hreaches
    obtain ⟨step, hstep⟩ := exists_step?_of_mem (hlinked.mem_stepIds_of_reaches hreaches)
    exact ⟨step, hstep, (step?_pruned (notMem_unreachable hreaches)).trans hstep⟩
  next := next?_pruned
  closed := fun hreaches hstep next hnext => .step hreaches hstep hnext

/-- A step that falls through the same way has the same successors. -/
theorem successors_congr {script script' : Script} {step : Step}
    (hnext : step.FallsThrough → script'.next? step.id = script.next? step.id) :
    script'.successors step = script.successors step := by
  unfold successors
  by_cases hfalls : step.FallsThrough
  · rw [hnext hfalls]
  · unfold Step.FallsThrough at hfalls
    cases haction : step.action <;> simp_all

theorem reaches_pruned {script : Script} {id : String}
    (hreaches : script.Reaches id) : script.pruned.Reaches id := by
  induction hreaches with
  | first hfirst => exact .first ((first?_pruned script).trans hfirst)
  | step hbefore hstep hnext ih =>
    refine .step ih ((step?_pruned (notMem_unreachable hbefore)).trans hstep) ?_
    rw [successors_congr (next?_pruned hbefore hstep)]
    exact hnext

/-- The pruned script is linked properly. -/
theorem Linked.pruned {script : Script} (hlinked : script.Linked) : script.pruned.Linked where
  nodup := hlinked.mirrors_pruned.nodup'
  target := by
    intro target htarget
    obtain ⟨step, hmem, htarget⟩ := List.mem_flatMap.1 htarget
    obtain ⟨hmem, hkept⟩ := List.mem_filter.1 hmem
    have hreaches : script.Reaches step.id :=
      (mem_stepIds_pruned_iff.1 (List.mem_map_of_mem (List.mem_filter.2 ⟨hmem, hkept⟩))).2
    have hafter : script.Reaches target :=
      .step hreaches (hlinked.step?_of_mem hmem) (mem_successors_of_target htarget)
    exact mem_stepIds_pruned_iff.2 ⟨hlinked.mem_stepIds_of_reaches hafter, hafter⟩
  start := by
    intro id hstart
    have hfirst : script.Reaches id := .first (by
      unfold first?
      rw [show script.start = some id from hstart]
      rfl)
    exact mem_stepIds_pruned_iff.2 ⟨hlinked.start id hstart, hfirst⟩

/-- Nothing is left to prune. -/
theorem unreachable_pruned (script : Script) :
    script.pruned.unreachable = [] := by
  refine List.eq_nil_iff_forall_not_mem.2 fun id hmem => ?_
  obtain ⟨hid, hnot⟩ := mem_unreachable_iff.1 hmem
  exact hnot (reaches_pruned (mem_stepIds_pruned_iff.1 hid).2)

theorem MeetsSchema.pruned {script : Script} (hschema : script.MeetsSchema)
    (hlinked : script.Linked) : script.pruned.MeetsSchema where
  start := hschema.start
  steps := by
    obtain ⟨first, rest, hsteps⟩ := List.exists_cons_of_length_pos hschema.steps
    obtain ⟨id, hfirst⟩ : ∃ id, script.first? = some id := by
      unfold first?
      cases script.start <;> simp [stepIds, hsteps]
    have hreaches : script.Reaches id := .first hfirst
    have hid : id ∈ script.pruned.stepIds :=
      mem_stepIds_pruned_iff.2 ⟨hlinked.mem_stepIds_of_first hfirst, hreaches⟩
    have hlength := List.length_pos_of_mem hid
    rwa [stepIds, List.length_map] at hlength
  step := fun step hmem => hschema.step step (List.mem_filter.1 hmem).1

end Stepwise.Script
