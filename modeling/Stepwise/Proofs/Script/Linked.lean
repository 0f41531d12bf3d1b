import Mathlib.Data.List.Nodup
import Stepwise.Proofs.Script.Form
import Stepwise.Script.Dump

namespace Stepwise

/-- The step declared next may follow the step: it neither jumps nor ends the run, or it has a guard
    that may be false. -/
def Step.FallsThrough (step : Step) : Prop :=
  step.guard?.isSome ∨ match step.action with
    | .choice _ _ | .goto _ | .finish _ _ => False
    | _ => True

namespace Script

/-- The steps refer to each other properly: ids differ, and every target and the declared start
    are ids of steps. -/
structure Linked (script : Script) : Prop where
  nodup : script.stepIds.Nodup
  target : ∀ id ∈ script.targets, id ∈ script.stepIds
  start : ∀ id, script.start = some id → id ∈ script.stepIds

theorem firstRepeated?_eq_none_iff {seen ids : List String} :
    firstRepeated? seen ids = none ↔ ids.Nodup ∧ ∀ id ∈ ids, id ∉ seen := by
  induction ids generalizing seen with
  | nil => simp [firstRepeated?]
  | cons id rest ih =>
    by_cases hseen : id ∈ seen
    · simp [firstRepeated?, hseen]
    · rw [firstRepeated?, if_neg hseen, ih]
      simp only [List.mem_cons, not_or, List.nodup_cons, forall_eq_or_imp]
      constructor
      · rintro ⟨hrest, hnew⟩
        exact ⟨⟨fun hmem => (hnew id hmem).1 rfl, hrest⟩, hseen, fun other hother => (hnew other hother).2⟩
      · rintro ⟨⟨hid, hrest⟩, _, hnew⟩
        exact ⟨hrest, fun other hother => ⟨fun heq => hid (heq ▸ hother), hnew other hother⟩⟩

/-- The check of a script finds nothing exactly when its steps are linked properly. -/
theorem graphFault?_eq_none_iff {script : Script} : script.graphFault? = none ↔ script.Linked := by
  have hnodup : firstRepeated? [] script.stepIds = none ↔ script.stepIds.Nodup := by
    simp [firstRepeated?_eq_none_iff]
  have htarget : script.targets.find? (· ∉ script.stepIds) = none ↔
      ∀ id ∈ script.targets, id ∈ script.stepIds := by
    simp [List.find?_eq_none]
  unfold graphFault?
  constructor
  · intro hnone
    split at hnone
    · cases hnone
    · rename_i hrepeated
      split at hnone
      · cases hnone
      · rename_i hfind
        refine ⟨hnodup.1 hrepeated, htarget.1 hfind, fun id hstart => ?_⟩
        simpa [hstart] using hnone
  · intro hlinked
    rw [hnodup.2 hlinked.nodup, htarget.2 hlinked.target]
    cases hstart : script.start with
    | none => rfl
    | some id => simp [hlinked.start id hstart]

theorem checked_eq_ok_iff {script result : Script} :
    script.checked = .ok result ↔ result = script ∧ script.Linked := by
  unfold checked
  rw [← graphFault?_eq_none_iff]
  cases script.graphFault? <;> simp [eq_comm]

/-- An input that is accepted as a script was read as this script, whose steps are linked. -/
theorem decode_of_ofInput {input : Value} {script : Script} (hinput : ofInput input = .ok script) :
    (∃ v, decode v = .ok script) ∧ script.Linked := by
  obtain ⟨read, hreads⟩ : ∃ read, Reads input read :=
    exists_reads_iff.2 fun origin issues => by simp [hinput]
  rw [ofInput_of_reads hreads, checked_eq_ok_iff] at hinput
  obtain ⟨rfl, hlinked⟩ := hinput
  exact ⟨exists_decode_of_reads hreads, hlinked⟩

/-- A script with a guard, a loop and a step that nothing leads to. -/
def tour : Script where
  name := some "Tour"
  version := none
  start := none
  steps := [
    ⟨"ask", none, some "vars.ready", .prompt "Name?" "name" none⟩,
    ⟨"pick", none, none, .choice "Again?" [⟨"yes", "Yes", "ask"⟩, ⟨"no", "No", "done"⟩]⟩,
    ⟨"stray", none, none, .command "ls" none none .fail⟩,
    ⟨"done", none, none, .finish .success (some "Bye")⟩]

theorem ofInput_tour : ofInput (tour.dump .full) = .ok tour := by rfl

theorem linked_of_ofInput {input : Value} {script : Script} (hinput : ofInput input = .ok script) :
    script.Linked :=
  (decode_of_ofInput hinput).2

/-! Looking steps up -/

theorem step?_eq_some {script : Script} {id : String} {step : Step}
    (hstep : script.step? id = some step) : step ∈ script.steps ∧ step.id = id :=
  ⟨List.mem_of_find?_eq_some hstep, by simpa using List.find?_some hstep⟩

theorem exists_step?_of_mem {script : Script} {id : String} (hmem : id ∈ script.stepIds) :
    ∃ step, script.step? id = some step := by
  obtain ⟨step, hstep, rfl⟩ := List.mem_map.1 hmem
  exact Option.isSome_iff_exists.1 (List.find?_isSome.2 ⟨step, hstep, by simp⟩)

theorem Linked.step?_of_mem {script : Script} (hlinked : script.Linked) {step : Step}
    (hmem : step ∈ script.steps) : script.step? step.id = some step := by
  obtain ⟨other, hother⟩ := exists_step?_of_mem (List.mem_map_of_mem (f := Step.id) hmem)
  obtain ⟨hothermem, hid⟩ := step?_eq_some hother
  rw [hother, List.inj_on_of_nodup_map hlinked.nodup hothermem hmem hid]

/-- Handing back the options that a choice has changes nothing. -/
theorem withOptions_self {script : Script} (hnodup : script.stepIds.Nodup) {step : Step}
    (hmem : step ∈ script.steps) {message : String} {options : List Choice}
    (haction : step.action = .choice message options) :
    script.withOptions step.id options = script := by
  have hself : step.action.withOptions options = step.action := by
    rw [haction]
    rfl
  have hsteps : script.steps.map (fun other =>
      if other.id = step.id then { other with action := other.action.withOptions options }
      else other) = script.steps := by
    refine (List.map_congr_left fun other hother => ?_).trans (List.map_id _)
    split
    · rename_i hid
      obtain rfl := List.inj_on_of_nodup_map hnodup hother hmem hid
      rw [hself]
      rfl
    · rfl
  simp only [withOptions, hsteps]

theorem mem_successors_of_next {script : Script} {step : Step} (hfalls : step.FallsThrough)
    {id : String} (hnext : script.next? step.id = some id) : id ∈ script.successors step := by
  unfold successors
  unfold Step.FallsThrough at hfalls
  cases haction : step.action <;> simp_all

theorem mem_successors_of_target {script : Script} {step : Step} {id : String}
    (htarget : id ∈ step.action.targets) : id ∈ script.successors step := by
  unfold successors
  cases haction : step.action <;> simp_all [Action.targets] <;> split <;> simp_all

theorem mem_of_idAfter {id next : String} {ids : List String} (hnext : idAfter id ids = some next) :
    next ∈ ids := by
  induction ids with
  | nil => simp [idAfter] at hnext
  | cons current rest ih =>
    cases rest with
    | nil => simp [idAfter] at hnext
    | cons other rest =>
      rw [idAfter] at hnext
      split at hnext
      · simp [Option.some.inj hnext]
      · exact List.mem_cons_of_mem _ (ih hnext)

theorem mem_stepIds_of_next {script : Script} {id next : String}
    (hnext : script.next? id = some next) : next ∈ script.stepIds :=
  mem_of_idAfter hnext

/-- What may come after a step is a step. -/
theorem Linked.mem_stepIds_of_successor {script : Script} (hlinked : script.Linked) {step : Step}
    (hmem : step ∈ script.steps) {id : String} (hid : id ∈ script.successors step) :
    id ∈ script.stepIds := by
  have htarget : id ∈ step.action.targets → id ∈ script.stepIds := fun h =>
    hlinked.target id (List.mem_flatMap.2 ⟨step, hmem, h⟩)
  have hfollowing : id ∈ (script.next? step.id).toList → id ∈ script.stepIds := fun h =>
    mem_stepIds_of_next (by simpa using h)
  unfold successors at hid
  split at hid
  all_goals first
    | exact hfollowing hid
    | split at hid
      · exact (List.mem_append.1 hid).elim htarget hfollowing
      · exact htarget hid

theorem Linked.mem_stepIds_of_first {script : Script} (hlinked : script.Linked) {id : String}
    (hfirst : script.first? = some id) : id ∈ script.stepIds := by
  unfold first? at hfirst
  cases hstart : script.start with
  | none =>
    rw [hstart] at hfirst
    exact List.mem_of_mem_head? hfirst
  | some start =>
    rw [hstart] at hfirst
    obtain rfl : start = id := Option.some.inj hfirst
    exact hlinked.start start hstart

/-- From the steps in `T`, `script'` goes on like `script`: it has the same steps there, with the
    same ones declared next where that counts, and the steps in `T` lead to nothing else. -/
structure Mirrors (T : String → Prop) (script script' : Script) : Prop where
  nodup : script.stepIds.Nodup
  nodup' : script'.stepIds.Nodup
  step : ∀ {id}, T id → ∃ step, script.step? id = some step ∧ script'.step? id = some step
  next : ∀ {id step}, T id → script.step? id = some step → step.FallsThrough →
    script'.next? step.id = script.next? step.id
  closed : ∀ {id step}, T id → script.step? id = some step →
    ∀ next ∈ script.successors step, T next

/-- Each script goes on like itself from all of its steps. -/
theorem Linked.mirrors_self {script : Script} (hlinked : script.Linked) :
    script.Mirrors (· ∈ script.stepIds) script where
  nodup := hlinked.nodup
  nodup' := hlinked.nodup
  step := fun hid => (exists_step?_of_mem hid).imp fun _ hstep => ⟨hstep, hstep⟩
  next := fun _ _ _ => rfl
  closed := fun _ hstep _ hnext =>
    hlinked.mem_stepIds_of_successor (step?_eq_some hstep).1 hnext

end Script

end Stepwise
