import Stepwise.Proofs.Script.Linked

namespace Stepwise.Script

/-- What is wrong first with how the steps refer to each other: an id that an earlier step has, then
    a target that is no step, in the order of steps and of what each names, and then the start. -/
inductive FirstViolation (script : Script) : GraphFault → Prop where
  | duplicate {before after : List Step} {step : Step} (hsteps : script.steps = before ++ step :: after)
    (hdiffer : (before.map Step.id).Nodup) (hagain : step.id ∈ before.map Step.id) :
    FirstViolation script (.duplicateId step.id)
  | target {before after : List Step} {step : Step} {earlier later : List String} {target : String}
    (hdiffer : script.stepIds.Nodup) (hsteps : script.steps = before ++ step :: after)
    (hbefore : ∀ other ∈ before, ∀ id ∈ other.action.targets, id ∈ script.stepIds)
    (htargets : step.action.targets = earlier ++ target :: later)
    (hearlier : ∀ id ∈ earlier, id ∈ script.stepIds) (hdangling : target ∉ script.stepIds) :
    FirstViolation script (.unknownTarget target)
  | start {id : String} (hdiffer : script.stepIds.Nodup)
    (htargets : ∀ step ∈ script.steps, ∀ id ∈ step.action.targets, id ∈ script.stepIds)
    (hstart : script.start = some id) (hmissing : id ∉ script.stepIds) :
    FirstViolation script (.unknownStart id)

/-- An id is found that stands in the list before or among those already seen: by induction on the
    list, as every id that is passed joins those seen. -/
theorem firstRepeated?_eq_some_iff {seen ids : List String} {id : String} :
    firstRepeated? seen ids = some id ↔ ∃ before after, ids = before ++ id :: after ∧
      before.Nodup ∧ (∀ other ∈ before, other ∉ seen) ∧ (id ∈ before ∨ id ∈ seen) := by
  induction ids generalizing seen with
  | nil => simp [firstRepeated?]
  | cons first rest ih =>
    by_cases hfirst : first ∈ seen
    · rw [firstRepeated?, if_pos hfirst, Option.some.injEq]
      constructor
      · rintro rfl
        exact ⟨[], rest, rfl, List.nodup_nil, List.forall_mem_nil _, .inr hfirst⟩
      · rintro ⟨before, after, hids, -, hnew, -⟩
        cases before with
        | nil => exact (List.cons.inj hids).1
        | cons other before =>
          obtain rfl : first = other := (List.cons.inj hids).1
          exact absurd hfirst (hnew first List.mem_cons_self)
    · rw [firstRepeated?, if_neg hfirst, ih]
      constructor
      · rintro ⟨before, after, rfl, hnodup, hnew, hid⟩
        have hnotMem : first ∉ before := fun hmem => hnew first hmem List.mem_cons_self
        refine ⟨first :: before, after, rfl, List.nodup_cons.2 ⟨hnotMem, hnodup⟩, ?_, ?_⟩
        · exact List.forall_mem_cons.2
            ⟨hfirst, fun other hother hseen => hnew other hother (List.mem_cons_of_mem _ hseen)⟩
        · simpa [or_assoc, or_left_comm] using hid
      · rintro ⟨before, after, hids, hnodup, hnew, hid⟩
        cases before with
        | nil =>
          obtain rfl : first = id := (List.cons.inj hids).1
          exact absurd (hid.resolve_left List.not_mem_nil) hfirst
        | cons other before =>
          obtain ⟨rfl, rfl⟩ := List.cons.inj hids
          obtain ⟨hnotMem, hnodup⟩ := List.nodup_cons.1 hnodup
          refine ⟨before, after, rfl, hnodup, fun x hx => ?_, ?_⟩
          · rw [List.mem_cons, not_or]
            exact ⟨fun heq => hnotMem (heq ▸ hx), hnew x (List.mem_cons_of_mem _ hx)⟩
          · simpa [or_assoc, or_left_comm] using hid

theorem firstRepeated?_stepIds_eq_some_iff {script : Script} {id : String} :
    firstRepeated? [] script.stepIds = some id ↔ ∃ before step after,
      script.steps = before ++ step :: after ∧ (before.map Step.id).Nodup ∧
        step.id ∈ before.map Step.id ∧ step.id = id := by
  rw [firstRepeated?_eq_some_iff]
  constructor
  · rintro ⟨before, after, hids, hnodup, -, hid⟩
    obtain ⟨steps, rest, hsteps, rfl, hrest⟩ := List.map_eq_append_iff.1 hids
    obtain ⟨step, later, rfl, rfl, -⟩ := List.map_eq_cons_iff.1 hrest
    exact ⟨steps, step, later, hsteps, hnodup, hid.resolve_right nofun, rfl⟩
  · rintro ⟨before, step, after, hsteps, hnodup, hagain, rfl⟩
    refine ⟨before.map Step.id, after.map Step.id, ?_, hnodup, fun _ _ => nofun, .inl hagain⟩
    rw [stepIds, hsteps, List.map_append, List.map_cons]

/-- The first target of all that is no step is the first one of the first step that names such. -/
theorem find?_targets_eq_some_iff {script : Script} {target : String} :
    script.targets.find? (· ∉ script.stepIds) = some target ↔ ∃ before step after earlier later,
      script.steps = before ++ step :: after ∧
        (∀ other ∈ before, ∀ id ∈ other.action.targets, id ∈ script.stepIds) ∧
        step.action.targets = earlier ++ target :: later ∧
        (∀ id ∈ earlier, id ∈ script.stepIds) ∧ target ∉ script.stepIds := by
  rw [targets, List.find?_flatMap, List.findSome?_eq_some_iff]
  constructor
  · rintro ⟨before, step, after, hsteps, hfind, hbefore⟩
    obtain ⟨hdangling, earlier, later, htargets, hearlier⟩ := List.find?_eq_some_iff_append.1 hfind
    refine ⟨before, step, after, earlier, later, hsteps, fun other hother id hid => ?_, htargets,
      fun id hid => ?_, by simpa using hdangling⟩
    · have hnone := List.find?_eq_none.1 (hbefore other hother) id hid
      simpa using hnone
    · simpa using hearlier id hid
  · rintro ⟨before, step, after, earlier, later, hsteps, hbefore, htargets, hearlier, hdangling⟩
    refine ⟨before, step, after, hsteps, ?_, fun other hother => ?_⟩
    · refine List.find?_eq_some_iff_append.2 ⟨by simpa using hdangling, earlier, later, htargets, ?_⟩
      exact fun id hid => by simpa using hearlier id hid
    · exact List.find?_eq_none.2 fun id hid => by simpa using hbefore other hother id hid

/-- The check of a script finds what is wrong first. -/
theorem graphFault?_eq_some_iff {script : Script} {fault : GraphFault} :
    script.graphFault? = some fault ↔ script.FirstViolation fault := by
  have hdiffer : firstRepeated? [] script.stepIds = none ↔ script.stepIds.Nodup := by
    simp [firstRepeated?_eq_none_iff]
  have hresolve : script.targets.find? (· ∉ script.stepIds) = none ↔
      ∀ step ∈ script.steps, ∀ id ∈ step.action.targets, id ∈ script.stepIds := by
    simp [List.find?_eq_none, targets]
  unfold graphFault?
  constructor
  · intro hfault
    split at hfault
    · next id hrepeated =>
      obtain ⟨before, step, after, hsteps, hnodup, hagain, rfl⟩ :=
        firstRepeated?_stepIds_eq_some_iff.1 hrepeated
      cases hfault
      exact .duplicate hsteps hnodup hagain
    · next hrepeated =>
      split at hfault
      · next target hfind =>
        obtain ⟨before, step, after, earlier, later, hsteps, hbefore, htargets, hearlier, hdangling⟩ :=
          find?_targets_eq_some_iff.1 hfind
        cases hfault
        exact .target (hdiffer.1 hrepeated) hsteps hbefore htargets hearlier hdangling
      · next hfind =>
        split at hfault
        · next id hstart =>
          split at hfault
          · cases hfault
          · next hmissing =>
            cases hfault
            exact .start (hdiffer.1 hrepeated) (hresolve.1 hfind) hstart hmissing
        · cases hfault
  · intro hviolation
    cases hviolation with
    | duplicate hsteps hnodup hagain =>
      rw [firstRepeated?_stepIds_eq_some_iff.2 ⟨_, _, _, hsteps, hnodup, hagain, rfl⟩]
    | target hnodup hsteps hbefore htargets hearlier hdangling =>
      rw [hdiffer.2 hnodup, find?_targets_eq_some_iff.2
        ⟨_, _, _, _, _, hsteps, hbefore, htargets, hearlier, hdangling⟩]
    | start hnodup htargets hstart hmissing =>
      rw [hdiffer.2 hnodup, hresolve.2 htargets, hstart]
      exact if_neg hmissing

/-! ### Verdicts on inputs -/

/-- The verdict on a script names what is wrong first with how its steps refer to each other, and is
    the script itself if nothing is. -/
structure IsJudged (script : Script) (verdict : Except ScriptFault Script) : Prop where
  refused_iff : (∃ fault, verdict = .error (.graph fault)) ↔ ¬script.stepIds.Nodup ∨
    (∃ step ∈ script.steps, ∃ target ∈ step.action.targets, target ∉ script.stepIds) ∨
    ∃ id, script.start = some id ∧ id ∉ script.stepIds
  fault_iff : ∀ fault, verdict = .error (.graph fault) ↔ script.FirstViolation fault
  accepted : (∀ fault, verdict ≠ .error (.graph fault)) → verdict = .ok script

theorem not_linked_iff {script : Script} : ¬script.Linked ↔ ¬script.stepIds.Nodup ∨
    (∃ step ∈ script.steps, ∃ target ∈ step.action.targets, target ∉ script.stepIds) ∨
    ∃ id, script.start = some id ∧ id ∉ script.stepIds := by
  constructor
  · intro hlinked
    by_contra hnone
    push Not at hnone
    obtain ⟨hnodup, htarget, hstart⟩ := hnone
    refine hlinked ⟨hnodup, fun id hid => ?_, hstart⟩
    obtain ⟨step, hstep, hid⟩ := List.mem_flatMap.1 hid
    exact htarget step hstep id hid
  · rintro (hagain | ⟨step, hstep, target, htarget, hmissing⟩ | ⟨id, hstart, hmissing⟩) hlinked
    · exact hagain hlinked.nodup
    · exact hmissing (hlinked.target target (List.mem_flatMap.2 ⟨step, hstep, htarget⟩))
    · exact hmissing (hlinked.start id hstart)

theorem checked_eq_error_iff {script : Script} {fault : GraphFault} :
    script.checked = .error (.graph fault) ↔ script.FirstViolation fault := by
  rw [← graphFault?_eq_some_iff]
  unfold checked
  cases script.graphFault? <;> simp

theorem isJudged_checked (script : Script) : script.IsJudged script.checked where
  refused_iff := by
    rw [← not_linked_iff, ← graphFault?_eq_none_iff]
    unfold checked
    cases script.graphFault? <;> simp
  fault_iff _ := checked_eq_error_iff
  accepted hnone := by
    cases hchecked : script.checked with
    | ok result => exact congrArg Except.ok (checked_eq_ok_iff.1 hchecked).1
    | error fault =>
      cases fault with
      | schema origin issues => exact absurd hchecked checked_ne_schema
      | graph fault => exact absurd hchecked (hnone fault)

/-- Whatever passes the schema is refused exactly if an id comes twice, a choice or a jump leads to
    no step, or the declared start is no step. What is wrong first is reported, in this order, and
    otherwise the script is accepted. A script that exists already is judged in the same way. -/
theorem ofInput_isJudged {input : Value} {script : Script} (hreads : Reads input script) :
    ofInput input = script.checked ∧ script.IsJudged (ofInput input) ∧
      (∀ id, (ScriptFault.graph (.duplicateId id)).message = "Duplicate step id: " ++ id) ∧
      (∀ target, (ScriptFault.graph (.unknownTarget target)).message =
        "Unknown step target: " ++ target) ∧
      ∀ id, (ScriptFault.graph (.unknownStart id)).message =
        "Start step '" ++ id ++ "' does not exist" := by
  have hinput := ofInput_of_reads hreads
  refine ⟨hinput, ?_, fun _ => rfl, fun _ => rfl, fun _ => rfl⟩
  rw [hinput]
  exact isJudged_checked script

/-- A script with two targets that are no steps, and a start that is none either. -/
def labyrinth : Script where
  name := some "Labyrinth"
  version := none
  start := some "gate"
  steps := [
    ⟨"hall", none, none, .prompt "Who?" "who" none⟩,
    ⟨"fork", none, some "vars.who", .choice "Where?" [⟨"a", "A", "hall"⟩, ⟨"b", "B", "cave"⟩]⟩,
    ⟨"back", none, none, .goto "moor"⟩]

theorem ofInput_isJudged_labyrinth :
    Reads (labyrinth.dump .full) labyrinth ∧
    ofInput (labyrinth.dump .full) = .error (.graph (.unknownTarget "cave")) := by
  have hreads : Reads (labyrinth.dump .full) labyrinth := .document rfl
  have hsteps : labyrinth.steps = labyrinth.steps.take 1 ++
      ⟨"fork", none, some "vars.who", .choice "Where?" [⟨"a", "A", "hall"⟩, ⟨"b", "B", "cave"⟩]⟩ ::
        labyrinth.steps.drop 2 := rfl
  have hfirst : labyrinth.FirstViolation (.unknownTarget "cave") :=
    .target (by decide) hsteps (by decide) (rfl : _ = ["hall"] ++ "cave" :: []) (by decide)
      (by decide)
  exact ⟨hreads, ((ofInput_isJudged hreads).2.1.fault_iff _).2 hfirst⟩

end Stepwise.Script
