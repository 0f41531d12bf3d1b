import Mathlib.Data.List.Induction
import Stepwise.Proofs.Run.Posed

namespace Stepwise

open Run

/-- No step puts a prompt as well as a choice. -/
theorem Run.Puts.not_choose {input : Value} {place place' : Context} {message message' : String}
    {preset : Option String} {options : List Choice}
    (hprompt : Puts input place (.prompt message preset))
    (hchoice : Puts input place' (.choose message' options)) : place.step ≠ place'.step := by
  obtain ⟨script, hscript, step, hstep, hfound, store, haction⟩ := hprompt
  obtain ⟨script', hscript', step', hstep', hfound', haction'⟩ := hchoice
  intro hsame
  obtain rfl : script = script' := Except.ok.inj (hscript.symm.trans hscript')
  have hid : step.id = step'.id := Option.some.inj ((hstep.symm.trans hsame).trans hstep')
  obtain rfl : step = step' := Option.some.inj (hfound.symm.trans (hid ▸ hfound'))
  cases haction.symm.trans haction'

namespace Mark

/-- The step at which a prompt stored its reply in this variable. -/
def storing? (input : Value) (x : String) : Mark → Option String
  | .visit _ => none
  | .call place q reply =>
    if (stored? input (.call place q reply)).map Prod.fst = some x then place.step else none

/-- The reply to a choice at this step. -/
def chosen? (step : String) : Mark → Option Value
  | .call place (.choose _ _) (.value v) => if place.step = some step then some v else none
  | _ => none

/-- The reply to a question at this step. -/
def answer? (step : String) : Mark → Option Value
  | .call place (.prompt _ _) (.value v) | .call place (.choose _ _) (.value v) =>
    if place.step = some step then some v else none
  | _ => none

variable {input : Value} {mark : Mark} {step x : String} {v : Value}

theorem chosen?_eq_some (h : mark.chosen? step = some v) : ∃ place message options,
    mark = .call place (.choose message options) (.value v) ∧ place.step = some step := by
  unfold chosen? at h
  split at h
  next place message options v' =>
    split at h
    next hstep =>
      cases h
      exact ⟨place, message, options, rfl, hstep⟩
    · cases h
  · cases h

theorem answer?_eq_some (h : mark.answer? step = some v) : ∃ place, place.step = some step ∧
    ((∃ message preset, mark = .call place (.prompt message preset) (.value v)) ∨
      ∃ message options, mark = .call place (.choose message options) (.value v)) := by
  unfold answer? at h
  split at h
  next place message preset v' =>
    split at h
    next hstep =>
      cases h
      exact ⟨place, hstep, .inl ⟨message, preset, rfl⟩⟩
    · cases h
  next place message options v' =>
    split at h
    next hstep =>
      cases h
      exact ⟨place, hstep, .inr ⟨message, options, rfl⟩⟩
    · cases h
  · cases h

/-- Only an answer to a prompt at a step is stored. -/
theorem stored?_eq_some {text : String} (h : mark.stored? input = some (x, text)) :
    ∃ place message preset v step, mark = .call place (.prompt message preset) (.value v) ∧
      place.step = some step ∧ text = answerText v := by
  unfold stored? at h
  split at h
  next place message preset v =>
    simp only [Option.bind_eq_bind, Option.bind_eq_some_iff] at h
    obtain ⟨_, _, step, hstep, _, _, h⟩ := h
    split at h
    · cases h
      exact ⟨place, message, preset, v, step, rfl, hstep, rfl⟩
    · cases h
  · cases h

theorem storing?_eq_some (h : mark.storing? input x = some step) : ∃ place message preset v,
    mark = .call place (.prompt message preset) (.value v) ∧ place.step = some step ∧
      mark.stored? input = some (x, answerText v) := by
  unfold storing? at h
  split at h
  · cases h
  next place q reply =>
    split at h
    next hname =>
      obtain ⟨⟨_, text⟩, hstored, rfl⟩ := Option.map_eq_some_iff.1 hname
      obtain ⟨_, message, preset, v, _, heq, _, rfl⟩ := stored?_eq_some hstored
      cases heq
      exact ⟨place, message, preset, v, rfl, h, hstored⟩
    · cases h

theorem storing?_of_stored? {text : String} (h : mark.stored? input = some (x, text)) :
    ∃ step, mark.storing? input x = some step := by
  obtain ⟨place, message, preset, v, step, rfl, hstep, _⟩ := stored?_eq_some h
  have hname : (stored? input (.call place (.prompt message preset) (.value v))).map Prod.fst =
      some x := congrArg (Option.map Prod.fst) h
  exact ⟨step, (if_pos hname).trans hstep⟩

/-- The variable in which a prompt stores its reply is up to the step. -/
theorem stored?_of_step {place place' : Context} {message' text : String} {preset' : Option String}
    (hsame : place.step = place'.step)
    (h : stored? input (.call place' (.prompt message' preset') (.value v)) = some (x, text))
    (message : String) (preset : Option String) (w : Value) :
    stored? input (.call place (.prompt message preset) (.value w)) = some (x, answerText w) := by
  simp only [stored?, Option.bind_eq_bind, Option.bind_eq_some_iff, ← hsame] at h ⊢
  obtain ⟨script, hscript, id, hid, step, hfound, h⟩ := h
  refine ⟨script, hscript, id, hid, step, hfound, ?_⟩
  split at h
  next =>
    cases h
    rfl
  · cases h

end Mark

namespace Run

/-- What the marks say last of something. -/
def latest {β : Type} (f : Mark → Option β) (ms : List Mark) : Option β :=
  (ms.filterMap f).getLast?

section Latest

variable {β : Type} {f : Mark → Option β} {ms : List Mark} {mark : Mark} {b : β}

theorem latest_concat (f : Mark → Option β) (ms : List Mark) (mark : Mark) :
    latest f (ms ++ [mark]) = (f mark).or (latest f ms) := by
  unfold latest
  cases hmark : f mark <;> simp [hmark]

theorem latest_concat_of_none (hnone : f mark = none) : latest f (ms ++ [mark]) = latest f ms := by
  rw [latest_concat, hnone, Option.none_or]

theorem latest_concat_of_some (hsome : f mark = some b) : latest f (ms ++ [mark]) = some b := by
  rw [latest_concat, hsome, Option.some_or]

theorem exists_mem_of_latest (hlatest : latest f ms = some b) : ∃ mark ∈ ms, f mark = some b :=
  List.mem_filterMap.1 (List.mem_of_getLast? hlatest)

end Latest

/-- The answers are those that the run heard last, each at its step. -/
def Echoes (answers : Table String) (ms : List Mark) : Prop :=
  ∀ step v, latest (Mark.answer? step) ms = some v → ∃ a, v = .text a ∧ answers.get? step = some a

variable {input : Value} {vars : Table String} {ms : List Mark} {mark : Mark}
  {step x : String} {v : Value}

/-- By induction on the marks, from the last one: at a step that put a choice, no prompt is
    answered later. -/
theorem latest_answer_of_chosen (hposed : IsPosed input ms)
    (hlatest : latest (Mark.chosen? step) ms = some v) : latest (Mark.answer? step) ms = some v := by
  induction ms using List.reverseRecOn with
  | nil => cases hlatest
  | append_singleton ms mark ih =>
    cases hmark : mark.chosen? step with
    | some w =>
      obtain rfl : w = v := Option.some.inj ((latest_concat_of_some hmark).symm.trans hlatest)
      obtain ⟨place, message, options, rfl, hstep⟩ := Mark.chosen?_eq_some hmark
      exact latest_concat_of_some (if_pos hstep)
    | none =>
      rw [latest_concat_of_none hmark] at hlatest
      have hquiet : mark.answer? step = none := by
        refine Option.eq_none_iff_forall_ne_some.2 fun w hw => ?_
        obtain ⟨place, hstep, ⟨message, preset, rfl⟩ | ⟨message, options, rfl⟩⟩ :=
          Mark.answer?_eq_some hw
        · obtain ⟨_, hmem, hchosen⟩ := exists_mem_of_latest hlatest
          obtain ⟨place', message', options, rfl, hstep'⟩ := Mark.chosen?_eq_some hchosen
          have hprompt := hposed _ _ _ (List.mem_append_right _ List.mem_cons_self)
          exact hprompt.not_choose (hposed.of_concat _ _ _ hmem) (hstep.trans hstep'.symm)
        · exact nomatch hmark.symm.trans (if_pos hstep)
      rw [latest_concat_of_none hquiet]
      exact ih hposed.of_concat hlatest

theorem get?_reached_concat_of_some {text : String} (hstored : mark.stored? input = some (x, text)) :
    (reached input vars (ms ++ [mark])).get? x = some text := by
  simp only [reached, stored_concat, hstored, Option.toList_some, Table.insertAll, List.foldl_append,
    List.foldl_cons, List.foldl_nil]
  rw [Table.get?_insert, if_pos rfl]

theorem get?_reached_concat_of_none (hnone : mark.storing? input x = none) :
    (reached input vars (ms ++ [mark])).get? x = (reached input vars ms).get? x := by
  cases hstored : mark.stored? input with
  | none => rw [reached_concat_of_none hstored]
  | some entry =>
    obtain ⟨y, text⟩ := entry
    have hne : x ≠ y := by
      rintro rfl
      obtain ⟨step, hstep⟩ := Mark.storing?_of_stored? hstored
      cases hnone.symm.trans hstep
    simp only [reached, stored_concat, hstored, Option.toList_some, Table.insertAll,
      List.foldl_append, List.foldl_cons, List.foldl_nil]
    rw [Table.get?_insert, if_neg hne]

variable (vars) in
/-- By induction on the marks, from the last one: what a variable has is the text of what was
    answered last at the step that stored it last. -/
theorem latest_answer_of_storing (hposed : IsPosed input ms)
    (hlatest : latest (Mark.storing? input x) ms = some step) :
    ∃ v, latest (Mark.answer? step) ms = some v ∧
      (reached input vars ms).get? x = some (answerText v) := by
  induction ms using List.reverseRecOn with
  | nil => cases hlatest
  | append_singleton ms mark ih =>
    cases hmark : mark.storing? input x with
    | some w =>
      obtain rfl : w = step := Option.some.inj ((latest_concat_of_some hmark).symm.trans hlatest)
      obtain ⟨place, message, preset, v, rfl, hstep, hstored⟩ := Mark.storing?_eq_some hmark
      exact ⟨v, latest_concat_of_some (if_pos hstep), get?_reached_concat_of_some hstored⟩
    | none =>
      rw [latest_concat_of_none hmark] at hlatest
      have hquiet : mark.answer? step = none := by
        refine Option.eq_none_iff_forall_ne_some.2 fun w hw => ?_
        obtain ⟨_, hmem, hstoring⟩ := exists_mem_of_latest hlatest
        obtain ⟨place', message', preset', v, rfl, hstep', hstored⟩ := Mark.storing?_eq_some hstoring
        obtain ⟨place, hstep, ⟨message, preset, rfl⟩ | ⟨message, options, rfl⟩⟩ :=
          Mark.answer?_eq_some hw
        · have hstores := Mark.stored?_of_step (hstep.trans hstep'.symm) hstored message preset w
          obtain ⟨_, hstoring⟩ := Mark.storing?_of_stored? hstores
          cases hmark.symm.trans hstoring
        · have hchoice := hposed _ _ _ (List.mem_append_right _ List.mem_cons_self)
          have hprompt := hposed.of_concat _ _ _ hmem
          exact hprompt.not_choose hchoice (hstep'.trans hstep.symm)
      rw [latest_concat_of_none hquiet, get?_reached_concat_of_none hmark]
      exact ih hposed.of_concat hlatest

end Run

end Stepwise
